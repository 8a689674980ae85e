import Mathlib.Logic.Basic
import ComponentAtlas.Config.Check

/-! # Where violations are

A part of a document is checked alike wherever it stands. Only the places of its violations begin
differently: with the place of the part. So what is found in a part can be told from what is found
elsewhere by the place alone. -/

namespace ComponentAtlas.Config

open Json

/-- The violations of a part, as they are seen in what has the part at a place. -/
def under (base : Pointer) (violations : List Violation) : List Violation :=
  violations.map fun v => { v with place := base ++ v.place }

/-- The violations at a place and in it. -/
def within (base : Pointer) (violations : List Violation) : List Violation :=
  violations.filter fun v => base <+: v.place

@[simp] theorem under_nil (base : Pointer) : under base [] = [] := rfl

@[simp] theorem under_cons (base : Pointer) (v : Violation) (rest : List Violation) :
    under base (v :: rest) = ⟨base ++ v.place, v.cause⟩ :: under base rest := rfl

@[simp] theorem under_append (base : Pointer) (first second : List Violation) :
    under base (first ++ second) = under base first ++ under base second :=
  List.map_append

theorem under_flatMap {α : Type} (base : Pointer) (items : List α) (f : α → List Violation) :
    under base (items.flatMap f) = items.flatMap fun a => under base (f a) :=
  List.map_flatMap

theorem under_under (base inner : Pointer) (violations : List Violation) :
    under base (under inner violations) = under (base ++ inner) violations := by
  simp only [under, List.map_map, Function.comp_def, List.append_assoc]

@[simp] theorem member_append (base place : Pointer) (key : String) :
    (base ++ place).member key = base ++ place.member key :=
  List.append_assoc ..

@[simp] theorem item_append (base place : Pointer) (n : Nat) :
    (base ++ place).item n = base ++ place.item n :=
  List.append_assoc ..

theorem within_root (violations : List Violation) : within [] violations = violations :=
  List.filter_eq_self.2 fun _ _ => decide_eq_true List.nil_prefix

theorem within_append (base : Pointer) (first second : List Violation) :
    within base (first ++ second) = within base first ++ within base second :=
  List.filter_append ..

theorem within_flatMap {α : Type} (base : Pointer) (items : List α) (f : α → List Violation) :
    within base (items.flatMap f) = items.flatMap fun a => within base (f a) :=
  List.filter_flatMap

theorem within_eq_nil_iff {base : Pointer} {violations : List Violation} :
    within base violations = [] ↔ ∀ v ∈ violations, ¬ base <+: v.place := by
  simp only [within, List.filter_eq_nil_iff, decide_eq_true_eq]

/-- Behind the place of a part the places are those in the part. -/
theorem within_under (base inner : Pointer) (violations : List Violation) :
    within (base ++ inner) (under base violations) = under base (within inner violations) := by
  simp only [within, under, List.filter_map, Function.comp_def, List.prefix_append_right_inj]

theorem within_under_self (base : Pointer) (violations : List Violation) :
    within base (under base violations) = under base violations := by
  have inside := within_under base [] violations
  rwa [List.append_nil, within_root] at inside

/-- Nothing in a part is at a place apart from it. -/
theorem within_under_eq_nil {base other : Pointer} (apart : ¬ base <+: other)
    (apart' : ¬ other <+: base) (violations : List Violation) :
    within base (under other violations) = [] := by
  refine within_eq_nil_iff.2 fun v member below => ?_
  obtain ⟨w, -, rfl⟩ := List.mem_map.1 member
  rcases List.prefix_or_prefix_of_prefix below (List.prefix_append other w.place) with h | h
  · exact apart h
  · exact apart' h

theorem within_within {base inner : Pointer} (further : base <+: inner)
    (violations : List Violation) :
    within inner (within base violations) = within inner violations := by
  rw [within, within, List.filter_filter]
  refine List.filter_congr fun v _ => Bool.eq_iff_iff.2 ?_
  simp only [Bool.and_eq_true, decide_eq_true_eq]
  exact ⟨And.left, fun below => ⟨below, further.trans below⟩⟩

/-! ## The check of a part -/

theorem additionalMembers_under (known : List String) (base place : Pointer)
    (members : List (String × Json)) :
    additionalMembers known (base ++ place) members =
      under base (additionalMembers known place members) := by
  simp only [additionalMembers, under, List.map_map, Function.comp_def]

theorem checkText_under (key : String) (base place : Pointer) (members : List (String × Json)) :
    checkText key (base ++ place) members = under base (checkText key place members) := by
  unfold checkText
  split
  · split <;> simp
  · simp
  · simp

theorem checkTextRecord_under (key : String) (base place : Pointer) (v : Json) :
    checkTextRecord key (base ++ place) v = under base (checkTextRecord key place v) := by
  cases v with
  | object members =>
    rw [checkTextRecord, checkTextRecord, under_append, checkText_under, additionalMembers_under]
  | _ => rfl

theorem checkDecoratorTest_under (base place : Pointer) (v : Json) :
    checkDecoratorTest (base ++ place) v = under base (checkDecoratorTest place v) := by
  cases v with
  | object members =>
    simp only [checkDecoratorTest, under_append, additionalMembers_under]
    refine congrArg₂ _ (congrArg₂ _ ?_ ?_) rfl
    · split
      · split <;> simp
      · simp
    · split
      · split <;> simp
      · simp
  | _ => rfl

theorem checkPattern_under (base place : Pointer) (body : Json) :
    checkPattern (base ++ place) body = under base (checkPattern place body) := by
  unfold checkPattern
  split
  · split <;> simp
  · simp

theorem checkPlain_under (base place : Pointer) (kind : String) (body : Json) :
    checkPlain (base ++ place) kind body = under base (checkPlain place kind body) := by
  unfold checkPlain
  simp only [member_append]
  split
  · exact checkDecoratorTest_under ..
  · exact checkTextRecord_under ..
  · exact checkTextRecord_under ..
  · exact checkTextRecord_under ..
  · exact checkTextRecord_under ..
  · rw [under_append, ← checkTextRecord_under, ← checkPattern_under]
  · simp

mutual

/-- A predicate is checked alike at any place. The induction is along the recursion of the check. -/
theorem checkPredicate_under (base place : Pointer) (v : Json) :
    checkPredicate (base ++ place) v = under base (checkPredicate place v) := by
  match v with
  | .object [(kind, body)] =>
    unfold checkPredicate
    rw [member_append]
    by_cases wrapped : kind = "inClassWith"
    · rw [if_pos wrapped, if_pos wrapped]
      exact checkPredicate_under base _ body
    · rw [if_neg wrapped, if_neg wrapped]
      by_cases combined : (kind = "and" || kind = "or") = true
      · rw [if_pos combined, if_pos combined]
        match body with
        | .array [] => rfl
        | .array (first :: rest) => exact checkPredicates_under base _ 0 (first :: rest)
        | .null | .bool _ | .number _ | .string _ | .object _ => rfl
      · rw [if_neg combined, if_neg combined]
        exact checkPlain_under ..
  | .object [] | .object (_ :: _ :: _) => rfl
  | .null | .bool _ | .number _ | .string _ | .array _ => rfl

theorem checkPredicates_under (base place : Pointer) (index : Nat) (items : List Json) :
    checkPredicates (base ++ place) index items =
      under base (checkPredicates place index items) := by
  match items with
  | [] => rfl
  | v :: rest =>
    rw [checkPredicates, checkPredicates, item_append, checkPredicate_under, checkPredicates_under,
      under_append]

end

theorem checkRule_under (base place : Pointer) (v : Json) :
    checkRule (base ++ place) v = under base (checkRule place v) := by
  cases v with
  | object members =>
    unfold checkRule
    simp only
    cases memberOf? members "notUsed" with
    | some flag =>
      simp only [under_append]
      refine congrArg₂ _ ?_ ?_
      · split <;> simp
      · split <;> simp
    | none =>
      simp only [under_append, additionalMembers_under]
      refine congrArg₂ _ (congrArg₂ _ ?_ ?_) rfl
      · split
        · split <;> simp
        · simp
        · simp
      · split
        · rw [member_append, checkPredicate_under]
        · simp
  | _ => rfl

theorem requireText_under (key : String) (base place : Pointer)
    (members : List (String × Json)) :
    requireText key (base ++ place) members =
      match requireText key place members with
      | .ok text => .ok text
      | .error v => .error { v with place := base ++ v.place } := by
  unfold requireText
  split
  · rw [member_append]
    split
    · rfl
    · rfl
  · rw [member_append]
  · rfl

theorem checkName_under (before : List String) (base place : Pointer)
    (members : List (String × Json)) :
    checkName before (base ++ place) members = under base (checkName before place members) := by
  unfold checkName
  rw [requireText_under]
  cases requireText "name" place members with
  | error v => rfl
  | ok name =>
    simp only [under_append]
    refine congrArg₂ _ ?_ ?_
    · split <;> simp
    · split <;> simp

theorem checkGlob_under (base place : Pointer) (members : List (String × Json)) :
    checkGlob (base ++ place) members = under base (checkGlob place members) := by
  unfold checkGlob
  rw [requireText_under]
  cases requireText "path" place members with
  | error v => rfl
  | ok text =>
    simp only
    split <;> simp

theorem checkSlot_under (base place : Pointer) (members : List (String × Json)) (slot : Slot) :
    checkSlot (base ++ place) members slot = under base (checkSlot place members slot) := by
  unfold checkSlot
  split
  · rw [member_append, checkRule_under]
  · simp

/-- A module is checked alike at any place. -/
theorem checkModule_under (before : List String) (base place : Pointer) (v : Json) :
    checkModule before (base ++ place) v = under base (checkModule before place v) := by
  cases v with
  | object members =>
    have slots := funext (checkSlot_under base place members)
    simp only [checkModule, under_append, under_flatMap, additionalMembers_under, checkName_under,
      checkGlob_under, slots]
  | _ => rfl

end ComponentAtlas.Config
