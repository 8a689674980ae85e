import ComponentAtlas.Proofs.Config.Acceptance
import ComponentAtlas.Proofs.Config.Placement
import ComponentAtlas.Proofs.Json.Pointer
import ComponentAtlas.Proofs.Sorting

/-! # Violations of a whole and of its parts

What is wrong with a document is what is wrong with its parts, one after another, and one part does
not hide the faults of another. Modules share nothing but their names: a module in a list has the
violations that it has alone, and one more if a module in front gives the same name. Predicates
share nothing. -/

namespace ComponentAtlas.Config

open Json

/-- If all items but one give nothing, the list gives what that one gives. -/
theorem flatMap_eq_of_unique {α β : Type} {items : List α} {f : α → List β} {a : α}
    (distinct : items.Nodup) (member : a ∈ items) (others : ∀ b ∈ items, b ≠ a → f b = []) :
    items.flatMap f = f a := by
  induction items with
  | nil => cases member
  | cons first rest ih =>
    rw [List.nodup_cons] at distinct
    rw [List.forall_mem_cons] at others
    rw [List.flatMap_cons]
    rcases List.mem_cons.1 member with rfl | later
    · have none : rest.flatMap f = [] := List.flatMap_eq_nil_iff.2 fun b member =>
        others.2 b member fun same => distinct.1 (same ▸ member)
      rw [none, List.append_nil]
    · rw [others.1 fun same => distinct.1 (same ▸ later), List.nil_append]
      exact ih distinct.2 later others.2

/-- The same for items with their indices. -/
theorem flatMap_zipIdx_eq {α β : Type} {items : List α} {f : α × Nat → List β} {i : Nat} {a : α}
    (found : items[i]? = some a) (others : ∀ e ∈ items.zipIdx, e.2 ≠ i → f e = []) :
    items.zipIdx.flatMap f = f (a, i) := by
  have distinct : items.zipIdx.Nodup := by
    refine (pairwise_zipIdx items).imp ?_
    rintro a b lower rfl
    exact Nat.lt_irrefl _ lower
  have at' (e : α × Nat) (member : e ∈ items.zipIdx) : items[e.2]? = some e.1 :=
    List.mem_zipIdx_iff_getElem?.1 member
  refine flatMap_eq_of_unique distinct (List.mem_zipIdx_iff_getElem?.2 found) fun e member ne => ?_
  refine others e member fun same => ne ?_
  have item := at' e member
  rw [same, found] at item
  exact Prod.ext (Option.some.inj item).symm same

/-! ## Modules -/

/-- The document with these modules and nothing else. -/
def listing (modules : List Json) : Json := .object [("modules", .array modules)]

/-- The place of a module. -/
def modulePlace (i : Nat) : Pointer := [.key "modules", .index i]

/-- The module has a name, whatever else is wrong with it. -/
def HasName (m : Json) (name : String) : Prop :=
  m.get? "name" = some (.string name) ∧ NotBlank name

/-- What is wrong with the keys of a module and, by itself, with its name. -/
def checkFront : Json → List Violation
  | .object members => additionalMembers moduleKeys [] members ++ checkName [] [] members
  | _ => [⟨[], .notObject⟩]

/-- What is wrong with the path and the rules of a module. -/
def checkBack : Json → List Violation
  | .object members => checkGlob [] members ++ Slot.all.flatMap (checkSlot [] members)
  | _ => []

/-- The violation of a name that is among those before. -/
def checkRepeated (before : List String) (m : Json) : List Violation :=
  match nameOf? m with
  | some name => if before.contains name then [⟨[.key "name"], .repeatedName name⟩] else []
  | none => []

theorem nameOf?_eq_some_iff {m : Json} {name : String} :
    nameOf? m = some name ↔ HasName m name := by
  cases m with
  | object members =>
    have named := @requireText_eq_ok_iff "name" name [] members
    rw [nameOf?, HasName, get?, ← named]
    cases read : requireText "name" [] members <;> simp [Except.toOption]
  | _ => simp [nameOf?, HasName, get?]

theorem checkName_eq (before : List String) (members : List (String × Json)) :
    checkName before [] members =
      checkName [] [] members ++ checkRepeated before (.object members) := by
  rw [checkName, checkName, checkRepeated, nameOf?]
  cases read : requireText "name" [] members with
  | error v => simp [Except.toOption]
  | ok name => simp [Except.toOption, Pointer.member]

theorem checkModule_eq (before : List String) (m : Json) :
    checkModule before [] m = checkFront m ++ checkRepeated before m ++ checkBack m := by
  cases m with
  | object members =>
    simp only [checkModule, checkFront, checkBack, checkName_eq before, List.append_assoc]
  | _ => rfl

theorem checkRepeated_nil (m : Json) : checkRepeated [] m = [] := by
  unfold checkRepeated
  split <;> rfl

/-- A module alone has the violations of its front and those of its back. -/
theorem checkModule_alone (m : Json) : checkModule [] [] m = checkFront m ++ checkBack m := by
  rw [checkModule_eq, checkRepeated_nil, List.append_nil]

/-- The violations of modules behind others: one part for each, with the names of all in front. -/
theorem checkModules_eq_flatMap (front rest : List Json) :
    checkModules (front.filterMap nameOf?) front.length rest =
      (rest.zipIdx front.length).flatMap fun e => under (modulePlace e.2)
        (checkModule (((front ++ rest).take e.2).filterMap nameOf?) [] e.1) := by
  induction rest generalizing front with
  | nil => rfl
  | cons m rest ih =>
    have names : front.filterMap nameOf? ++ (nameOf? m).toList =
        (front ++ [m]).filterMap nameOf? := by
      rw [List.filterMap_append]
      cases read : nameOf? m <;> simp [read]
    have later := ih (front ++ [m])
    rw [List.length_append, List.length_singleton, List.append_assoc, List.singleton_append]
      at later
    rw [checkModules, names, later, List.zipIdx_cons, List.flatMap_cons, ← checkModule_under,
      List.append_nil, List.take_left]
    rfl

/-- The violations of the module with an index. -/
def moduleViolations (modules : List Json) (e : Json × Nat) : List Violation :=
  under (modulePlace e.2) (checkModule ((modules.take e.2).filterMap nameOf?) [] e.1)

theorem check_of_listed {document : Json} {modules : List Json}
    (listed : document.get? "modules" = some (.array modules)) :
    check document = modules.zipIdx.flatMap (moduleViolations modules) := by
  cases document with
  | object members =>
    rw [get?] at listed
    rw [check, listed]
    exact checkModules_eq_flatMap [] modules
  | _ => cases listed

theorem check_listing_singleton (m : Json) :
    check (listing [m]) = under (modulePlace 0) (checkFront m ++ checkBack m) := by
  have listed : (listing [m]).get? "modules" = some (.array [m]) := rfl
  rw [check_of_listed listed, ← checkModule_alone]
  exact List.append_nil _

/-- It is about a key that is unknown or a colon in the name. -/
def Violation.IsOfFront (v : Violation) : Prop :=
  (∃ key, v = ⟨[], .additional key⟩) ∨ ∃ name, v = ⟨[.key "name"], .colonInName name⟩

/-- It is about the member of a module with this key. -/
def Violation.IsOfMember (key : String) (v : Violation) : Prop :=
  [.key key] <+: v.place ∨ v = ⟨[], .missing key⟩

/-- It is about the path or a rule. -/
def Violation.IsOfBack (v : Violation) : Prop := ∃ key ∈ "path" :: slotKeys, v.IsOfMember key

/-- What is wrong with the module `m` in a list behind others, at its index `i` there. -/
inductive ModulePart (before : List Json) (i : Nat) (m : Json) : List Violation → Prop
  /-- The violations that it has alone, if its name is new. -/
  | new {own : List Violation} (alone : check (listing [m]) = under (modulePlace 0) own)
      (fresh : ∀ name, HasName m name → ∀ other ∈ before, ¬ HasName other name) :
      ModulePart before i m (under (modulePlace i) own)
  /-- One more behind those about its keys and its name, if a module in front has the name. -/
  | repeated {front back : List Violation} {name : String}
      (alone : check (listing [m]) = under (modulePlace 0) (front ++ back))
      (named : HasName m name) (earlier : ∃ other ∈ before, HasName other name)
      (isFront : ∀ v ∈ front, v.IsOfFront) (isBack : ∀ v ∈ back, v.IsOfBack) :
      ModulePart before i m
        (under (modulePlace i) (front ++ ⟨[.key "name"], .repeatedName name⟩ :: back))

theorem isOfFront_of_mem {m : Json} {name : String} (named : HasName m name) :
    ∀ v ∈ checkFront m, v.IsOfFront := by
  cases m with
  | object members =>
    intro v member
    have read : requireText "name" [] members = .ok name := requireText_eq_ok_iff.2 named
    rw [checkFront, checkName, read] at member
    rcases List.mem_append.1 member with additional | colon
    · obtain ⟨e, -, rfl⟩ := List.mem_map.1 additional
      exact .inl ⟨e.1, rfl⟩
    · simp only [List.contains_nil, Bool.false_eq_true, if_false, List.append_nil] at colon
      split at colon
      · exact .inr ⟨name, List.mem_singleton.1 colon⟩
      · cases colon
  | _ => cases named.1

theorem isOfMember_of_requireText {key : String} {members : List (String × Json)} {v : Violation}
    (read : requireText key [] members = .error v) : v.IsOfMember key := by
  unfold requireText at read
  split at read
  · split at read <;> cases read
    exact .inl List.prefix_rfl
  · cases read
    exact .inl List.prefix_rfl
  · cases read
    exact .inr rfl

theorem isOfMember_of_mem_checkName {members : List (String × Json)} {v : Violation}
    (member : v ∈ checkName [] [] members) : v.IsOfMember "name" := by
  unfold checkName at member
  cases read : requireText "name" [] members with
  | error w =>
    rw [read] at member
    rw [List.mem_singleton.1 member]
    exact isOfMember_of_requireText read
  | ok name =>
    simp only [read, List.contains_nil, Bool.false_eq_true, if_false, List.append_nil] at member
    split at member
    · rw [List.mem_singleton.1 member]
      exact .inl List.prefix_rfl
    · cases member

theorem isOfMember_of_mem_checkGlob {members : List (String × Json)} {v : Violation}
    (member : v ∈ checkGlob [] members) : v.IsOfMember "path" := by
  unfold checkGlob at member
  cases read : requireText "path" [] members with
  | error w =>
    rw [read] at member
    rw [List.mem_singleton.1 member]
    exact isOfMember_of_requireText read
  | ok text =>
    rw [read] at member
    cases compiled : Glob.read text with
    | ok glob => simp [compiled] at member
    | error fault =>
      simp only [compiled, List.mem_singleton] at member
      rw [member]
      exact .inl List.prefix_rfl

theorem checkSlot_of_ruled {members : List (String × Json)} {slot : Slot} {rule : Json}
    (ruled : memberOf? members slot.key = some rule) :
    checkSlot [] members slot = under [.key slot.key] (checkRule [] rule) := by
  rw [checkSlot, ruled, ← checkRule_under]
  rfl

theorem isOfMember_of_mem_checkSlot {members : List (String × Json)} {slot : Slot} {v : Violation}
    (member : v ∈ checkSlot [] members slot) : v.IsOfMember slot.key := by
  cases ruled : memberOf? members slot.key with
  | none =>
    rw [checkSlot, ruled] at member
    exact .inr (List.mem_singleton.1 member)
  | some rule =>
    rw [checkSlot_of_ruled ruled] at member
    obtain ⟨w, -, rfl⟩ := List.mem_map.1 member
    exact .inl (List.prefix_append _ _)

theorem isOfBack_of_mem (m : Json) : ∀ v ∈ checkBack m, v.IsOfBack := by
  cases m with
  | object members =>
    intro v member
    rcases List.mem_append.1 member with glob | rules
    · exact ⟨"path", List.mem_cons_self, isOfMember_of_mem_checkGlob glob⟩
    · obtain ⟨slot, -, rule⟩ := List.mem_flatMap.1 rules
      have key : slot.key ∈ slotKeys := slotKeys_eq ▸ List.mem_map_of_mem (Slot.mem_all slot)
      exact ⟨slot.key, List.mem_cons_of_mem _ key, isOfMember_of_mem_checkSlot rule⟩
  | _ => exact List.forall_mem_nil _

theorem mem_names_iff {modules : List Json} {name : String} :
    name ∈ modules.filterMap nameOf? ↔ ∃ m ∈ modules, HasName m name := by
  simp only [List.mem_filterMap, nameOf?_eq_some_iff]

/-- What is found in a module behind others. -/
theorem modulePart_of_moduleViolations (modules : List Json) (i : Nat) (m : Json) :
    ModulePart (modules.take i) i m (moduleViolations modules (m, i)) := by
  have alone := check_listing_singleton m
  rw [moduleViolations, checkModule_eq]
  by_cases repeats : ∃ name, HasName m name ∧ ∃ other ∈ modules.take i, HasName other name
  · obtain ⟨name, named, earlier⟩ := repeats
    have found : checkRepeated ((modules.take i).filterMap nameOf?) m =
        [⟨[.key "name"], .repeatedName name⟩] := by
      rw [checkRepeated, nameOf?_eq_some_iff.2 named]
      exact if_pos (List.contains_iff_mem.2 (mem_names_iff.2 earlier))
    rw [found, List.append_assoc, List.singleton_append]
    exact .repeated alone named earlier (isOfFront_of_mem named) (isOfBack_of_mem m)
  · have fresh : ∀ name, HasName m name → ∀ other ∈ modules.take i, ¬ HasName other name :=
      fun name named other member same => repeats ⟨name, named, other, member, same⟩
    have none : checkRepeated ((modules.take i).filterMap nameOf?) m = [] := by
      unfold checkRepeated
      split
      · next name named =>
        refine if_neg fun listed => ?_
        obtain ⟨other, member, same⟩ := mem_names_iff.1 (List.contains_iff_mem.1 listed)
        exact fresh name (nameOf?_eq_some_iff.1 named) other member same
      · rfl
    rw [none, List.append_nil]
    exact .new alone fresh

/-! ## Predicates -/

theorem checkPredicates_eq_flatMap (place : Pointer) (index : Nat) (items : List Json) :
    checkPredicates place index items = (items.zipIdx index).flatMap fun e =>
      under (place.item e.2) (checkPredicate [] e.1) := by
  induction items generalizing index with
  | nil => rfl
  | cons v rest ih =>
    rw [checkPredicates, ih, List.zipIdx_cons, List.flatMap_cons, ← checkPredicate_under,
      List.append_nil]

theorem checkPredicate_combined {kind : String} (combined : kind = "and" ∨ kind = "or")
    {items : List Json} (nonempty : items ≠ []) :
    checkPredicate [] (single kind (.array items)) = items.zipIdx.flatMap fun e =>
      under [.key kind, .index e.2] (checkPredicate [] e.1) := by
  have opened : checkPredicate [] (single kind (.array items)) =
      checkPredicates [.key kind] 0 items := by
    cases items with
    | nil => exact absurd rfl nonempty
    | cons first rest =>
      rw [single]
      unfold checkPredicate
      rcases combined with rfl | rfl <;> rfl
  rw [opened]
  exact checkPredicates_eq_flatMap [.key kind] 0 items

theorem checkPredicate_inClassWith (v : Json) :
    checkPredicate [] (single "inClassWith" v) =
      under [.key "inClassWith"] (checkPredicate [] v) := by
  have opened : checkPredicate [] (single "inClassWith" v) =
      checkPredicate [.key "inClassWith"] v := by
    conv_lhs =>
      rw [single]
      unfold checkPredicate
    exact if_pos rfl
  rw [opened, ← checkPredicate_under, List.append_nil]

/-- The value stands at a place where a predicate should be: as the condition of a rule, as an item
of a combination, or as the test on a class. What stands elsewhere may be broken. -/
inductive PredicateAt (document : Json) : Pointer → Json → Prop
  | condition {modules : List Json} {i : Nat} {m rule test : Json} {slot : Slot}
      (listed : document.get? "modules" = some (.array modules)) (found : modules[i]? = some m)
      (ruled : m.get? slot.key = some rule) (used : rule.get? "notUsed" = none)
      (given : rule.get? "where" = some test) :
      PredicateAt document (modulePlace i ++ [.key slot.key, .key "where"]) test
  | item {p : Pointer} {kind : String} {items : List Json} {j : Nat} {v : Json}
      (combined : kind = "and" ∨ kind = "or")
      (outer : PredicateAt document p (single kind (.array items))) (found : items[j]? = some v) :
      PredicateAt document (p ++ [.key kind, .index j]) v
  | inClass {p : Pointer} {v : Json}
      (outer : PredicateAt document p (single "inClassWith" v)) :
      PredicateAt document (p ++ [.key "inClassWith"]) v

theorem within_moduleViolations {document : Json} {modules : List Json} {i : Nat} {m : Json}
    (listed : document.get? "modules" = some (.array modules)) (found : modules[i]? = some m)
    (inner : Pointer) :
    within (modulePlace i ++ inner) (check document) = under (modulePlace i)
      (within inner (checkModule ((modules.take i).filterMap nameOf?) [] m)) := by
  rw [check_of_listed listed, within_flatMap, flatMap_zipIdx_eq found]
  · exact within_under ..
  · intro e _ other
    refine within_under_eq_nil ?_ ?_ _
    all_goals simp [modulePlace, Ne.symm other, other]

/-- What is about one member is not in another. -/
theorem within_eq_nil_of_isOfMember {key other : String} {violations : List Violation}
    (ne : other ≠ key) (about : ∀ v ∈ violations, v.IsOfMember other) (inner : Pointer) :
    within (.key key :: inner) violations = [] := by
  refine within_eq_nil_iff.2 fun v member below => ?_
  rcases about v member with ⟨rest, place⟩ | rfl
  · rw [← place] at below
    exact ne (Step.key.inj (List.cons_prefix_cons.1 below).1).symm
  · exact absurd (List.prefix_nil.1 below) (List.cons_ne_nil _ _)

theorem within_additionalMembers (known : List String) (members : List (String × Json))
    (key : String) (inner : Pointer) :
    within (.key key :: inner) (additionalMembers known [] members) = [] := by
  refine within_eq_nil_iff.2 fun v member below => ?_
  obtain ⟨e, -, rfl⟩ := List.mem_map.1 member
  exact absurd (List.prefix_nil.1 below) (List.cons_ne_nil _ _)

theorem within_front {before : List String} {m : Json} {key : String} (ne : "name" ≠ key)
    (inner : Pointer) :
    within (.key key :: inner) (checkFront m ++ checkRepeated before m) = [] := by
  have root (cause : Cause) : within (.key key :: inner) [⟨[], cause⟩] = [] := rfl
  have repeated : within (.key key :: inner) (checkRepeated before m) = [] := by
    refine within_eq_nil_of_isOfMember ne (fun v member => ?_) inner
    unfold checkRepeated at member
    split at member
    · split at member
      · rw [List.mem_singleton.1 member]
        exact .inl List.prefix_rfl
      · cases member
    · cases member
  rw [within_append, repeated, List.append_nil]
  cases m with
  | object members =>
    rw [checkFront, within_append, within_additionalMembers, List.nil_append]
    exact within_eq_nil_of_isOfMember ne (fun _ => isOfMember_of_mem_checkName) inner
  | _ => exact root _

theorem slot_key_inj {s t : Slot} (same : s.key = t.key) : s = t :=
  Option.some.inj ((Slot.ofKey?_key s).symm.trans (same ▸ Slot.ofKey?_key t))

theorem within_checkBack {members : List (String × Json)} {slot : Slot} {rule : Json}
    (ruled : memberOf? members slot.key = some rule) (inner : Pointer) :
    within (.key slot.key :: inner) (checkBack (.object members)) =
      under [.key slot.key] (within inner (checkRule [] rule)) := by
  have path : "path" ≠ slot.key := by cases slot <;> decide
  have distinct : Slot.all.Nodup := by decide
  have others (s : Slot) (_ : s ∈ Slot.all) (ne : s ≠ slot) :
      within (.key slot.key :: inner) (checkSlot [] members s) = [] :=
    within_eq_nil_of_isOfMember (fun same => ne (slot_key_inj same))
      (fun _ => isOfMember_of_mem_checkSlot) inner
  rw [checkBack, within_append,
    within_eq_nil_of_isOfMember path (fun _ => isOfMember_of_mem_checkGlob), List.nil_append,
    within_flatMap, flatMap_eq_of_unique distinct (Slot.mem_all slot) others,
    checkSlot_of_ruled ruled]
  exact within_under [.key slot.key] inner _

theorem within_checkRule {rule test : Json} (used : rule.get? "notUsed" = none)
    (given : rule.get? "where" = some test) :
    within [.key "where"] (checkRule [] rule) = under [.key "where"] (checkPredicate [] test) := by
  cases rule with
  | object members =>
    rw [get?] at used given
    have condition : checkPredicate (Pointer.member [] "where") test =
        under [.key "where"] (checkPredicate [] test) := checkPredicate_under [.key "where"] [] test
    rw [checkRule]
    simp only [used, given]
    rw [within_append, within_append, within_additionalMembers, condition, within_under_self,
      List.append_nil]
    -- what is wrong with the sort is at the rule or at another key
    have sort (at' : Pointer) (cause : Cause) (elsewhere : ¬ [.key "where"] <+: at') :
        within [.key "where"] [⟨at', cause⟩] = [] := by
      simp [within, elsewhere]
    have find : ¬ [.key "where"] <+: Pointer.member [] "find" := by decide
    have here : ¬ [Step.key "where"] <+: [] := by decide
    split
    · split
      · rfl
      · rw [sort _ _ find, List.nil_append]
    · rw [sort _ _ find, List.nil_append]
    · rw [sort _ _ here, List.nil_append]
  | _ => cases given

/-- The violations in a predicate are those that it has alone, wherever it stands and whatever else
is wrong. The induction is on the way to it. -/
theorem within_of_predicateAt {document v : Json} {p : Pointer} (h : PredicateAt document p v) :
    within p (check document) = under p (checkPredicate [] v) := by
  induction h with
  | @condition modules i m rule test slot listed found ruled used given =>
    cases m with
    | object members =>
      have front : "name" ≠ slot.key := by cases slot <;> decide
      rw [within_moduleViolations listed found, checkModule_eq, within_append, within_front front,
        List.nil_append, within_checkBack ruled, within_checkRule used given, under_under,
        under_under]
      rfl
    | _ => cases ruled
  | @item p kind items j v combined _ found ih =>
    have nonempty : items ≠ [] := by
      rintro rfl
      cases found
    have others : ∀ e ∈ items.zipIdx, e.2 ≠ j →
        within [.key kind, .index j]
          (under [.key kind, .index e.2] (checkPredicate [] e.1)) = [] := by
      intro e _ other
      refine within_under_eq_nil ?_ ?_ _
      all_goals simp [Ne.symm other, other]
    rw [← within_within (List.prefix_append p _), ih, within_under,
      checkPredicate_combined combined nonempty, within_flatMap, flatMap_zipIdx_eq found others,
      within_under_self, under_under]
  | @inClass p v _ ih =>
    rw [← within_within (List.prefix_append p _), ih, within_under, checkPredicate_inClassWith,
      within_under_self, under_under]

/-! ## Whole documents -/

/-- What is shown of a violation: its place and its message, as texts. -/
def Violation.report (v : Violation) : String × String := (v.place.text, v.cause.message)

theorem report_under (base : Pointer) (violations : List Violation) :
    (under base violations).map Violation.report =
      (violations.map Violation.report).map fun r => (base.text ++ r.1, r.2) := by
  simp only [under, List.map_map, Function.comp_def, Violation.report, Pointer.text_append]

theorem text_modulePlace (i : Nat) : (modulePlace i).text = "/modules/" ++ toString i := by
  show String.join ["/" ++ Step.text (.key "modules"), "/" ++ toString i] = _
  rw [Step.text_key (by decide)]
  simp only [String.join_cons, String.join_nil, String.append_empty, ← String.append_assoc]
  rfl

/-- Checking is compositional. The violations of a document are those of its modules in order, where
a module has those that it has alone and one more if its name is repeated. The violations in a
predicate are those that it has alone, under its place in the document: for a combination those of
its items in order, and for a test on the class those of the test. Under a place means that the
texts of the places begin with that of the place. -/
theorem check_compositional :
    (∀ (document : Json) (modules : List Json),
      document.get? "modules" = some (.array modules) →
      ∃ parts : List (List Violation), check document = parts.flatten ∧
        parts.length = modules.length ∧
        ∀ i m part, modules[i]? = some m → parts[i]? = some part →
          ModulePart (modules.take i) i m part) ∧
    (∀ (document v : Json) (p : Pointer), PredicateAt document p v →
      within p (check document) = under p (checkPredicate [] v)) ∧
    (∀ (document : Json) (p : Pointer) (kind : String) (items : List Json),
      kind = "and" ∨ kind = "or" → items ≠ [] →
      PredicateAt document p (single kind (.array items)) →
      within p (check document) = items.zipIdx.flatMap fun e =>
        under (p ++ [.key kind, .index e.2]) (checkPredicate [] e.1)) ∧
    (∀ (document v : Json) (p : Pointer), PredicateAt document p (single "inClassWith" v) →
      within p (check document) = under (p ++ [.key "inClassWith"]) (checkPredicate [] v)) ∧
    (∀ (base : Pointer) (violations : List Violation),
      (under base violations).map Violation.report =
        (violations.map Violation.report).map fun r => (base.text ++ r.1, r.2)) ∧
    ∀ i, (modulePlace i).text = "/modules/" ++ toString i := by
  refine ⟨fun document modules listed => ?_, fun _ _ _ => within_of_predicateAt, ?_, ?_,
    report_under, text_modulePlace⟩
  · refine ⟨modules.zipIdx.map (moduleViolations modules), ?_, by simp, ?_⟩
    · rw [check_of_listed listed, List.flatMap]
    · intro i m part found isPart
      rw [List.getElem?_map, List.getElem?_zipIdx, found] at isPart
      obtain rfl : moduleViolations modules (m, i) = part := by simpa using isPart
      exact modulePart_of_moduleViolations modules i m
  · intro document p kind items combined nonempty stands
    rw [within_of_predicateAt stands, checkPredicate_combined combined nonempty, under_flatMap]
    simp only [under_under]
  · intro document v p stands
    rw [within_of_predicateAt stands, checkPredicate_inClassWith, under_under]

/-- A test on the name with nothing in it. -/
def emptyEnding : Json := single "nameEndsWith" (single "suffix" (.string ""))

/-- Two broken tests. -/
def shopTests : List Json := [single "inClassWith" emptyEnding, .null]

/-- A module with an unknown key. -/
def secondShop : Json :=
  .object [
    ("api", .object [("find", .string "classes"), ("where", single "and" (.array shopTests))]),
    ("name", .string "shop"), ("zone", .null)]

/-- The second object has the name of the first, which has nothing but a name. -/
def shopModules : List Json := [.object [("name", .string "shop")], .null, secondShop]

/-- The place of the tests. -/
def shopPlace : Pointer := modulePlace 2 ++ [.key Slot.api.key, .key "where"]

theorem predicateAt_shopTests :
    PredicateAt (listing shopModules) shopPlace (single "and" (.array shopTests)) := by
  have listed : (listing shopModules).get? "modules" = some (.array shopModules) := rfl
  have found : shopModules[2]? = some secondShop := rfl
  exact .condition listed found rfl rfl rfl

/-- The third module repeats a name, and its predicate is checked in spite of that. -/
theorem check_compositional_shop :
    (listing shopModules).get? "modules" = some (.array shopModules) ∧
    PredicateAt (listing shopModules) shopPlace (single "and" (.array shopTests)) ∧
    shopTests ≠ [] ∧
    PredicateAt (listing shopModules) (shopPlace ++ [.key "and", .index 0])
      (single "inClassWith" emptyEnding) ∧
    (∃ parts : List (List Violation), check (listing shopModules) = parts.flatten ∧
      parts.length = 3 ∧ ∀ i m part, shopModules[i]? = some m → parts[i]? = some part →
        ModulePart (shopModules.take i) i m part) ∧
    within shopPlace (check (listing shopModules)) =
      under shopPlace (checkPredicate [] (single "and" (.array shopTests))) ∧
    (within shopPlace (check (listing shopModules)) = shopTests.zipIdx.flatMap fun e =>
      under (shopPlace ++ [.key "and", .index e.2]) (checkPredicate [] e.1)) ∧
    within (shopPlace ++ [.key "and", .index 0]) (check (listing shopModules)) =
      under (shopPlace ++ [.key "and", .index 0] ++ [.key "inClassWith"])
        (checkPredicate [] emptyEnding) := by
  have listed : (listing shopModules).get? "modules" = some (.array shopModules) := rfl
  have nonempty : shopTests ≠ [] := List.cons_ne_nil _ _
  have first : PredicateAt (listing shopModules) (shopPlace ++ [.key "and", .index 0])
      (single "inClassWith" emptyEnding) := .item (.inl rfl) predicateAt_shopTests rfl
  obtain ⟨modules, predicates, combinations, classes, -⟩ := check_compositional
  exact ⟨listed, predicateAt_shopTests, nonempty, first, modules _ _ listed,
    predicates _ _ _ predicateAt_shopTests,
    combinations _ _ "and" _ (.inl rfl) nonempty predicateAt_shopTests, classes _ _ _ first⟩

end ComponentAtlas.Config
