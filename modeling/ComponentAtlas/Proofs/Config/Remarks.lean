import ComponentAtlas.Proofs.Config.Composition
import ComponentAtlas.Proofs.Json.Reading
import ComponentAtlas.Proofs.Json.Remarks

/-! # What violations say, and of what

A violation of a configuration is at a place of the document, and what it says is so of the value
there. The keys on the way are those of the grammar, so that a place is written without escapes. No
two violations have both the place and the message in common. There is one lemma for each check, and
for predicates an induction along the recursion of theirs. -/

namespace ComponentAtlas.Config

open Json

/-! ## Causes and messages -/

namespace Cause

/-- What a cause says of the value at its place. -/
def Fits : Cause → Json → Prop
  | notObject, v | predicateNotObject, v => v.object? = none
  | notArray, v => v.array? = none
  | notString, v => v.string? = none
  | missing key, v => ∃ members, v = .object members ∧ memberOf? members key = none
  | additional key, v => ∃ members w, v = .object members ∧ memberOf? members key = some w
  | blank, v => ∃ s, v = .string s ∧ s.toList.all Charset.isBlank = true
  | emptyText, v => isText v = false
  | colonInName name, v => v = .string name ∧ ':' ∈ name.toList
  | repeatedName name, v => v = .string name
  | badGlob text fault, v => v = .string text ∧ Glob.read text = .error fault
  | badPattern text problem, v => v = .string text ∧ Pattern.compile text = .error problem
  | notTrue, v => v ≠ .bool true
  | notUsedWithMore, v => ∃ members, v = .object members ∧ 1 < members.length
  | unknownFind, v => ∀ s, v = .string s → Source.DeclarationKind.ofPlural? s = none
  | predicateNotSingle, v => ∃ members, v = .object members ∧ members.length ≠ 1
  | unknownPredicate kind, v => ∃ body, v = .object [(kind, body)]
  | badDecoratorNames, v => isDecoratorNames v = false
  | noPredicates _, v => v = .array []

/-- What a message says before it quotes anything. -/
def opening : Cause → String
  | notObject => "must be an object"
  | notArray => "must be an array"
  | notString => "must be a string"
  | missing _ => "must have required property '"
  | additional _ => "must NOT have additional property '"
  | blank | emptyText => "must be a non-empty string"
  | colonInName _ => "module name '"
  | repeatedName _ => "duplicate module name '"
  | badGlob _ _ => "invalid glob pattern '"
  | badPattern _ _ => "invalid regular expression: "
  | notTrue => "must be equal to constant true"
  | notUsedWithMore => "a notUsed rule must not carry 'find' or 'where'"
  | unknownFind => "must be equal to one of the allowed values: "
  | predicateNotObject => "predicate must be an object"
  | predicateNotSingle => "predicate must have exactly one of: "
  | unknownPredicate _ => "unknown predicate '"
  | badDecoratorNames => "must be a non-empty string or a non-empty array of non-empty strings"
  | noPredicates _ => "'"

theorem exists_message_eq (c : Cause) : ∃ rest, c.message = c.opening ++ rest := by
  cases c with
  | notObject | notArray | notString | blank | emptyText | notTrue | notUsedWithMore
  | predicateNotObject | badDecoratorNames => exact ⟨"", (String.append_empty).symm⟩
  | badPattern _ _ | unknownFind | predicateNotSingle => exact ⟨_, rfl⟩
  | missing _ | additional _ | colonInName _ | repeatedName _ | noPredicates _ =>
    exact ⟨_, String.append_assoc ..⟩
  | badGlob _ _ | unknownPredicate _ => exact ⟨_, String.append_assoc.trans String.append_assoc⟩

/-- Messages whose openings do not agree are not the same. -/
theorem message_ne {c d : Cause} (apart : ¬ Agree c.opening d.opening) :
    c.message ≠ d.message := by
  intro same
  obtain ⟨rest, first⟩ := c.exists_message_eq
  obtain ⟨more, second⟩ := d.exists_message_eq
  rw [first, second] at same
  exact apart (agree_of_append_eq same)

/-- Words in front of a message agree with its opening. -/
theorem agree_of_message_eq {c : Cause} {words rest : String} (h : c.message = words ++ rest) :
    Agree c.opening words := by
  obtain ⟨more, whole⟩ := c.exists_message_eq
  rw [whole] at h
  exact agree_of_append_eq h

/-! ### Causes read from messages -/

section Reading

variable {c : Cause} {key rest : String}

theorem eq_missing (same : c.message = missingMessage key) : c = .missing key := by
  have agree : Agree c.opening (missing key).opening :=
    agree_of_message_eq (same.trans (String.append_assoc ..))
  cases c with
  | missing other => exact congrArg missing (quoted_inj same)
  | _ => exact absurd agree (not_agree rfl rfl (by decide))

theorem eq_additional (same : c.message = (additional key).message) : c = .additional key := by
  have agree : Agree c.opening (additional key).opening :=
    agree_of_message_eq (same.trans (String.append_assoc ..))
  cases c with
  | additional other => exact congrArg additional (quoted_inj same)
  | _ => exact absurd agree (not_agree rfl rfl (by decide))

theorem eq_unknownPredicate (same : c.message = (unknownPredicate key).message) :
    c = .unknownPredicate key := by
  have whole : (unknownPredicate key).message =
      "unknown predicate '" ++ (key ++ ("'; expected one of: " ++ kinds)) :=
    String.append_assoc.trans String.append_assoc
  have agree : Agree c.opening (unknownPredicate key).opening :=
    agree_of_message_eq (same.trans whole)
  cases c with
  | unknownPredicate other =>
    exact congrArg unknownPredicate (quoted_inj ((String.append_left_inj _).1 same))
  | _ => exact absurd agree (not_agree rfl rfl (by decide))

theorem eq_badPattern (whole : c.message = "invalid regular expression: " ++ rest) :
    ∃ text problem, c = .badPattern text problem ∧ rest = problem.message text := by
  have agree := agree_of_message_eq whole
  cases c with
  | badPattern text problem =>
    exact ⟨text, problem, rfl, ((String.append_right_inj _).1 whole).symm⟩
  | _ => exact absurd agree (not_agree rfl rfl (by decide))

theorem eq_badGlob (whole : c.message = "invalid glob pattern '" ++ rest) :
    ∃ text fault, c = .badGlob text fault ∧
      "invalid glob pattern '" ++ rest = Glob.complaint text fault := by
  have agree := agree_of_message_eq whole
  cases c with
  | badGlob text fault => exact ⟨text, fault, rfl, whole.symm⟩
  | _ => exact absurd agree (not_agree rfl rfl (by decide))

end Reading

end Cause

/-- The keys on the way to a violation are written as they are. -/
instance : Remark Violation where
  place x := x.place
  message x := x.cause.message
  Fits x := x.cause.Fits
  Passes _ := Step.IsPlain

open Remark (Exact ExactFor ExactIn)

variable {place : Pointer} {members : List (String × Json)} {key : String} {keys : List String}
  {v : Json} {found : List Violation}

/-! ## Members and texts -/

/-- What is found in a member of a plain key is found in the object. -/
theorem exact_member {w : Json} (present : memberOf? members key = some w)
    (plain : Step.IsPlain key) (inside : Exact (place.member key) w found) :
    ExactFor place members [key] found :=
  .member present (fun _ _ => plain) inside

/-- A test of a member with one complaint about all that fail it. -/
theorem exact_tested {w : Json} {test : Bool} {complaint : Cause}
    (present : memberOf? members key = some w) (plain : Step.IsPlain key)
    (fits : test = false → complaint.Fits w) :
    ExactFor place members [key]
      (if test then [] else [(⟨place.member key, complaint⟩ : Violation)]) := by
  split
  · exact .nil
  · next fails => exact exact_member present plain (.single rfl (fits (Bool.eq_false_iff.2 fails)))

theorem exact_additionalMembers (known : List String) (place : Pointer)
    (ordered : (Json.object members).Ordered) :
    Exact place (.object members) (additionalMembers known place members) where
  isTrue x made := by
    obtain ⟨m, among, rfl⟩ := List.mem_map.1 made
    have present := Keyed.lookup_of_mem ordered.ascending.nodup (List.mem_of_mem_filter among)
    exact .here ⟨members, m.2, rfl, present⟩
  nodup := by
    have distinct : ((members.filter fun m => !known.contains m.1).map (·.1)).Nodup :=
      ordered.ascending.nodup.sublist (List.filter_sublist.map _)
    rw [additionalMembers, List.map_map]
    refine (List.Nodup.of_map _ distinct).map_on ?_
    intro m one n another same
    have keys : m.1 = n.1 := quoted_inj (Prod.mk.inj same).2
    exact List.inj_on_of_nodup_map distinct one another keys

/-- Nothing said of the members of an object is said of a key that it should not have. -/
theorem said_ne_additional (h : ExactFor place members keys found) {known : List String} :
    ∀ x ∈ found, ∀ y ∈ additionalMembers known place members, Remark.said x ≠ Remark.said y := by
  intro x made y additional
  obtain ⟨m, -, rfl⟩ := List.mem_map.1 additional
  refine h.said_ne made rfl ?_
  intro other
  exact Cause.message_ne (d := .missing other) (not_agree rfl rfl (by decide))

theorem exact_with_additional (h : ExactFor place members keys found)
    (ordered : (Json.object members).Ordered) (known : List String) :
    Exact place (.object members) (found ++ additionalMembers known place members) :=
  h.toExact.append (exact_additionalMembers known place ordered) (said_ne_additional h)

theorem exact_checkText (plain : Step.IsPlain key) :
    ExactFor place members [key] (checkText key place members) := by
  unfold checkText
  split
  · next s present =>
    split
    · next empty =>
      have fits : isText (.string s) = false := by rw [empty]; rfl
      exact exact_member present plain (.single rfl fits)
    · exact .nil
  · next w other present =>
    have fits : isText w = false := by
      cases w with
      | string s => exact absurd rfl (other s)
      | _ => rfl
    exact exact_member present plain (.single rfl fits)
  · next missing => exact .missing rfl rfl ⟨members, rfl, missing⟩

theorem exact_checkTextRecord (plain : Step.IsPlain key) (ordered : v.Ordered) :
    Exact place v (checkTextRecord key place v) := by
  cases v with
  | object members => exact exact_with_additional (exact_checkText plain) ordered [key]
  | _ => exact .single rfl rfl

/-! ## Predicates -/

theorem exact_checkDecoratorTest (ordered : v.Ordered) :
    Exact place v (checkDecoratorTest place v) := by
  cases v with
  | object members =>
    unfold checkDecoratorTest
    refine exact_with_additional (ExactFor.append (?name : ExactFor place members ["name"] _)
      (?source : ExactFor place members ["from"] _) (by decide)) ordered ["name", "from"]
    case name =>
      split
      · next w present => exact exact_tested present (by decide) id
      · next missing => exact .missing rfl rfl ⟨members, rfl, missing⟩
    case source =>
      split
      · next w present => exact exact_tested present (by decide) id
      · exact .nil
  | _ => exact .single rfl rfl

theorem not_badPattern_of_mem {x : Violation} (made : x ∈ checkTextRecord key place v)
    (rest : String) : x.cause.message ≠ "invalid regular expression: " ++ rest := by
  intro whole
  obtain ⟨text, problem, same, -⟩ := Cause.eq_badPattern whole
  cases v with
  | object members =>
    rcases List.mem_append.1 made with own | additional
    · unfold checkText at own
      split at own
      · split at own
        · rw [List.mem_singleton.1 own] at same
          cases same
        · cases own
      · rw [List.mem_singleton.1 own] at same
        cases same
      · rw [List.mem_singleton.1 own] at same
        cases same
    · obtain ⟨m, -, rfl⟩ := List.mem_map.1 additional
      cases same
  | _ =>
    rw [List.mem_singleton.1 made] at same
    cases same

theorem exact_checkPatternRecord (ordered : v.Ordered) :
    Exact place v (checkTextRecord "pattern" place v ++ checkPattern place v) := by
  have record : Exact place v (checkTextRecord "pattern" place v) :=
    exact_checkTextRecord (by decide) ordered
  unfold checkPattern
  split
  · next text given =>
    split
    · rw [List.append_nil]
      exact record
    · next problem failed =>
      cases v with
      | object members =>
        have broken : ExactFor place members ["pattern"]
            [(⟨place.member "pattern", .badPattern text problem⟩ : Violation)] :=
          exact_member given (by decide) (.single rfl ⟨rfl, failed⟩)
        refine record.append broken.toExact ?_
        intro x made y faulty same
        rw [List.mem_singleton.1 faulty] at same
        exact not_badPattern_of_mem made _ (Prod.mk.inj same).2
      | _ => cases given
  · rw [List.append_nil]
    exact record

/-- What is found in the only member of an object. -/
theorem exact_single {kind : String} {body : Json} (plain : Step.IsPlain kind)
    (inside : Exact (place.member kind) body found) :
    Exact place (.object [(kind, body)]) found :=
  (exact_member (List.lookup_cons_self ..) plain inside).toExact

theorem exact_checkPlain (kind : String) {body : Json} (ordered : body.Ordered) :
    Exact place (.object [(kind, body)]) (checkPlain place kind body) := by
  unfold checkPlain
  split
  · exact exact_single (by decide) (exact_checkDecoratorTest ordered)
  · exact exact_single (by decide) (exact_checkTextRecord (by decide) ordered)
  · exact exact_single (by decide) (exact_checkTextRecord (by decide) ordered)
  · exact exact_single (by decide) (exact_checkTextRecord (by decide) ordered)
  · exact exact_single (by decide) (exact_checkTextRecord (by decide) ordered)
  · exact exact_single (by decide) (exact_checkPatternRecord ordered)
  · exact .single rfl ⟨body, rfl⟩

theorem isPlain_of_combined {kind : String} (combined : (kind = "and" || kind = "or") = true) :
    Step.IsPlain kind := by
  rw [Bool.or_eq_true, decide_eq_true_iff, decide_eq_true_iff] at combined
  rcases combined with rfl | rfl <;> decide

/-- The next item of a list, and the items behind it. -/
theorem next_item {all rest : List Json} {index : Nat} (behind : all.drop index = v :: rest) :
    all[index]? = some v ∧ all.drop (index + 1) = rest := by
  constructor
  · rw [← List.head?_drop, behind, List.head?_cons]
  · rw [← List.tail_drop, behind, List.tail_cons]

mutual

/-- The check of a predicate tells what is so, once. The induction is along its recursion: a kind
goes into a place only behind the test for the kinds that hold other predicates. -/
theorem exact_checkPredicate (place : Pointer) (v : Json) (ordered : v.Ordered) :
    Exact place v (checkPredicate place v) := by
  match v with
  | .object [(kind, body)] =>
    have inner : body.Ordered := ordered.member (List.lookup_cons_self ..)
    unfold checkPredicate
    by_cases wrapped : kind = "inClassWith"
    · subst wrapped
      exact exact_single (by decide) (exact_checkPredicate _ body inner)
    · rw [if_neg wrapped]
      by_cases combined : (kind = "and" || kind = "or") = true
      · rw [if_pos combined]
        have plain := isPlain_of_combined combined
        match body with
        | .array [] => exact exact_single plain (.single rfl rfl)
        | .array (first :: rest) =>
          have each : ExactIn (place.member kind) (first :: rest) 0
              (checkPredicates (place.member kind) 0 (first :: rest)) :=
            exactIn_checkPredicates _ (first :: rest) 0 (first :: rest) inner.items rfl
          exact exact_single plain each.toExact
        | .null | .bool _ | .number _ | .string _ | .object _ =>
          exact exact_single plain (.single rfl rfl)
      · rw [if_neg combined]
        exact exact_checkPlain kind inner
  | .object [] | .object (_ :: _ :: _) => exact .single rfl ⟨_, rfl, by simp⟩
  | .null | .bool _ | .number _ | .string _ | .array _ => exact .single rfl rfl

theorem exactIn_checkPredicates (place : Pointer) (all : List Json) (index : Nat)
    (items : List Json) (ordered : ∀ v ∈ items, v.Ordered) (behind : all.drop index = items) :
    ExactIn place all index (checkPredicates place index items) := by
  match items with
  | [] => exact .nil
  | v :: rest =>
    rw [List.forall_mem_cons] at ordered
    obtain ⟨present, further⟩ := next_item behind
    exact .cons present (exact_checkPredicate (place.item index) v ordered.1)
      (exactIn_checkPredicates place all (index + 1) rest ordered.2 further)

end

/-! ## Rules -/

/-- A rule that says that it is not used has no other member. -/
theorem exact_with_notUsedWithMore (mark : ExactFor place members ["notUsed"] found) :
    Exact place (.object members)
      (found ++ if 1 < members.length then [⟨place, .notUsedWithMore⟩] else []) := by
  have more : Exact place (.object members)
      (if 1 < members.length then [(⟨place, .notUsedWithMore⟩ : Violation)] else []) := by
    split
    · next several => exact .single rfl ⟨members, rfl, several⟩
    · exact .nil
  refine mark.toExact.append more ?_
  intro x made y other
  rw [List.mem_ite_nil_right, List.mem_singleton] at other
  rw [other.2]
  refine mark.said_ne made rfl ?_
  intro key
  exact Cause.message_ne (d := .missing key) (not_agree rfl rfl (by decide))

theorem exact_checkRule (place : Pointer) (v : Json) (ordered : v.Ordered) :
    Exact place v (checkRule place v) := by
  cases v with
  | object members =>
    unfold checkRule
    dsimp only
    split
    · next flag present =>
      refine exact_with_notUsedWithMore ?_
      split
      · exact .nil
      · next other => exact exact_member present (by decide) (.single rfl other)
    · refine exact_with_additional (ExactFor.append (?sort : ExactFor place members ["find"] _)
        (?condition : ExactFor place members ["where"] _) (by decide)) ordered ["find", "where"]
      case sort =>
        split
        · next s present =>
          refine exact_tested present (by decide) ?_
          intro unknown t same
          cases same
          exact Option.not_isSome_iff_eq_none.1 (Bool.eq_false_iff.1 unknown)
        · next w other present =>
          refine exact_member present (by decide) (.single rfl ?_)
          intro t same
          exact absurd same (other t)
        · next missing => exact .missing rfl rfl ⟨members, rfl, missing⟩
      case condition =>
        split
        · next test present =>
          have inner : test.Ordered := ordered.member present
          exact exact_member present (by decide) (exact_checkPredicate _ test inner)
        · next missing => exact .missing rfl rfl ⟨members, rfl, missing⟩
  | _ => exact .single rfl rfl

/-! ## Modules -/

theorem exact_requireText {x : Violation} (plain : Step.IsPlain key)
    (failed : requireText key place members = .error x) : ExactFor place members [key] [x] := by
  unfold requireText at failed
  split at failed
  · next s present =>
    split at failed
    · next blank =>
      cases failed
      exact exact_member present plain (.single rfl ⟨s, rfl, blank⟩)
    · cases failed
  · next w other present =>
    cases failed
    have fits : w.string? = none := by
      cases w with
      | string s => exact absurd rfl (other s)
      | _ => rfl
    exact exact_member present plain (.single rfl fits)
  · next missing =>
    cases failed
    exact .missing rfl rfl ⟨members, rfl, missing⟩

theorem exact_checkName (before : List String) :
    ExactFor place members ["name"] (checkName before place members) := by
  unfold checkName
  cases read : requireText "name" place members with
  | error x => exact exact_requireText (by decide) read
  | ok name =>
    obtain ⟨present, -⟩ := requireText_eq_ok_iff.1 read
    have colon : Exact (place.member "name") (.string name)
        (if name.toList.contains ':' then
          [(⟨place.member "name", .colonInName name⟩ : Violation)] else []) := by
      split
      · next among => exact .single rfl ⟨rfl, List.contains_iff_mem.1 among⟩
      · exact .nil
    have again : Exact (place.member "name") (.string name)
        (if before.contains name then
          [(⟨place.member "name", .repeatedName name⟩ : Violation)] else []) := by
      split
      · exact .single rfl rfl
      · exact .nil
    refine exact_member present (by decide) (colon.append again ?_)
    intro x first y second same
    rw [List.mem_ite_nil_right, List.mem_singleton] at first second
    rw [first.2, second.2] at same
    exact Cause.message_ne (not_agree rfl rfl (by decide)) (Prod.mk.inj same).2

theorem exact_checkGlob : ExactFor place members ["path"] (checkGlob place members) := by
  unfold checkGlob
  cases read : requireText "path" place members with
  | error x => exact exact_requireText (by decide) read
  | ok text =>
    obtain ⟨present, -⟩ := requireText_eq_ok_iff.1 read
    dsimp only
    split
    · exact .nil
    · next fault failed => exact exact_member present (by decide) (.single rfl ⟨rfl, failed⟩)

theorem exact_checkSlot (ordered : (Json.object members).Ordered) (slot : Slot) :
    ExactFor place members [slot.key] (checkSlot place members slot) := by
  have plain : Step.IsPlain slot.key := by cases slot <;> decide
  unfold checkSlot
  split
  · next rule present =>
    exact exact_member present plain (exact_checkRule _ rule (ordered.member present))
  · next missing => exact .missing rfl rfl ⟨members, rfl, missing⟩

theorem exact_checkSlots (ordered : (Json.object members).Ordered) {slots : List Slot}
    (distinct : (slots.map (·.key)).Nodup) :
    ExactFor place members (slots.map (·.key)) (slots.flatMap (checkSlot place members)) := by
  induction slots with
  | nil => exact .nil
  | cons slot rest ih =>
    rw [List.map_cons, List.nodup_cons] at distinct
    rw [List.flatMap_cons]
    refine (exact_checkSlot ordered slot).append (ih distinct.2) ?_
    rw [List.forall_mem_singleton]
    exact distinct.1

theorem exact_checkModule (before : List String) (place : Pointer) (v : Json)
    (ordered : v.Ordered) : Exact place v (checkModule before place v) := by
  cases v with
  | object members =>
    have slots : ExactFor place members (Slot.all.map (·.key))
        (Slot.all.flatMap (checkSlot place members)) := exact_checkSlots ordered (by decide)
    have parts : ExactFor place members ("name" :: "path" :: Slot.all.map (·.key))
        (checkName before place members ++ (checkGlob place members ++
          Slot.all.flatMap (checkSlot place members))) :=
      (exact_checkName before).append (exact_checkGlob.append slots (by decide)) (by decide)
    rw [checkModule, List.append_assoc, List.append_assoc]
    refine (exact_additionalMembers moduleKeys place ordered).append parts.toExact ?_
    intro x additional y made same
    exact said_ne_additional parts y made x additional same.symm
  | _ => exact .single rfl rfl

theorem exactIn_checkModules (before : List String) (all : List Json) (index : Nat)
    (items : List Json) (ordered : ∀ v ∈ items, v.Ordered) (behind : all.drop index = items) :
    ExactIn [.key "modules"] all index (checkModules before index items) := by
  induction items generalizing before index with
  | nil => exact .nil
  | cons v rest ih =>
    rw [List.forall_mem_cons] at ordered
    obtain ⟨present, further⟩ := next_item behind
    exact .cons present (exact_checkModule before _ v ordered.1)
      (ih (before ++ (nameOf? v).toList) (index + 1) ordered.2 further)

/-! ## Documents -/

/-- The check of a document tells what is so of the values in it, and tells it once. -/
theorem exact_check {document : Json} (ordered : document.Ordered) :
    Exact [] document (check document) := by
  cases document with
  | object members =>
    unfold check
    dsimp only
    split
    · next modules present =>
      have each : ExactIn (Pointer.member [] "modules") modules 0 (checkModules [] 0 modules) :=
        exactIn_checkModules [] modules 0 modules (ordered.member present).items rfl
      exact (exact_member present (by decide) each.toExact).toExact
    · next w other present =>
      have fits : w.array? = none := by
        cases w with
        | array items => exact absurd rfl (other items)
        | _ => rfl
      exact (exact_member present (by decide) (.single rfl fits)).toExact
    · next missing => exact .single rfl ⟨members, rfl, missing⟩
  | _ => exact .single rfl rfl

/-- Violations point at what they are about. The path of a violation is the text of a pointer to a
value in the document, in which nothing is escaped. A violation about a missing key is at an object
without it, one about an additional key at an object that has it, one about an unknown predicate at
an object with this key alone, and one about a pattern or a glob at the text that does not compile.
No violation is shown twice. -/
theorem violations_point_at_values (document : Json) (ordered : document.Ordered) :
    (∀ r ∈ (check document).map Violation.report, ∃ tokens node,
      Pointer.tokens? r.1 = some tokens ∧ r.1 = String.join (tokens.map ("/" ++ ·)) ∧
      Pointer.follow? tokens document = some node ∧
      (∀ key, r.2 = "must have required property '" ++ key ++ "'" →
        ∃ members, node = .object members ∧ memberOf? members key = none) ∧
      (∀ key, r.2 = "must NOT have additional property '" ++ key ++ "'" →
        ∃ members v, node = .object members ∧ memberOf? members key = some v) ∧
      (∀ kind, r.2 = "unknown predicate '" ++ kind ++ "'; expected one of: " ++ Cause.kinds →
        ∃ body, node = .object [(kind, body)]) ∧
      (∀ rest, r.2 = "invalid regular expression: " ++ rest → ∃ text problem,
        node = .string text ∧ Pattern.compile text = .error problem ∧
          rest = problem.message text) ∧
      (∀ rest, r.2 = "invalid glob pattern '" ++ rest → ∃ text fault,
        node = .string text ∧ Glob.read text = .error fault ∧ r.2 = Glob.complaint text fault)) ∧
    ((check document).map Violation.report).Nodup := by
  have exact := exact_check ordered
  refine ⟨?_, exact.nodup_shown⟩
  intro r reported
  obtain ⟨x, made, rfl⟩ := List.mem_map.1 reported
  obtain ⟨plain, node, leads, -, fitting⟩ := (exact.isTrue x made).of_root
  refine ⟨x.place.map Step.token, node, Pointer.tokens?_text x.place,
    Pointer.text_eq_of_plain plain, Pointer.follow?_of_resolve? leads, ?_⟩
  have fits : x.cause.Fits node := fitting
  -- the message tells the cause, and the cause is so of the value
  refine ⟨?_, ?_, ?_, ?_, ?_⟩
  · intro key same
    rw [Cause.eq_missing same] at fits
    exact fits
  · intro key same
    rw [Cause.eq_additional same] at fits
    exact fits
  · intro kind same
    rw [Cause.eq_unknownPredicate same] at fits
    exact fits
  · intro rest whole
    obtain ⟨text, problem, same, told⟩ := Cause.eq_badPattern whole
    rw [same] at fits
    exact ⟨text, problem, fits.1, fits.2, told⟩
  · intro rest whole
    obtain ⟨text, fault, same, told⟩ := Cause.eq_badGlob whole
    rw [same] at fits
    exact ⟨text, fault, fits.1, fits.2, whole.trans told⟩

/-- A module with a key that it should not have. -/
def strayDocument : Json :=
  .object [("modules", .array [.object [("a/b", .null), ("name", .string "orders")]])]

theorem violations_point_at_values_stray :
    strayDocument.Ordered ∧
      ("/modules/0", "must NOT have additional property 'a/b'") ∈
        (check strayDocument).map Violation.report ∧
      (∃ tokens node, Pointer.tokens? "/modules/0" = some tokens ∧
        "/modules/0" = String.join (tokens.map ("/" ++ ·)) ∧
        Pointer.follow? tokens strayDocument = some node ∧
        ∃ members v, node = .object members ∧ memberOf? members "a/b" = some v) ∧
      ((check strayDocument).map Violation.report).Nodup := by
  have ordered : strayDocument.Ordered := by decide
  have reported : ("/modules/0", "must NOT have additional property 'a/b'") ∈
      (check strayDocument).map Violation.report := List.mem_cons_self ..
  obtain ⟨pointing, nodup⟩ := violations_point_at_values strayDocument ordered
  obtain ⟨tokens, node, written, plain, leads, -, additional, -⟩ := pointing _ reported
  exact ⟨ordered, reported, ⟨tokens, node, written, plain, leads, additional "a/b" rfl⟩, nodup⟩

end ComponentAtlas.Config
