import ComponentAtlas.Config.Check
import ComponentAtlas.Proofs.Config.Grammar
import ComponentAtlas.Proofs.Keyed

/-! # The check accepts the grammar

A document has no violations exactly when it belongs to the grammar of configurations. Every
function of the check gets one lemma that says when it finds nothing; the recursion over predicates
is an induction on the document in one direction and on the derivation in the other. -/

namespace ComponentAtlas.Config

open Json

/-! ## Members of objects -/

theorem memberOf?_eq_none_iff {members : List (String × Json)} {key : String} :
    memberOf? members key = none ↔ key ∉ members.map (·.1) :=
  Keyed.lookup_eq_none_iff

theorem mem_keys_of_memberOf? {members : List (String × Json)} {key : String} {v : Json}
    (h : memberOf? members key = some v) : key ∈ members.map (·.1) := by
  refine Classical.byContradiction fun missing => ?_
  rw [memberOf?_eq_none_iff.2 missing] at h
  cases h

theorem memberOf?_of_hasKeys {keys : List String} {members : List (String × Json)} {key : String}
    (h : HasKeys keys members) (listed : key ∈ keys) : ∃ v, memberOf? members key = some v := by
  cases found : memberOf? members key with
  | none => exact absurd ((h key).2 listed) (memberOf?_eq_none_iff.1 found)
  | some v => exact ⟨v, rfl⟩

theorem additionalMembers_eq_nil_iff {known : List String} {place : Pointer}
    {members : List (String × Json)} :
    additionalMembers known place members = [] ↔ ∀ m ∈ members, m.1 ∈ known := by
  simp [additionalMembers]

/-- Members have exactly the known keys when none is additional and none is missing. -/
theorem hasKeys_iff {keys : List String} {members : List (String × Json)} :
    HasKeys keys members ↔
      (∀ m ∈ members, m.1 ∈ keys) ∧ ∀ key ∈ keys, ∃ v, memberOf? members key = some v := by
  constructor
  · intro h
    exact ⟨fun m member => (h m.1).1 (List.mem_map_of_mem member),
      fun key listed => memberOf?_of_hasKeys h listed⟩
  · rintro ⟨known, present⟩ key
    constructor
    · intro member
      obtain ⟨m, present, rfl⟩ := List.mem_map.1 member
      exact known m present
    · intro listed
      obtain ⟨v, found⟩ := present key listed
      exact mem_keys_of_memberOf? found

/-! ## Texts -/

theorem isText_iff {v : Json} : isText v = true ↔ IsText v := by
  cases v <;> simp [isText, IsText]

theorem isDecoratorNames_iff {v : Json} : isDecoratorNames v = true ↔ NamesDecorators v := by
  constructor
  · intro h
    cases v with
    | array items =>
      simp only [isDecoratorNames, Bool.and_eq_true, Bool.not_eq_true', List.isEmpty_eq_false_iff,
        List.all_eq_true] at h
      exact .anyOf h.1 fun v member => isText_iff.1 (h.2 v member)
    | _ => exact .one (isText_iff.1 h)
  · rintro (⟨s, rfl, nonempty⟩ | ⟨nonempty, texts⟩)
    · exact isText_iff.2 ⟨s, rfl, nonempty⟩
    · simp only [isDecoratorNames, Bool.and_eq_true, Bool.not_eq_true',
        List.isEmpty_eq_false_iff, List.all_eq_true]
      exact ⟨nonempty, fun v member => isText_iff.2 (texts v member)⟩

theorem checkText_eq_nil_iff {key : String} {place : Pointer} {members : List (String × Json)} :
    checkText key place members = [] ↔
      ∃ text, memberOf? members key = some text ∧ IsText text := by
  unfold checkText
  split
  · next s found => by_cases empty : s = "" <;> simp [found, IsText, empty]
  · next v other found =>
    rw [found]
    constructor
    · intro h
      cases h
    · rintro ⟨_, equal, s, rfl, _⟩
      exact absurd (Option.some.inj equal) (other s)
  · next found => simp [found]

theorem checkTextRecord_eq_nil_iff {key : String} {place : Pointer} {v : Json} :
    checkTextRecord key place v = [] ↔ IsTextRecord key v := by
  cases v with
  | object members =>
    rw [checkTextRecord, List.append_eq_nil_iff, checkText_eq_nil_iff,
      additionalMembers_eq_nil_iff]
    constructor
    · rintro ⟨⟨text, found, isText⟩, known⟩
      refine ⟨members, text, rfl, hasKeys_iff.2 ⟨known, ?_⟩, found, isText⟩
      intro k listed
      exact ⟨text, List.mem_singleton.1 listed ▸ found⟩
    · rintro ⟨_, text, equal, keys, found, isText⟩
      cases equal
      exact ⟨⟨text, found, isText⟩, (hasKeys_iff.1 keys).1⟩
  | _ => simp [checkTextRecord, IsTextRecord]

/-! ## Predicates -/

theorem checkDecoratorTest_eq_nil_iff {place : Pointer} {v : Json} :
    checkDecoratorTest place v = [] ↔
      ∃ members names, v = .object members ∧ (∀ m ∈ members, m.1 = "name" ∨ m.1 = "from") ∧
        memberOf? members "name" = some names ∧ NamesDecorators names ∧
        ∀ source, memberOf? members "from" = some source → IsText source := by
  cases v with
  | object members =>
    rw [checkDecoratorTest, List.append_eq_nil_iff, List.append_eq_nil_iff,
      additionalMembers_eq_nil_iff]
    constructor
    · rintro ⟨⟨hname, hfrom⟩, known⟩
      cases name : memberOf? members "name" with
      | none => simp [name] at hname
      | some names =>
        refine ⟨members, names, rfl, fun m member => by simpa using known m member, name, ?_, ?_⟩
        · exact isDecoratorNames_iff.1 (by simpa [name] using hname)
        · intro source found
          exact isText_iff.1 (by simpa [found] using hfrom)
    · rintro ⟨_, names, equal, known, name, named, source⟩
      cases equal
      refine ⟨⟨?_, ?_⟩, fun m member => by simpa using known m member⟩
      · simp [name, isDecoratorNames_iff.2 named]
      · cases found : memberOf? members "from" with
        | none => rfl
        | some v => simp [isText_iff.2 (source v found)]
  | _ => simp [checkDecoratorTest]

theorem checkPattern_eq_nil_iff {place : Pointer} {members : List (String × Json)}
    {text : String} (found : memberOf? members "pattern" = some (.string text)) :
    checkPattern place (.object members) = [] ↔ ∃ matcher, Pattern.compile text = .ok matcher := by
  unfold checkPattern
  simp only [get?, found]
  cases Pattern.compile text <;> simp

theorem isPredicate_of_checkPlain {place : Pointer} {kind : String} {body : Json}
    (h : checkPlain place kind body = []) : IsPredicate (.object [(kind, body)]) := by
  unfold checkPlain at h
  split at h
  · obtain ⟨members, names, rfl, keys, name, named, source⟩ := checkDecoratorTest_eq_nil_iff.1 h
    exact .hasDecorator keys name named source
  · exact .hasDocTag (checkTextRecord_eq_nil_iff.1 h)
  · exact .extendsClass (checkTextRecord_eq_nil_iff.1 h)
  · exact .implementsInterface (checkTextRecord_eq_nil_iff.1 h)
  · exact .nameEndsWith (checkTextRecord_eq_nil_iff.1 h)
  · rw [List.append_eq_nil_iff, checkTextRecord_eq_nil_iff] at h
    obtain ⟨⟨members, _, rfl, keys, found, text, rfl, nonempty⟩, compiled⟩ := h
    obtain ⟨matcher, compiles⟩ := (checkPattern_eq_nil_iff found).1 compiled
    exact .nameMatches keys found nonempty compiles
  · cases h

mutual

/-- A document without violations is a predicate. The induction is on the document, along the
recursion of the check. -/
theorem isPredicate_of_check (place : Pointer) (v : Json) (h : checkPredicate place v = []) :
    IsPredicate v := by
  match v with
  | .object [(kind, body)] =>
    unfold checkPredicate at h
    -- the check goes by the kind, in this order, before it looks at the body
    by_cases wrapped : kind = "inClassWith"
    · subst wrapped
      exact .inClassWith (isPredicate_of_check _ body h)
    · rw [if_neg wrapped] at h
      by_cases combined : (kind = "and" || kind = "or") = true
      · rw [if_pos combined] at h
        have either : kind = "and" ∨ kind = "or" := by simpa using combined
        match body with
        | .array [] => cases h
        | .array (first :: rest) =>
          have each := isPredicate_of_checkAll _ 0 (first :: rest) h
          rcases either with rfl | rfl
          · exact .all (List.cons_ne_nil _ _) each
          · exact .any (List.cons_ne_nil _ _) each
        | .null | .bool _ | .number _ | .string _ | .object _ => cases h
      · rw [if_neg combined] at h
        exact isPredicate_of_checkPlain h
  | .object [] | .object (_ :: _ :: _) => cases h
  | .null | .bool _ | .number _ | .string _ | .array _ => cases h

theorem isPredicate_of_checkAll (place : Pointer) (index : Nat) (items : List Json)
    (h : checkPredicates place index items = []) : ∀ v ∈ items, IsPredicate v := by
  match items with
  | [] => exact List.forall_mem_nil _
  | first :: rest =>
    rw [checkPredicates, List.append_eq_nil_iff] at h
    have here := isPredicate_of_check (place.item index) first h.1
    exact List.forall_mem_cons.2 ⟨here, isPredicate_of_checkAll place (index + 1) rest h.2⟩

end

theorem checkPredicates_eq_nil {items : List Json}
    (each : ∀ v ∈ items, ∀ place, checkPredicate place v = []) (place : Pointer) (index : Nat) :
    checkPredicates place index items = [] := by
  induction items generalizing index with
  | nil => rfl
  | cons first rest ih =>
    rw [checkPredicates, each first List.mem_cons_self, List.nil_append]
    exact ih (fun v member => each v (List.mem_cons_of_mem _ member)) (index + 1)

/-- A predicate has no violations, wherever it stands. -/
theorem checkPredicate_of_isPredicate {v : Json} (h : IsPredicate v) (place : Pointer) :
    checkPredicate place v = [] := by
  induction h generalizing place with
  | hasDecorator keys name named source =>
    exact checkDecoratorTest_eq_nil_iff.2 ⟨_, _, rfl, keys, name, named, source⟩
  | hasDocTag h => exact checkTextRecord_eq_nil_iff.2 h
  | extendsClass h => exact checkTextRecord_eq_nil_iff.2 h
  | implementsInterface h => exact checkTextRecord_eq_nil_iff.2 h
  | nameEndsWith h => exact checkTextRecord_eq_nil_iff.2 h
  | nameMatches keys pattern nonempty compiles =>
    refine List.append_eq_nil_iff.2 ⟨checkTextRecord_eq_nil_iff.2 ?_, ?_⟩
    · exact ⟨_, _, rfl, keys, pattern, _, rfl, nonempty⟩
    · exact (checkPattern_eq_nil_iff pattern).2 ⟨_, compiles⟩
  | @all items nonempty _ ih =>
    cases items with
    | nil => exact absurd rfl nonempty
    | cons first rest => exact checkPredicates_eq_nil ih _ 0
  | @any items nonempty _ ih =>
    cases items with
    | nil => exact absurd rfl nonempty
    | cons first rest => exact checkPredicates_eq_nil ih _ 0
  | inClassWith _ ih => exact ih _

theorem checkPredicate_eq_nil_iff {place : Pointer} {v : Json} :
    checkPredicate place v = [] ↔ IsPredicate v :=
  ⟨isPredicate_of_check place v, fun h => checkPredicate_of_isPredicate h place⟩

/-! ## Rules -/

theorem ofPlural?_isSome_iff {s : String} :
    (Source.DeclarationKind.ofPlural? s).isSome ↔ s ∈ ["classes", "methods", "functions"] := by
  rw [Source.DeclarationKind.ofPlural?, List.find?_isSome]
  show _ ↔ s ∈ Source.DeclarationKind.all.map (·.plural)
  simp only [List.mem_map, decide_eq_true_eq]

/-- A slot is marked as not used by one key with the value true and by nothing else. -/
theorem checkRule_eq_nil_iff_of_notUsed {place : Pointer} {members : List (String × Json)}
    {flag : Json} (found : memberOf? members "notUsed" = some flag) :
    checkRule place (.object members) = [] ↔ members = [("notUsed", .bool true)] := by
  unfold checkRule
  simp only [found, List.append_eq_nil_iff]
  constructor
  · rintro ⟨isTrue, alone⟩
    have short : members.length ≤ 1 := by
      refine Classical.byContradiction fun long => ?_
      rw [if_pos (by omega)] at alone
      cases alone
    -- the key that was found is the only one
    match members, short with
    | [], _ => cases found
    | [(key, v)], _ =>
      rw [memberOf?, Keyed.lookup_cons] at found
      split at found
      · next same =>
        subst same
        cases found
        split at isTrue
        · rfl
        · cases isTrue
      · cases found
  · rintro rfl
    cases found
    exact ⟨rfl, rfl⟩

theorem checkRule_eq_nil_iff {place : Pointer} {v : Json} :
    checkRule place v = [] ↔ IsRule v := by
  constructor
  · intro h
    cases v with
    | object members =>
      cases found : memberOf? members "notUsed" with
      | some flag =>
        obtain rfl := (checkRule_eq_nil_iff_of_notUsed found).1 h
        exact .notUsed
      | none =>
        unfold checkRule at h
        simp only [found, List.append_eq_nil_iff, additionalMembers_eq_nil_iff] at h
        obtain ⟨⟨hfind, hwhere⟩, known⟩ := h
        cases find : memberOf? members "find" with
        | none => simp [find] at hfind
        | some sort =>
          cases condition : memberOf? members "where" with
          | none => simp [condition] at hwhere
          | some test =>
            have isTest : IsPredicate test :=
              checkPredicate_eq_nil_iff.1 (by simpa [condition] using hwhere)
            -- both keys are there, or the check would have missed one
            have keys : HasKeys ["find", "where"] members := by
              refine hasKeys_iff.2 ⟨known, fun key listed => ?_⟩
              simp only [List.mem_cons, List.not_mem_nil, or_false] at listed
              rcases listed with rfl | rfl
              · exact ⟨sort, find⟩
              · exact ⟨test, condition⟩
            cases sort with
            | string s =>
              refine .detect keys find (ofPlural?_isSome_iff.1 ?_) condition isTest
              cases known : (Source.DeclarationKind.ofPlural? s).isSome with
              | true => rfl
              | false => simp [find, known] at hfind
            | _ => simp [find] at hfind
    | _ => cases h
  · intro h
    cases h with
    | notUsed => exact (checkRule_eq_nil_iff_of_notUsed rfl).2 rfl
    | @detect members find test keys sort allowed condition isTest =>
      have unused : memberOf? members "notUsed" = none := by
        rw [memberOf?_eq_none_iff, keys]
        decide
      unfold checkRule
      simp only [unused, sort, condition, ofPlural?_isSome_iff.2 allowed, if_pos,
        checkPredicate_of_isPredicate isTest, List.nil_append, additionalMembers_eq_nil_iff]
      exact (hasKeys_iff.1 keys).1

/-! ## Modules -/

theorem requireText_eq_ok_iff {key text : String} {place : Pointer}
    {members : List (String × Json)} :
    requireText key place members = .ok text ↔
      memberOf? members key = some (.string text) ∧ NotBlank text := by
  unfold requireText
  split
  · next s found =>
    split
    · next blank =>
      simp only [reduceCtorEq, false_iff, not_and, found, Option.some.injEq, Json.string.injEq]
      rintro rfl ⟨c, member, visible⟩
      rw [List.all_eq_true] at blank
      rw [blank c member] at visible
      cases visible
    · next visible =>
      have notBlank : NotBlank s := by simpa [NotBlank] using visible
      simp only [Except.ok.injEq, found, Option.some.injEq, Json.string.injEq]
      constructor
      · rintro rfl
        exact ⟨rfl, notBlank⟩
      · exact And.left
  · next v other found =>
    simp only [reduceCtorEq, false_iff, not_and, found, Option.some.injEq]
    intro equal
    exact absurd equal (other text)
  · next found => simp [found]

theorem checkName_eq_nil_iff {before : List String} {place : Pointer}
    {members : List (String × Json)} :
    checkName before place members = [] ↔
      ∃ name, memberOf? members "name" = some (.string name) ∧ NotBlank name ∧
        ':' ∉ name.toList ∧ name ∉ before := by
  unfold checkName
  cases read : requireText "name" place members with
  | error v =>
    simp only [List.cons_ne_nil, false_iff]
    rintro ⟨name, found, notBlank, -⟩
    rw [requireText_eq_ok_iff.2 ⟨found, notBlank⟩] at read
    cases read
  | ok name =>
    obtain ⟨found, notBlank⟩ := requireText_eq_ok_iff.1 read
    simp [found, notBlank]

theorem checkGlob_eq_nil_iff {place : Pointer} {members : List (String × Json)} :
    checkGlob place members = [] ↔
      ∃ path glob, memberOf? members "path" = some (.string path) ∧ NotBlank path ∧
        Glob.read path = .ok glob := by
  unfold checkGlob
  cases read : requireText "path" place members with
  | error v =>
    simp only [List.cons_ne_nil, false_iff]
    rintro ⟨path, glob, found, notBlank, -⟩
    rw [requireText_eq_ok_iff.2 ⟨found, notBlank⟩] at read
    cases read
  | ok path =>
    obtain ⟨found, notBlank⟩ := requireText_eq_ok_iff.1 read
    cases compiled : Glob.read path <;> simp [found, notBlank, compiled]

theorem checkSlot_eq_nil_iff {place : Pointer} {members : List (String × Json)} {slot : Slot} :
    checkSlot place members slot = [] ↔
      ∃ rule, memberOf? members slot.key = some rule ∧ IsRule rule := by
  unfold checkSlot
  cases found : memberOf? members slot.key with
  | none => simp
  | some rule => simp [checkRule_eq_nil_iff]

theorem slotKeys_eq : slotKeys = Slot.all.map (·.key) := rfl

/-- A module without violations belongs to the grammar and has a name of its own. -/
theorem checkModule_eq_nil_iff {before : List String} {place : Pointer} {v : Json} :
    checkModule before place v = [] ↔
      IsModule v ∧ ∀ name, v.get? "name" = some (.string name) → name ∉ before := by
  constructor
  · intro h
    cases v with
    | object members =>
      simp only [checkModule, List.append_eq_nil_iff, additionalMembers_eq_nil_iff,
        List.flatMap_eq_nil_iff, checkName_eq_nil_iff, checkGlob_eq_nil_iff,
        checkSlot_eq_nil_iff] at h
      obtain ⟨⟨⟨known, name, named, notBlank, noColon, fresh⟩, path, glob, placed, visible,
        compiles⟩, slots⟩ := h
      have rules : ∀ key ∈ slotKeys, ∃ rule, memberOf? members key = some rule ∧ IsRule rule := by
        intro key listed
        obtain ⟨slot, member, rfl⟩ := List.mem_map.1 (slotKeys_eq ▸ listed)
        exact slots slot member
      have keys : HasKeys (["name", "path"] ++ slotKeys) members := by
        refine hasKeys_iff.2 ⟨known, fun key listed => ?_⟩
        rcases List.mem_append.1 listed with front | slot
        · simp only [List.mem_cons, List.not_mem_nil, or_false] at front
          rcases front with rfl | rfl
          · exact ⟨_, named⟩
          · exact ⟨_, placed⟩
        · obtain ⟨rule, found, -⟩ := rules key slot
          exact ⟨rule, found⟩
      refine ⟨.mk keys named notBlank noColon placed visible compiles rules, ?_⟩
      intro other found
      rw [get?, named] at found
      cases found
      exact fresh
    | _ => cases h
  · rintro ⟨⟨keys, named, notBlank, noColon, placed, visible, compiles, rules⟩, fresh⟩
    simp only [checkModule, List.append_eq_nil_iff, additionalMembers_eq_nil_iff,
      List.flatMap_eq_nil_iff, checkName_eq_nil_iff, checkGlob_eq_nil_iff, checkSlot_eq_nil_iff]
    refine ⟨⟨⟨(hasKeys_iff.1 keys).1, _, named, notBlank, noColon, fresh _ named⟩,
      _, _, placed, visible, compiles⟩, fun slot member => rules slot.key ?_⟩
    exact slotKeys_eq ▸ List.mem_map_of_mem member

theorem IsModule.named {v : Json} (h : IsModule v) :
    ∃ name, v.get? "name" = some (.string name) ∧ nameOf? v = some name := by
  cases h with
  | mk _ named notBlank _ _ _ _ _ =>
    refine ⟨_, named, ?_⟩
    rw [nameOf?, requireText_eq_ok_iff.2 ⟨named, notBlank⟩]
    rfl

/-! ## Configurations -/

/-- Modules behind others have no violations when each belongs to the grammar and no two, nor one
and an earlier one, share a name. -/
theorem checkModules_eq_nil_iff {before : List String} {index : Nat} {modules : List Json} :
    checkModules before index modules = [] ↔
      (∀ m ∈ modules, IsModule m) ∧
      (modules.Pairwise fun a b => a.get? "name" ≠ b.get? "name") ∧
      ∀ m ∈ modules, ∀ name, m.get? "name" = some (.string name) → name ∉ before := by
  induction modules generalizing before index with
  | nil => simp [checkModules]
  | cons v rest ih =>
    rw [checkModules, List.append_eq_nil_iff, checkModule_eq_nil_iff, ih, List.forall_mem_cons,
      List.forall_mem_cons, List.pairwise_cons]
    constructor
    · rintro ⟨⟨isModule, fresh⟩, each, distinct, later⟩
      -- the names before hold that of the first module when the rest is checked
      obtain ⟨name, named, known⟩ := isModule.named
      rw [known] at later
      refine ⟨⟨isModule, each⟩, ⟨fun m member same => ?_, distinct⟩, fresh, ?_⟩
      · exact later m member name (same ▸ named) (by simp)
      · exact fun m member other found old => later m member other found (by simp [old])
    · rintro ⟨⟨isModule, each⟩, ⟨apart, distinct⟩, fresh, later⟩
      obtain ⟨name, named, known⟩ := isModule.named
      refine ⟨⟨isModule, fresh⟩, each, distinct, fun m member other found => ?_⟩
      rw [known, Option.toList_some, List.mem_append, List.mem_singleton]
      rintro (old | rfl)
      · exact later m member other found old
      · exact apart m member (named.trans found.symm)

theorem isConfig_of_check {v : Json} (h : check v = []) : IsConfig v := by
  cases v with
  | object members =>
    unfold check at h
    cases listed : memberOf? members "modules" with
    | none => simp [listed] at h
    | some value =>
      cases value with
      | array modules =>
        obtain ⟨each, distinct, -⟩ := checkModules_eq_nil_iff.1 (by simpa [listed] using h)
        exact .mk listed each distinct
      | _ => simp [listed] at h
  | _ => cases h

theorem check_of_isConfig {v : Json} (h : IsConfig v) : check v = [] := by
  cases h with
  | mk listed each distinct =>
    rw [check, listed]
    exact checkModules_eq_nil_iff.2 ⟨each, distinct, fun _ _ _ _ => List.not_mem_nil⟩

/-- A document has no violations exactly when it is one of a configuration. -/
theorem check_eq_nil_iff_isConfig (v : Json) : check v = [] ↔ IsConfig v :=
  ⟨isConfig_of_check, check_of_isConfig⟩

end ComponentAtlas.Config
