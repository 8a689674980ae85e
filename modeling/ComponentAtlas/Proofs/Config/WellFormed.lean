import ComponentAtlas.Proofs.Config.Faults

/-! # Well-formed configurations

A typed configuration is well formed when its modules have names of their own, without colons, and
globs that can be read, when no mark says false, and when every text and list that a predicate
holds, at any depth, has something in it. Then it has no faults, and otherwise it has some. -/

namespace ComponentAtlas.Config

open Json

/-- There is a name to ask for, and none of the names is empty. -/
inductive DecoratorNames.WellFormed : DecoratorNames → Prop
  | one {name : String} (nonempty : name ≠ "") : WellFormed (.one name)
  | anyOf {names : List String} (nonempty : names ≠ []) (each : ∀ name ∈ names, name ≠ "") :
      WellFormed (.anyOf names)

/-- No text and no list in the predicate is empty. -/
inductive Predicate.WellFormed : Predicate → Prop
  | hasDecorator {names : DecoratorNames} {source : Option String} (named : names.WellFormed)
      (nonempty : ∀ s, source = some s → s ≠ "") : WellFormed (.hasDecorator names source)
  | hasDocTag {tag : String} (nonempty : tag ≠ "") : WellFormed (.hasDocTag tag)
  | extendsClass {name : String} (nonempty : name ≠ "") : WellFormed (.extendsClass name)
  | implementsInterface {name : String} (nonempty : name ≠ "") :
      WellFormed (.implementsInterface name)
  | nameEndsWith {ending : String} (nonempty : ending ≠ "") : WellFormed (.nameEndsWith ending)
  | nameMatches {pattern : Pattern.NamePattern} (nonempty : pattern.text ≠ "") :
      WellFormed (.nameMatches pattern)
  | all {items : List Predicate} (nonempty : items ≠ []) (each : ∀ p ∈ items, WellFormed p) :
      WellFormed (.all items)
  | any {items : List Predicate} (nonempty : items ≠ []) (each : ∀ p ∈ items, WellFormed p) :
      WellFormed (.any items)
  | inClassWith {test : Predicate} (h : WellFormed test) : WellFormed (.inClassWith test)

/-- The rule is the mark of a slot that is not used, or has a well-formed predicate. -/
inductive Rule.WellFormed : Rule → Prop
  | notUsed : WellFormed (.notUsed true)
  | detect {find : Source.DeclarationKind} {test : Predicate} (h : test.WellFormed) :
      WellFormed (.detect find test)

/-- A module with a name that can be a segment of an identifier, a glob and good rules. -/
structure Module.WellFormed (m : Module) : Prop where
  nameNotBlank : NotBlank m.name
  noColon : ':' ∉ m.name.toList
  pathNotBlank : NotBlank m.path
  glob : ∃ g, Glob.read m.path = .ok g
  rules : ∀ slot, (m.rule slot).WellFormed

/-- The modules are well formed, and no two have the same name. -/
structure WellFormed (c : Config) : Prop where
  each : ∀ m ∈ c.modules, m.WellFormed
  distinct : c.modules.Pairwise fun a b => a.name ≠ b.name

/-! ## Predicates -/

theorem textFaults_eq_nil_iff {place : Pointer} {text : String} :
    textFaults place text = [] ↔ text ≠ "" := by
  unfold textFaults
  by_cases empty : text = "" <;> simp [empty]

theorem isProper_iff {names : DecoratorNames} : names.isProper = true ↔ names.WellFormed := by
  cases names with
  | one name =>
    rw [DecoratorNames.isProper, bne_iff_ne]
    refine ⟨.one, fun formed => ?_⟩
    cases formed with
    | one nonempty => exact nonempty
  | anyOf names =>
    simp only [DecoratorNames.isProper, Bool.and_eq_true, Bool.not_eq_true',
      List.isEmpty_eq_false_iff, List.all_eq_true, bne_iff_ne]
    refine ⟨fun h => .anyOf h.1 h.2, fun formed => ?_⟩
    cases formed with
    | anyOf nonempty each => exact ⟨nonempty, each⟩

theorem decoratorFaults_eq_nil_iff {place : Pointer} {names : DecoratorNames}
    {source : Option String} :
    (Predicate.hasDecorator names source).faults place = [] ↔
      names.WellFormed ∧ ∀ s, source = some s → s ≠ "" := by
  rw [Predicate.faults, List.append_eq_nil_iff, ← isProper_iff, List.flatMap_eq_nil_iff]
  simp only [textFaults_eq_nil_iff, Option.mem_toList]
  cases names.isProper <;> simp

mutual

/-- A predicate has no faults, wherever it stands, exactly when it is well formed. -/
theorem Predicate.faults_eq_nil_iff (place : Pointer) (p : Predicate) :
    p.faults place = [] ↔ p.WellFormed := by
  match p with
  | .hasDecorator names source =>
    rw [decoratorFaults_eq_nil_iff]
    exact ⟨fun h => .hasDecorator h.1 h.2, fun | .hasDecorator named text => ⟨named, text⟩⟩
  | .hasDocTag tag =>
    rw [Predicate.faults, textFaults_eq_nil_iff]
    exact ⟨.hasDocTag, fun | .hasDocTag nonempty => nonempty⟩
  | .extendsClass name =>
    rw [Predicate.faults, textFaults_eq_nil_iff]
    exact ⟨.extendsClass, fun | .extendsClass nonempty => nonempty⟩
  | .implementsInterface name =>
    rw [Predicate.faults, textFaults_eq_nil_iff]
    exact ⟨.implementsInterface, fun | .implementsInterface nonempty => nonempty⟩
  | .nameEndsWith ending =>
    rw [Predicate.faults, textFaults_eq_nil_iff]
    exact ⟨.nameEndsWith, fun | .nameEndsWith nonempty => nonempty⟩
  | .nameMatches pattern =>
    rw [Predicate.faults, textFaults_eq_nil_iff]
    exact ⟨.nameMatches, fun | .nameMatches nonempty => nonempty⟩
  | .all items =>
    rw [Predicate.faults, combinedFaults_eq_nil_iff _ _ items]
    exact ⟨fun h => .all h.1 h.2, fun | .all nonempty each => ⟨nonempty, each⟩⟩
  | .any items =>
    rw [Predicate.faults, combinedFaults_eq_nil_iff _ _ items]
    exact ⟨fun h => .any h.1 h.2, fun | .any nonempty each => ⟨nonempty, each⟩⟩
  | .inClassWith test =>
    rw [Predicate.faults, Predicate.faults_eq_nil_iff _ test]
    exact ⟨.inClassWith, fun | .inClassWith h => h⟩
termination_by (sizeOf p, 0)

/-- What `all` and `any` have in common. -/
theorem combinedFaults_eq_nil_iff (place : Pointer) (fault : Violation)
    (items : List Predicate) :
    (if items.isEmpty then [fault] else Predicate.faultsOfAll place 0 items) = [] ↔
      items ≠ [] ∧ ∀ p ∈ items, p.WellFormed := by
  have each := Predicate.faultsOfAll_eq_nil_iff place 0 items
  cases items with
  | nil => simp
  | cons p rest => simpa using each
termination_by (sizeOf items, 1)

theorem Predicate.faultsOfAll_eq_nil_iff (place : Pointer) (index : Nat)
    (items : List Predicate) :
    Predicate.faultsOfAll place index items = [] ↔ ∀ p ∈ items, p.WellFormed := by
  match items with
  | [] => exact ⟨fun _ => List.forall_mem_nil _, fun _ => rfl⟩
  | p :: rest =>
    rw [Predicate.faultsOfAll, List.append_eq_nil_iff, List.forall_mem_cons,
      Predicate.faults_eq_nil_iff _ p, Predicate.faultsOfAll_eq_nil_iff _ _ rest]
termination_by (sizeOf items, 0)

end

/-! ## Rules and modules -/

theorem Rule.faults_eq_nil_iff {place : Pointer} {r : Rule} :
    r.faults place = [] ↔ r.WellFormed := by
  cases r with
  | notUsed flag =>
    cases flag with
    | true => exact ⟨fun _ => .notUsed, fun _ => rfl⟩
    | false => exact ⟨nofun, nofun⟩
  | detect find test =>
    rw [Rule.faults, Predicate.faults_eq_nil_iff]
    exact ⟨.detect, fun | .detect h => h⟩

theorem isBlankText_eq_false_iff {text : String} : isBlankText text = false ↔ NotBlank text := by
  simp [isBlankText, NotBlank]

theorem nameFaults_eq_nil_iff {before : List String} {place : Pointer} {name : String} :
    nameFaults before place name = [] ↔ NotBlank name ∧ ':' ∉ name.toList ∧ name ∉ before := by
  rw [← isBlankText_eq_false_iff, nameFaults]
  cases isBlankText name <;> simp

theorem globFaults_eq_nil_iff {place : Pointer} {text : String} :
    globFaults place text = [] ↔ ∃ g, Glob.read text = .ok g := by
  unfold globFaults
  cases Glob.read text <;> simp

theorem pathFaults_eq_nil_iff {place : Pointer} {path : String} :
    pathFaults place path = [] ↔ NotBlank path ∧ ∃ g, Glob.read path = .ok g := by
  rw [← isBlankText_eq_false_iff, pathFaults]
  cases isBlankText path <;> simp [globFaults_eq_nil_iff]

/-- A module behind others has no faults when it is well formed and its name is new. -/
theorem Module.faults_eq_nil_iff {before : List String} {place : Pointer} {m : Module} :
    m.faults before place = [] ↔ m.WellFormed ∧ m.name ∉ before := by
  rw [Module.faults, List.append_eq_nil_iff, List.append_eq_nil_iff, nameFaults_eq_nil_iff,
    pathFaults_eq_nil_iff, List.flatMap_eq_nil_iff]
  simp only [Rule.faults_eq_nil_iff]
  constructor
  · rintro ⟨⟨⟨visible, plain, fresh⟩, seen, readable⟩, rules⟩
    exact ⟨⟨visible, plain, seen, readable, fun slot => rules slot slot.mem_all⟩, fresh⟩
  · rintro ⟨⟨visible, plain, seen, readable, rules⟩, fresh⟩
    exact ⟨⟨⟨visible, plain, fresh⟩, seen, readable⟩, fun slot _ => rules slot⟩

/-- Modules behind others have no faults when each is well formed and no two, nor one and an
earlier one, share a name. -/
theorem modulesFaults_eq_nil_iff {before : List String} {index : Nat} {modules : List Module} :
    modulesFaults before index modules = [] ↔
      (∀ m ∈ modules, m.WellFormed) ∧ (modules.Pairwise fun a b => a.name ≠ b.name) ∧
      ∀ m ∈ modules, m.name ∉ before := by
  induction modules generalizing before index with
  | nil => simp [modulesFaults]
  | cons m rest ih =>
    rw [modulesFaults, List.append_eq_nil_iff, Module.faults_eq_nil_iff, ih, List.forall_mem_cons,
      List.forall_mem_cons, List.pairwise_cons]
    constructor
    · rintro ⟨⟨good, fresh⟩, each, distinct, later⟩
      -- a name that is not blank is among the names before the rest
      rw [isBlankText_eq_false_iff.2 good.nameNotBlank] at later
      refine ⟨⟨good, each⟩, ⟨fun n member same => ?_, distinct⟩, fresh, fun n member old => ?_⟩
      · exact later n member (List.mem_append_right _ (List.mem_singleton.2 same.symm))
      · exact later n member (List.mem_append_left _ old)
    · rintro ⟨⟨good, each⟩, ⟨apart, distinct⟩, fresh, later⟩
      refine ⟨⟨good, fresh⟩, each, distinct, fun n member old => ?_⟩
      rw [isBlankText_eq_false_iff.2 good.nameNotBlank] at old
      rcases List.mem_append.1 old with old | same
      · exact later n member old
      · exact apart n member (List.mem_singleton.1 same).symm

/-- A configuration has no faults exactly when it is well formed. -/
theorem faults_eq_nil_iff {c : Config} : c.faults = [] ↔ c.WellFormed := by
  rw [faults, modulesFaults_eq_nil_iff]
  constructor
  · rintro ⟨each, distinct, -⟩
    exact ⟨each, distinct⟩
  · rintro ⟨each, distinct⟩
    exact ⟨each, distinct, fun _ _ => List.not_mem_nil⟩

/-- A configuration has no violations exactly when it is well formed. -/
theorem violations_eq_nil_iff {c : Config} : c.violations = [] ↔ c.WellFormed := by
  rw [violations_eq_faults, faults_eq_nil_iff]

end ComponentAtlas.Config
