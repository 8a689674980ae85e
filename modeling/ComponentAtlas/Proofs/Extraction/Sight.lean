import ComponentAtlas.Extraction.Matching
import ComponentAtlas.Proofs.Related

/-! # What rules see

A predicate sees little of a declaration: its name, its doc tags, its heritage, and of its
decorators only what they stand for. A rule also sees the sort and the line. Two files in which
the declarations look alike give the same drafts. -/

namespace ComponentAtlas

open Source

/-- Predicates cannot tell the declarations apart, each one seen with the imports of its file. -/
structure Alike (imports imports' : ImportTable) (d d' : Declaration) : Prop where
  name : d.name = d'.name
  decorators : d.decorators.map imports.resolve = d'.decorators.map imports'.resolve
  docTags : d.docTags = d'.docTags
  extended : d.extended = d'.extended
  implemented : d.implemented = d'.implemented

variable {imports imports' : ImportTable}

theorem any_decoratorFits (names : Config.DecoratorNames) (source : Option String)
    (d : Declaration) :
    (d.decorators.any fun x => Config.decoratorFits names source (imports.resolve x)) =
      (d.decorators.map imports.resolve).any (Config.decoratorFits names source) := by
  rw [List.any_map]
  rfl

namespace Config

mutual

/-- Declarations that look alike, in classes that look alike, pass the same predicates. -/
theorem Predicate.holds_alike {d d' : Declaration} {enclosing enclosing' : Option Declaration}
    (same : Alike imports imports' d d')
    (classes : Option.Rel (Alike imports imports') enclosing enclosing') (p : Predicate) :
    p.holds imports enclosing d = p.holds imports' enclosing' d' := by
  match p with
  | .hasDecorator names source =>
    rw [holds, holds, any_decoratorFits, any_decoratorFits, same.decorators]
  | .hasDocTag tag => rw [holds, holds, same.docTags]
  | .extendsClass name => rw [holds, holds, same.extended]
  | .implementsInterface name => rw [holds, holds, same.implemented]
  | .nameEndsWith ending => rw [holds, holds, same.name]
  | .nameMatches pattern => rw [holds, holds, same.name]
  | .all items =>
    rw [holds, holds]
    exact Predicate.allHold_alike same classes items
  | .any items =>
    rw [holds, holds]
    exact Predicate.anyHolds_alike same classes items
  | .inClassWith test =>
    cases classes with
    | none => rfl
    | some sameClass =>
      rw [holds, holds]
      exact Predicate.holds_alike sameClass .none test

theorem Predicate.allHold_alike {d d' : Declaration} {enclosing enclosing' : Option Declaration}
    (same : Alike imports imports' d d')
    (classes : Option.Rel (Alike imports imports') enclosing enclosing') (items : List Predicate) :
    Predicate.allHold imports enclosing d items =
      Predicate.allHold imports' enclosing' d' items := by
  match items with
  | [] => rfl
  | p :: rest =>
    rw [allHold, allHold, Predicate.holds_alike same classes p,
      Predicate.allHold_alike same classes rest]

theorem Predicate.anyHolds_alike {d d' : Declaration} {enclosing enclosing' : Option Declaration}
    (same : Alike imports imports' d d')
    (classes : Option.Rel (Alike imports imports') enclosing enclosing') (items : List Predicate) :
    Predicate.anyHolds imports enclosing d items =
      Predicate.anyHolds imports' enclosing' d' items := by
  match items with
  | [] => rfl
  | p :: rest =>
    rw [anyHolds, anyHolds, Predicate.holds_alike same classes p,
      Predicate.anyHolds_alike same classes rest]

end

end Config

/-! ## Rules -/

variable {file file' : SourceFile} {slot : Slot} {rule : Config.Rule} {m : Config.Module}

/-- A rule makes the same draft of declarations that pass its test alike. -/
theorem draft?_eq {find : DeclarationKind} {test : Config.Predicate} {d d' : Declaration}
    (path : file.path = file'.path) (kind : d.kind = d'.kind) (name : d.name = d'.name)
    (line : d.line = d'.line)
    (passes : test.holds file.imports (file.enclosing? d) d =
      test.holds file'.imports (file'.enclosing? d') d') :
    draft? file m slot find test d = draft? file' m slot find test d' := by
  rw [draft?, draft?, path, kind, name, line, passes]

/-- A rule makes the same drafts of files if it does so declaration by declaration. -/
theorem matchRule_eq (same : ∀ find test, rule = .detect find test →
      List.Forall₂ (fun d d' => draft? file m slot find test d = draft? file' m slot find test d')
        file.declarations file'.declarations) :
    matchRule slot rule m file = matchRule slot rule m file' := by
  cases rule with
  | notUsed flag => rfl
  | detect find test => exact filterMap_eq_of_forall₂ (same find test rfl)

end ComponentAtlas
