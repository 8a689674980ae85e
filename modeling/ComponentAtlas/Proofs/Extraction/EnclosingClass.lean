import ComponentAtlas.Proofs.Extraction.Sight

/-! # The scope of tests on the class

`inClassWith` looks one class up and never further: the class is tested as if it stood in no class.
So every such test in a predicate on a class, or on a declaration outside of classes, is the same
as one that always fails. A predicate without such tests does not depend on the class, and a rule
with such a predicate makes the same drafts whatever classes the declarations are said to stand
in. -/

namespace ComponentAtlas

open Source

namespace Config

mutual

/-- The predicate with a test that always fails in the place of every test on the class. -/
def Predicate.erase : Predicate → Predicate
  | .all items => .all (Predicate.eraseAll items)
  | .any items => .any (Predicate.eraseAll items)
  | .inClassWith _ => .any []
  | .hasDecorator names source => .hasDecorator names source
  | .hasDocTag tag => .hasDocTag tag
  | .extendsClass name => .extendsClass name
  | .implementsInterface name => .implementsInterface name
  | .nameEndsWith ending => .nameEndsWith ending
  | .nameMatches pattern => .nameMatches pattern

def Predicate.eraseAll : List Predicate → List Predicate
  | [] => []
  | p :: rest => p.erase :: Predicate.eraseAll rest

end

variable (imports : ImportTable) (enclosing : Option Declaration) (d : Declaration)

mutual

/-- Erased, a predicate tests a declaration in any class as it does one in no class. -/
theorem Predicate.holds_erase (p : Predicate) :
    p.erase.holds imports enclosing d = p.holds imports none d := by
  match p with
  | .all items =>
    rw [erase, holds, holds]
    exact Predicate.allHold_eraseAll items
  | .any items =>
    rw [erase, holds, holds]
    exact Predicate.anyHolds_eraseAll items
  | .hasDecorator _ _ | .hasDocTag _ | .extendsClass _ | .implementsInterface _
  | .nameEndsWith _ | .nameMatches _ | .inClassWith _ => rfl

theorem Predicate.allHold_eraseAll (items : List Predicate) :
    Predicate.allHold imports enclosing d (Predicate.eraseAll items) =
      Predicate.allHold imports none d items := by
  match items with
  | [] => rfl
  | p :: rest =>
    rw [eraseAll, allHold, allHold, Predicate.holds_erase p, Predicate.allHold_eraseAll rest]

theorem Predicate.anyHolds_eraseAll (items : List Predicate) :
    Predicate.anyHolds imports enclosing d (Predicate.eraseAll items) =
      Predicate.anyHolds imports none d items := by
  match items with
  | [] => rfl
  | p :: rest =>
    rw [eraseAll, anyHolds, anyHolds, Predicate.holds_erase p, Predicate.anyHolds_eraseAll rest]

end

mutual

/-- Nothing is erased from a predicate without tests on the class. -/
theorem Predicate.erase_eq_self (p : Predicate) (free : p.usesEnclosingClass = false) :
    p.erase = p := by
  match p with
  | .all items =>
    rw [erase, Predicate.eraseAll_eq_self items free]
  | .any items =>
    rw [erase, Predicate.eraseAll_eq_self items free]
  | .inClassWith _ => cases free
  | .hasDecorator _ _ | .hasDocTag _ | .extendsClass _ | .implementsInterface _
  | .nameEndsWith _ | .nameMatches _ => rfl

theorem Predicate.eraseAll_eq_self (items : List Predicate)
    (free : Predicate.someUseEnclosingClass items = false) : Predicate.eraseAll items = items := by
  match items with
  | [] => rfl
  | p :: rest =>
    rw [someUseEnclosingClass, Bool.or_eq_false_iff] at free
    rw [eraseAll, Predicate.erase_eq_self p free.1, Predicate.eraseAll_eq_self rest free.2]

end

mutual

/-- No test on the class is left. -/
theorem Predicate.usesEnclosingClass_erase (p : Predicate) :
    p.erase.usesEnclosingClass = false := by
  match p with
  | .all items | .any items => exact Predicate.someUseEnclosingClass_eraseAll items
  | .hasDecorator _ _ | .hasDocTag _ | .extendsClass _ | .implementsInterface _
  | .nameEndsWith _ | .nameMatches _ | .inClassWith _ => rfl

theorem Predicate.someUseEnclosingClass_eraseAll (items : List Predicate) :
    Predicate.someUseEnclosingClass (Predicate.eraseAll items) = false := by
  match items with
  | [] => rfl
  | p :: rest =>
    rw [eraseAll, someUseEnclosingClass, Predicate.usesEnclosingClass_erase p,
      Predicate.someUseEnclosingClass_eraseAll rest, Bool.or_false]

end

/-- A predicate without tests on the class does not depend on the class. -/
theorem Predicate.holds_of_free {p : Predicate} (free : p.usesEnclosingClass = false) :
    p.holds imports enclosing d = p.holds imports none d := by
  conv_lhs => rw [← Predicate.erase_eq_self p free]
  exact p.holds_erase imports enclosing d

end Config

/-! ## Rules -/

/-- The declarations differ at most in the class that they are said to stand in. -/
def SameButClass (d d' : Declaration) : Prop := d' = { d with enclosing := d'.enclosing }

theorem SameButClass.alike {d d' : Declaration} (same : SameButClass d d') (imports : ImportTable) :
    Alike imports imports d d' := by
  rw [same]
  exact ⟨rfl, rfl, rfl, rfl, rfl⟩

theorem draft?_of_sameButClass {file file' : SourceFile} {slot : Slot} {m : Config.Module}
    {find : DeclarationKind} {test : Config.Predicate} {d d' : Declaration}
    (path : file.path = file'.path) (imports : file.imports = file'.imports)
    (free : test.usesEnclosingClass = false) (same : SameButClass d d') :
    draft? file m slot find test d = draft? file' m slot find test d' := by
  have passes : test.holds file.imports (file.enclosing? d) d =
      test.holds file'.imports (file'.enclosing? d') d' := by
    rw [Config.Predicate.holds_of_free _ (file.enclosing? d) _ free,
      Config.Predicate.holds_of_free _ (file'.enclosing? d') _ free, ← imports]
    exact Config.Predicate.holds_alike (same.alike _) .none test
  refine draft?_eq path ?_ (same.alike file.imports).name ?_ passes
  · rw [same]
  · rw [same]

/-- Tests on the class look one class up. Outside of classes a predicate is as good as erased, and
in a test on the class it is erased, so that no test on the class is left in it; the erased ones
always fail. A predicate that has none in the first place does not depend on the class, and a rule
with such a predicate does not depend on the classes that declarations are said to stand in. -/
theorem enclosingClass_scope :
    (∀ imports enclosing d (p : Config.Predicate),
      p.holds imports none d = p.erase.holds imports enclosing d) ∧
    (∀ imports enclosing c d (p : Config.Predicate),
      (Config.Predicate.inClassWith p).holds imports (some c) d =
        p.erase.holds imports enclosing c) ∧
    (∀ imports enclosing c (p : Config.Predicate), p.erase.usesEnclosingClass = false ∧
      (Config.Predicate.inClassWith p).erase.holds imports enclosing c = false ∧
      (Config.Predicate.inClassWith p).holds imports none c = false) ∧
    (∀ p : Config.Predicate, p.usesEnclosingClass = false →
      ∀ imports d enclosing enclosing',
        p.holds imports enclosing d = p.holds imports enclosing' d) ∧
    ∀ (slot : Slot) (rule : Config.Rule) (m : Config.Module) (file file' : SourceFile),
      (∀ find test, rule = .detect find test → test.usesEnclosingClass = false) →
      file.path = file'.path → file.imports = file'.imports →
      List.Forall₂ SameButClass file.declarations file'.declarations →
      matchRule slot rule m file = matchRule slot rule m file' := by
  refine ⟨fun imports enclosing d p => ?_, fun imports enclosing c d p => ?_, ?_, ?_, ?_⟩
  · exact (p.holds_erase imports enclosing d).symm
  · exact (p.holds_erase imports enclosing c).symm
  · exact fun imports enclosing c p => ⟨p.usesEnclosingClass_erase, rfl, rfl⟩
  · intro p free imports d enclosing enclosing'
    rw [Config.Predicate.holds_of_free _ enclosing _ free,
      Config.Predicate.holds_of_free _ enclosing' _ free]
  · intro slot rule m file file' free path imports same
    exact matchRule_eq fun find test isRule => same.imp fun _ _ changed =>
      draft?_of_sameButClass path imports (free find test isRule) changed

/-- An order with a method. -/
def orderFile (index : Option Nat) : SourceFile where
  path := "order.ts"
  declarations := [
    { kind := .classes, name := some "Order", docTags := ["aggregate"] },
    { kind := .methods, name := some "place", line := 2, enclosing := index }]
  imports := .empty

/-- Something called `place`, or an event. -/
def placeTest : Config.Predicate := .any [.nameEndsWith "place", .hasDocTag "event"]

/-- A method found by its name is found outside of its class, too. -/
theorem enclosingClass_scope_order :
    placeTest.usesEnclosingClass = false ∧
    (∀ imports d enclosing enclosing',
      placeTest.holds imports enclosing d = placeTest.holds imports enclosing' d) ∧
    (orderFile (some 0)).path = (orderFile none).path ∧
    (orderFile (some 0)).imports = (orderFile none).imports ∧
    List.Forall₂ SameButClass (orderFile (some 0)).declarations (orderFile none).declarations ∧
    ∀ m, matchRule .domainOp (.detect .methods placeTest) m (orderFile (some 0)) =
      matchRule .domainOp (.detect .methods placeTest) m (orderFile none) := by
  have free : placeTest.usesEnclosingClass = false := rfl
  have same : List.Forall₂ SameButClass (orderFile (some 0)).declarations
      (orderFile none).declarations := .cons rfl (.cons rfl .nil)
  have each : ∀ find test, Config.Rule.detect .methods placeTest = .detect find test →
      test.usesEnclosingClass = false := by
    rintro find test ⟨⟩
    exact free
  obtain ⟨-, -, -, predicates, rules⟩ := enclosingClass_scope
  exact ⟨free, predicates placeTest free, rfl, rfl, same,
    fun m => rules .domainOp _ m _ _ each rfl rfl same⟩

end ComponentAtlas
