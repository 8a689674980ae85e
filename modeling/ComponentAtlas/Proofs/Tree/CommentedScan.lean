import ComponentAtlas.Proofs.Tree.Comments
import ComponentAtlas.Proofs.Tree.Traversal

/-! # Scans and comments

Comments put into a tree leave its imports as they are, and its declarations but for lines, doc tags
and decorators that they hide. -/

namespace ComponentAtlas.Source

/-- The declaration without its line and its doc tags, which depend on the comments around it. -/
def Declaration.core (d : Declaration) : Declaration := { d with line := 1, docTags := [] }

end ComponentAtlas.Source

namespace ComponentAtlas.Tree

open ComponentAtlas.Source

/-! ## Places -/

/-- A place and the one that stands for it: what is around them and what is in front of them differs
by comments, too. -/
inductive CommentedPlace : Place → Place → Prop where
  | root {n n' : Node} (same : Commented n n') : CommentedPlace (.root n) (.root n')
  | child {p p' : Place} {before before' : List Node} {n n' : Node} (around : CommentedPlace p p')
      (behind : CommentedIn p.node.kind before before') (same : Commented n n') :
      CommentedPlace (.child p before n) (.child p' before' n')

variable {p p' : Place} {t t' : Node}

namespace CommentedPlace

theorem node (h : CommentedPlace p p') : Commented p.node p'.node := by
  cases h with
  | root same | child _ _ same => exact same

theorem isIn (h : CommentedPlace p p') (k : Kind) : p.isIn k = p'.isIn k := by
  cases h with
  | root _ => rfl
  | child around _ _ => exact congrArg (· == k) around.node.kind

theorem declares? (h : CommentedPlace p p') : p.declares? = p'.declares? := by
  rw [Place.declares?, Place.declares?, Place.isExported, Place.isExported, h.isIn, h.isIn,
    h.node.kind, h.node.textOf?]

theorem classForChildren (h : CommentedPlace p p') (enclosing : Option Nat) (next : Nat) :
    Node.classForChildren p enclosing next = Node.classForChildren p' enclosing next := by
  rw [Node.classForChildren, Node.classForChildren, h.node.kind, h.declares?]

end CommentedPlace

theorem declaring_singleton_commented (h : CommentedPlace p p') :
    List.Forall₂ CommentedPlace (declaring [p]) (declaring [p']) := by
  rw [declaring, declaring, List.filter_cons, List.filter_cons, ← h.declares?]
  split
  · exact .cons h .nil
  · exact .nil

/-- A comment is no declaring place. -/
theorem declaring_placesIn_ofComment (p : Place) (before : List Node) (text : String) (row : Nat)
    (rest : List Node) :
    declaring (placesIn p before (Node.ofComment text row :: rest)) =
      declaring (placesIn p (Node.ofComment text row :: before) rest) := by
  rw [placesIn, declaring_append]
  rfl

mutual

/-- The declaring places stand for each other, one by one. -/
theorem placesAt_commented {p p' : Place} {node node' : Node} (h : CommentedPlace p p')
    (stands : p.node = node) (same : Commented node node') :
    List.Forall₂ CommentedPlace (declaring (placesAt p node)) (declaring (placesAt p' node')) := by
  cases node' with
  | node kind field text' row' children' =>
    cases same with
    | node inside =>
      have parent : p.node.kind = kind := congrArg Node.kind stands
      rw [← parent] at inside
      rw [placesAt, placesAt, ← List.singleton_append, ← List.singleton_append (x := p'),
        declaring_append, declaring_append]
      exact List.rel_append (declaring_singleton_commented h) (placesIn_commented h .nil inside)

theorem placesIn_commented {p p' : Place} {before before' children children' : List Node}
    (h : CommentedPlace p p') (behind : CommentedIn p.node.kind before before')
    (ahead : CommentedIn p.node.kind children children') :
    List.Forall₂ CommentedPlace (declaring (placesIn p before children))
      (declaring (placesIn p' before' children')) := by
  cases children' with
  | nil =>
    cases ahead with
    | nil => exact .nil
  | cons c' rest' =>
    cases ahead with
    | keep same text later =>
      rw [placesIn, placesIn, declaring_append, declaring_append]
      exact List.rel_append (placesAt_commented (.child h behind same) rfl same)
        (placesIn_commented h (.keep same text behind) later)
    | put later =>
      rw [declaring_placesIn_ofComment]
      exact placesIn_commented h (.put behind) later

end

theorem places_commented (h : Commented t t') :
    List.Forall₂ CommentedPlace (declaring (places t)) (declaring (places t')) :=
  placesAt_commented (.root h) rfl h

/-! ## Decorators of a place -/

theorem childrenOf_decorator {n n' : Node} (h : Commented n n') :
    List.Forall₂ Commented (n.childrenOf .decorator) (n'.childrenOf .decorator) :=
  (h.childrenOf (by decide)).imp fun _ _ kept => kept.1.same

/-- Comments between decorators do not come between them and the member that they belong to. -/
theorem precedingDecorators_commented (h : CommentedPlace p p') :
    List.Forall₂ Commented p.precedingDecorators p'.precedingDecorators := by
  cases h with
  | root _ => exact .nil
  | child _ behind _ =>
    have run := behind.takeWhile (p := fun n => n.isDecorator || n.isComment)
      (fun _ _ same => by rw [same.isDecorator, same.isComment]) fun _ _ => rfl
    have decorators := run.filter (p := Node.isDecorator)
      ⟨fun _ _ same => same.isDecorator, fun _ _ => rfl⟩
    exact List.rel_reverse (decorators.imp fun _ _ kept => kept.1.same)

theorem outerDecorators_commented (h : CommentedPlace p p') :
    List.Forall₂ Commented p.outerDecorators p'.outerDecorators := by
  have preceding := precedingDecorators_commented h
  cases h with
  | root _ => exact .nil
  | child around _ _ =>
    simp only [Place.outerDecorators, Place.parent?, ← around.node.kind]
    split
    · exact childrenOf_decorator around.node
    · exact preceding
    · exact .nil

theorem decoratorNodes_commented (h : CommentedPlace p p') :
    List.Forall₂ Commented p.decoratorNodes p'.decoratorNodes :=
  List.rel_append (outerDecorators_commented h) (childrenOf_decorator h.node)

/-- The decorators that are read for the declaration at the place; those of functions are not. -/
def Place.readDecorators (p : Place) : List Node :=
  match p.declares? with
  | some .classes | some .methods => p.decoratorNodes
  | some .functions | none => []

theorem readDecorators_commented (h : CommentedPlace p p') :
    List.Forall₂ Commented p.readDecorators p'.readDecorators := by
  rw [Place.readDecorators, Place.readDecorators, ← h.declares?]
  split
  · exact decoratorNodes_commented h
  · exact decoratorNodes_commented h
  · exact .nil
  · exact .nil

theorem declaration_decorators {k : DeclarationKind} (declares : p.Declares k)
    (enclosing : Option Nat) :
    (p.declaration enclosing k).decorators = p.readDecorators.filterMap Node.decorator? := by
  rw [Place.readDecorators, declares?_eq_some_iff.2 declares]
  cases k with
  | classes | methods | functions => rfl

/-- The lists of decorators that a scan gives. -/
theorem map_decorators (t : Node) :
    (declarations t).map Declaration.decorators =
      (declaring (places t)).map fun p => p.readDecorators.filterMap Node.decorator? := by
  refine (map_eq_iff_forall₂.2 ((declarations_entries t).imp fun p d entry => ?_)).symm
  obtain ⟨k, enclosing, declares, -, rfl⟩ := entry
  exact (declaration_decorators declares enclosing).symm

/-! ## Declarations -/

/-- The declaration is the other one up to line, doc tags and decorators, of which some may be
missing. -/
structure Spared (d d' : Declaration) : Prop where
  others : d'.core = { d.core with decorators := d'.decorators }
  decorators : d'.decorators.Sublist d.decorators

theorem Spared.core_eq_iff {d d' : Declaration} (h : Spared d d') :
    d.core = d'.core ↔ d.decorators = d'.decorators := by
  constructor
  · intro same
    have read : d.core.decorators = d'.core.decorators := congrArg Declaration.decorators same
    exact read
  · intro same
    rw [h.others, ← same]
    rfl

theorem declaration_spared (h : CommentedPlace p p') (enclosing : Option Nat)
    (kind : DeclarationKind) :
    Spared (p.declaration enclosing kind) (p'.declaration enclosing kind) := by
  have name := h.node.textOf? .name
  have decorators := sublist_filterMap (decoratorNodes_commented h)
  cases kind with
  | classes =>
    refine ⟨?_, decorators⟩
    simp only [Place.declaration, Declaration.core, name, h.node.extended?, h.node.implemented]
  | methods =>
    refine ⟨?_, decorators⟩
    simp only [Place.declaration, Declaration.core, name]
  | functions =>
    refine ⟨?_, .refl _⟩
    simp only [Place.declaration, Declaration.core, name]

theorem ownDeclarations_spared (h : CommentedPlace p p') (enclosing : Option Nat) :
    List.Forall₂ Spared (p.ownDeclarations enclosing) (p'.ownDeclarations enclosing) := by
  rw [Place.ownDeclarations, Place.ownDeclarations, ← h.declares?]
  cases p.declares? with
  | none => exact .nil
  | some kind => exact .cons (declaration_spared h enclosing kind) .nil

theorem declarationsIn_ofComment (p : Place) (enclosing : Option Nat) (before : List Node)
    (next : Nat) (text : String) (row : Nat) (rest : List Node) :
    declarationsIn p enclosing before next (Node.ofComment text row :: rest) =
      declarationsIn p enclosing (Node.ofComment text row :: before) next rest := by
  rw [declarationsIn]
  rfl

mutual

/-- The scan lists as many declarations before each one, so that indices of classes stay. -/
theorem declarationsAt_spared {p p' : Place} {node node' : Node} (enclosing : Option Nat)
    (next : Nat) (h : CommentedPlace p p') (stands : p.node = node)
    (same : Commented node node') :
    List.Forall₂ Spared (declarationsAt p enclosing next node)
      (declarationsAt p' enclosing next node') := by
  cases node' with
  | node kind field text' row' children' =>
    cases same with
    | node inside =>
      have own := ownDeclarations_spared h enclosing
      have parent : p.node.kind = kind := congrArg Node.kind stands
      rw [← parent] at inside
      rw [declarationsAt, declarationsAt, ← h.classForChildren, ← own.length_eq]
      exact List.rel_append own (declarationsIn_spared _ _ h .nil inside)

theorem declarationsIn_spared {p p' : Place} {before before' children children' : List Node}
    (enclosing : Option Nat) (next : Nat) (h : CommentedPlace p p')
    (behind : CommentedIn p.node.kind before before')
    (ahead : CommentedIn p.node.kind children children') :
    List.Forall₂ Spared (declarationsIn p enclosing before next children)
      (declarationsIn p' enclosing before' next children') := by
  cases children' with
  | nil =>
    cases ahead with
    | nil => exact .nil
  | cons c' rest' =>
    cases ahead with
    | keep same text later =>
      have first := declarationsAt_spared enclosing next (.child h behind same) rfl same
      rw [declarationsIn, declarationsIn, ← first.length_eq]
      exact List.rel_append first (declarationsIn_spared _ _ h (.keep same text behind) later)
    | put later =>
      rw [declarationsIn_ofComment]
      exact declarationsIn_spared _ _ h (.put behind) later

end

theorem declarations_spared (h : Commented t t') :
    List.Forall₂ Spared (declarations t) (declarations t') :=
  declarationsAt_spared none 0 (.root h) rfl h

/-- The declarations are the same up to lines and doc tags if and only if no decorator that is read
for one of them and named something is hidden. -/
theorem map_core_eq_iff (h : Commented t t') :
    (declarations t).map Declaration.core = (declarations t').map Declaration.core ↔
      List.Forall₂ (fun p p' => AllShown p.readDecorators p'.readDecorators)
        (declaring (places t)) (declaring (places t')) := by
  calc (declarations t).map Declaration.core = (declarations t').map Declaration.core
      ↔ List.Forall₂ (fun d d' => d.core = d'.core) (declarations t) (declarations t') :=
        map_eq_iff_forall₂
    _ ↔ List.Forall₂ (fun d d' => d.decorators = d'.decorators)
          (declarations t) (declarations t') :=
        forall₂_congr (declarations_spared h) fun _ _ spared => spared.core_eq_iff
    _ ↔ (declarations t).map Declaration.decorators =
          (declarations t').map Declaration.decorators := map_eq_iff_forall₂.symm
    _ ↔ List.Forall₂ (fun p p' => p.readDecorators.filterMap Node.decorator? =
          p'.readDecorators.filterMap Node.decorator?)
          (declaring (places t)) (declaring (places t')) := by
        rw [map_decorators, map_decorators, map_eq_iff_forall₂]
    _ ↔ _ := forall₂_congr (places_commented h) fun _ _ stands =>
        filterMap_eq_iff (readDecorators_commented stands)

/-- Comments, wherever they are put in, leave the imports as they are, and of the declarations all
but lines, doc tags and decorators, of which some may be missing. None is missing if and only if no
comment hides what a decorator names, among the decorators that are read for classes and methods; a
decorator that named nothing without comments may be hidden. -/
theorem scan_of_commented {t t' : Node} (h : Commented t t') :
    imports t = imports t' ∧
    List.Forall₂ (fun d d' => d'.core = { d.core with decorators := d'.decorators } ∧
      d'.decorators.Sublist d.decorators) (declarations t) (declarations t') ∧
    ((declarations t).map Declaration.core = (declarations t').map Declaration.core ↔
      List.Forall₂ (fun p p' => AllShown p.readDecorators p'.readDecorators)
        (declaring (places t)) (declaring (places t'))) := by
  refine ⟨imports_eq h, ?_, map_core_eq_iff h⟩
  exact (declarations_spared h).imp fun _ _ spared => ⟨spared.others, spared.decorators⟩

/-- A class without comments. -/
def plainClass : Node := Script.read .typescript "import A from 'a'\n@(A) class K \x7b\x7d"

/-- The class with comments. -/
def commentedClass : Node :=
  Script.read .typescript "import /* a */ A from 'a'\n@(A /* b */) class /* c */ K \x7b\x7d"

/-- Behind the name of a decorator a comment hides nothing. -/
theorem scan_of_commented_class :
    Commented plainClass commentedClass ∧ imports plainClass = imports commentedClass ∧
    (declarations plainClass).map Declaration.core =
      (declarations commentedClass).map Declaration.core ∧
    List.Forall₂ (fun p p' => AllShown p.readDecorators p'.readDecorators)
      (declaring (places plainClass)) (declaring (places commentedClass)) := by
  have added : Commented plainClass commentedClass := by decide +kernel
  have same : (declarations plainClass).map Declaration.core =
      (declarations commentedClass).map Declaration.core := by decide +kernel
  obtain ⟨names, -, shown⟩ := scan_of_commented added
  exact ⟨added, names, same, shown.1 same⟩

/-- A decorated class. -/
def decoratedClass : Node := Script.read .typescript "@UseCase\nclass PlaceOrder \x7b\x7d\n"

/-- The class with a comment in front of the name of its decorator. -/
def hiddenClass : Node :=
  Script.read .typescript "@/* c */ UseCase\nclass PlaceOrder \x7b\x7d\n"

/-- In front of the name of a decorator a comment hides it. -/
theorem leading_comment_hides :
    Commented decoratedClass hiddenClass ∧
    (declarations decoratedClass).map Declaration.core =
      [{ kind := .classes, name := some "PlaceOrder", decorators := [{ name := "UseCase" }] }] ∧
    (declarations hiddenClass).map Declaration.core =
      [{ kind := .classes, name := some "PlaceOrder" }] := by
  refine ⟨?_, ?_, ?_⟩
  all_goals decide +kernel

end ComponentAtlas.Tree
