import ComponentAtlas.Keyed
import ComponentAtlas.Proofs.Extraction.Sight

/-! # What imports are for

Rules see the imports of a file only through what its decorators stand for. So it does not matter
by which local names imported decorators are known: a name that no decorator uses may be bound to
anything, and an import may get a new local name if the decorators get it with it. A bare decorator
that only an import of everything binds keeps the name it is written with, and so it does not go
along. -/

namespace ComponentAtlas

open Source

/-! ## Files in which decorators stand for the same -/

/-- The declarations differ at most in their decorators, which stand for the same, one by one. -/
structure SameButDecorators (imports imports' : ImportTable) (d d' : Declaration) : Prop where
  others : d' = { d with decorators := d'.decorators }
  decorators : List.Forall₂ (fun x x' => imports.resolve x = imports'.resolve x')
    d.decorators d'.decorators

variable {imports imports' : ImportTable} {d d' : Declaration}

theorem SameButDecorators.alike (same : SameButDecorators imports imports' d d') :
    Alike imports imports' d d' := by
  have decorators := map_eq_iff_forall₂.2 same.decorators
  rw [same.others] at decorators ⊢
  exact ⟨rfl, decorators, rfl, rfl, rfl⟩

variable {file file' : SourceFile} {slot : Slot} {rule : Config.Rule} {m : Config.Module}

/-- The classes of declarations that look alike look alike. -/
theorem rel_enclosing? (same : List.Forall₂ (SameButDecorators file.imports file'.imports)
      file.declarations file'.declarations) (class' : d.enclosing = d'.enclosing) :
    Option.Rel (Alike file.imports file'.imports) (file.enclosing? d) (file'.enclosing? d') := by
  rw [SourceFile.enclosing?, SourceFile.enclosing?, ← class']
  cases d.enclosing with
  | none => exact .none
  | some i => exact rel_getElem?_of_forall₂ (same.imp fun _ _ => SameButDecorators.alike) i

/-- Files in which decorators stand for the same give the same drafts. -/
theorem matchRule_of_same (path : file.path = file'.path)
    (same : List.Forall₂ (SameButDecorators file.imports file'.imports)
      file.declarations file'.declarations) :
    matchRule slot rule m file = matchRule slot rule m file' := by
  refine matchRule_eq fun find test _ => same.imp fun d d' decorated => ?_
  have passes := Config.Predicate.holds_alike decorated.alike
    (rel_enclosing? same (congrArg Declaration.enclosing decorated.others).symm) test
  exact draft?_eq path (congrArg Declaration.kind decorated.others).symm decorated.alike.name
    (congrArg Declaration.line decorated.others).symm passes

/-! ## Local names -/

namespace Source

/-- The decorator is written with this local name: as its own name or as its qualifier. -/
def Decorator.Uses (x : Decorator) (local' : String) : Prop :=
  x.qualifier = some local' ∨ x.qualifier = none ∧ x.name = local'

instance (x : Decorator) (local' : String) : Decidable (x.Uses local') :=
  inferInstanceAs (Decidable (_ ∨ _ ∧ _))

/-- The decorator with the local name `b` wherever it was written with the local name `a`. -/
def Decorator.rename (a b : String) (x : Decorator) : Decorator :=
  match x.qualifier with
  | some q => if q = a then { x with qualifier := some b } else x
  | none => if x.name = a then { x with name := b } else x

/-- The table with the binding of the local name `a` moved to `b`. -/
def ImportTable.rename (a b : String) (t : ImportTable) : ImportTable where
  entries := t.entries.map fun (x, binding) => (if x = a then b else x, binding)

variable {t : ImportTable} {a b : String} {x : Decorator}

/-- If `b` was not bound, it has the binding of `a` now, and `a` has none. -/
theorem get?_rename (fresh : t.get? b = none) (y : String) :
    (t.rename a b).get? y = if y = b then t.get? a else if y = a then none else t.get? y := by
  obtain ⟨entries⟩ := t
  simp only [ImportTable.get?, ImportTable.rename] at fresh ⊢
  induction entries with
  | nil => simp
  | cons e rest ih =>
    obtain ⟨key, binding⟩ := e
    rw [Keyed.lookup_cons] at fresh
    split at fresh
    · cases fresh
    · next other =>
      -- `key` is not `b`, so an entry found under `b` is one that moved
      simp only [List.map_cons, Keyed.lookup_cons, ih fresh]
      grind

/-- A binding matters to the decorators that use its local name only. -/
theorem resolve_insert {binding : Binding} (unused : ¬ x.Uses a) :
    (t.insert a binding).resolve x = t.resolve x := by
  rw [Decorator.Uses, not_or] at unused
  rw [ImportTable.resolve, ImportTable.resolve]
  cases written : x.qualifier with
  | some q =>
    have other : q ≠ a := fun same => unused.1 (by rw [written, same])
    simp only [ImportTable.get?_insert, if_neg other]
  | none =>
    have other : x.name ≠ a := fun same => unused.2 ⟨written, same⟩
    simp only [ImportTable.get?_insert, if_neg other]

/-- A renamed decorator stands for the same. The name of a bare one goes with the import only if
the import says which name it stands for. -/
theorem resolve_rename (fresh : t.get? b = none) (unused : ¬ x.Uses b)
    (named : x.qualifier = none → x.name = a →
      ∃ imported source, t.get? a = some (.named imported source)) :
    t.resolve x = (t.rename a b).resolve (x.rename a b) := by
  have here : (t.rename a b).get? b = t.get? a := by rw [get?_rename fresh, if_pos rfl]
  have elsewhere {y : String} (notB : y ≠ b) (notA : y ≠ a) :
      (t.rename a b).get? y = t.get? y := by
    rw [get?_rename fresh, if_neg notB, if_neg notA]
  obtain ⟨name, qualifier⟩ := x
  rw [Decorator.Uses, not_or] at unused
  cases qualifier with
  | some q =>
    by_cases same : q = a
    · subst same
      simp only [Decorator.rename, ImportTable.resolve, if_true, here]
    · have other : q ≠ b := fun equal => unused.1 (by rw [equal])
      simp only [Decorator.rename, ImportTable.resolve, if_neg same, elsewhere other same]
  | none =>
    by_cases same : name = a
    · subst same
      obtain ⟨imported, source, found⟩ := named rfl rfl
      simp only [Decorator.rename, ImportTable.resolve, if_true, here, found]
    · have other : name ≠ b := fun equal => unused.2 ⟨rfl, equal⟩
      simp only [Decorator.rename, ImportTable.resolve, if_neg same, elsewhere other same]

end Source

/-! ## Files with other imports -/

namespace SourceFile

/-- No decorator of the file is written with this local name. -/
def Unused (f : SourceFile) (local' : String) : Prop :=
  ∀ d ∈ f.declarations, ∀ x ∈ d.decorators, ¬ x.Uses local'

/-- No decorator of the file is this local name by itself. -/
def NeverBare (f : SourceFile) (local' : String) : Prop :=
  ∀ d ∈ f.declarations, ∀ x ∈ d.decorators, ¬ (x.qualifier = none ∧ x.name = local')

instance (f : SourceFile) (local' : String) : Decidable (f.Unused local') :=
  inferInstanceAs (Decidable (∀ d ∈ f.declarations, ∀ x ∈ d.decorators, ¬ x.Uses local'))

instance (f : SourceFile) (local' : String) : Decidable (f.NeverBare local') :=
  inferInstanceAs (Decidable (∀ d ∈ f.declarations, ∀ x ∈ d.decorators,
    ¬ (x.qualifier = none ∧ x.name = local')))

/-- The file with the import of the local name `a` and the decorators that use it renamed. -/
def rename (a b : String) (f : SourceFile) : SourceFile :=
  { f with
    declarations := f.declarations.map fun d =>
      { d with decorators := d.decorators.map (Decorator.rename a b) }
    imports := f.imports.rename a b }

end SourceFile

theorem matchRule_insert {local' : String} (unused : file.Unused local') (binding : Binding) :
    matchRule slot rule m { file with imports := file.imports.insert local' binding } =
      matchRule slot rule m file := by
  refine matchRule_of_same rfl (List.forall₂_same.2 fun d declared => ⟨rfl, ?_⟩)
  exact List.forall₂_same.2 fun x written => resolve_insert (unused d declared x written)

theorem matchRule_rename {a b : String} (fresh : file.imports.get? b = none)
    (unused : file.Unused b)
    (named : (∃ imported source, file.imports.get? a = some (.named imported source)) ∨
      file.NeverBare a) :
    matchRule slot rule m (file.rename a b) = matchRule slot rule m file := by
  have path : file.path = (file.rename a b).path := rfl
  refine (matchRule_of_same path ?_).symm
  refine List.forall₂_map_right_iff.2 (List.forall₂_same.2 fun d declared => ⟨rfl, ?_⟩)
  refine List.forall₂_map_right_iff.2 (List.forall₂_same.2 fun x written => ?_)
  refine resolve_rename fresh (unused d declared x written) fun bare name => ?_
  exact named.resolve_right fun never => never d declared x written ⟨bare, name⟩

/-- Rules see imports only through what decorators stand for. Files on one path give the same drafts
if their declarations differ at most in decorators that stand for the same, each in its file. So a
local name that no decorator uses may be bound to anything. And the import of a local name may move
to a fresh one, if the decorators are renamed with it: a named import always, and an import of any
other sort if no bare decorator goes by the name. -/
theorem matchRule_sees_resolution (slot : Slot) (rule : Config.Rule) (m : Config.Module) :
    (∀ file file' : SourceFile, file.path = file'.path →
      List.Forall₂ (SameButDecorators file.imports file'.imports)
        file.declarations file'.declarations →
      matchRule slot rule m file = matchRule slot rule m file') ∧
    (∀ (file : SourceFile) (local' : String) (binding : Binding), file.Unused local' →
      matchRule slot rule m { file with imports := file.imports.insert local' binding } =
        matchRule slot rule m file) ∧
    ∀ (file : SourceFile) (a b : String), file.imports.get? b = none → file.Unused b →
      ((∃ imported source, file.imports.get? a = some (.named imported source)) ∨
        file.NeverBare a) →
      matchRule slot rule m (file.rename a b) = matchRule slot rule m file := by
  refine ⟨fun file file' path same => ?_, fun file local' binding unused => ?_,
    fun file a b fresh unused named => ?_⟩
  · exact matchRule_of_same path same
  · exact matchRule_insert unused binding
  · exact matchRule_rename fresh unused named

/-- A use case with a handler of events. -/
def handlerFile : SourceFile where
  path := "handler.ts"
  declarations := [
    { kind := .classes, name := some "PlaceOrder", decorators := [{ name := "UC" }] },
    { kind := .methods, name := some "onPaid", line := 2, enclosing := some 0,
      decorators := [{ name := "Event", qualifier := some "arch" }] }]
  imports := (ImportTable.empty.insert "UC" (.named "UseCase" "@arch/decorators")).insert "arch"
    (.whole "@arch/decorators")

/-- The decorators written out, under the names that they are exported under. -/
def plainHandlerFile : SourceFile where
  path := "handler.ts"
  declarations := [
    { kind := .classes, name := some "PlaceOrder", decorators := [{ name := "UseCase" }] },
    { kind := .methods, name := some "onPaid", line := 2, enclosing := some 0,
      decorators := [{ name := "Event" }] }]
  imports := (ImportTable.empty.insert "UseCase" (.named "UseCase" "@arch/decorators")).insert
    "Event" (.named "Event" "@arch/decorators")

/-- The name of a member of a group is no local name: it may be imported from elsewhere. -/
theorem matchRule_sees_resolution_handler :
    handlerFile.path = plainHandlerFile.path ∧
    List.Forall₂ (SameButDecorators handlerFile.imports plainHandlerFile.imports)
      handlerFile.declarations plainHandlerFile.declarations ∧
    handlerFile.Unused "Event" ∧
    (handlerFile.imports.get? "Command" = none ∧ handlerFile.Unused "Command" ∧
      ∃ imported source, handlerFile.imports.get? "UC" = some (.named imported source)) ∧
    (handlerFile.imports.get? "on" = none ∧ handlerFile.Unused "on" ∧
      handlerFile.NeverBare "arch") ∧
    ∀ slot rule m,
      matchRule slot rule m handlerFile = matchRule slot rule m plainHandlerFile ∧
      matchRule slot rule m
          { handlerFile with imports := handlerFile.imports.insert "Event" (.default "dom") } =
        matchRule slot rule m handlerFile ∧
      matchRule slot rule m (handlerFile.rename "UC" "Command") =
        matchRule slot rule m handlerFile ∧
      matchRule slot rule m (handlerFile.rename "arch" "on") =
        matchRule slot rule m handlerFile := by
  have path : handlerFile.path = plainHandlerFile.path := rfl
  have same : List.Forall₂ (SameButDecorators handlerFile.imports plainHandlerFile.imports)
      handlerFile.declarations plainHandlerFile.declarations :=
    .cons ⟨rfl, .cons (by decide) .nil⟩ (.cons ⟨rfl, .cons (by decide) .nil⟩ .nil)
  have event : handlerFile.Unused "Event" := by decide
  have command : handlerFile.Unused "Command" := by decide
  have named : ∃ imported source, handlerFile.imports.get? "UC" = some (.named imported source) :=
    ⟨_, _, rfl⟩
  have on : handlerFile.Unused "on" := by decide
  have group : handlerFile.NeverBare "arch" := by decide
  refine ⟨path, same, event, ⟨rfl, command, named⟩, ⟨rfl, on, group⟩, fun slot rule m => ?_⟩
  obtain ⟨congruence, insert, rename⟩ := matchRule_sees_resolution slot rule m
  exact ⟨congruence _ _ path same, insert _ _ _ event, rename _ _ _ rfl command (.inl named),
    rename _ _ _ rfl on (.inr group)⟩

end ComponentAtlas
