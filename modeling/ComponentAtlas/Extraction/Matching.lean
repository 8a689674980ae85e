import ComponentAtlas.Config.Basic
import ComponentAtlas.Config.Holds
import ComponentAtlas.Extraction.Draft
import ComponentAtlas.Source.File

/-! # Matching a rule against a file

A rule looks at the declarations of one sort. Those that pass its test and have a name become
drafts, in source order. -/

namespace ComponentAtlas

open Source

/-- The draft that a declaration becomes under a rule, if it does. -/
def draft? (file : SourceFile) (module : Config.Module) (slot : Slot) (find : DeclarationKind)
    (test : Config.Predicate) (d : Declaration) : Option Draft :=
  if d.kind = find && test.holds file.imports (file.enclosing? d) d then
    d.name.map fun name => ⟨slot, name, ⟨file.path, d.line⟩, module.name, module.name⟩
  else none

/-- The drafts that a rule makes of a file. -/
def matchRule (slot : Slot) (rule : Config.Rule) (module : Config.Module) (file : SourceFile) :
    List Draft :=
  match rule with
  | .notUsed _ => []
  | .detect find test => file.declarations.filterMap (draft? file module slot find test)

end ComponentAtlas
