import ComponentAtlas.ComponentType
import ComponentAtlas.Config.Predicate
import ComponentAtlas.Source.Declaration

/-! # Extraction configurations

A configuration is a list of modules. A module has a name, a glob that selects its files, and one
rule for each detectable type of component. -/

namespace ComponentAtlas.Config

/-- A slot's rule: either the slot is marked as not used, or declarations of a sort that pass a test
are components. -/
inductive Rule where
  | notUsed (flag : Bool)
  | detect (find : Source.DeclarationKind) (test : Predicate)
deriving Repr

/-- A named part of a system and the rules for its files. -/
structure Module where
  name : String
  /-- The glob that selects the files. -/
  path : String
  api : Rule
  useCase : Rule
  domainOp : Rule
  event : Rule
  eventHandler : Rule
  ui : Rule
deriving Repr

/-- The rule of a slot. -/
def Module.rule (m : Module) : Slot → Rule
  | .api => m.api
  | .useCase => m.useCase
  | .domainOp => m.domainOp
  | .event => m.event
  | .eventHandler => m.eventHandler
  | .ui => m.ui

/-- The module with another rule in a slot. -/
def Module.setRule (m : Module) (r : Rule) : Slot → Module
  | .api => { m with api := r }
  | .useCase => { m with useCase := r }
  | .domainOp => { m with domainOp := r }
  | .event => { m with event := r }
  | .eventHandler => { m with eventHandler := r }
  | .ui => { m with ui := r }

end ComponentAtlas.Config

namespace ComponentAtlas

/-- A configuration of extraction. -/
structure Config where
  /-- Where the document says its schema is. -/
  schema : Option String
  modules : List Config.Module
deriving Repr

end ComponentAtlas
