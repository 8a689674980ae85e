import ComponentAtlas.Config.Basic

/-! # Editing configurations

Single changes of a configuration. A change that speaks of a module that is not there cannot be
made. -/

namespace ComponentAtlas.Config

/-- A change of a configuration. Modules are meant by their indices. -/
inductive Edit where
  | rename (index : Nat) (name : String)
  | relocate (index : Nat) (path : String)
  | setRule (index : Nat) (slot : Slot) (rule : Rule)
  | push (module : Module)
  | remove (index : Nat)
  | swap (index other : Nat)
  | setSchema (schema : Option String)
deriving Repr

/-- Changes one module. -/
def changeModule (c : Config) (index : Nat) (change : Module → Module) : Option Config :=
  (c.modules[index]?).map fun m => { c with modules := c.modules.set index (change m) }

/-- The configuration after a change. -/
def Edit.apply (c : Config) : Edit → Option Config
  | rename index name => changeModule c index fun m => { m with name := name }
  | relocate index path => changeModule c index fun m => { m with path := path }
  | setRule index slot rule => changeModule c index fun m => m.setRule rule slot
  | push module => some { c with modules := c.modules ++ [module] }
  | remove index =>
    (c.modules[index]?).map fun _ => { c with modules := c.modules.eraseIdx index }
  | swap index other => do
    let a ← c.modules[index]?
    let b ← c.modules[other]?
    return { c with modules := (c.modules.set index b).set other a }
  | setSchema schema => some { c with schema := schema }

end ComponentAtlas.Config
