import ComponentAtlas.ComponentId
import ComponentAtlas.ComponentType

/-! # Drafts of components

What a declaration that a rule found says about a component. -/

namespace ComponentAtlas

/-- A place in a file. -/
structure Location where
  file : String
  line : Nat
deriving DecidableEq, Repr

/-- A component as it is found. -/
structure Draft where
  slot : Slot
  name : String
  location : Location
  domain : String
  module : String
deriving DecidableEq, Repr

/-- The identifier of the component. -/
def Draft.id (d : Draft) : ComponentId := .ofLabels ⟨d.domain, d.module, d.slot.key, d.name⟩

end ComponentAtlas
