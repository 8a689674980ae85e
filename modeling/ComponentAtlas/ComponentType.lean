/-! # Component types

The types of component that a graph knows, and the slots of a module in which rules for the
detectable ones are written. -/

namespace ComponentAtlas

/-- The type of a component. -/
inductive ComponentType where
  | ui
  | api
  | useCase
  | domainOp
  | event
  | eventHandler
  | custom
deriving DecidableEq, Repr

namespace ComponentType

/-- The name that graphs use. -/
def name : ComponentType → String
  | ui => "UI"
  | api => "API"
  | useCase => "UseCase"
  | domainOp => "DomainOp"
  | event => "Event"
  | eventHandler => "EventHandler"
  | custom => "Custom"

/-- Every type, in the order in which messages list them. -/
def all : List ComponentType := [ui, api, useCase, domainOp, event, eventHandler, custom]

/-- The type of a name; the spelling is exact. -/
def ofName? (name : String) : Option ComponentType := all.find? (·.name = name)

theorem ofName?_name (t : ComponentType) : ofName? t.name = some t := by
  cases t <;> decide

end ComponentType

/-- A place for one rule in a module. There is one for each detectable type of component. -/
inductive Slot where
  | api
  | useCase
  | domainOp
  | event
  | eventHandler
  | ui
deriving DecidableEq, Repr

namespace Slot

/-- The key under which configurations write the rule. -/
def key : Slot → String
  | api => "api"
  | useCase => "useCase"
  | domainOp => "domainOp"
  | event => "event"
  | eventHandler => "eventHandler"
  | ui => "ui"

/-- The type of component that the slot's rule detects. -/
def type : Slot → ComponentType
  | api => .api
  | useCase => .useCase
  | domainOp => .domainOp
  | event => .event
  | eventHandler => .eventHandler
  | ui => .ui

/-- Every slot, in the order in which the rules of a module are applied. -/
def all : List Slot := [api, useCase, domainOp, event, eventHandler, ui]

theorem mem_all (s : Slot) : s ∈ all := by
  cases s <;> decide

/-- The slot of a key. -/
def ofKey? (key : String) : Option Slot := all.find? (·.key = key)

theorem ofKey?_key (s : Slot) : ofKey? s.key = some s := by
  cases s <;> decide

end Slot

end ComponentAtlas
