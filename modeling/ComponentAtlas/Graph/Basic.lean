import ComponentAtlas.ComponentId
import ComponentAtlas.ComponentType
import ComponentAtlas.Keyed

/-! # Graphs

A graph lists the components of a software system with the links between them and to other systems.
Every component belongs to one of the domains that the graph declares. -/

namespace ComponentAtlas

namespace Graph

/-- What sort of system a domain is. -/
inductive SystemType where
  | domain
  | bff
  | ui
  | other
deriving DecidableEq, Repr

namespace SystemType

def name : SystemType → String
  | domain => "domain"
  | bff => "bff"
  | ui => "ui"
  | other => "other"

def all : List SystemType := [domain, bff, ui, other]

def ofName? (name : String) : Option SystemType := all.find? (·.name = name)

theorem ofName?_name (t : SystemType) : ofName? t.name = some t := by
  cases t <;> decide

end SystemType

/-- The style in which an interface is called. -/
inductive ApiType where
  | rest
  | graphQL
  | other
deriving DecidableEq, Repr

namespace ApiType

def name : ApiType → String
  | rest => "REST"
  | graphQL => "GraphQL"
  | other => "other"

def all : List ApiType := [rest, graphQL, other]

def ofName? (name : String) : Option ApiType := all.find? (·.name = name)

theorem ofName?_name (t : ApiType) : ofName? t.name = some t := by
  cases t <;> decide

end ApiType

/-- The method of a request. -/
inductive HttpMethod where
  | get
  | post
  | put
  | patch
  | delete
deriving DecidableEq, Repr

namespace HttpMethod

def name : HttpMethod → String
  | get => "GET"
  | post => "POST"
  | put => "PUT"
  | patch => "PATCH"
  | delete => "DELETE"

def all : List HttpMethod := [get, post, put, patch, delete]

def ofName? (name : String) : Option HttpMethod := all.find? (·.name = name)

theorem ofName?_name (m : HttpMethod) : ofName? m.name = some m := by
  cases m <;> decide

end HttpMethod

/-- Whether the source of a link waits for its target. -/
inductive LinkType where
  | sync
  | async
deriving DecidableEq, Repr

namespace LinkType

def name : LinkType → String
  | sync => "sync"
  | async => "async"

def all : List LinkType := [sync, async]

def ofName? (name : String) : Option LinkType := all.find? (·.name = name)

theorem ofName?_name (t : LinkType) : ofName? t.name = some t := by
  cases t <;> decide

end LinkType

/-- A part of the business to which components belong. -/
structure Domain where
  description : String
  systemType : SystemType
deriving DecidableEq, Repr

/-- What a graph says about itself. -/
structure Metadata where
  name : Option String
  description : Option String
  /-- The domains under their names. -/
  domains : Keyed Domain
deriving DecidableEq

/-- Where a component is defined. The lines of a file count from one. -/
structure SourceLocation where
  repository : String
  filePath : String
  lineNumber : Option UInt32
deriving DecidableEq, Repr

/-- What is known of a component of a certain type. -/
inductive Details where
  | ui (route : String)
  | api (apiType : ApiType) (method : Option HttpMethod) (path : Option String)
  | useCase
  | domainOp (operationName : String) (entity : Option String)
  | event (eventName : String)
  | eventHandler (subscribedEvents : List String)
  | custom (customTypeName : String)
deriving DecidableEq, Repr

/-- The type of component that has such details. -/
def Details.type : Details → ComponentType
  | ui .. => .ui
  | api .. => .api
  | useCase => .useCase
  | domainOp .. => .domainOp
  | event .. => .event
  | eventHandler .. => .eventHandler
  | custom .. => .custom

structure Component where
  id : ComponentId
  name : String
  domain : String
  module : String
  location : SourceLocation
  description : Option String
  details : Details
deriving DecidableEq, Repr

/-- One component uses another. -/
structure Link where
  id : Option String
  source : ComponentId
  target : ComponentId
  type : Option LinkType
deriving DecidableEq, Repr

/-- Something outside the graph that a component uses. -/
structure ExternalTarget where
  name : String
  domain : Option String
  url : Option String
deriving DecidableEq, Repr

/-- A component uses something outside the graph. -/
structure ExternalLink where
  source : ComponentId
  target : ExternalTarget
  type : Option LinkType
deriving DecidableEq, Repr

end Graph

/-- The components of a system and their links. A graph without a list of external links differs
from one whose list is empty. -/
structure Graph where
  version : String
  metadata : Graph.Metadata
  components : List Graph.Component
  links : List Graph.Link
  externalLinks : Option (List Graph.ExternalLink)
deriving DecidableEq

end ComponentAtlas
