import ComponentAtlas.Graph.Basic
import ComponentAtlas.Json.Basic

/-! # Graphs as documents

The document of a graph. Optional members that have no value are left out, and the details of a
component stand among its other members. -/

namespace ComponentAtlas

namespace Graph

/-- The member of an optional text. -/
def optionalText (key : String) (s : Option String) : List (String × Json) :=
  Json.optional key (s.map .string)

def Domain.encode (d : Domain) : Json :=
  .object [("description", .string d.description), ("systemType", .string d.systemType.name)]

def Metadata.encode (m : Metadata) : Json :=
  .object (optionalText "description" m.description ++
    [("domains", .object (m.domains.entries.map fun e => (e.1, e.2.encode)))] ++
    optionalText "name" m.name)

def SourceLocation.encode (l : SourceLocation) : Json :=
  .object ([("filePath", .string l.filePath)] ++
    Json.optional "lineNumber" (l.lineNumber.map fun n => .int n.toNat) ++
    [("repository", .string l.repository)])

/-- The members of details other than the type. -/
def Details.members : Details → List (String × Json)
  | ui route => [("route", .string route)]
  | api apiType method path =>
    [("apiType", .string apiType.name)] ++
      optionalText "httpMethod" (method.map (·.name)) ++ optionalText "path" path
  | useCase => []
  | domainOp operationName entity =>
    optionalText "entity" entity ++ [("operationName", .string operationName)]
  | event eventName => [("eventName", .string eventName)]
  | eventHandler events => [("subscribedEvents", .array (events.map .string))]
  | custom typeName => [("customTypeName", .string typeName)]

/-- The members that every component has. -/
def Component.commonMembers (c : Component) : List (String × Json) :=
  optionalText "description" c.description ++
    [("domain", .string c.domain), ("id", c.id.encode), ("module", .string c.module),
      ("name", .string c.name), ("sourceLocation", c.location.encode),
      ("type", .string c.details.type.name)]

def Component.encode (c : Component) : Json := .ofMembers (c.commonMembers ++ c.details.members)

def Link.encode (l : Link) : Json :=
  .object (optionalText "id" l.id ++
    [("source", l.source.encode), ("target", l.target.encode)] ++
    optionalText "type" (l.type.map (·.name)))

def ExternalTarget.encode (t : ExternalTarget) : Json :=
  .object (optionalText "domain" t.domain ++ [("name", .string t.name)] ++
    optionalText "url" t.url)

def ExternalLink.encode (l : ExternalLink) : Json :=
  .object ([("source", l.source.encode), ("target", l.target.encode)] ++
    optionalText "type" (l.type.map (·.name)))

end Graph

/-- The document of a graph. -/
def Graph.encode (g : Graph) : Json :=
  .object ([("components", .array (g.components.map Graph.Component.encode))] ++
    Json.optional "externalLinks"
      (g.externalLinks.map fun links => .array (links.map Graph.ExternalLink.encode)) ++
    [("links", .array (g.links.map Graph.Link.encode)), ("metadata", g.metadata.encode),
      ("version", .string g.version)])

end ComponentAtlas
