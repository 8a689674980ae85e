import ComponentAtlas.Graph.Basic
import ComponentAtlas.Json.Decoding

/-! # Graphs from documents

Reading a graph out of a document. Members that a type does not know are ignored, and so are the
details that belong to other types of component. -/

namespace ComponentAtlas

namespace Graph

open Json

/-- The members of a document that is an object. -/
def decodeObject : Json → Decoded (List (String × Json))
  | .object members => .ok members
  | v => v.mistyped "an object"

/-- Decodes a member that must be there. -/
def decodeRequired {α : Type} (decode : Json → Decoded α) (members : List (String × Json))
    (key : String) : Decoded α := do
  require key (← decodeMember decode members key)

/-- Decodes a member that may be there. Null stands for no value. -/
def decodeOptional {α : Type} (decode : Json → Decoded α) (members : List (String × Json))
    (key : String) : Decoded (Option α) := do
  return (← decodeMember (decodeOption decode) members key).join

/-- Decodes the members of an object, each under its key. -/
def decodeEach {α : Type} (decode : Json → Decoded α) :
    List (String × Json) → Decoded (List (String × α))
  | [] => .ok []
  | (key, v) :: rest => do
    let a ← decode v
    let more ← decodeEach decode rest
    return (key, a) :: more

def SystemType.decode : Json → Decoded SystemType :=
  decodeName SystemType.ofName? (SystemType.all.map (·.name))

def ApiType.decode : Json → Decoded ApiType :=
  decodeName ApiType.ofName? (ApiType.all.map (·.name))

def HttpMethod.decode : Json → Decoded HttpMethod :=
  decodeName HttpMethod.ofName? (HttpMethod.all.map (·.name))

def LinkType.decode : Json → Decoded LinkType :=
  decodeName LinkType.ofName? (LinkType.all.map (·.name))

def Domain.decode (v : Json) : Decoded Domain := do
  let members ← decodeObject v
  return ⟨← decodeRequired decodeString members "description",
    ← decodeRequired SystemType.decode members "systemType"⟩

/-- Decodes domains under their names. -/
def decodeDomains (v : Json) : Decoded (Keyed Domain) := do
  let members ← decodeObject v
  return .ofList (← decodeEach Domain.decode members)

def Metadata.decode (v : Json) : Decoded Metadata := do
  let members ← decodeObject v
  return ⟨← decodeOptional decodeString members "name",
    ← decodeOptional decodeString members "description",
    ← decodeRequired decodeDomains members "domains"⟩

/-- Decodes a whole number of 32 bits. -/
def decodeLine : Json → Decoded UInt32
  | .number (.whole n) =>
    if 0 ≤ n ∧ n < UInt32.size then .ok (UInt32.ofNat n.toNat)
    else .error (.wrongValue (.number (.whole n)) "a line number")
  | v => v.mistyped "a line number"

def SourceLocation.decode (v : Json) : Decoded SourceLocation := do
  let members ← decodeObject v
  return ⟨← decodeRequired decodeString members "repository",
    ← decodeRequired decodeString members "filePath",
    ← decodeOptional decodeLine members "lineNumber"⟩

/-- Decodes the details of a type of component. -/
def Details.decode (members : List (String × Json)) : ComponentType → Decoded Details
  | .ui => do return .ui (← decodeRequired decodeString members "route")
  | .api => do
    return .api (← decodeRequired ApiType.decode members "apiType")
      (← decodeOptional HttpMethod.decode members "httpMethod")
      (← decodeOptional decodeString members "path")
  | .useCase => .ok .useCase
  | .domainOp => do
    return .domainOp (← decodeRequired decodeString members "operationName")
      (← decodeOptional decodeString members "entity")
  | .event => do return .event (← decodeRequired decodeString members "eventName")
  | .eventHandler => do
    return .eventHandler (← decodeRequired (decodeList decodeString) members "subscribedEvents")
  | .custom => do return .custom (← decodeRequired decodeString members "customTypeName")

/-- Decodes a type of component, which is given by its name alone. -/
def decodeType : Json → Decoded ComponentType
  | .string name =>
    match ComponentType.ofName? name with
    | some type => .ok type
    | none => .error (.unknownVariant name (ComponentType.all.map (·.name)))
  | v => v.mistyped "variant identifier"

def Component.decode (v : Json) : Decoded Component := do
  let members ← decodeObject v
  let type ← decodeRequired decodeType members "type"
  return ⟨← decodeRequired ComponentId.decode members "id",
    ← decodeRequired decodeString members "name",
    ← decodeRequired decodeString members "domain",
    ← decodeRequired decodeString members "module",
    ← decodeRequired SourceLocation.decode members "sourceLocation",
    ← decodeOptional decodeString members "description",
    ← Details.decode members type⟩

def Link.decode (v : Json) : Decoded Link := do
  let members ← decodeObject v
  return ⟨← decodeOptional decodeString members "id",
    ← decodeRequired ComponentId.decode members "source",
    ← decodeRequired ComponentId.decode members "target",
    ← decodeOptional LinkType.decode members "type"⟩

def ExternalTarget.decode (v : Json) : Decoded ExternalTarget := do
  let members ← decodeObject v
  return ⟨← decodeRequired decodeString members "name",
    ← decodeOptional decodeString members "domain",
    ← decodeOptional decodeString members "url"⟩

def ExternalLink.decode (v : Json) : Decoded ExternalLink := do
  let members ← decodeObject v
  return ⟨← decodeRequired ComponentId.decode members "source",
    ← decodeRequired ExternalTarget.decode members "target",
    ← decodeOptional LinkType.decode members "type"⟩

end Graph

open Json in
/-- Decodes a graph. -/
def Graph.decode (v : Json) : Decoded Graph := do
  let members ← Graph.decodeObject v
  return ⟨← Graph.decodeRequired decodeString members "version",
    ← Graph.decodeRequired Graph.Metadata.decode members "metadata",
    ← Graph.decodeRequired (decodeList Graph.Component.decode) members "components",
    ← Graph.decodeRequired (decodeList Graph.Link.decode) members "links",
    ← Graph.decodeOptional (decodeList Graph.ExternalLink.decode) members "externalLinks"⟩

end ComponentAtlas
