import ComponentAtlas.Charset.Word
import ComponentAtlas.Graph.Basic
import ComponentAtlas.Graph.Violation
import ComponentAtlas.Text.Pieces

/-! # The graph schema

A document is checked as a whole, so that every fault in it is found at once, in the order of the
schema. Checks are put together from checks of parts: a check of a value tells what is wrong with
the value at a place, and a check of a member what is wrong with one member of an object there.

Whether components are repeated, lie in declared domains and are known to links is decided from what
the document gives as identifiers and as domains, whatever else is wrong with it. -/

namespace ComponentAtlas.Graph

namespace Schema

open Json

/-- The violations of a value at a place. -/
abbrev Check := Pointer → Json → List Violation

/-- The violations of one member of an object at a place. -/
abbrev MemberCheck := Pointer → List (String × Json) → List Violation

/-! ## Putting checks together -/

/-- A text that may have a fault. -/
def textWith (fault? : String → Option Cause) : Check
  | place, .string s => ((fault? s).map fun cause => ⟨place, cause⟩).toList
  | place, _ => [⟨place, .notString⟩]

/-- Any text. -/
def text : Check := textWith fun _ => none

/-- A text that is among those allowed. -/
def oneOf (allowed : List String) : Check :=
  textWith fun s => if allowed.contains s then none else some .notAllowed

/-- An object whose members are checked one after another. -/
def record (members : List MemberCheck) : Check
  | place, .object given => members.flatMap fun check => check place given
  | place, _ => [⟨place, .notObject⟩]

/-- An object with any keys, whose values are all checked alike. -/
def each (check : Check) : Check
  | place, .object given => given.flatMap fun m => check (place.member m.1) m.2
  | place, _ => [⟨place, .notObject⟩]

/-- Checks items in a list. A check is told the items before its own. -/
def checkItems (check : List Json → Check) (place : Pointer) (before : List Json) :
    List Json → List Violation
  | [] => []
  | v :: rest =>
    check before (place.item before.length) v ++ checkItems check place (before ++ [v]) rest

/-- A list whose items are all checked alike. -/
def list (check : List Json → Check) : Check
  | place, .array items => checkItems check place [] items
  | place, _ => [⟨place, .notArray⟩]

/-- A member that must be there. -/
def required (key : String) (check : Check) : MemberCheck := fun place given =>
  match memberOf? given key with
  | some v => check (place.member key) v
  | none => [⟨place, .missing key⟩]

/-- A member that may be there. -/
def optional (key : String) (check : Check) : MemberCheck := fun place given =>
  match memberOf? given key with
  | some v => check (place.member key) v
  | none => []

/-! ## What documents refer to -/

/-- The text under a key. -/
def textOf? (v : Json) (key : String) : Option String := (v.get? key).bind Json.string?

/-- The identifier that a component gives, if it is a proper one. -/
def idOf? (component : Json) : Option String :=
  (textOf? component "id").filter fun s => (ComponentId.ofText? s).isSome

/-- The identifiers that the components of a document give. -/
def identifiers (document : Json) : List String :=
  match document.get? "components" with
  | some (.array components) => components.filterMap idOf?
  | _ => []

/-- The names of the domains that a document declares, if it declares any. -/
def domainNames? (document : Json) : Option (List String) :=
  match (document.get? "metadata").bind (·.get? "domains") with
  | some (.object domains) => some (domains.map (·.1))
  | _ => none

/-! ## The schema -/

/-- A version is two runs of digits with a point between them. -/
def isVersion (s : String) : Bool :=
  match Text.pieces (· = '.') s.toList with
  | [major, minor] =>
    [major, minor].all fun digits =>
      !digits.isEmpty && digits.all Charset.digitRanges.has
  | _ => false

def version : Check := textWith fun s => if isVersion s then none else some .notVersion

def identifier : Check :=
  textWith fun s => if (ComponentId.ofText? s).isSome then none else some .notIdentifier

/-- A text that is among the identifiers of a document. -/
def reference (known : List String) : Check :=
  textWith fun s => if known.contains s then none else some (.unknownComponent s)

/-- A whole number from one up to the limit. -/
def lineNumber : Check
  | place, .number (.whole n) =>
    if n < 1 then [⟨place, .belowOne⟩]
    else if lineLimit < n then [⟨place, .aboveLimit⟩]
    else []
  | place, _ => [⟨place, .notInteger⟩]

def domain : Check :=
  record [required "description" text,
    required "systemType" (oneOf (SystemType.all.map (·.name)))]

def metadata : Check :=
  record [optional "name" text, optional "description" text, required "domains" (each domain)]

def sourceLocation : Check :=
  record [required "repository" text, required "filePath" text, optional "lineNumber" lineNumber]

/-- The members that a type of component has besides the common ones. -/
def detailsOf : ComponentType → List MemberCheck
  | .ui => [required "route" text]
  | .api =>
    [required "apiType" (oneOf (ApiType.all.map (·.name))),
      optional "httpMethod" (oneOf (HttpMethod.all.map (·.name))), optional "path" text]
  | .useCase => []
  | .domainOp => [required "operationName" text, optional "entity" text]
  | .event => [required "eventName" text]
  | .eventHandler => [required "subscribedEvents" (list fun _ => text)]
  | .custom => [required "customTypeName" text]

/-- The members that belong to the type which the object gives, if it gives one. -/
def details : MemberCheck := fun place given =>
  match (textOf? (.object given) "type").bind ComponentType.ofName? with
  | some type => (detailsOf type).flatMap fun check => check place given
  | none => []

/-- A proper identifier must not be one of the components before. -/
def unlike (before : List Json) : MemberCheck := fun place given =>
  match idOf? (.object given) with
  | some id =>
    if before.any fun other => idOf? other = some id then [⟨place.member "id", .repeatedId id⟩]
    else []
  | none => []

/-- The domain must be among the declared ones, if any are. -/
def declared (domains : Option (List String)) : MemberCheck := fun place given =>
  match textOf? (.object given) "domain", domains with
  | some name, some names =>
    if names.contains name then [] else [⟨place.member "domain", .undeclaredDomain name⟩]
  | _, _ => []

def component (domains : Option (List String)) (before : List Json) : Check :=
  record [required "id" identifier, required "name" text, required "domain" text,
    required "module" text, optional "description" text,
    required "sourceLocation" sourceLocation,
    required "type" (oneOf (ComponentType.all.map (·.name))), details, unlike before,
    declared domains]

def link (known : List String) : Check :=
  record [optional "id" text, optional "type" (oneOf (LinkType.all.map (·.name))),
    required "source" (reference known), required "target" (reference known)]

def externalTarget : Check :=
  record [required "name" text, optional "domain" text, optional "url" text]

def externalLink (known : List String) : Check :=
  record [optional "type" (oneOf (LinkType.all.map (·.name))),
    required "source" (reference known), required "target" externalTarget]

end Schema

open Schema in
/-- The violations of a document that should be a graph. -/
def check (document : Json) : List Violation :=
  let known := identifiers document
  record [required "version" Schema.version, required "metadata" Schema.metadata,
    required "components" (list (component (domainNames? document))),
    required "links" (list fun _ => link known),
    optional "externalLinks" (list fun _ => externalLink known)] [] document

end ComponentAtlas.Graph
