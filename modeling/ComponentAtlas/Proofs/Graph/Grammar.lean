import ComponentAtlas.Charset.Word
import ComponentAtlas.ComponentId
import ComponentAtlas.ComponentType

/-! # The grammar of graphs

Which documents are graphs, said without the check that looks for faults in them:

* the forms of values: texts, one of some texts, versions, identifiers, line numbers, lists;
* the objects of a graph, each by the members that it must have and those that it may have;
* a component has the members that its type asks for besides the common ones;
* a graph is an object whose components have identifiers of their own and lie in domains that it
  declares, and whose links lead from and to components.

Members that are not spoken of may be there and hold anything. -/

namespace ComponentAtlas.Graph

open Json

/-! ## Forms of values -/

/-- Any text. -/
def IsText (v : Json) : Prop := ∃ s, v = .string s

/-- One of the texts. -/
def IsOneOf (texts : List String) (v : Json) : Prop := ∃ s, v = .string s ∧ s ∈ texts

/-- Decimal digits of any script, and at least one of them. -/
def AreDigits (digits : List Char) : Prop :=
  digits ≠ [] ∧ ∀ c ∈ digits, Charset.digitRanges.has c = true

/-- Two runs of digits with a point between them. -/
def IsVersionText (s : String) : Prop :=
  ∃ major minor, s.toList = major ++ '.' :: minor ∧ AreDigits major ∧ AreDigits minor

/-- The text of a version. -/
def IsVersion (v : Json) : Prop := ∃ s, v = .string s ∧ IsVersionText s

/-- A text that is read as an identifier. -/
def IsIdentifier (v : Json) : Prop := ∃ s, v = .string s ∧ (ComponentId.ofText? s).isSome

/-- A whole number of 32 bits other than zero. -/
def IsLineNumber (v : Json) : Prop := ∃ n : Nat, v = .int n ∧ 1 ≤ n ∧ n ≤ 4294967295

/-- A list of values of one form. -/
def IsListOf (form : Json → Prop) (v : Json) : Prop :=
  ∃ items, v = .array items ∧ ∀ item ∈ items, form item

/-! ## Members -/

/-- The member is there, and its value has the form. -/
def Has (key : String) (form : Json → Prop) (members : List (String × Json)) : Prop :=
  ∃ v, memberOf? members key = some v ∧ form v

/-- If the member is there, its value has the form. -/
def MayHave (key : String) (form : Json → Prop) (members : List (String × Json)) : Prop :=
  ∀ v, memberOf? members key = some v → form v

/-! ## Objects -/

/-- The documents of domains. -/
inductive IsDomain : Json → Prop
  | mk {members : List (String × Json)} (description : Has "description" IsText members)
      (systemType : Has "systemType" (IsOneOf ["domain", "bff", "ui", "other"]) members) :
      IsDomain (.object members)

/-- The documents of source locations. -/
inductive IsSourceLocation : Json → Prop
  | mk {members : List (String × Json)} (repository : Has "repository" IsText members)
      (filePath : Has "filePath" IsText members)
      (lineNumber : MayHave "lineNumber" IsLineNumber members) :
      IsSourceLocation (.object members)

/-- The members that a type of component asks for besides the common ones. -/
inductive HasDetails (members : List (String × Json)) : ComponentType → Prop
  | ui (route : Has "route" IsText members) : HasDetails members .ui
  | api (apiType : Has "apiType" (IsOneOf ["REST", "GraphQL", "other"]) members)
      (method : MayHave "httpMethod" (IsOneOf ["GET", "POST", "PUT", "PATCH", "DELETE"]) members)
      (path : MayHave "path" IsText members) : HasDetails members .api
  | useCase : HasDetails members .useCase
  | domainOp (operationName : Has "operationName" IsText members)
      (entity : MayHave "entity" IsText members) : HasDetails members .domainOp
  | event (eventName : Has "eventName" IsText members) : HasDetails members .event
  | eventHandler (subscribedEvents : Has "subscribedEvents" (IsListOf IsText) members) :
      HasDetails members .eventHandler
  | custom (customTypeName : Has "customTypeName" IsText members) : HasDetails members .custom

/-- The documents of components. -/
inductive IsComponent : Json → Prop
  | mk {members : List (String × Json)} {type : ComponentType} (id : Has "id" IsIdentifier members)
      (name : Has "name" IsText members) (domain : Has "domain" IsText members)
      (module : Has "module" IsText members) (description : MayHave "description" IsText members)
      (location : Has "sourceLocation" IsSourceLocation members)
      (typed : memberOf? members "type" = some (.string type.name))
      (details : HasDetails members type) : IsComponent (.object members)

/-- The documents of links. -/
inductive IsLink : Json → Prop
  | mk {members : List (String × Json)} (id : MayHave "id" IsText members)
      (type : MayHave "type" (IsOneOf ["sync", "async"]) members)
      (source : Has "source" IsText members) (target : Has "target" IsText members) :
      IsLink (.object members)

/-- The documents of the targets of external links. -/
inductive IsExternalTarget : Json → Prop
  | mk {members : List (String × Json)} (name : Has "name" IsText members)
      (domain : MayHave "domain" IsText members) (url : MayHave "url" IsText members) :
      IsExternalTarget (.object members)

/-- The documents of external links. -/
inductive IsExternalLink : Json → Prop
  | mk {members : List (String × Json)} (type : MayHave "type" (IsOneOf ["sync", "async"]) members)
      (source : Has "source" IsText members) (target : Has "target" IsExternalTarget members) :
      IsExternalLink (.object members)

/-! ## Graphs -/

/-- What stands under the key of a link is the identifier of one of the components. -/
def RefersTo (components : List Json) (key : String) (link : Json) : Prop :=
  ∃ component ∈ components, component.get? "id" = link.get? key

/-- The domain of a component is one of the keys. -/
def LiesIn (domains : List (String × Json)) (component : Json) : Prop :=
  ∃ name ∈ domains.map (·.1), component.get? "domain" = some (.string name)

/-- The documents of graphs. -/
inductive IsDocument : Json → Prop
  | mk {members metadata domains : List (String × Json)} {components links : List Json}
      (version : Has "version" IsVersion members)
      (described : memberOf? members "metadata" = some (.object metadata))
      (name : MayHave "name" IsText metadata) (description : MayHave "description" IsText metadata)
      (declared : memberOf? metadata "domains" = some (.object domains))
      (eachDomain : ∀ m ∈ domains, IsDomain m.2)
      (listed : memberOf? members "components" = some (.array components))
      (eachComponent : ∀ c ∈ components, IsComponent c)
      (linked : memberOf? members "links" = some (.array links))
      (eachLink : ∀ l ∈ links, IsLink l)
      (external : MayHave "externalLinks" (IsListOf IsExternalLink) members)
      (distinct : components.Pairwise fun a b => a.get? "id" ≠ b.get? "id")
      (placed : ∀ c ∈ components, LiesIn domains c)
      (known : ∀ l ∈ links, RefersTo components "source" l ∧ RefersTo components "target" l)
      (knownExternal : MayHave "externalLinks" (IsListOf (RefersTo components "source")) members) :
      IsDocument (.object members)

end ComponentAtlas.Graph
