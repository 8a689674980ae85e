import ComponentAtlas.Config.Encoding
import ComponentAtlas.Config.Decoding
import ComponentAtlas.Glob
import ComponentAtlas.Json.Pointer

/-! # Checking configurations

A document is checked as a whole, so that every fault in it is found at once. A fault is a cause at
a place in the document. A document without faults is a configuration. -/

namespace ComponentAtlas.Config

open Json

/-- What can be wrong with a document that should be a configuration. -/
inductive Cause where
  | notObject
  | notArray
  | notString
  | missing (key : String)
  | additional (key : String)
  /-- The text consists of blanks. -/
  | blank
  /-- There is no text, or an empty one. -/
  | emptyText
  | colonInName (name : String)
  | repeatedName (name : String)
  | badGlob (text : String) (fault : Glob.Fault)
  | badPattern (text : String) (problem : Pattern.Problem)
  | notTrue
  | notUsedWithMore
  | unknownFind
  | predicateNotObject
  | predicateNotSingle
  | unknownPredicate (kind : String)
  | badDecoratorNames
  | noPredicates (kind : String)
deriving DecidableEq, Repr

namespace Cause

/-- The kinds of predicate as messages list them. -/
def kinds : String := ", ".intercalate predicateKinds

def message : Cause → String
  | notObject => "must be an object"
  | notArray => "must be an array"
  | notString => "must be a string"
  | missing key => "must have required property '" ++ key ++ "'"
  | additional key => "must NOT have additional property '" ++ key ++ "'"
  | blank | emptyText => "must be a non-empty string"
  | colonInName name =>
    "module name '" ++ name ++ "' must not contain ':' (it is a component ID segment)"
  | repeatedName name => "duplicate module name '" ++ name ++ "'"
  | badGlob text fault => Glob.complaint text fault
  | badPattern text problem => "invalid regular expression: " ++ problem.message text
  | notTrue => "must be equal to constant true"
  | notUsedWithMore => "a notUsed rule must not carry 'find' or 'where'"
  | unknownFind =>
    "must be equal to one of the allowed values: " ++
      ", ".intercalate (Source.DeclarationKind.all.map (·.plural))
  | predicateNotObject => "predicate must be an object"
  | predicateNotSingle => "predicate must have exactly one of: " ++ kinds
  | unknownPredicate kind => "unknown predicate '" ++ kind ++ "'; expected one of: " ++ kinds
  | badDecoratorNames => "must be a non-empty string or a non-empty array of non-empty strings"
  | noPredicates kind => "'" ++ kind ++ "' must contain at least one predicate"

end Cause

/-- A cause at a place. -/
structure Violation where
  place : Pointer
  cause : Cause
deriving DecidableEq, Repr

/-- The place and the cause as one line. -/
def Violation.text (v : Violation) : String := v.place.text ++ ": " ++ v.cause.message

/-- The members that are not among the known ones, each a violation at the object. -/
def additionalMembers (known : List String) (place : Pointer) (members : List (String × Json)) :
    List Violation :=
  (members.filter fun m => !known.contains m.1).map fun m => ⟨place, .additional m.1⟩

/-- A member that must be a text other than the empty one. -/
def checkText (key : String) (place : Pointer) (members : List (String × Json)) :
    List Violation :=
  match memberOf? members key with
  | some (.string s) => if s = "" then [⟨place.member key, .emptyText⟩] else []
  | some _ => [⟨place.member key, .emptyText⟩]
  | none => [⟨place, .missing key⟩]

/-- An object whose only member is a text other than the empty one. -/
def checkTextRecord (key : String) (place : Pointer) : Json → List Violation
  | .object members => checkText key place members ++ additionalMembers [key] place members
  | _ => [⟨place, .notObject⟩]

/-- The value is a text other than the empty one. -/
def isText : Json → Bool
  | .string s => s != ""
  | _ => false

/-- The value names decorators: one, or some of them. -/
def isDecoratorNames : Json → Bool
  | .array items => !items.isEmpty && items.all isText
  | v => isText v

/-- The object of a test on decorators. -/
def checkDecoratorTest (place : Pointer) : Json → List Violation
  | .object members =>
    (match memberOf? members "name" with
      | some v => if isDecoratorNames v then [] else [⟨place.member "name", .badDecoratorNames⟩]
      | none => [⟨place, .missing "name"⟩]) ++
    (match memberOf? members "from" with
      | some v => if isText v then [] else [⟨place.member "from", .emptyText⟩]
      | none => []) ++
    additionalMembers ["name", "from"] place members
  | _ => [⟨place, .notObject⟩]

/-- The pattern of a test on names, if there is one that is a text, must compile. -/
def checkPattern (place : Pointer) (body : Json) : List Violation :=
  match body.get? "pattern" with
  | some (.string text) =>
    match Pattern.compile text with
    | .ok _ => []
    | .error problem => [⟨place.member "pattern", .badPattern text problem⟩]
  | _ => []

/-- A predicate of any kind but the three that hold other predicates. `place` is where the
predicate stands. -/
def checkPlain (place : Pointer) (kind : String) (body : Json) : List Violation :=
  let inside := place.member kind
  match kind with
  | "hasDecorator" => checkDecoratorTest inside body
  | "hasJSDoc" => checkTextRecord "tag" inside body
  | "extendsClass" | "implementsInterface" => checkTextRecord "name" inside body
  | "nameEndsWith" => checkTextRecord "suffix" inside body
  | "nameMatches" => checkTextRecord "pattern" inside body ++ checkPattern inside body
  | _ => [⟨place, .unknownPredicate kind⟩]

mutual

/-- The violations of a document that should be a predicate. -/
def checkPredicate (place : Pointer) : Json → List Violation
  | .object [(kind, body)] =>
    let inside := place.member kind
    if kind = "inClassWith" then checkPredicate inside body
    else if kind = "and" || kind = "or" then
      match body with
      | .array [] => [⟨inside, .noPredicates kind⟩]
      | .array items => checkPredicates inside 0 items
      | _ => [⟨inside, .notArray⟩]
    else checkPlain place kind body
  | .object _ => [⟨place, .predicateNotSingle⟩]
  | _ => [⟨place, .predicateNotObject⟩]

/-- The violations of predicates in a list, the first of which has the index given. -/
def checkPredicates (place : Pointer) (index : Nat) : List Json → List Violation
  | [] => []
  | v :: rest => checkPredicate (place.item index) v ++ checkPredicates place (index + 1) rest

end

/-- The violations of a document that should be a rule. -/
def checkRule (place : Pointer) : Json → List Violation
  | .object members =>
    match memberOf? members "notUsed" with
    | some flag =>
      (match flag with
        | .bool true => []
        | _ => [⟨place.member "notUsed", .notTrue⟩]) ++
      (if 1 < members.length then [⟨place, .notUsedWithMore⟩] else [])
    | none =>
      (match memberOf? members "find" with
        | some (.string s) =>
          if (Source.DeclarationKind.ofPlural? s).isSome then []
          else [⟨place.member "find", .unknownFind⟩]
        | some _ => [⟨place.member "find", .unknownFind⟩]
        | none => [⟨place, .missing "find"⟩]) ++
      (match memberOf? members "where" with
        | some test => checkPredicate (place.member "where") test
        | none => [⟨place, .missing "where"⟩]) ++
      additionalMembers ["find", "where"] place members
  | _ => [⟨place, .notObject⟩]

/-- The text of a member that must be a text with more than blanks, or what is wrong with it. -/
def requireText (key : String) (place : Pointer) (members : List (String × Json)) :
    Except Violation String :=
  match memberOf? members key with
  | some (.string s) =>
    if s.toList.all Charset.isBlank then .error ⟨place.member key, .blank⟩ else .ok s
  | some _ => .error ⟨place.member key, .notString⟩
  | none => .error ⟨place, .missing key⟩

/-- The keys of a module. -/
def moduleKeys : List String := ["name", "path"] ++ Slot.all.map (·.key)

/-- The violations of a module's name among the names of the modules before it. -/
def checkName (before : List String) (place : Pointer) (members : List (String × Json)) :
    List Violation :=
  match requireText "name" place members with
  | .error v => [v]
  | .ok name =>
    (if name.toList.contains ':' then [⟨place.member "name", .colonInName name⟩] else []) ++
    (if before.contains name then [⟨place.member "name", .repeatedName name⟩] else [])

/-- The violations of a module's glob. -/
def checkGlob (place : Pointer) (members : List (String × Json)) : List Violation :=
  match requireText "path" place members with
  | .error v => [v]
  | .ok text =>
    match Glob.read text with
    | .ok _ => []
    | .error fault => [⟨place.member "path", .badGlob text fault⟩]

/-- The violations of the rule in a slot. -/
def checkSlot (place : Pointer) (members : List (String × Json)) (slot : Slot) :
    List Violation :=
  match memberOf? members slot.key with
  | some rule => checkRule (place.member slot.key) rule
  | none => [⟨place, .missing slot.key⟩]

/-- The violations of a document that should be a module. -/
def checkModule (before : List String) (place : Pointer) : Json → List Violation
  | .object members =>
    additionalMembers moduleKeys place members ++ checkName before place members ++
      checkGlob place members ++ Slot.all.flatMap (checkSlot place members)
  | _ => [⟨place, .notObject⟩]

/-- The name by which later modules must not be called, if the document gives one. -/
def nameOf? (v : Json) : Option String :=
  match v with
  | .object members => (requireText "name" [] members).toOption
  | _ => none

/-- The violations of modules in a list, the first of which has the index given and stands behind
modules with certain names. -/
def checkModules (before : List String) (index : Nat) : List Json → List Violation
  | [] => []
  | v :: rest =>
    checkModule before [.key "modules", .index index] v ++
      checkModules (before ++ (nameOf? v).toList) (index + 1) rest

/-- The violations of a document that should be a configuration. -/
def check : Json → List Violation
  | .object members =>
    match memberOf? members "modules" with
    | some (.array modules) => checkModules [] 0 modules
    | some _ => [⟨[.key "modules"], .notArray⟩]
    | none => [⟨[], .missing "modules"⟩]
  | _ => [⟨[], .notObject⟩]

/-- The violations of a configuration. -/
def violations (c : Config) : List Violation := check c.encode

end ComponentAtlas.Config
