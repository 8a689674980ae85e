import ComponentAtlas.Config.Basic
import ComponentAtlas.Json.Decoding

/-! # Configurations from documents

Reading a typed configuration out of a document. Members that a type does not know are ignored,
except in rules. A record may also be given as the list of its members in order; a predicate's
record only where it stands in a rule. -/

namespace ComponentAtlas.Config

open Pattern Json

/-- Decodes the next item of a record that is given as a list. -/
def decodeNext {α : Type} (decode : Json → Decoded α) (length : Nat) (expected : String) :
    List Json → Decoded (α × List Json)
  | [] => .error (.wrongLength length expected)
  | v :: rest => do return (← decode v, rest)

/-- A record that is given as a list has no further items. -/
def decodeEnd (length : Nat) : List Json → Decoded Unit
  | [] => .ok ()
  | _ => .error (.wrongLength length "fewer elements in array")

def DecoratorNames.decode : Json → Decoded DecoratorNames
  | .string name => .ok (.one name)
  | v =>
    match decodeList decodeString v with
    | .ok names => .ok (.anyOf names)
    | .error _ => .error (.noVariant "DecoratorNames")

def decodePattern (v : Json) : Decoded NamePattern := do
  let text ← decodeString v
  match NamePattern.ofText text with
  | .ok p => return p
  | .error problem => .error (.refused (problem.message text))

/-- The kinds of predicate, as documents name them. -/
def predicateKinds : List String :=
  ["hasDecorator", "hasJSDoc", "extendsClass", "implementsInterface", "nameEndsWith",
    "nameMatches", "and", "or", "inClassWith"]

/-- Decodes the content of a predicate that is a record. -/
def decodeRecord {α : Type} (inRule : Bool) (ofMembers : List (String × Json) → Decoded α)
    (ofItems : List Json → Decoded α) : Option Json → Decoded α
  | none => .error (.wrongType .unitVariant "struct variant")
  | some (.object members) => ofMembers members
  | some (.array items) =>
    if inRule then ofItems items else .error (.wrongType .sequence "struct variant")
  | some v => v.mistyped "struct variant"

/-- Decodes the content of a predicate with one member. -/
def decodeSingle {α : Type} (inRule : Bool) (kind key : String) (decode : Json → Decoded α) :
    Option Json → Decoded α :=
  decodeRecord inRule
    (fun members => do require key (← decodeMember decode members key))
    (fun items => do
      let (a, rest) ← decodeNext decode 0 ("struct variant Predicate::" ++ kind) items
      decodeEnd items.length rest
      return a)

/-- Decodes the content of a test on decorators. -/
def decodeDecoratorTest (inRule : Bool) : Option Json → Decoded Predicate :=
  decodeRecord inRule
    (fun members => do
      let source ← decodeMember (decodeOption decodeString) members "from"
      let names ← decodeMember DecoratorNames.decode members "name"
      return .hasDecorator (← require "name" names) (source.getD none))
    (fun items => do
      let (names, rest) ←
        decodeNext DecoratorNames.decode 0 "struct variant Predicate::HasDecorator" items
      match rest with
      | [] => return .hasDecorator names none
      | v :: rest =>
        let source ← decodeOption decodeString v
        decodeEnd items.length rest
        return .hasDecorator names source)

/-- Decodes a predicate of any kind but the three that hold other predicates. -/
def decodePlain (inRule : Bool) (kind : String) (content : Option Json) : Decoded Predicate :=
  match kind with
  | "hasDecorator" => decodeDecoratorTest inRule content
  | "hasJSDoc" => (decodeSingle inRule "HasJsDoc" "tag" decodeString content).map .hasDocTag
  | "extendsClass" =>
    (decodeSingle inRule "ExtendsClass" "name" decodeString content).map .extendsClass
  | "implementsInterface" =>
    (decodeSingle inRule "ImplementsInterface" "name" decodeString content).map
      .implementsInterface
  | "nameEndsWith" =>
    (decodeSingle inRule "NameEndsWith" "suffix" decodeString content).map .nameEndsWith
  | "nameMatches" =>
    (decodeSingle inRule "NameMatches" "pattern" decodePattern content).map .nameMatches
  | _ => .error (.unknownVariant kind predicateKinds)

/-- The kinds of predicate that hold other predicates. -/
def holdsPredicates (kind : String) : Bool := kind = "and" || kind = "or" || kind = "inClassWith"

mutual

/-- Decodes a predicate; `inRule` tells that it stands in a rule. -/
def Predicate.decode (inRule : Bool) : Json → Decoded Predicate
  | .string kind =>
    if holdsPredicates kind then .error (.wrongType .unitVariant "newtype variant")
    else decodePlain inRule kind none
  | .object [(kind, content)] =>
    if kind = "inClassWith" then (Predicate.decode inRule content).map .inClassWith
    else if kind = "and" || kind = "or" then
      match content with
      | .array items =>
        (Predicate.decodeAll inRule items).map (if kind = "and" then .all else .any)
      | v => v.mistyped "a sequence"
    else decodePlain inRule kind (some content)
  | .object _ => .error (.wrongValue .map "map with a single key")
  | v => v.mistyped "string or map"

def Predicate.decodeAll (inRule : Bool) : List Json → Decoded (List Predicate)
  | [] => .ok []
  | v :: rest => do
    let p ← Predicate.decode inRule v
    let more ← Predicate.decodeAll inRule rest
    return p :: more

end

/-- Decodes the sort of declaration that a rule looks for. -/
def decodeFind : Json → Decoded Source.DeclarationKind :=
  decodeName Source.DeclarationKind.ofPlural? (Source.DeclarationKind.all.map (·.plural))

def decodeFlag : Json → Decoded Bool
  | .bool b => .ok b
  | v => v.mistyped "a boolean"

/-- No member has a key other than these. -/
def onlyKeys (keys : List String) (members : List (String × Json)) : Bool :=
  members.all fun m => keys.contains m.1

/-- The rule that marks a slot as not used, if the document is one. -/
def Rule.notUsed? : Json → Option Rule
  | .object members =>
    if onlyKeys ["notUsed"] members then
      match decodeMember decodeFlag members "notUsed" with
      | .ok (some flag) => some (.notUsed flag)
      | _ => none
    else none
  | .array [v] =>
    match decodeFlag v with
    | .ok flag => some (.notUsed flag)
    | .error _ => none
  | _ => none

/-- The detection rule of a sort and a test, if both can be read. -/
def Rule.ofParts? (find test : Json) : Option Rule :=
  match decodeFind find, Predicate.decode true test with
  | .ok find, .ok test => some (.detect find test)
  | _, _ => none

/-- The detection rule that a document is, if it is one. -/
def Rule.detect? : Json → Option Rule
  | .object members =>
    if onlyKeys ["find", "where"] members then
      match memberOf? members "find", memberOf? members "where" with
      | some find, some test => ofParts? find test
      | _, _ => none
    else none
  | .array [find, test] => ofParts? find test
  | _ => none

def Rule.decode (v : Json) : Decoded Rule :=
  match (notUsed? v).or (detect? v) with
  | some rule => .ok rule
  | none => .error (.noVariant "ComponentRule")

def Module.decodeMembers (members : List (String × Json)) : Decoded Module := do
  let api ← decodeMember Rule.decode members "api"
  let domainOp ← decodeMember Rule.decode members "domainOp"
  let event ← decodeMember Rule.decode members "event"
  let eventHandler ← decodeMember Rule.decode members "eventHandler"
  let name ← decodeMember decodeString members "name"
  let path ← decodeMember decodeString members "path"
  let ui ← decodeMember Rule.decode members "ui"
  let useCase ← decodeMember Rule.decode members "useCase"
  let name ← require "name" name
  let path ← require "path" path
  let api ← require "api" api
  let useCase ← require "useCase" useCase
  let domainOp ← require "domainOp" domainOp
  let event ← require "event" event
  let eventHandler ← require "eventHandler" eventHandler
  let ui ← require "ui" ui
  return ⟨name, path, api, useCase, domainOp, event, eventHandler, ui⟩

def Module.decodeItems (items : List Json) : Decoded Module := do
  let expected := "struct Module with 8 elements"
  let (name, rest) ← decodeNext decodeString 0 expected items
  let (path, rest) ← decodeNext decodeString 1 expected rest
  let (api, rest) ← decodeNext Rule.decode 2 expected rest
  let (useCase, rest) ← decodeNext Rule.decode 3 expected rest
  let (domainOp, rest) ← decodeNext Rule.decode 4 expected rest
  let (event, rest) ← decodeNext Rule.decode 5 expected rest
  let (eventHandler, rest) ← decodeNext Rule.decode 6 expected rest
  let (ui, rest) ← decodeNext Rule.decode 7 expected rest
  decodeEnd items.length rest
  return ⟨name, path, api, useCase, domainOp, event, eventHandler, ui⟩

def Module.decode : Json → Decoded Module
  | .object members => decodeMembers members
  | .array items => decodeItems items
  | v => v.mistyped "struct Module"

/-- Decodes the slot that a text names. -/
def decodeSlot : Json → Decoded Slot := decodeName Slot.ofKey? (Slot.all.map (·.key))

end ComponentAtlas.Config

namespace ComponentAtlas

open Json in
/-- Decodes a configuration. -/
def Config.decode : Json → Decoded Config
  | .object members => do
    let schema ← decodeMember (decodeOption decodeString) members "$schema"
    let modules ← decodeMember (decodeList Config.Module.decode) members "modules"
    return ⟨schema.getD none, ← require "modules" modules⟩
  | .array [] => .error (.wrongLength 1 "struct ExtractionConfig with 2 elements")
  | .array (first :: rest) => do
    let schema ← decodeOption decodeString first
    let (modules, more) ← Config.decodeNext (decodeList Config.Module.decode) 1
      "struct ExtractionConfig with 2 elements" rest
    Config.decodeEnd (rest.length + 1) more
    return ⟨schema, modules⟩
  | v => v.mistyped "struct ExtractionConfig"

end ComponentAtlas
