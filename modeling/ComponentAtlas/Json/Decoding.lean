import ComponentAtlas.Json.Number
import ComponentAtlas.Text.Quoted

/-! # Decoding values

Reading a typed value out of a document stops at the first thing that does not fit. This module
holds what such a thing can be, how it is worded, and the readings that several types share. -/

namespace ComponentAtlas

/-- What a decoding met where something else was expected. -/
inductive Unexpected where
  | null
  | bool (b : Bool)
  | number (n : JsonNumber)
  | string (s : String)
  | sequence
  | map
  /-- A variant without content. -/
  | unitVariant
deriving DecidableEq, Repr

namespace Unexpected

/-- The value, as far as messages tell. -/
def ofJson : Json → Unexpected
  | .null => null
  | .bool b => bool b
  | .number n => number n
  | .string s => string s
  | .array _ => sequence
  | .object _ => map

def text : Unexpected → String
  | null => "null"
  | bool b => "boolean `" ++ (if b then "true" else "false") ++ "`"
  | number (.whole n) => "integer `" ++ toString n ++ "`"
  | number (.real bits) => "floating point `" ++ JsonNumber.realText bits ++ "`"
  | string s => "string " ++ Text.quoted s
  | sequence => "sequence"
  | map => "map"
  | unitVariant => "unit variant"

end Unexpected

/-- The first thing in a document that does not fit a type. -/
inductive DecodeError where
  | wrongType (found : Unexpected) (expected : String)
  | wrongValue (found : Unexpected) (expected : String)
  | wrongLength (length : Nat) (expected : String)
  | missingField (name : String)
  | unknownField (name : String)
  | unknownVariant (name : String) (known : List String)
  /-- No form of a type fits. -/
  | noVariant (type : String)
  /-- The value has the right form and is refused for another reason. -/
  | refused (message : String)
deriving DecidableEq, Repr

namespace DecodeError

/-- Names in backquotes, as messages list what is expected. -/
def listing : List String → String
  | [] => "there are no variants"
  | [a] => "`" ++ a ++ "`"
  | [a, b] => "`" ++ a ++ "` or `" ++ b ++ "`"
  | names => "one of " ++ ", ".intercalate (names.map fun n => "`" ++ n ++ "`")

def message : DecodeError → String
  | wrongType found expected => "invalid type: " ++ found.text ++ ", expected " ++ expected
  | wrongValue found expected => "invalid value: " ++ found.text ++ ", expected " ++ expected
  | wrongLength length expected =>
    "invalid length " ++ toString length ++ ", expected " ++ expected
  | missingField name => "missing field `" ++ name ++ "`"
  | unknownField name => "unknown field `" ++ name ++ "`"
  | unknownVariant name known => "unknown variant `" ++ name ++ "`, expected " ++
    (if known = [] then "there are no variants" else listing known)
  | noVariant type => "data did not match any variant of untagged enum " ++ type
  | refused message => message

end DecodeError

/-- The outcome of reading a typed value. -/
abbrev Decoded (α : Type) := Except DecodeError α

namespace Json

/-- The value is of another type than expected. -/
def mistyped {α : Type} (v : Json) (expected : String) : Decoded α :=
  .error (.wrongType (.ofJson v) expected)

def decodeString : Json → Decoded String
  | string s => .ok s
  | v => v.mistyped "a string"

/-- Null stands for no value. -/
def decodeOption {α : Type} (decode : Json → Decoded α) : Json → Decoded (Option α)
  | null => .ok none
  | v => (decode v).map some

/-- Decodes items in order, up to the first that does not fit. -/
def decodeItems {α : Type} (decode : Json → Decoded α) : List Json → Decoded (List α)
  | [] => .ok []
  | v :: rest => do
    let a ← decode v
    let more ← decodeItems decode rest
    return a :: more

def decodeList {α : Type} (decode : Json → Decoded α) : Json → Decoded (List α)
  | array items => decodeItems decode items
  | v => v.mistyped "a sequence"

/-- Decodes a member if it is there. -/
def decodeMember {α : Type} (decode : Json → Decoded α) (members : List (String × Json))
    (key : String) : Decoded (Option α) :=
  match memberOf? members key with
  | none => .ok none
  | some v => (decode v).map some

/-- The member must be there. -/
def require {α : Type} (key : String) : Option α → Decoded α
  | some a => .ok a
  | none => .error (.missingField key)

/-- The name of a variant and its content, where there is one. -/
def variant? : Json → Decoded (String × Option Json)
  | string name => .ok (name, none)
  | object [(name, content)] => .ok (name, some content)
  | object _ => .error (.wrongValue .map "map with a single key")
  | v => v.mistyped "string or map"

/-- Decodes a variant without content. It may be given null as its content. -/
def decodeName {α : Type} (ofName? : String → Option α) (known : List String) (v : Json) :
    Decoded α := do
  let (name, content) ← v.variant?
  match ofName? name with
  | none => .error (.unknownVariant name known)
  | some a =>
    match content with
    | none | some null => return a
    | some other => other.mistyped "unit"

end Json

end ComponentAtlas
