import ComponentAtlas.Charset.Lowercase
import ComponentAtlas.Charset.Word
import ComponentAtlas.Json.Decoding
import ComponentAtlas.Text.Pieces

/-! # Component identifiers

A component is named by four segments, written with colons between them: domain, module, type and
name. An identifier made from labels has segments in small letters with single hyphens for blanks
and colons; an identifier that is read may have any segments, as long as there are four of them and
none is empty. -/

namespace ComponentAtlas

/-- A component's identifier: its text, and the byte at which its last segment begins. -/
structure ComponentId where
  text : String
  nameStart : Nat
deriving DecidableEq, Repr

namespace ComponentId

/-- The labels that an identifier is made from. -/
structure Labels where
  domain : String
  module : String
  type : String
  name : String
deriving DecidableEq, Repr

/-- Blanks and colons separate the words of a label. -/
def separatesWords (c : Char) : Bool := Charset.isBlank c || c = ':'

/-- The words of a label. -/
def words (label : List Char) : List (List Char) :=
  (Text.pieces separatesWords label).filter (· ≠ [])

/-- The segment that a label becomes: its words in small letters with hyphens between them, and a
hyphen if there are none. -/
def segment (label : String) : List Char :=
  match Charset.lowercase (['-'].intercalate (words label.toList)) with
  | [] => ['-']
  | s => s

/-- The identifier made from labels. -/
def ofLabels (l : Labels) : ComponentId :=
  let front := segment l.domain ++ [':'] ++ segment l.module ++ [':'] ++ segment l.type ++ [':']
  ⟨String.ofList (front ++ segment l.name), Text.byteCount front⟩

/-- Four segments between colons, none of them empty. -/
def segments? (text : String) : Option (List (List Char)) :=
  let parts := Text.pieces (· = ':') text.toList
  if parts.length = 4 ∧ ∀ s ∈ parts, s ≠ [] then some parts else none

/-- The identifier that a text is, if it is one. -/
def ofText? (text : String) : Option ComponentId :=
  match segments? text with
  | some [_, _, _, name] => some ⟨text, Text.byteCount text.toList - Text.byteCount name⟩
  | _ => none

/-- The complaint about a text that is no identifier. -/
def complaint (text : String) : String :=
  "Invalid component ID format: '" ++ text ++ "'. Expected 'domain:module:type:name'"

/-- The identifier in a document. -/
def decode (v : Json) : Decoded ComponentId := do
  let text ← v.decodeString
  match ofText? text with
  | some id => return id
  | none => .error (.refused (complaint text))

/-- The document of an identifier. -/
def encode (id : ComponentId) : Json := .string id.text

/-- The last segment. -/
def name (id : ComponentId) : String := String.ofList (Text.dropBytes id.nameStart id.text.toList)

/-- Identifiers are ordered by their texts, then by where the last segment begins. -/
def precedes (a b : ComponentId) : Bool :=
  a.text < b.text || (a.text = b.text && a.nameStart < b.nameStart)

/-- Adds an identifier to ascending ones, unless it is among them. -/
def insert (id : ComponentId) : List ComponentId → List ComponentId
  | [] => [id]
  | other :: rest =>
    if id = other then other :: rest
    else if id.precedes other then id :: other :: rest
    else other :: insert id rest

/-- The identifiers in ascending order, each of them once. -/
def sort (ids : List ComponentId) : List ComponentId := ids.foldr insert []

end ComponentId

end ComponentAtlas
