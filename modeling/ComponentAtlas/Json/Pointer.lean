import ComponentAtlas.Json.Basic

/-! # Pointers into documents

A pointer leads from a document to a value in it: by the key of a member or the index of an item at
each step. Written as text, every step is preceded by a slash, and tildes and slashes in keys are
written as `~0` and `~1`. -/

namespace ComponentAtlas

/-- One step from a value to a part of it. -/
inductive Step where
  | key (name : String)
  | index (n : Nat)
deriving DecidableEq, Repr

/-- The steps from a document to a value in it. -/
abbrev Pointer := List Step

namespace Step

/-- A character of a key as pointers write it. -/
def escape (c : Char) : List Char :=
  if c = '~' then ['~', '0'] else if c = '/' then ['~', '1'] else [c]

/-- The text of a step behind its slash. -/
def text : Step → String
  | key name => String.ofList (name.toList.flatMap escape)
  | index n => toString n

/-- The part of a value that a step leads to. -/
def of? : Step → Json → Option Json
  | key name, .object members => Json.memberOf? members name
  | index n, .array items => items[n]?
  | _, _ => none

end Step

namespace Pointer

/-- The text of a pointer; the document itself has the empty one. -/
def text (p : Pointer) : String := String.join (p.map fun s => "/" ++ s.text)

/-- The value that a pointer leads to. -/
def resolve? : Pointer → Json → Option Json
  | [], v => some v
  | s :: rest, v => (s.of? v).bind (resolve? rest)

/-- One more step, to a member. -/
def member (p : Pointer) (key : String) : Pointer := p ++ [.key key]

/-- One more step, to an item. -/
def item (p : Pointer) (n : Nat) : Pointer := p ++ [.index n]

end Pointer

end ComponentAtlas
