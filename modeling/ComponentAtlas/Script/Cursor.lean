import ComponentAtlas.Tree.Node

/-! # Positions in a script source

A cursor stands between two characters of a source. Blanks and comments may stand before every
token; this module skips them and keeps the comments. -/

namespace ComponentAtlas.Script

open ComponentAtlas.Tree

/-- A position in a source: what is left to read, and how many characters and line feeds are
behind it. -/
structure Cursor where
  rest : List Char
  offset : Nat
  row : Nat
deriving Repr

namespace Cursor

def ofList (source : List Char) : Cursor := ⟨source, 0, 0⟩

/-- The cursor past the next character. -/
def next (c : Cursor) : Cursor :=
  match c.rest with
  | [] => c
  | a :: rest => ⟨rest, c.offset + 1, if a = '\n' then c.row + 1 else c.row⟩

/-- The cursor that many characters further on. -/
def advance (c : Cursor) : Nat → Cursor
  | 0 => c
  | n + 1 => c.next.advance n

/-- The text between a cursor and a later offset of the same source. -/
def textTo (c : Cursor) (stop : Nat) : String := String.ofList (c.rest.take (stop - c.offset))

end Cursor

/-- The characters that separate tokens. -/
def isSeparator (c : Char) : Bool :=
  match c with
  | ' ' | '\t' | '\n' | '\r' | '\x0b' | '\x0c' => true
  | '\u00a0' | '\u1680' | '\u2028' | '\u2029' | '\u202f' | '\u205f' | '\u3000' => true
  | '\u200b' | '\u2060' | '\ufeff' => true
  | _ => 0x2000 ≤ c.toNat && c.toNat ≤ 0x200a

/-- The six blank characters of ASCII. -/
def isPlainBlank (c : Char) : Bool :=
  c = ' ' || c = '\t' || c = '\n' || c = '\r' || c = '\x0b' || c = '\x0c'

/-- The characters that end a line comment. -/
def endsLine (c : Char) : Bool := c = '\n' || c = '\r' || c = '\u2028' || c = '\u2029'

/-- How many characters a block comment still has, its closing mark included. -/
def blockCommentTail? : List Char → Option Nat
  | [] => none
  | '*' :: '/' :: _ => some 2
  | _ :: rest => (blockCommentTail? rest).map (· + 1)

/-- The length of the comment that a text begins with. -/
def commentLength? : List Char → Option Nat
  | '/' :: '/' :: rest => some (2 + (rest.takeWhile (fun c => !endsLine c)).length)
  | '/' :: '*' :: rest => (blockCommentTail? rest).map (· + 2)
  | _ => none

namespace Cursor

/-- The cursor past the separators it stands before. -/
def skipBlanks (c : Cursor) : Cursor := c.advance (c.rest.takeWhile isSeparator).length

/-- The comment that comes next, separators apart, and the cursor behind it. -/
def comment? (c : Cursor) : Option (Node × Cursor) :=
  let here := c.skipBlanks
  (commentLength? here.rest).map fun length =>
    let after := here.advance length
    (.node .comment none (here.textTo after.offset) here.row [], after)

/-- Collects at most that many comments that stand before the next token. -/
def takeComments : Nat → Cursor → List Node × Cursor
  | 0, c => ([], c.skipBlanks)
  | n + 1, c =>
    match c.comment? with
    | none => ([], c.skipBlanks)
    | some (comment, after) =>
      let (more, token) := takeComments n after
      (comment :: more, token)

/-- The comments before the next token, and the cursor at that token. -/
def toToken (c : Cursor) : List Node × Cursor := takeComments c.rest.length c

end Cursor

end ComponentAtlas.Script
