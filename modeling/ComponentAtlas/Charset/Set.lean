import ComponentAtlas.Charset.CaseMap
import ComponentAtlas.Charset.Category

/-! # Descriptions of character sets

A set is described by what it is made of: ranges, tables, and combinations of sets. Whether it
holds a character is decided part by part. -/

namespace ComponentAtlas.Charset

/-- A set of characters. -/
inductive CharSet where
  | empty
  | range (low high : Char)
  | table (ranges : Ranges)
  | union (a b : CharSet)
  | meet (a b : CharSet)
  | except (a b : CharSet)
  | differ (a b : CharSet)
  | complement (a : CharSet)
  /-- The set together with every character that differs in case only from one of its own. -/
  | folded (a : CharSet)
  /-- The set together with the other forms of its letters of ASCII. -/
  | plainFolded (a : CharSet)
deriving Repr

namespace CharSet

/-- The other form of a letter of ASCII. -/
def otherForm (n : Nat) : Nat :=
  if 65 ≤ n && n ≤ 90 then n + 32 else if 97 ≤ n && n ≤ 122 then n - 32 else n

/-- The set holds the code point. -/
def contains : CharSet → Nat → Bool
  | empty, _ => false
  | range low high, n => low.toNat ≤ n && n ≤ high.toNat
  | table ranges, n => ranges.contains n
  | union a b, n => a.contains n || b.contains n
  | meet a b, n => a.contains n && b.contains n
  | except a b, n => a.contains n && !b.contains n
  | differ a b, n => a.contains n != b.contains n
  | complement a, n => !a.contains n
  | folded a, n => a.contains n || (variants n).any a.contains
  | plainFolded a, n => a.contains n || a.contains (otherForm n)

/-- The set holds the character. -/
def has (s : CharSet) (c : Char) : Bool := s.contains c.toNat

/-- The set of one character. -/
def single (c : Char) : CharSet := range c c

/-- The characters of some categories. -/
def ofCategories (categories : List Category) : CharSet :=
  categories.foldr (fun k s => .union (.table k.ranges) s) .empty

/-- How many ranges the description speaks of; a measure of the room that the set takes. -/
def weight : CharSet → Nat
  | empty => 0
  | range _ _ => 1
  | table ranges => ranges.length
  | union a b | meet a b | except a b | differ a b => a.weight + b.weight
  | complement a => a.weight + 1
  | folded a => 2 * a.weight
  | plainFolded a => 2 * a.weight

end CharSet

end ComponentAtlas.Charset
