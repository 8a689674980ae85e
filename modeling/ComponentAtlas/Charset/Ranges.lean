/-! # Sets of characters

A set of characters is a list of code point ranges, ascending and apart from each other. Tables
are written as text: hexadecimal code points, a hyphen between the ends of a range, `/2` behind a
range of which every second code point belongs to the set, blanks or line ends between ranges. -/

namespace ComponentAtlas.Charset

/-- A set of code points as ascending ranges, both ends included. -/
abbrev Ranges := List (Nat × Nat)

/-- The set holds the code point. The search ends at the first range beyond it. -/
def Ranges.contains : Ranges → Nat → Bool
  | [], _ => false
  | (low, high) :: rest, c => if c < low then false else c ≤ high || Ranges.contains rest c

/-- The set holds the character. -/
def Ranges.has (set : Ranges) (c : Char) : Bool := set.contains c.toNat

/-- The value of a hexadecimal digit. -/
def hexValue (c : Char) : Nat :=
  if c.isDigit then c.toNat - '0'.toNat
  else if 'a' ≤ c && c ≤ 'f' then c.toNat - 'a'.toNat + 10
  else if 'A' ≤ c && c ≤ 'F' then c.toNat - 'A'.toNat + 10
  else 0

/-- The character is a hexadecimal digit. -/
def isHexDigit (c : Char) : Bool :=
  c.isDigit || ('a' ≤ c && c ≤ 'f') || ('A' ≤ c && c ≤ 'F')

/-- The value of hexadecimal digits. -/
def hexNumber (digits : List Char) : Nat := digits.foldl (fun n c => 16 * n + hexValue c) 0

/-- Every second code point between two. -/
def everyOther (low high : Nat) : Ranges :=
  (List.range ((high - low) / 2 + 1)).map fun i => (low + 2 * i, low + 2 * i)

/-- The ranges that one entry of a table stands for. -/
def ofEntry (entry : List Char) : Ranges :=
  let low := hexNumber (entry.takeWhile isHexDigit)
  match entry.dropWhile isHexDigit with
  | '-' :: rest =>
    let high := hexNumber (rest.takeWhile isHexDigit)
    if rest.any (· = '/') then everyOther low high else [(low, high)]
  | _ => [(low, low)]

/-- Reads a table; `entry` holds the characters of the entry begun, the last one first. -/
def readRanges (entry : List Char) : List Char → Ranges
  | [] => if entry = [] then [] else ofEntry entry.reverse
  | c :: rest =>
    if c = ' ' || c = '\n' then
      if entry = [] then readRanges [] rest else ofEntry entry.reverse ++ readRanges [] rest
    else readRanges (c :: entry) rest

/-- The set that a table describes. -/
def ofTable (table : String) : Ranges := readRanges [] table.toList

end ComponentAtlas.Charset
