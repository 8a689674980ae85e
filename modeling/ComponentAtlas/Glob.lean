import ComponentAtlas.Path

/-! # Globs

A glob selects paths. A question mark and a bracketed set stand for one character, one star for any
characters, all within a component; two stars, alone between slashes, stand for any number of
components. -/

namespace ComponentAtlas

/-- A range of characters, both ends included. -/
abbrev CharRange := Char × Char

/-- A part of a glob. -/
inductive GlobToken where
  | exactly (c : Char)
  | anyOne
  | oneOf (ranges : List CharRange)
  | noneOf (ranges : List CharRange)
  | star
  /-- Two stars, with the slash behind them. -/
  | deep
deriving DecidableEq, Repr

/-- A glob: its parts in order. -/
structure Glob where
  tokens : List GlobToken
deriving DecidableEq, Repr

namespace Glob

/-- Why a text is no glob. -/
inductive Cause where
  | tooManyStars
  | starsInComponent
  | badSet
deriving DecidableEq, Repr

/-- A cause and the number of characters in front of where it shows. -/
structure Fault where
  cause : Cause
  position : Nat
deriving DecidableEq, Repr

/-- The wording of a fault. -/
def Fault.message (f : Fault) : String :=
  "Pattern syntax error near position " ++ toString f.position ++ ": " ++
    match f.cause with
    | .tooManyStars => "wildcards are either regular `*` or recursive `**`"
    | .starsInComponent => "recursive wildcards must form a single path component"
    | .badSet => "invalid range pattern"

/-- The ranges that the inside of a bracketed set lists. -/
def ranges : List Char → List CharRange
  | a :: '-' :: b :: rest => (a, b) :: ranges rest
  | a :: rest => (a, a) :: ranges rest
  | [] => []

/-- The inside of a bracketed set, at least one character long, and its length. -/
def inside? : List Char → Option (List Char × Nat)
  | [] => none
  | first :: rest =>
    let more := rest.takeWhile (· != ']')
    if more.length < rest.length then some (first :: more, more.length + 1) else none

/-- Reads a bracketed set behind its opening bracket: the part and its length with both
brackets. -/
def bracketed? : List Char → Option (GlobToken × Nat)
  | '!' :: rest => (inside? rest).map fun (s, n) => (.noneOf (ranges s), n + 3)
  | rest => (inside? rest).map fun (s, n) => (.oneOf (ranges s), n + 2)

/-- Reads stars, `count` of them standing at `position` behind `previous` and in front of `rest`:
the part and how many characters it takes. -/
def stars (position : Nat) (previous : Option Char) (count : Nat) (rest : List Char) :
    Except Fault (GlobToken × Nat) :=
  if 2 < count then .error ⟨.tooManyStars, position + 2⟩
  else if count = 2 then
    if previous = none || previous = some '/' then
      match rest with
      | [] => .ok (.deep, 2)
      | '/' :: _ => .ok (.deep, 3)
      | _ => .error ⟨.starsInComponent, position + 2⟩
    else .error ⟨.starsInComponent, position - 1⟩
  else .ok (.star, 1)

/-- Reads the part that begins with `c`. -/
def token (position : Nat) (previous : Option Char) (c : Char) (rest : List Char) :
    Except Fault (GlobToken × Nat) :=
  if c = '?' then .ok (.anyOne, 1)
  else if c = '*' then
    let more := rest.takeWhile (· = '*')
    stars position previous (more.length + 1) (rest.dropWhile (· = '*'))
  else if c = '[' then
    match bracketed? rest with
    | some found => .ok found
    | none => .error ⟨.badSet, position⟩
  else .ok (.exactly c, 1)

/-- Adds a part to those before it, the last one first. Stars over components directly behind such
stars say nothing new, except behind the very first part. -/
def push (t : GlobToken) (before : List GlobToken) : List GlobToken :=
  if t = .deep && before.head? = some .deep && 1 < before.length then before else t :: before

/-- Reads parts up to the end; the first argument bounds their number. -/
def readTokens : Nat → Nat → Option Char → List GlobToken → List Char →
    Except Fault (List GlobToken)
  | 0, _, _, before, _ => .ok before.reverse
  | _, _, _, before, [] => .ok before.reverse
  | fuel + 1, position, previous, before, c :: rest => do
    let (t, length) ← token position previous c rest
    let taken := (c :: rest).take length
    readTokens fuel (position + length) taken.getLast? (push t before) ((c :: rest).drop length)

/-- Reads a glob. -/
def read (text : String) : Except Fault Glob :=
  (readTokens text.length 0 none [] text.toList).map Glob.mk

/-- The complaint about a text that is no glob. -/
def complaint (text : String) (f : Fault) : String :=
  "invalid glob pattern '" ++ text ++ "': " ++ f.message

/-- The character lies in one of the ranges. -/
def inRanges (ranges : List CharRange) (c : Char) : Bool :=
  ranges.any fun (low, high) => low ≤ c && c ≤ high

/-- Some end of the text that begins behind a slash passes the test. -/
def anyBehindSlash (test : List Char → Bool) : List Char → Bool
  | [] => false
  | c :: rest => (c = '/' && test rest) || anyBehindSlash test rest

/-- The text without some characters in front, none of them a slash, passes the test. -/
def anyInComponent (test : List Char → Bool) : List Char → Bool
  | [] => test []
  | c :: rest => test (c :: rest) || (c != '/' && anyInComponent test rest)

/-- The parts describe the text as a whole. -/
def matchTokens : List GlobToken → List Char → Bool
  | [], s => s.isEmpty
  | .star :: more, s => anyInComponent (matchTokens more) s
  | .deep :: more, s =>
    matchTokens more s || anyBehindSlash (matchTokens more) s || matchTokens more []
  | .exactly d :: more, c :: rest => c = d && matchTokens more rest
  | .anyOne :: more, c :: rest => c != '/' && matchTokens more rest
  | .oneOf ranges :: more, c :: rest => c != '/' && inRanges ranges c && matchTokens more rest
  | .noneOf ranges :: more, c :: rest =>
    c != '/' && !inRanges ranges c && matchTokens more rest
  | _ :: _, [] => false

/-- The glob selects the path, whichever way its separators are written. -/
def selects (g : Glob) (path : String) : Bool :=
  matchTokens g.tokens (Path.normalize path).toList

end Glob

end ComponentAtlas
