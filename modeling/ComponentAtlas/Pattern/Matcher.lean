import ComponentAtlas.Charset.Set
import ComponentAtlas.Charset.Word

/-! # Matching

A matcher describes stretches of a text. It is run on all places of the text at once: from the
places where a stretch may begin, it tells the places where one may end. Places are marked by a
list of truth values with one more entry than the text has characters. -/

namespace ComponentAtlas.Pattern

open Charset

/-- Conditions on a place, told from the characters before and after it. -/
inductive Look where
  | textStart | textEnd
  | lineStart | lineEnd
  /-- Lines end with a line feed, a carriage return, or both in this order. -/
  | anyLineStart | anyLineEnd
  | boundary (unicode : Bool)
  | noBoundary (unicode : Bool)
  | wordStart (unicode : Bool)
  | wordEnd (unicode : Bool)
  | wordStartHalf (unicode : Bool)
  | wordEndHalf (unicode : Bool)
deriving DecidableEq, Repr

/-- Letters, digits and the underscore of ASCII. -/
def isPlainWord (c : Char) : Bool := c.isAlphanum || c = '_'

/-- There is a neighbour, and it may stand in a word. -/
def inWord (unicode : Bool) (neighbour : Option Char) : Bool :=
  neighbour.any fun c => if unicode then isWord c else isPlainWord c

/-- The condition holds between two neighbours. -/
def Look.holds (before after : Option Char) : Look → Bool
  | textStart => before = none
  | textEnd => after = none
  | lineStart => before = none || before = some '\n'
  | lineEnd => after = none || after = some '\n'
  | anyLineStart =>
    before = none || before = some '\n' || (before = some '\r' && after != some '\n')
  | anyLineEnd =>
    after = none || after = some '\r' || (after = some '\n' && before != some '\r')
  | boundary u => inWord u before != inWord u after
  | noBoundary u => inWord u before = inWord u after
  | wordStart u => !inWord u before && inWord u after
  | wordEnd u => inWord u before && !inWord u after
  | wordStartHalf u => !inWord u before
  | wordEndHalf u => !inWord u after

/-- What stretches look like. -/
inductive Matcher where
  | nothing
  | set (s : CharSet)
  | look (l : Look)
  | sequence (a b : Matcher)
  | either (a b : Matcher)
  /-- At least `least` rounds and, if a number is given, at most that many. -/
  | repeated (least : Nat) (most : Option Nat) (a : Matcher)
deriving Repr

/-- A mark at every place of a text, the end included. -/
abbrev Marks := List Bool

namespace Marks

/-- The places marked in either list. -/
def join (a b : Marks) : Marks := List.zipWith (· || ·) a b

/-- Some place is marked. -/
def any (m : Marks) : Bool := m.contains true

/-- The marks moved over one character of the set. -/
def move (s : CharSet) (text : List Char) (m : Marks) : Marks :=
  false :: List.zipWith (fun marked c => marked && s.has c) m text

/-- The marked places where a condition holds; `before` is the character in front of the text. -/
def keep (l : Look) (before : Option Char) : List Char → Marks → Marks
  | _, [] => []
  | text, marked :: rest =>
    (marked && l.holds before text.head?) :: keep l text.head? text.tail rest

/-- Takes a step a number of times, unless it changes nothing any more. -/
def iterate (step : Marks → Marks) : Nat → Marks → Marks
  | 0, m => m
  | n + 1, m =>
    let after := step m
    if after = m then m else iterate step n after

/-- The places reached by at most that many steps. `reached` are the places reached so far and
`m` those of the last step. -/
def reachable (step : Marks → Marks) : Nat → Marks → Marks → Marks
  | 0, reached, _ => reached
  | n + 1, reached, m =>
    let further := step m
    let joined := reached.join further
    if joined = reached then reached else reachable step n joined further

end Marks

namespace Matcher

/-- The places where a stretch that begins at a marked place may end. -/
def run (text : List Char) : Matcher → Marks → Marks
  | nothing, m => m
  | set s, m => m.move s text
  | look l, m => m.keep l none text
  | sequence a b, m => run text b (run text a m)
  | either a b, m => (run text a m).join (run text b m)
  | repeated least most a, m =>
    let start := Marks.iterate (run text a) least m
    let rounds := match most with
      | none => text.length + 1
      | some most => min (most - least) (text.length + 1)
    Marks.reachable (run text a) rounds start start

/-- Some stretch of the text is described. -/
def occursIn (a : Matcher) (text : List Char) : Bool :=
  (run text a (List.replicate (text.length + 1) true)).any

end Matcher

end ComponentAtlas.Pattern
