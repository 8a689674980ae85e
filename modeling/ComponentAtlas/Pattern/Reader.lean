import ComponentAtlas.Pattern.Expression
import ComponentAtlas.Charset.Property
import ComponentAtlas.Charset.Word

/-! # Reading name patterns

A pattern is read from left to right; the first fault ends the reading. With the flag `x`, blanks
and comments from `#` to the end of the line are skipped between the parts. -/

namespace ComponentAtlas.Pattern

open Charset

/-- What is left to read, the place reached, whether blanks are skipped, and the names of groups so
far with their stretches. -/
structure State where
  rest : List Char
  mark : Mark
  spaced : Bool
  names : List (String × Span)

namespace State

def ofText (text : String) : State := ⟨text.toList, ⟨1, 1⟩, false, []⟩

/-- The state past the next character. -/
def next (s : State) : State :=
  match s.rest with
  | [] => s
  | c :: rest => { s with rest := rest, mark := s.mark.after c }

/-- The state that many characters further on. -/
def advance (s : State) : Nat → State
  | 0 => s
  | n + 1 => s.next.advance n

/-- How many characters of blanks and comments stand in front; the flag tells whether a comment has
begun. -/
def spaceLength : Bool → List Char → Nat
  | _, [] => 0
  | true, c :: rest => 1 + spaceLength (c != '\n') rest
  | false, c :: rest =>
    if isBlank c then 1 + spaceLength false rest
    else if c = '#' then 1 + spaceLength true rest
    else 0

/-- The state past the blanks and comments that do not count. -/
def skipSpace (s : State) : State := if s.spaced then s.advance (spaceLength false s.rest) else s

/-- The state past the next character and what does not count behind it. -/
def step (s : State) : State := s.next.skipSpace

/-- The stretch from a place to where the reading is. -/
def since (s : State) (first : Mark) : Span := ⟨first, s.mark⟩

/-- The empty stretch at the next character. -/
def here (s : State) : Span := ⟨s.mark, s.mark⟩

/-- The stretch of the next character. -/
def atNext (s : State) : Span := ⟨s.mark, s.next.mark⟩

/-- The character behind the next one. Where blanks do not count they are passed over, and so is
the first `#`; if nothing else follows, the character right behind the next one counts after
all. -/
def second? (s : State) : Option Char :=
  let behind := s.rest.drop 1
  if s.spaced then
    let seen := match behind.dropWhile isBlank with
      | '#' :: more => more.dropWhile isBlank
      | all => all
    match seen with
    | [] => behind.head?
    | c :: _ => some c
  else behind.head?

/-- The state past a word that comes next. -/
def word? (s : State) (word : String) : Option State :=
  if word.toList.isPrefixOf s.rest then some (s.advance word.length) else none

end State

/-- The fault of a cause and a stretch. -/
def fault {α : Type} (cause : Cause) (span : Span) : Except Fault α := .error ⟨cause, span, none⟩

/-- Characters with a meaning of their own, which a backslash takes away. -/
def isMeta (c : Char) : Bool := "\\.+*?()|[]\x7b\x7d^$#&-~".toList.contains c

/-- Characters that stand for themselves behind a backslash. -/
def isEscapable (c : Char) : Bool :=
  isMeta c || (c.toNat < 128 && !c.isAlphanum && c != '<' && c != '>')

/-- The character of a code point. -/
def scalar? (n : Nat) : Option Char := if n.isValidChar then some (Char.ofNat n) else none

/-- A part that a single escape or character stands for. -/
inductive Part where
  | literal (l : Literal)
  | dot (span : Span)
  | assertion (span : Span) (kind : Assertion)
  | property (p : PropertyClass)
  | shorthand (s : Shorthand)

namespace Part

def span : Part → Span
  | literal l => l.span
  | dot s => s
  | assertion s _ => s
  | property p => p.span
  | shorthand s => s.span

def toExpression : Part → Expression
  | literal l => .literal l
  | dot s => .dot s
  | assertion s k => .assertion s k
  | property p => .property p
  | shorthand s => .shorthand s

/-- The part as a member of a bracketed class. -/
def toClassSet : Part → Except Fault ClassSet
  | literal l => .ok (.literal l)
  | property p => .ok (.property p)
  | shorthand s => .ok (.shorthand s)
  | other => fault .classEscape other.span

/-- The part as an end of a range. -/
def toLiteral : Part → Except Fault Literal
  | literal l => .ok l
  | other => fault .classRangeBoundary other.span

end Part

/-! ## Escapes -/

/-- Reads that many hexadecimal digits, the next character being the first. -/
def readDigits (s : State) : Nat → Except Fault (List Char × State)
  | 0 => .ok ([], s)
  | n + 1 =>
    match s.rest with
    | [] => fault .escapeUnfinished s.here
    | c :: _ =>
      if isHexDigit c then do
        let (more, s) ← readDigits s.step n
        return (c :: more, s)
      else fault .hexDigit s.atNext

/-- Reads hexadecimal digits up to a closing brace; the first argument bounds their number. -/
def readBracedDigits (opened : Mark) : Nat → State → Except Fault (List Char × State)
  | 0, s => fault .escapeUnfinished (s.since opened)
  | n + 1, s =>
    match s.rest with
    | [] => fault .escapeUnfinished (s.since opened)
    | c :: _ =>
      if c = '\x7d' then .ok ([], s)
      else if isHexDigit c then do
        let (more, s) ← readBracedDigits opened n s.step
        return (c :: more, s)
      else fault .hexDigit s.atNext

/-- Reads a character given by its code point: the state stands at the letter behind the
backslash, and `digits` is the number of digits where no braces are used. -/
def readHex (start : Mark) (digits : Nat) (s : State) : Except Fault (Part × State) := do
  let s := s.step
  match s.rest with
  | [] => fault .escapeUnfinished s.here
  | '\x7b' :: _ =>
    let opened := s.mark
    let inside := s.next.mark
    let (hex, s) ← readBracedDigits opened s.rest.length s.step
    let closed := s.mark
    let s := s.step
    if hex.isEmpty then fault .hexEmpty (s.since opened)
    else match scalar? (hexNumber hex) with
      | none => fault .hexNoScalar ⟨inside, closed⟩
      | some c => return (.literal ⟨s.since start, c, false⟩, s)
  | _ =>
    let inside := s.mark
    let (hex, s) ← readDigits s digits
    match scalar? (hexNumber hex) with
    | none => fault .hexNoScalar (s.since inside)
    | some c => return (.literal ⟨s.since start, c, digits = 2⟩, s)

/-- Reads up to a closing brace; the first argument bounds the length. -/
def readBracedName : Nat → State → Except Fault (List Char × State)
  | 0, s => fault .escapeUnfinished s.here
  | n + 1, s =>
    match s.rest with
    | [] => fault .escapeUnfinished s.here
    | c :: _ =>
      if c = '\x7d' then .ok ([], s)
      else do
        let (more, s) ← readBracedName n s.step
        return (c :: more, s)

/-- Splits a text at the first place where a word stands. -/
def splitAt? (word : List Char) : List Char → Option (String × String)
  | [] => none
  | c :: rest =>
    if word.isPrefixOf (c :: rest) then
      some ("", String.ofList ((c :: rest).drop word.length))
    else (splitAt? word rest).map fun (a, b) => (String.singleton c ++ a, b)

/-- What the text between the braces of a property escape asks for. -/
def propertyName (text : List Char) : PropertyName :=
  match (splitAt? ['!', '='] text).or ((splitAt? [':'] text).or (splitAt? ['='] text)) with
  | some (name, value) => .valued name value
  | none => .named (String.ofList text)

/-- Reads a property escape, the state standing at its letter. -/
def readProperty (start : Mark) (negated : Bool) (s : State) : Except Fault (Part × State) := do
  let s := s.step
  match s.rest with
  | [] => fault .escapeUnfinished s.here
  | '\x7b' :: _ =>
    let (text, s) ← readBracedName s.rest.length s.step
    let s := s.next
    return (.property ⟨s.since start, negated, propertyName text⟩, s)
  | '\\' :: _ => fault .propertyEscape s.atNext
  | c :: _ =>
    let s := s.step
    return (.property ⟨s.since start, negated, .named (String.singleton c)⟩, s)

/-- Characters of the names of special word boundaries. -/
def isBoundaryLetter (c : Char) : Bool := c.isAlpha || c = '-'

/-- The letters that come next and the state behind them; the first argument bounds them. -/
def takeBoundaryName : Nat → State → List Char × State
  | 0, s => ([], s)
  | n + 1, s =>
    match s.rest with
    | c :: _ =>
      if isBoundaryLetter c then
        let (more, s) := takeBoundaryName n s.step
        (c :: more, s)
      else ([], s)
    | [] => ([], s)

/-- Reads the braces that may follow a word boundary. Braces whose content does not begin with a
letter or hyphen are a counted repetition and are left alone. -/
def readBoundary (start : Mark) (s : State) : Except Fault (Part × State) := do
  let plain : Part := .assertion (s.since start) .boundary
  match s.rest with
  | '\x7b' :: _ =>
    let opened := s
    let s := s.step
    match s.rest with
    | [] => fault .boundaryUnfinished (s.since start)
    | c :: _ =>
      if !isBoundaryLetter c then return (plain, opened)
      else
        let content := s.mark
        let (name, s) := takeBoundaryName s.rest.length s
        match s.rest with
        | '\x7d' :: _ =>
          let closed := s.mark
          let s := s.next
          let found (kind : Assertion) : Except Fault (Part × State) :=
            .ok (.assertion (s.since start) kind, s)
          match String.ofList name with
          | "start" => found .wordStart
          | "end" => found .wordEnd
          | "start-half" => found .wordStartHalf
          | "end-half" => found .wordEndHalf
          | _ => fault .boundaryUnknown ⟨content, closed⟩
        | _ => fault .boundaryUnclosed (s.since opened.mark)
  | _ => return (plain, s)

/-- Reads an escape, the state standing at the backslash. -/
def readEscape (s : State) : Except Fault (Part × State) := do
  let start := s.mark
  let s := s.next
  match s.rest with
  | [] => fault .escapeUnfinished (s.since start)
  | c :: _ =>
    let behind := s.next
    let span := behind.since start
    let character (c : Char) : Except Fault (Part × State) :=
      .ok (.literal ⟨span, c, false⟩, behind)
    let assertion (kind : Assertion) : Except Fault (Part × State) :=
      .ok (.assertion span kind, behind)
    let shorthand (kind : ShorthandKind) (negated : Bool) : Except Fault (Part × State) :=
      .ok (.shorthand ⟨span, kind, negated⟩, behind)
    if c.isDigit then fault .backreference span
    else if isEscapable c then character c
    else match c with
      | 'x' => readHex start 2 s
      | 'u' => readHex start 4 s
      | 'U' => readHex start 8 s
      | 'p' => readProperty start false s
      | 'P' => readProperty start true s
      | 'd' => shorthand .digit false
      | 's' => shorthand .space false
      | 'w' => shorthand .word false
      | 'D' => shorthand .digit true
      | 'S' => shorthand .space true
      | 'W' => shorthand .word true
      | 'a' => character '\x07'
      | 'f' => character '\x0c'
      | 't' => character '\t'
      | 'n' => character '\n'
      | 'r' => character '\r'
      | 'v' => character '\x0b'
      | 'A' => assertion .textStart
      | 'z' => assertion .textEnd
      | 'b' => readBoundary start behind
      | 'B' => assertion .noBoundary
      | '<' => assertion .wordStart
      | '>' => assertion .wordEnd
      | _ => fault .escapeUnknown span

/-! ## Bracketed classes -/

/-- Reads one member of a bracketed class, the next character being `c`. -/
def readMember (c : Char) (s : State) : Except Fault (Part × State) :=
  if c = '\\' then readEscape s else .ok (.literal ⟨s.atNext, c, false⟩, s.next)

/-- Reads a member or a range, the next character being `c`. -/
def readRange (unclosed : Fault) (c : Char) (s : State) : Except Fault (ClassSet × State) := do
  let (low, s) ← readMember c s
  let s := s.skipSpace
  match s.rest with
  | [] => .error unclosed
  | d :: _ =>
    if d != '-' || s.second? = some ']' || s.second? = some '-' then
      return (← low.toClassSet, s)
    else
      let s := s.step
      match s.rest with
      | [] => .error unclosed
      | c :: _ =>
        let (high, s) ← readMember c s
        let low ← low.toLiteral
        let high ← high.toLiteral
        if low.char ≤ high.char then return (.range low high, s)
        else fault .classRangeOrder ⟨low.span.first, high.span.last⟩

/-- A class written between `[:` and `:]` that comes next, and the state behind it. -/
def posix? (s : State) : Option (ClassSet × State) := do
  let start := s.mark
  let s ← s.word? "[:"
  let negated := s.rest.head? = some '^'
  let s := if negated then s.next else s
  let name := s.rest.takeWhile (· != ':')
  let s ← (s.advance name.length).word? ":]"
  let kind ← Posix.ofName? (String.ofList name)
  return (.posix (s.since start) kind negated, s)

/-- The members of a bracketed class so far, the last one first, and where they begin. -/
structure Members where
  first : Mark
  items : List ClassSet

namespace Members

def none (first : Mark) : Members := ⟨first, []⟩

def push (m : Members) (item : ClassSet) : Members :=
  ⟨if m.items.isEmpty then item.span.first else m.first, item :: m.items⟩

/-- The set of all members. -/
def toClassSet (m : Members) : ClassSet :=
  let last := match m.items with
    | [] => m.first
    | item :: _ => item.span.last
  .ofItems ⟨m.first, last⟩ m.items.reverse

end Members

/-- The members that hyphens in front stand for; the first argument bounds their number. -/
def takeHyphens (start : Mark) : Nat → Members → State → Except Fault (Members × State)
  | 0, m, s => .ok (m, s)
  | n + 1, m, s =>
    match s.rest with
    | '-' :: _ =>
      let m := m.push (.literal ⟨s.atNext, '-', false⟩)
      let s := s.step
      if s.rest.isEmpty then fault .classUnclosed ⟨start, start⟩ else takeHyphens start n m s
    | _ => .ok (m, s)

/-- Reads the opening of a bracketed class: the bracket, the sign of negation, hyphens, and a
closing bracket that stands for itself because nothing is before it. -/
def openClass (s : State) : Except Fault ((Bool × Members) × State) := do
  let start := s.mark
  let needMore (s : State) : Except Fault Unit :=
    if s.rest.isEmpty then fault .classUnclosed (s.since start) else .ok ()
  let s := s.step
  needMore s
  let negated := s.rest.head? = some '^'
  let s := if negated then s.step else s
  needMore s
  let (m, s) ← takeHyphens start s.rest.length (.none s.mark) s
  if m.items.isEmpty && s.rest.head? = some ']' then
    let m := m.push (.literal ⟨s.atNext, ']', false⟩)
    let s := s.step
    needMore s
    return ((negated, m), s)
  else return ((negated, m), s)

/-- The operator between sets that comes next. -/
def setOperator? : List Char → Option SetOperator
  | '&' :: '&' :: _ => some .meet
  | '-' :: '-' :: _ => some .except
  | '~' :: '~' :: _ => some .differ
  | _ => none

/-- What stands left of the last operator, combined with what stands right of it. -/
def combined (left : Option (SetOperator × ClassSet)) (right : ClassSet) : ClassSet :=
  match left with
  | none => right
  | some (operator, left) => .combine ⟨left.span.first, right.span.last⟩ operator left right

/-- Reads a bracketed class behind its opening, up to the closing bracket. Operators combine from
the left. -/
def readSet (unclosed : Fault) :
    Nat → Members → Option (SetOperator × ClassSet) → State → Except Fault (ClassSet × State)
  | 0, _, _, _ => .error unclosed
  | fuel + 1, m, left, s =>
    let s := s.skipSpace
    match s.rest with
    | [] => .error unclosed
    | c :: _ =>
      if c = ']' then .ok (combined left m.toClassSet, s)
      else if c = '[' then
        match posix? s with
        | some (item, s) => readSet unclosed fuel (m.push item) left s
        | none => do
          let start := s.mark
          let ((negated, inner), s) ← openClass s
          let (set, s) ← readSet ⟨.classUnclosed, s.since start, none⟩ fuel inner none s
          let s := s.next
          readSet unclosed fuel (m.push (.bracket (s.since start) negated set)) left s
      else match setOperator? s.rest with
        | some operator =>
          let s := s.advance 2
          readSet unclosed fuel (.none s.mark) (some (operator, combined left m.toClassSet)) s
        | none => do
          let (item, s) ← readRange unclosed c s
          readSet unclosed fuel (m.push item) left s

/-- Reads a bracketed class that comes next. -/
def readClass (s : State) : Except Fault (Expression × State) := do
  let start := s.mark
  let ((negated, members), s) ← openClass s
  let (set, s) ← readSet ⟨.classUnclosed, s.since start, none⟩ (s.rest.length + 1) members none s
  let s := s.next
  return (.bracket (s.since start) negated set, s)

/-! ## Groups -/

/-- The character may stand in the name of a group. -/
def isNameCharacter (first : Bool) (c : Char) : Bool :=
  c = '_' || Property.alphabetic.has c ||
    (!first && (c = '.' || c = '[' || c = ']' || Category.decimalNumberRanges.has c ||
      Category.letterNumberRanges.has c || Category.otherNumberRanges.has c))

/-- Reads the name of a group up to the angle bracket; the second argument bounds its length. -/
def takeGroupName (first : Bool) : Nat → State → Except Fault (List Char × State)
  | 0, s => fault .groupNameUnclosed s.here
  | n + 1, s =>
    match s.rest with
    | [] => fault .groupNameUnclosed s.here
    | c :: _ =>
      if c = '>' then .ok ([], s)
      else if isNameCharacter first c then do
        let (more, s) ← takeGroupName false n s.next
        return (c :: more, s)
      else fault .groupNameCharacter s.atNext

/-- Reads the name of a group with its closing bracket, and keeps it. -/
def readGroupName (s : State) : Except Fault State := do
  let start := s.mark
  let (letters, s) ← takeGroupName true (s.rest.length + 1) s
  let span := s.since start
  let s := s.next
  let name := String.ofList letters
  if letters.isEmpty then fault .groupNameEmpty ⟨start, start⟩
  else match s.names.lookup name with
    | some earlier => .error ⟨.groupNameRepeated, span, some earlier⟩
    | none => return { s with names := (name, span) :: s.names }

/-- An entry of a list of flags: a flag, or the sign of negation. -/
abbrev FlagEntry := Option Flag × Span

/-- Reads flags up to the colon or closing bracket. `entries` are those so far, the last one
first. -/
def takeFlags : Nat → List FlagEntry → State → Except Fault (List FlagEntry × State)
  | 0, _, s => fault .flagUnfinished s.here
  | n + 1, entries, s =>
    match s.rest with
    | [] => fault .flagUnfinished s.here
    | c :: _ =>
      if c = ':' || c = ')' then
        match entries with
        | (none, span) :: _ => fault .flagDanglingNegation span
        | _ => .ok (entries.reverse, s)
      else
        let add (entry : Option Flag) (repeated : Cause) : Except Fault (List FlagEntry × State) :=
          match entries.find? (·.1 = entry) with
          | some (_, earlier) => .error ⟨repeated, s.atNext, some earlier⟩
          | none =>
            let after := s.next
            if after.rest.isEmpty then fault .flagUnfinished after.here
            else takeFlags n ((entry, s.atNext) :: entries) after
        if c = '-' then add none .flagNegationRepeated
        else match Flag.ofLetter? c with
          | none => fault .flagUnknown s.atNext
          | some flag => add (some flag) .flagRepeated

/-- Which flags are switched on and off: those behind the sign of negation are switched off. -/
def settings (on : Bool) : List FlagEntry → List (Flag × Bool)
  | [] => []
  | (none, _) :: rest => settings false rest
  | (some flag, _) :: rest => (flag, on) :: settings on rest

/-- What an opening bracket begins. -/
inductive Opening where
  /-- Flags that hold for the rest of the surrounding group. -/
  | flags (span : Span) (flags : List (Flag × Bool))
  /-- A group, with the stretch of its bracket and the flags that hold inside. -/
  | group (span : Span) (flags : List (Flag × Bool))

/-- The state past the signs of a look-around that comes next. -/
def lookAround? (s : State) : Option State :=
  (s.word? "?=").or <| (s.word? "?!").or <| (s.word? "?<=").or (s.word? "?<!")

/-- Reads an opening bracket and what belongs to it. -/
def readOpening (s : State) : Except Fault (Opening × State) := do
  let start := s.mark
  let bracket := s.atNext
  let s := s.next.skipSpace
  match lookAround? s with
  | some s => fault .lookAround (s.since start)
  | none =>
    match (s.word? "?P<").or (s.word? "?<") with
    | some s => return (.group bracket [], ← readGroupName s)
    | none =>
      match s.word? "?" with
      | none => return (.group bracket [], s)
      | some after =>
        if after.rest.isEmpty then fault .groupUnclosed bracket
        else
          let (entries, closing) ← takeFlags (after.rest.length + 1) [] after
          let behind := closing.next
          if closing.rest.head? = some ')' then
            if entries.isEmpty then fault .repetitionMissing s.here
            else return (.flags (behind.since start) (settings true entries), behind)
          else return (.group bracket (settings true entries), behind)

/-! ## Repetitions -/

/-- The greatest number that a count may be. -/
def greatestCount : Nat := 4294967295

/-- Reads digits, blanks that do not count apart; the first argument bounds them. -/
def takeDecimal : Nat → State → List Char × State
  | 0, s => ([], s)
  | n + 1, s =>
    match s.rest with
    | c :: _ =>
      if c.isDigit then
        let (more, s) := takeDecimal n s.step
        (c :: more, s)
      else ([], s)
    | [] => ([], s)

/-- Drops blanks; the first argument bounds them. -/
def dropBlanks : Nat → State → State
  | 0, s => s
  | n + 1, s =>
    match s.rest with
    | c :: _ => if isBlank c then dropBlanks n s.step else s
    | [] => s

/-- Reads a count with the blanks around it. The reading goes on whether or not the count is one
that can be used. -/
def readCount (s : State) : Except Fault Nat × State :=
  let s := s.advance (s.rest.takeWhile isBlank).length
  let start := s.mark
  let (digits, s) := takeDecimal s.rest.length s
  let span := s.since start
  let s := dropBlanks s.rest.length s
  let value := digits.foldl (fun n c => 10 * n + (c.toNat - '0'.toNat)) 0
  let result : Except Fault Nat :=
    if digits.isEmpty then fault .countMissing span
    else if greatestCount < value then fault .decimalInvalid span
    else .ok value
  (result, s)

/-- Reads the closing brace of a counted repetition and the sign that may follow it. -/
def closeCounts (start : Mark) (counts : Nat × Option Nat) (s : State) :
    Except Fault ((Nat × Option Nat) × State) :=
  if s.rest.head? != some '\x7d' then fault .countUnclosed (s.since start)
  else
    let s := s.step
    let s := if s.rest.head? = some '?' then s.next else s
    if counts.2.any (· < counts.1) then fault .countOrder (s.since start) else .ok (counts, s)

/-- Reads a counted repetition, the state standing at its opening brace: the least and the greatest
number of rounds. -/
def readCounts (s : State) : Except Fault ((Nat × Option Nat) × State) := do
  let start := s.mark
  let s := s.step
  if s.rest.isEmpty then fault .countUnclosed (s.since start)
  else
    let (least, s) := readCount s
    if s.rest.isEmpty then fault .countUnclosed (s.since start)
    else if s.rest.head? != some ',' then do
      let n ← least
      closeCounts start (n, some n) s
    else
      let s := s.step
      if s.rest.isEmpty then fault .countUnclosed (s.since start)
      else if s.rest.head? = some '\x7d' then do
        let n ← least
        closeCounts start (n, none) s
      else do
        let n ← least
        let (most, s) := readCount s
        let m ← most
        closeCounts start (n, some m) s

/-- Reads one of the signs `?`, `*` and `+`, which is `c`, with the sign that may follow it. -/
def readSign (c : Char) (s : State) : (Nat × Option Nat) × State :=
  let s := s.next
  let s := if s.rest.head? = some '?' then s.next else s
  if c = '?' then ((0, some 1), s) else if c = '*' then ((0, none), s) else ((1, none), s)

/-! ## Bodies -/

/-- A body that is being read: where it begins, its finished branches, where the last branch begins
and the parts of that branch; lists have the last element first. -/
structure Body where
  start : Mark
  branches : List Expression
  branchStart : Mark
  parts : List Expression

namespace Body

def beginning (m : Mark) : Body := ⟨m, [], m, []⟩

def push (b : Body) (e : Expression) : Body := { b with parts := e :: b.parts }

/-- The branch that is being read, complete up to a place. -/
def branch (b : Body) (last : Mark) : Expression :=
  .ofParts ⟨b.branchStart, last⟩ b.parts.reverse

/-- The body with its branch complete and a new one begun behind the bar. -/
def split (b : Body) (last next : Mark) : Body :=
  { b with branches := b.branch last :: b.branches, branchStart := next, parts := [] }

/-- The body, complete up to a place. -/
def toExpression (b : Body) (last : Mark) : Expression :=
  if b.branches.isEmpty then b.branch last
  else .alternatives ⟨b.start, last⟩ (b.branch last :: b.branches).reverse

/-- Takes the part that a quantifier applies to. -/
def popRepeatable (b : Body) (s : State) : Except Fault (Expression × Body) :=
  match b.parts with
  | e :: rest =>
    if e.isRepeatable then .ok (e, { b with parts := rest }) else fault .repetitionMissing s.here
  | [] => fault .repetitionMissing s.here

end Body

/-- The flag `x` as some settings leave it. -/
def spacedBy (flags : List (Flag × Bool)) (spaced : Bool) : Bool :=
  (flags.lookup .spaced).getD spaced

/-- Reads a body up to the bracket that closes its group, or to the end where no group is open. -/
def readBody (opened : Option Span) : Nat → Body → State → Except Fault (Expression × State)
  | 0, _, s => fault .groupUnclosed s.here
  | fuel + 1, b, s =>
    let s := s.skipSpace
    match s.rest with
    | [] =>
      match opened with
      | some bracket => fault .groupUnclosed bracket
      | none => .ok (b.toExpression s.mark, s)
    | c :: _ =>
      if c = '(' then do
        let (opening, after) ← readOpening s
        match opening with
        | .flags span flags =>
          readBody opened fuel (b.push (.settings span flags))
            { after with spaced := spacedBy flags after.spaced }
        | .group span flags =>
          let inside := { after with spaced := spacedBy flags after.spaced }
          let (body, closing) ← readBody (some span) fuel (.beginning inside.mark) inside
          let behind := { closing with spaced := after.spaced }.next
          readBody opened fuel (b.push (.group ⟨span.first, behind.mark⟩ flags body)) behind
      else if c = ')' then
        if opened.isSome then .ok (b.toExpression s.mark, s)
        else fault .groupUnopened s.atNext
      else if c = '|' then readBody opened fuel (b.split s.mark s.next.mark) s.next
      else if c = '[' then do
        let (set, s) ← readClass s
        readBody opened fuel (b.push set) s
      else if c = '?' || c = '*' || c = '+' || c = '\x7b' then do
        let (e, b) ← b.popRepeatable s
        let ((least, most), s) ← if c = '\x7b' then readCounts s else .ok (readSign c s)
        readBody opened fuel (b.push (.repetition ⟨e.span.first, s.mark⟩ least most e)) s
      else do
        let (part, s) ← match c with
          | '\\' => readEscape s
          | '.' => .ok (.dot s.atNext, s.next)
          | '^' => .ok (.assertion s.atNext .lineStart, s.next)
          | '$' => .ok (.assertion s.atNext .lineEnd, s.next)
          | c => .ok (.literal ⟨s.atNext, c, false⟩, s.next)
        readBody opened fuel (b.push part.toExpression) s

/-- How deep the parts of a pattern may be nested. -/
def deepest : Nat := 250

/-- Reads a pattern. -/
def read (pattern : String) : Except Fault Expression := do
  let s := State.ofText pattern
  let (e, _) ← readBody none (s.rest.length + 1) (.beginning s.mark) s
  match e.tooDeep? deepest with
  | some span => fault (.nestedTooDeep deepest) span
  | none => return e

end ComponentAtlas.Pattern
