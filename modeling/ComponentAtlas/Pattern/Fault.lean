/-! # Faults of name patterns

A pattern that cannot be used has one fault: a cause, the stretch of the pattern that it is about
and, for things that occur twice, the stretch of the first occurrence. The report shows the
pattern with carets under these stretches and ends with the cause. -/

namespace ComponentAtlas.Pattern

/-- A place between two characters of a pattern. Lines and columns count from one. -/
structure Mark where
  line : Nat
  column : Nat
deriving DecidableEq, Repr

/-- The place behind a character. -/
def Mark.after (m : Mark) (c : Char) : Mark :=
  if c = '\n' then ⟨m.line + 1, 1⟩ else ⟨m.line, m.column + 1⟩

/-- A stretch of a pattern. -/
structure Span where
  first : Mark
  last : Mark
deriving DecidableEq, Repr

/-- Why a pattern cannot be used. -/
inductive Cause where
  | classEscape
  | classRangeOrder
  | classRangeBoundary
  | classUnclosed
  | decimalInvalid
  | hexEmpty
  | hexNoScalar
  | hexDigit
  | escapeUnfinished
  | escapeUnknown
  | flagDanglingNegation
  | flagRepeated
  | flagNegationRepeated
  | flagUnfinished
  | flagUnknown
  | groupNameRepeated
  | groupNameEmpty
  | groupNameCharacter
  | groupNameUnclosed
  | groupUnclosed
  | groupUnopened
  | nestedTooDeep (limit : Nat)
  | countOrder
  | countMissing
  | countUnclosed
  | repetitionMissing
  | boundaryUnclosed
  | boundaryUnknown
  | boundaryUnfinished
  | propertyEscape
  | backreference
  | lookAround
  | unicodeNotAllowed
  | invalidText
  | propertyUnknown
  | propertyValueUnknown
deriving DecidableEq, Repr

/-- The wording of a cause. -/
def Cause.message : Cause → String
  | classEscape => "invalid escape sequence found in character class"
  | classRangeOrder => "invalid character class range, the start must be <= the end"
  | classRangeBoundary => "invalid range boundary, must be a literal"
  | classUnclosed => "unclosed character class"
  | decimalInvalid => "decimal literal invalid"
  | hexEmpty => "hexadecimal literal empty"
  | hexNoScalar => "hexadecimal literal is not a Unicode scalar value"
  | hexDigit => "invalid hexadecimal digit"
  | escapeUnfinished => "incomplete escape sequence, reached end of pattern prematurely"
  | escapeUnknown => "unrecognized escape sequence"
  | flagDanglingNegation => "dangling flag negation operator"
  | flagRepeated => "duplicate flag"
  | flagNegationRepeated => "flag negation operator repeated"
  | flagUnfinished => "expected flag but got end of regex"
  | flagUnknown => "unrecognized flag"
  | groupNameRepeated => "duplicate capture group name"
  | groupNameEmpty => "empty capture group name"
  | groupNameCharacter => "invalid capture group character"
  | groupNameUnclosed => "unclosed capture group name"
  | groupUnclosed => "unclosed group"
  | groupUnopened => "unopened group"
  | nestedTooDeep limit =>
    "exceed the maximum number of nested parentheses/brackets (" ++ toString limit ++ ")"
  | countOrder => "invalid repetition count range, the start must be <= the end"
  | countMissing => "repetition quantifier expects a valid decimal"
  | countUnclosed => "unclosed counted repetition"
  | repetitionMissing => "repetition operator missing expression"
  | boundaryUnclosed =>
    "special word boundary assertion is either unclosed or contains an invalid character"
  | boundaryUnknown =>
    "unrecognized special word boundary assertion, valid choices are: start, end, start-half or "
      ++ "end-half"
  | boundaryUnfinished =>
    "found either the beginning of a special word boundary or a bounded repetition on a \\b with "
      ++ "an opening brace, but no closing brace"
  | propertyEscape => "invalid Unicode character class"
  | backreference => "backreferences are not supported"
  | lookAround => "look-around, including look-ahead and look-behind, is not supported"
  | unicodeNotAllowed => "Unicode not allowed here"
  | invalidText => "pattern can match invalid UTF-8"
  | propertyUnknown => "Unicode property not found"
  | propertyValueUnknown => "Unicode property value not found"

/-- A cause together with the stretch it is about and, where the cause is a repetition, the stretch
of the first occurrence. -/
structure Fault where
  cause : Cause
  span : Span
  earlier : Option Span
deriving DecidableEq, Repr

namespace Fault

/-- The lines of a text. A line feed at the very end begins no further line, and a carriage return
before a line feed belongs to the line's end. -/
def linesOf (text : List Char) : List (List Char) :=
  go [] text
where
  trimmed (line : List Char) : List Char :=
    match line with
    | '\r' :: rest => rest.reverse
    | all => all.reverse
  go (line : List Char) : List Char → List (List Char)
    | [] => if line = [] then [] else [line.reverse]
    | '\n' :: rest => trimmed line :: go [] rest
    | c :: rest => go (c :: line) rest

/-- How often the pattern is divided into lines, the one behind a final line feed included. -/
def lineCount (pattern : List Char) : Nat :=
  (linesOf pattern).length + (if pattern.getLast? = some '\n' then 1 else 0)

/-- Carets under the given columns, written from column `at` on. -/
def carets (column : Nat) : List Span → List Char
  | [] => []
  | s :: rest =>
    let gap := s.first.column - column
    let width := max 1 (s.last.column - s.first.column)
    List.replicate gap ' ' ++ List.replicate width '^' ++ carets (column + gap + width) rest

/-- Stretches in the order in which they stand in the pattern. -/
def ordered : List Span → List Span
  | [a, b] =>
    if b.first.line < a.first.line ||
      (b.first.line = a.first.line && (b.first.column < a.first.column ||
        (b.first.column = a.first.column && b.last.column < a.last.column)))
    then [b, a] else [a, b]
  | all => all

/-- The stretches that a fault marks. -/
def spans (f : Fault) : List Span := ordered (f.span :: f.earlier.toList)

/-- The pattern line by line, carets under the lines that hold a marked stretch. `width` is the
room for line numbers; without it lines are not numbered. -/
def annotated (width : Nat) (marked : List Span) (number : Nat) : List (List Char) → String
  | [] => ""
  | line :: rest =>
    let digits := toString number
    let front := if width = 0 then "    "
      else String.ofList (List.replicate (width - digits.length) ' ') ++ digits ++ ": "
    let here := marked.filter (·.first.line = number)
    let note := if here = [] then ""
      else String.ofList (List.replicate front.length ' ' ++ carets 1 here) ++ "\n"
    front ++ String.ofList line ++ "\n" ++ note ++ annotated width marked (number + 1) rest

/-- The wording of a stretch over several lines. -/
def acrossLines (s : Span) : String :=
  "on line " ++ toString s.first.line ++ " (column " ++ toString s.first.column
    ++ ") through line " ++ toString s.last.line ++ " (column " ++ toString (s.last.column - 1)
    ++ ")"

/-- The report of a fault: the annotated pattern, between rules when it has several lines, and the
cause. -/
def report (f : Fault) (pattern : String) : String :=
  let chars := pattern.toList
  let count := lineCount chars
  let width := if count ≤ 1 then 0 else (toString count).length
  let within := f.spans.filter fun s => s.first.line = s.last.line
  let across := f.spans.filter fun s => s.first.line ≠ s.last.line
  let body := annotated width within 1 (linesOf chars)
  if chars.contains '\n' then
    let rule := String.ofList (List.replicate 79 '~') ++ "\n"
    let notes := if across = [] then "" else "\n".intercalate (across.map acrossLines) ++ "\n"
    "regex parse error:\n" ++ rule ++ body ++ rule ++ notes ++ "error: " ++ f.cause.message
  else "regex parse error:\n" ++ body ++ "error: " ++ f.cause.message

end Fault

end ComponentAtlas.Pattern
