import ComponentAtlas.Pattern.Matcher
import ComponentAtlas.Pattern.Property
import ComponentAtlas.Pattern.Reader

/-! # The meaning of patterns

A pattern that can be read is turned into a matcher. Flags hold from where they stand to the end of
the group around them, over all its branches. Without the flag `u` a pattern speaks of single
bytes; then nothing may be said that could match a part of a character. A pattern whose matcher
takes too much room cannot be used. -/

namespace ComponentAtlas.Pattern

open Charset

/-- The flags in force. -/
structure Mode where
  insensitive : Bool
  multiline : Bool
  dotAll : Bool
  unicode : Bool
  carriage : Bool
deriving DecidableEq, Repr

namespace Mode

/-- The flags at the beginning of a pattern. -/
def initial : Mode := ⟨false, false, false, true, false⟩

/-- The mode with one flag set. -/
def set (m : Mode) (on : Bool) : Flag → Mode
  | .insensitive => { m with insensitive := on }
  | .multiline => { m with multiline := on }
  | .dotAll => { m with dotAll := on }
  | .unicode => { m with unicode := on }
  | .carriage => { m with carriage := on }
  | .swapped | .spaced => m

/-- The mode with some flags set. -/
def apply (m : Mode) (flags : List (Flag × Bool)) : Mode :=
  flags.foldl (fun m (flag, on) => m.set on flag) m

/-- A set, closed under case when the mode asks for it. -/
def fold (m : Mode) (s : CharSet) : CharSet :=
  if !m.insensitive then s else if m.unicode then .folded s else .plainFolded s

/-- A set of single bytes may not hold any beyond ASCII. -/
def check (m : Mode) (span : Span) (s : CharSet) : Except Fault CharSet :=
  if !m.unicode && s.contains 128 then fault .invalidText span else .ok s

/-- A set closed under case and then negated, as far as asked for. -/
def finish (m : Mode) (span : Span) (negated : Bool) (s : CharSet) : Except Fault CharSet :=
  let s := m.fold s
  m.check span (if negated then .complement s else s)

/-- A literal outside of bracketed classes. A byte that is no character cannot be matched. -/
def literal (m : Mode) (l : Literal) : Except Fault CharSet :=
  if !m.unicode && l.isByte && 128 ≤ l.char.toNat then fault .invalidText l.span
  else .ok (m.fold (.single l.char))

/-- A literal in a bracketed class. Sets of bytes hold no character beyond ASCII. -/
def member (m : Mode) (l : Literal) : Except Fault Char :=
  if m.unicode || l.char.toNat < 128 then .ok l.char
  else if l.isByte then fault .invalidText l.span
  else fault .unicodeNotAllowed l.span

/-- A property escape. -/
def property (m : Mode) (p : PropertyClass) : Except Fault CharSet :=
  if !m.unicode then fault .unicodeNotAllowed p.span
  else match p.name.toCharSet with
    | .error cause => fault cause p.span
    | .ok set => m.finish p.span p.negated set

end Mode

/-- The characters of a one-letter class without its negation. -/
def ShorthandKind.set (unicode : Bool) : ShorthandKind → CharSet
  | digit => if unicode then .table digitRanges else .range '0' '9'
  | space =>
    if unicode then .table blankRanges
    else .union (.range '\t' '\r') (.single ' ')
  | word =>
    if unicode then .table wordRanges
    else .union (.union (.range '0' '9') (.range 'A' 'Z')) (.union (.range 'a' 'z') (.single '_'))

/-- The characters of a one-letter class. -/
def Mode.shorthand (m : Mode) (s : Shorthand) : Except Fault CharSet :=
  let set := s.kind.set m.unicode
  m.check s.span (if s.negated then .complement set else set)

/-- The characters of a class written between `[:` and `:]`. -/
def Posix.set : Posix → CharSet
  | alnum => .union (.range '0' '9') (.union (.range 'A' 'Z') (.range 'a' 'z'))
  | alpha => .union (.range 'A' 'Z') (.range 'a' 'z')
  | ascii => .range '\x00' '\x7f'
  | blank => .union (.single '\t') (.single ' ')
  | cntrl => .union (.range '\x00' '\x1f') (.single '\x7f')
  | digit => .range '0' '9'
  | graph => .range '!' '~'
  | lower => .range 'a' 'z'
  | print => .range ' ' '~'
  | punct =>
    .union (.union (.range '!' '/') (.range ':' '@'))
      (.union (.range '[' '\x60') (.range '\x7b' '~'))
  | space => .union (.range '\t' '\r') (.single ' ')
  | upper => .range 'A' 'Z'
  | word =>
    .union (.union (.range '0' '9') (.range 'A' 'Z')) (.union (.range 'a' 'z') (.single '_'))
  | xdigit => .union (.range '0' '9') (.union (.range 'A' 'F') (.range 'a' 'f'))

/-- The set that an operator makes of two. -/
def SetOperator.apply (a b : CharSet) : SetOperator → CharSet
  | meet => .meet a b
  | except => .except a b
  | differ => .differ a b

mutual

/-- The characters of the inside of a bracketed class. -/
def ClassSet.meaning (m : Mode) : ClassSet → Except Fault CharSet
  | .empty _ => .ok .empty
  | .literal l => (m.member l).map .single
  | .range low high => do return .range (← m.member low) (← m.member high)
  | .posix span kind negated => m.finish span negated kind.set
  | .property p => m.property p
  | .shorthand s => m.shorthand s
  | .bracket span negated inner => do m.finish span negated (← inner.meaning m)
  | .union _ items => ClassSet.unionMeaning m items
  | .combine _ operator left right => do
    let a ← left.meaning m
    let b ← right.meaning m
    return operator.apply (m.fold a) (m.fold b)

/-- The characters of some sets together. -/
def ClassSet.unionMeaning (m : Mode) : List ClassSet → Except Fault CharSet
  | [] => .ok .empty
  | s :: rest => do
    let a ← s.meaning m
    let b ← ClassSet.unionMeaning m rest
    return .union a b

end

/-- The condition that an assertion puts on a place. -/
def Assertion.look (m : Mode) : Assertion → Look
  | lineStart =>
    if !m.multiline then .textStart else if m.carriage then .anyLineStart else .lineStart
  | lineEnd => if !m.multiline then .textEnd else if m.carriage then .anyLineEnd else .lineEnd
  | textStart => .textStart
  | textEnd => .textEnd
  | boundary => .boundary m.unicode
  | noBoundary => .noBoundary m.unicode
  | wordStart => .wordStart m.unicode
  | wordEnd => .wordEnd m.unicode
  | wordStartHalf => .wordStartHalf m.unicode
  | wordEndHalf => .wordEndHalf m.unicode

/-- The characters that a dot stands for. -/
def Mode.dot (m : Mode) : CharSet :=
  if m.dotAll then .complement .empty
  else if m.carriage then .complement (.union (.single '\r') (.single '\n'))
  else .complement (.single '\n')

mutual

/-- The matcher of an expression and the flags in force behind it. -/
def Expression.meaning (m : Mode) : Expression → Except Fault (Matcher × Mode)
  | .empty _ => .ok (.nothing, m)
  | .settings _ flags => .ok (.nothing, m.apply flags)
  | .literal l => do return (.set (← m.literal l), m)
  | .dot span => if m.unicode then .ok (.set m.dot, m) else fault .invalidText span
  | .assertion _ kind => .ok (.look (kind.look m), m)
  | .property p => do return (.set (← m.property p), m)
  | .shorthand s => do return (.set (← m.shorthand s), m)
  | .bracket span negated inner => do
    return (.set (← m.finish span negated (← inner.meaning m)), m)
  | .repetition _ least most body => do
    let (a, m) ← body.meaning m
    return (.repeated least most a, m)
  | .group _ flags body => do
    let (a, _) ← body.meaning (m.apply flags)
    return (a, m)
  | .sequence _ parts => Expression.sequenceMeaning m parts
  | .alternatives _ branches => Expression.branchesMeaning m branches

/-- The matcher of some parts one after another. -/
def Expression.sequenceMeaning (m : Mode) : List Expression → Except Fault (Matcher × Mode)
  | [] => .ok (.nothing, m)
  | e :: rest => do
    let (a, m) ← e.meaning m
    let (b, m) ← Expression.sequenceMeaning m rest
    return (.sequence a b, m)

/-- The matcher of some branches. No branch describes a stretch where there is none. -/
def Expression.branchesMeaning (m : Mode) : List Expression → Except Fault (Matcher × Mode)
  | [] => .ok (.set .empty, m)
  | e :: rest => do
    let (a, m) ← e.meaning m
    let (b, m) ← Expression.branchesMeaning m rest
    return (.either a b, m)

end

/-- The room that a compiled pattern may take, in bytes. -/
def roomLimit : Nat := 10485760

/-- Whether every stretch of the matcher is empty. -/
def Matcher.isEmpty : Matcher → Bool
  | nothing | look _ => true
  | set _ => false
  | sequence a b | either a b => a.isEmpty && b.isEmpty
  | repeated _ most a => a.isEmpty || most = some 0

/-- About how much room a matcher takes. Every state takes 32 bytes, and a set beyond ASCII has
states and transitions for each of its ranges. -/
def Matcher.room : Matcher → Nat
  | nothing | look _ => 32
  | set s => if (s.weight ≤ 1) then 32 else 32 + 60 * s.weight
  | sequence a b => a.room + b.room
  | either a b => 40 + a.room + b.room
  | repeated least most a =>
    let rounds := if a.isEmpty then 1
      else match most with
        | none => max 1 least
        | some most => most
    rounds * (a.room + (if most = some least then 0 else 32))

/-- Why a pattern cannot be used. -/
inductive Problem where
  | unreadable (f : Fault)
  | tooLarge
deriving DecidableEq, Repr

/-- The wording of a problem. -/
def Problem.message (pattern : String) : Problem → String
  | unreadable f => f.report pattern
  | tooLarge => "Compiled regex exceeds size limit of " ++ toString roomLimit ++ " bytes."

/-- The matcher of a pattern. -/
def compile (pattern : String) : Except Problem Matcher :=
  match read pattern with
  | .error f => .error (.unreadable f)
  | .ok e =>
    match e.meaning .initial with
    | .error f => .error (.unreadable f)
    | .ok (a, _) => if roomLimit < a.room then .error .tooLarge else .ok a

end ComponentAtlas.Pattern
