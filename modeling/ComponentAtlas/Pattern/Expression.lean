import ComponentAtlas.Pattern.Fault

/-! # Expressions of name patterns

What a pattern says, as it is written: literals, classes, assertions, repetitions, groups,
sequences and alternatives. Every part that can still turn out to be unusable keeps its stretch.
Whether a repetition prefers many or few rounds does not matter to the question whether a name
matches, and is not kept. -/

namespace ComponentAtlas.Pattern

/-- A setting that a pattern can switch on and off. -/
inductive Flag where
  | insensitive
  | multiline
  | dotAll
  | swapped
  | unicode
  | carriage
  | spaced
deriving DecidableEq, Repr

/-- The flag that a letter names. -/
def Flag.ofLetter? : Char → Option Flag
  | 'i' => some .insensitive
  | 'm' => some .multiline
  | 's' => some .dotAll
  | 'U' => some .swapped
  | 'u' => some .unicode
  | 'R' => some .carriage
  | 'x' => some .spaced
  | _ => none

/-- A single character. A byte is one that is written with two hexadecimal digits. -/
structure Literal where
  span : Span
  char : Char
  isByte : Bool
deriving DecidableEq, Repr

/-- The classes that are written between `[:` and `:]`. -/
inductive Posix where
  | alnum | alpha | ascii | blank | cntrl | digit | graph | lower | print | punct | space | upper
  | word | xdigit
deriving DecidableEq, Repr

/-- The class of a name. -/
def Posix.ofName? (name : String) : Option Posix :=
  match name with
  | "alnum" => some alnum
  | "alpha" => some alpha
  | "ascii" => some ascii
  | "blank" => some blank
  | "cntrl" => some cntrl
  | "digit" => some digit
  | "graph" => some graph
  | "lower" => some lower
  | "print" => some print
  | "punct" => some punct
  | "space" => some space
  | "upper" => some upper
  | "word" => some word
  | "xdigit" => some xdigit
  | _ => none

/-- What a property escape asks for. -/
inductive PropertyName where
  | named (name : String)
  | valued (name value : String)
deriving DecidableEq, Repr

/-- A property escape. -/
structure PropertyClass where
  span : Span
  negated : Bool
  name : PropertyName
deriving DecidableEq, Repr

/-- The kinds of one-letter classes. -/
inductive ShorthandKind where
  | digit | space | word
deriving DecidableEq, Repr

/-- A one-letter class. -/
structure Shorthand where
  span : Span
  kind : ShorthandKind
  negated : Bool
deriving DecidableEq, Repr

/-- Operators between the sets of a bracketed class. -/
inductive SetOperator where
  | meet | except | differ
deriving DecidableEq, Repr

/-- The inside of a bracketed class. -/
inductive ClassSet where
  | empty (span : Span)
  | literal (l : Literal)
  | range (low high : Literal)
  | posix (span : Span) (kind : Posix) (negated : Bool)
  | property (p : PropertyClass)
  | shorthand (s : Shorthand)
  | bracket (span : Span) (negated : Bool) (inner : ClassSet)
  | union (span : Span) (items : List ClassSet)
  | combine (span : Span) (operator : SetOperator) (left right : ClassSet)
deriving Repr

/-- The stretch of a set. -/
def ClassSet.span : ClassSet → Span
  | empty s => s
  | literal l => l.span
  | range low high => ⟨low.span.first, high.span.last⟩
  | posix s _ _ => s
  | property p => p.span
  | shorthand s => s.span
  | bracket s _ _ => s
  | union s _ => s
  | combine s _ _ _ => s

/-- Conditions on the place between two characters. -/
inductive Assertion where
  | lineStart | lineEnd | textStart | textEnd
  | boundary | noBoundary | wordStart | wordEnd | wordStartHalf | wordEndHalf
deriving DecidableEq, Repr

/-- A pattern as it is written. -/
inductive Expression where
  | empty (span : Span)
  | settings (span : Span) (flags : List (Flag × Bool))
  | literal (l : Literal)
  | dot (span : Span)
  | assertion (span : Span) (kind : Assertion)
  | property (p : PropertyClass)
  | shorthand (s : Shorthand)
  | bracket (span : Span) (negated : Bool) (inner : ClassSet)
  | repetition (span : Span) (least : Nat) (most : Option Nat) (body : Expression)
  | group (span : Span) (flags : List (Flag × Bool)) (body : Expression)
  | sequence (span : Span) (parts : List Expression)
  | alternatives (span : Span) (branches : List Expression)
deriving Repr

/-- The stretch of an expression. -/
def Expression.span : Expression → Span
  | empty s => s
  | settings s _ => s
  | literal l => l.span
  | dot s => s
  | assertion s _ => s
  | property p => p.span
  | shorthand s => s.span
  | bracket s _ _ => s
  | repetition s _ _ _ => s
  | group s _ _ => s
  | sequence s _ => s
  | alternatives s _ => s

/-- A quantifier may follow the expression. -/
def Expression.isRepeatable : Expression → Bool
  | empty _ | settings _ _ => false
  | _ => true

/-- The sequence of some parts. -/
def Expression.ofParts (span : Span) : List Expression → Expression
  | [] => .empty span
  | [e] => e
  | parts => .sequence span parts

/-- The union of some sets. -/
def ClassSet.ofItems (span : Span) : List ClassSet → ClassSet
  | [] => .empty span
  | [s] => s
  | items => .union span items

mutual

/-- The stretch of the first part that lies deeper than `room` levels inside the set. -/
def ClassSet.tooDeep? (room : Nat) : ClassSet → Option Span
  | .bracket span _ inner =>
    match room with
    | 0 => some span
    | room + 1 => inner.tooDeep? room
  | .union span items =>
    match room with
    | 0 => some span
    | room + 1 => ClassSet.anyTooDeep? room items
  | .combine span _ left right =>
    match room with
    | 0 => some span
    | room + 1 => (left.tooDeep? room).or (right.tooDeep? room)
  | _ => none

/-- The stretch of the first part that lies deeper than `room` levels inside one of the sets. -/
def ClassSet.anyTooDeep? (room : Nat) : List ClassSet → Option Span
  | [] => none
  | s :: rest => (s.tooDeep? room).or (ClassSet.anyTooDeep? room rest)

end

mutual

/-- The stretch of the first part that lies deeper than `room` levels inside the expression. -/
def Expression.tooDeep? (room : Nat) : Expression → Option Span
  | .bracket span _ inner =>
    match room with
    | 0 => some span
    | room + 1 => inner.tooDeep? room
  | .repetition span _ _ body =>
    match room with
    | 0 => some span
    | room + 1 => body.tooDeep? room
  | .group span _ body =>
    match room with
    | 0 => some span
    | room + 1 => body.tooDeep? room
  | .sequence span parts =>
    match room with
    | 0 => some span
    | room + 1 => Expression.anyTooDeep? room parts
  | .alternatives span branches =>
    match room with
    | 0 => some span
    | room + 1 => Expression.anyTooDeep? room branches
  | _ => none

/-- The stretch of the first part that lies deeper than `room` levels inside one of the
expressions. -/
def Expression.anyTooDeep? (room : Nat) : List Expression → Option Span
  | [] => none
  | e :: rest => (e.tooDeep? room).or (Expression.anyTooDeep? room rest)

end

end ComponentAtlas.Pattern
