import ComponentAtlas.Script.Fragment
import ComponentAtlas.Script.Semicolon

/-! # Readers

A reader reads a fragment from a cursor or fails. Grammar rules are written as sequences and
choices of readers; where a rule mentions itself, directly or not, it goes through a nonterminal,
which the environment resolves. A choice takes its first alternative that succeeds. -/

namespace ComponentAtlas.Script

open ComponentAtlas.Tree

/-- How the surroundings restrict an expression. -/
structure Mode where
  /-- An implied semicolon may end the expression. -/
  line : Bool := false
  /-- The word `in` belongs to an enclosing loop header. -/
  noIn : Bool := false
  /-- A colon belongs to an enclosing condition. -/
  noColon : Bool := false
deriving DecidableEq, Repr

/-- The rules that mention themselves. -/
inductive Nonterminal where
  | statement
  | block
  /-- Expressions joined by commas. -/
  | expression (mode : Mode)
  /-- One expression without a comma at its top. -/
  | assignment (mode : Mode)
  /-- An operand with the operators in front of it. -/
  | operand (mode : Mode)
  | type
  /-- A type with the operators in front of it. -/
  | typeOperand
  | pattern
  | element
deriving DecidableEq, Repr

/-- What a reader needs to know: the dialect, and how nonterminals are read. -/
structure Env where
  language : Language
  derive : Nonterminal → Cursor → Option (Fragment × Cursor)

abbrev Reader (α : Type) := ReaderT Env (StateT Cursor Option) α

def nonterminal (n : Nonterminal) : Reader Fragment := fun env cursor => env.derive n cursor

namespace Reader

/-- What comes next, blanks and comments apart. -/
def upcoming : Reader (List Char) := fun _ cursor => some (cursor.toToken.2.rest, cursor)

/-- Succeeds when the next token begins as the test asks. -/
def ahead (test : List Char → Bool) : Reader Unit := do
  if test (← upcoming) then pure () else failure

def nothing : Reader Fragment := pure .empty

/-- Each reader in turn. -/
def sequence (parts : List (Reader Fragment)) : Reader Fragment :=
  parts.foldlM (fun done part => return done ++ (← part)) .empty

/-- The first reader that succeeds. -/
def choice (alternatives : List (Reader Fragment)) : Reader Fragment :=
  alternatives.foldr (fun r others => r <|> others) failure

def optional (r : Reader Fragment) : Reader Fragment := r <|> nothing

/-- A node of the given kind over what the parts read. -/
def node (kind : Kind) (parts : List (Reader Fragment)) : Reader Fragment :=
  return (← sequence parts).close kind

/-- A node whose kind no scan asks for. -/
def other (label : String) (parts : List (Reader Fragment)) : Reader Fragment :=
  node (.other label) parts

def field (f : Field) (r : Reader Fragment) : Reader Fragment := return (← r).withField f

/-- At most that many repetitions; stops at the first that fails or reads nothing. -/
def repeatUpTo : Nat → Reader Fragment → Reader Fragment
  | 0, _ => nothing
  | n + 1, r => fun env cursor =>
    match r env cursor with
    | none => some (.empty, cursor)
    | some (first, after) =>
      if after.offset = cursor.offset then some (.empty, cursor)
      else match repeatUpTo n r env after with
        | none => some (first, after)
        | some (more, last) => some (first ++ more, last)

/-- As many repetitions as there are. -/
def many (r : Reader Fragment) : Reader Fragment := fun env cursor =>
  repeatUpTo (cursor.rest.length + 1) r env cursor

/-- Reads on only where types may be written. -/
def typed (r : Reader Fragment) : Reader Fragment := do
  if (← read).language.hasTypes then r else failure

/-- A token: skips to it, measures it and takes it. -/
def lexeme (kind : Kind) (length : List Char → Option Nat) : Reader Fragment := fun _ cursor =>
  let (comments, start) := cursor.toToken
  match length start.rest with
  | none => none
  | some n =>
    let after := start.advance n
    some (.token comments kind start after.offset, after)

/-- Text that begins right at the cursor, blanks included. -/
def rawText (kind : Kind) (length : List Char → Option Nat) : Reader Fragment := fun _ cursor =>
  match length cursor.rest with
  | none => none
  | some n =>
    let after := cursor.advance n
    some (.token [] kind cursor after.offset, after)

/-- A punctuation mark. -/
def mark (text : String) : Reader Fragment :=
  lexeme (.token text) fun rest =>
    if text.toList.isPrefixOf rest then some text.length else none

/-- A punctuation mark that none of these characters lengthens. -/
def markBefore (text : String) (longer : List Char) : Reader Fragment :=
  lexeme (.token text) fun rest =>
    if text.toList.isPrefixOf rest && !(rest.drop text.length).head?.any (· ∈ longer) then
      some text.length
    else none

/-- Items with a mark between them; a mark may close the list. -/
def separated (separator item : Reader Fragment) : Reader Fragment :=
  sequence [item, many (sequence [separator, item]), optional separator]

/-- Items between commas; the list may be empty or end with a comma. -/
def commaList (item : Reader Fragment) : Reader Fragment :=
  optional (separated (mark ",") item)

/-- A semicolon that the line end implies. The comments that come before it belong to the run it
ends. The argument bounds how many comments are looked through. -/
def impliedAfter (l : Language) (site : SemicolonSite) : Nat → Cursor → Option (Fragment × Cursor)
  | 0, _ => none
  | n + 1, cursor =>
    if implied l site cursor.rest then some (.mark [] cursor, cursor)
    else match cursor.comment? with
      | none => none
      | some (comment, after) =>
        (impliedAfter l site n after).map fun (rest, last) =>
          ({ rest with lead := comment :: rest.lead }, last)

/-- An implied semicolon. -/
def impliedSemicolon (site : SemicolonSite) : Reader Fragment := fun env cursor =>
  impliedAfter env.language site (cursor.rest.length + 1) cursor

/-- The end of a statement: an implied semicolon or a written one. -/
def semicolon (site : SemicolonSite := {}) : Reader Fragment :=
  impliedSemicolon site <|> mark ";"

/-- An implied semicolon comes before the next token. -/
def semicolonIsImplied (site : SemicolonSite := {}) : Reader Bool := fun env cursor =>
  some ((impliedAfter env.language site (cursor.rest.length + 1) cursor).isSome, cursor)

/-- Succeeds when the expression may go on in the given mode. -/
def goesOn (mode : Mode) : Reader Unit := do
  if mode.line then
    if (← semicolonIsImplied) then failure

end Reader

end ComponentAtlas.Script
