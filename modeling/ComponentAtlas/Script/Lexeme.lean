import ComponentAtlas.Script.Reader

/-! # Words and literals

The tokens of a script other than punctuation: words, numbers, strings, regular expressions. Each
is measured by a function from the text to the length of the token that the text begins with. -/

namespace ComponentAtlas.Script

open ComponentAtlas.Tree

/-- The characters a word may not hold. -/
def isWordBreak (c : Char) : Bool :=
  c.toNat < 0x20 || isSeparator c ||
    c ∈ [':', ';', '\x60', '\x22', '\x27', '@', '#', '.', ',', '|', '^', '&', '<', '=', '>', '+',
      '-', '*', '/', '\\', '%', '?', '!', '~', '(', ')', '[', ']', '\x7b', '\x7d']

/-- How far a word reaches; the flag says that a braced escape is open. -/
def wordTail (braced : Bool) : List Char → Nat
  | [] => 0
  | '\\' :: 'u' :: '\x7b' :: rest => 3 + wordTail true rest
  | '\\' :: 'u' :: rest => 2 + wordTail braced rest
  | c :: rest =>
    if braced then 1 + wordTail (c != '\x7d') rest
    else if isWordBreak c then 0
    else 1 + wordTail false rest

/-- The length of the word that the text begins with. A word begins with no digit. -/
def wordLength? (s : List Char) : Option Nat :=
  match s with
  | c :: _ => if c.isDigit then none else match wordTail false s with
    | 0 => none
    | n => some n
  | [] => none

/-- The word that the text begins with. -/
def word? (s : List Char) : Option (List Char) := (wordLength? s).map s.take

/-- The text begins with exactly this word. -/
def beginsWithWord (w : String) (s : List Char) : Bool := word? s == some w.toList

/-- What follows the first word. -/
def afterWord (s : List Char) : List Char := s.drop ((wordLength? s).getD 0)

/-- The words that name nothing in an expression. -/
def reservedWords : List String :=
  ["break", "case", "catch", "class", "const", "continue", "debugger", "default", "delete", "do",
   "else", "export", "extends", "finally", "for", "function", "if", "import", "in", "instanceof",
   "new", "return", "switch", "throw", "try", "typeof", "var", "void", "while", "with"]

/-- The length of the identifier that the text begins with. -/
def identifierLength? (s : List Char) : Option Nat :=
  match word? s with
  | none => none
  | some w => if String.ofList w ∈ reservedWords then none else some w.length

/-- The length of a number's tail of digits, letters and underscores. -/
def digitRun (s : List Char) : Nat := (s.takeWhile (fun c => c.isDigit || c = '_')).length

/-- The length of an exponent, if the text begins with one. -/
def exponentLength : List Char → Nat
  | e :: rest =>
    if e = 'e' || e = 'E' then
      match rest with
      | c :: more =>
        if c = '+' || c = '-' then 2 + digitRun more
        else if c.isDigit then 1 + digitRun rest
        else 0
      | [] => 0
    else 0
  | [] => 0

/-- The length of the number that the text begins with. -/
def numberLength? (s : List Char) : Option Nat :=
  match s with
  | '0' :: x :: rest =>
    if x ∈ ['x', 'X', 'o', 'O', 'b', 'B'] then
      some (2 + (rest.takeWhile (fun c => c.isAlphanum || c = '_')).length)
    else some (decimal s)
  | c :: rest =>
    if c.isDigit || (c = '.' && rest.head?.any Char.isDigit) then some (decimal s) else none
  | [] => none
where
  /-- A decimal number: digits, a fraction, an exponent, the mark of a big integer. -/
  decimal (s : List Char) : Nat :=
    let whole := digitRun s
    let s := s.drop whole
    let fraction := match s with
      | '.' :: rest => 1 + digitRun rest
      | _ => 0
    let s := s.drop fraction
    let exponent := exponentLength s
    let big := if (s.drop exponent).head? = some 'n' then 1 else 0
    whole + fraction + exponent + big

/-- The length of a string's tail up to its closing quote. -/
def quotedTail? (quote : Char) : List Char → Option Nat
  | [] => none
  | '\\' :: _ :: rest => (quotedTail? quote rest).map (· + 2)
  | c :: rest => if c = quote then some 1 else (quotedTail? quote rest).map (· + 1)

/-- The length of the string that the text begins with. -/
def stringLength? : List Char → Option Nat
  | c :: rest =>
    if c = '\x22' || c = '\x27' then (quotedTail? c rest).map (· + 1) else none
  | [] => none

/-- The length of a regular expression's tail up to its closing slash; the flag says that a set
is open. -/
def regexTail? (inSet : Bool) : List Char → Option Nat
  | [] => none
  | '\\' :: _ :: rest => (regexTail? inSet rest).map (· + 2)
  | '\n' :: _ => none
  | c :: rest =>
    if inSet then (regexTail? (c != ']') rest).map (· + 1)
    else if c = '/' then some 1
    else (regexTail? (c = '[') rest).map (· + 1)

/-- The length of the regular expression that the text begins with, its flags included. -/
def regexLength? : List Char → Option Nat
  | '/' :: c :: rest =>
    if c = '/' || c = '*' then none
    else (regexTail? false (c :: rest)).map fun n =>
      1 + n + (((c :: rest).drop n).takeWhile (fun c => 'a' ≤ c && c ≤ 'z')).length
  | _ => none

namespace Reader

/-- Exactly this word. -/
def keyword (w : String) : Reader Fragment :=
  lexeme (.token w) fun rest => if beginsWithWord w rest then some w.length else none

/-- Any word at all. -/
def anyWord (kind : Kind) : Reader Fragment := lexeme kind wordLength?

def identifier : Reader Fragment := lexeme .identifier identifierLength?

def number : Reader Fragment := lexeme (.other "number") numberLength?

def string : Reader Fragment := lexeme (.other "string") stringLength?

def regex : Reader Fragment := lexeme (.other "regex") regexLength?

/-- A name with a leading hash. -/
def privateName : Reader Fragment := lexeme (.other "private_property_identifier") fun
  | '#' :: rest => (wordLength? rest).map (· + 1)
  | _ => none

/-- The opening brace. -/
def openBrace : Reader Fragment := mark "\x7b"

/-- The closing brace. -/
def closeBrace : Reader Fragment := mark "\x7d"

/-- The text part of a template: up to its end or the next substitution. -/
def templateLength? : List Char → Nat
  | [] => 0
  | '\\' :: _ :: rest => 2 + templateLength? rest
  | '$' :: '\x7b' :: _ => 0
  | c :: rest => if c = '\x60' then 0 else 1 + templateLength? rest

/-- A template whose substitutions are read as given. -/
def template (label : String) (inner : Reader Fragment) : Reader Fragment :=
  let text := rawText (.other "string_fragment") fun rest =>
    match templateLength? rest with
    | 0 => none
    | n => some n
  let opening := rawText (.token "$\x7b") fun rest =>
    if rest.take 2 = ['$', '\x7b'] then some 2 else none
  let closing := rawText (.token "\x60") fun rest =>
    if rest.head? = some '\x60' then some 1 else none
  other label
    [mark "\x60", many (text <|> other "template_substitution" [opening, inner, closeBrace]),
     closing]

end Reader

end ComponentAtlas.Script
