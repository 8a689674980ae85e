import ComponentAtlas.Language
import ComponentAtlas.Script.Cursor

/-! # Implied semicolons

A statement may end without a semicolon: at the end of the source, before a closing brace, or at
the end of a line when the next line cannot continue it. The decision looks at the characters
behind the last token, and the dialects with types take it a little differently from the one
without. -/

namespace ComponentAtlas.Script

/-- What surrounds the place where a semicolon may be implied. -/
structure SemicolonSite where
  /-- A binary operator could stand here. -/
  operators : Bool := true
  /-- The text so far is a signature that a body could follow. -/
  signature : Bool := false
deriving Repr

/-- What stands between two tokens. -/
inductive Gap where
  /-- A slash that opens no comment. -/
  | slash
  /-- A block comment on one line, and what follows it. -/
  | onLine (rest : List Char)
  /-- Blanks and comments, and what follows them. -/
  | passed (rest : List Char)

/-- Splits a block comment off: whether it holds a line end, and what follows it. -/
def splitBlockComment (isLineEnd : Char → Bool) : List Char → Bool × List Char
  | [] => (false, [])
  | '*' :: '/' :: rest => (false, rest)
  | c :: rest =>
    let (line, after) := splitBlockComment isLineEnd rest
    (isLineEnd c || line, after)

/-- Skips blanks and comments. With `whole` false, a block comment that no slash follows ends the
skip, and only a comment that spans lines counts as passing the line. -/
def skipGap (isLineEnd : Char → Bool) (whole : Bool) : Nat → List Char → Gap
  | 0, s => .passed s
  | n + 1, s =>
    match s.dropWhile isPlainBlank with
    | '/' :: '/' :: rest => skipGap isLineEnd whole n (rest.dropWhile (fun c => !isLineEnd c))
    | '/' :: '*' :: rest =>
      let (line, after) := splitBlockComment isLineEnd rest
      if !whole && !after.isEmpty && after.head? != some '/' then
        if line then .passed after else .onLine after
      else skipGap isLineEnd whole n after
    | '/' :: _ => .slash
    | rest => .passed rest

/-- The word operators `in` and `instanceof` continue a line; longer words begin one. -/
def beginsLineAfterI : List Char → Bool
  | 'n' :: rest =>
    if !(rest.head?.any Char.isAlpha) then false
    else if !("stanceof".toList.isPrefixOf rest) then true
    else (rest.drop 8).head?.any Char.isAlpha
  | _ => true

/-- A new line that begins with these characters begins a statement, in a dialect with types. -/
def beginsTypedLine (site : SemicolonSite) : List Char → Bool
  | [] => true
  | c :: rest =>
    if c ∈ ['\x60', ',', '.', ';', '*', '%', '>', '<', '=', '?', '^', '|', '&', '/', ':'] then false
    else if c = '\x7b' then !site.signature
    else if c = '(' || c = '[' then !site.operators
    else if c = '+' || c = '-' then rest.head? = some c
    else if c = '!' then rest.head? != some '='
    else if c = 'i' then beginsLineAfterI rest
    else true

/-- The same in the dialect without types. -/
def beginsPlainLine : List Char → Bool
  | [] => true
  | c :: rest =>
    if c ∈ ['\x60', ',', ':', ';', '*', '%', '>', '<', '=', '[', '(', '?', '^', '|', '&', '/'] then
      false
    else if c = '.' then rest.head?.any Char.isDigit
    else if c = '+' || c = '-' then rest.head? = some c
    else if c = '!' then rest.head? != some '='
    else if c = 'i' then beginsLineAfterI rest
    else true

/-- A semicolon is implied before this text, in a dialect with types. -/
def impliedTyped (site : SemicolonSite) : List Char → Bool
  | [] => true
  | c :: rest =>
    if c = '\x7d' then
      if (rest.dropWhile isPlainBlank).head? = some ':' then site.operators else true
    else if c = '\n' then
      match skipGap (· = '\n') true rest.length rest with
      | .slash => false
      | .onLine after | .passed after => beginsTypedLine site after
    else if isPlainBlank c then impliedTyped site rest
    else false

/-- A semicolon is implied before this text, in the dialect without types. The first argument
bounds the comments that are looked through. -/
def impliedPlain (site : SemicolonSite) : Nat → List Char → Bool
  | 0, _ => false
  | _ + 1, [] => true
  | n + 1, c :: rest =>
    let isLineEnd := fun c => c = '\n' || c = '\u2028' || c = '\u2029'
    let onLine (s : List Char) : Bool :=
      match s with
      | [] => false
      | c :: rest =>
        if c = '\x7d' then true
        else if isLineEnd c then
          match skipGap isLineEnd true rest.length rest with
          | .slash => false
          | .onLine after | .passed after => beginsPlainLine after
        else if isPlainBlank c then impliedPlain site n rest
        else false
    if c = '/' then
      match skipGap isLineEnd false (rest.length + 1) (c :: rest) with
      | .slash => false
      | .onLine after => onLine after
      | .passed after =>
        if !site.operators && after.head? != some ',' && after.head? != some '=' then true
        else onLine after
    else onLine (c :: rest)

/-- A semicolon is implied before this text. -/
def implied (l : Language) (site : SemicolonSite) (rest : List Char) : Bool :=
  if l.hasTypes then impliedTyped site rest else impliedPlain site (rest.length + 1) rest

end ComponentAtlas.Script
