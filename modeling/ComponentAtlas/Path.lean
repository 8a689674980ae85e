import ComponentAtlas.Language
import ComponentAtlas.Text.Pieces

/-! # File paths

Paths are texts. A slash separates components; empty components count for nothing, and so does a
dot that is not the first component of a relative path. Globs and recorded locations use the
normalized spelling, in which a backslash is a slash and no `./` stands in front. -/

namespace ComponentAtlas.Path

/-- Drops every `./` in front. -/
def dropLeadingHere : List Char → List Char
  | '.' :: '/' :: rest => dropLeadingHere rest
  | s => s

/-- The spelling by which paths are matched and recorded. -/
def normalize (path : String) : String :=
  String.ofList (dropLeadingHere (path.toList.map fun c => if c = '\\' then '/' else c))

/-- A component of a path. -/
inductive Component where
  | root
  /-- The dot that a relative path begins with. -/
  | here
  | up
  | name (text : String)
deriving DecidableEq, Repr

/-- The text between slashes, in order; empty pieces are kept. -/
def pieces (path : List Char) : List (List Char) := Text.pieces (· = '/') path

/-- The component that a piece stands for, unless it counts for nothing. -/
def component? (piece : List Char) : Option Component :=
  if piece = [] || piece = ['.'] then none
  else if piece = ['.', '.'] then some .up
  else some (.name (String.ofList piece))

/-- The components of a path in order. -/
def components (path : String) : List Component :=
  let chars := path.toList
  match chars with
  | '/' :: _ => .root :: (pieces chars).filterMap component?
  | _ =>
    match pieces chars with
    | ['.'] :: rest => .here :: rest.filterMap component?
    | all => all.filterMap component?

/-- The last component when it is a name. -/
def fileName? (path : String) : Option String :=
  match (components path).getLast? with
  | some (.name n) => some n
  | _ => none

/-- The part of a file name behind its last dot. A name without a dot, or with its only dot in
front, has none. -/
def extension? (path : String) : Option String :=
  (fileName? path).bind fun name =>
    let chars := name.toList.reverse
    let after := chars.takeWhile (· != '.')
    if after.length + 1 < chars.length then some (String.ofList after.reverse) else none

/-- The dialect that a path's extension selects. -/
def language? (path : String) : Option Language := (extension? path).bind Language.ofExtension?

/-- Drops separators and dots that count for nothing in front; the first argument bounds them. -/
def trimFront : Nat → List Char → List Char
  | 0, s => s
  | n + 1, s =>
    match s with
    | '/' :: rest => trimFront n rest
    | ['.'] => []
    | '.' :: '/' :: rest => trimFront n rest
    | _ => s

/-- Drops separators and dots that count for nothing from the end of a reversed text, but keeps
its last `keep` characters; the first argument bounds them. -/
def trimBackward (keep : Nat) : Nat → List Char → List Char
  | 0, s => s
  | n + 1, s =>
    if s.length ≤ keep then s
    else match s with
      | '/' :: rest => trimBackward keep n rest
      | ['.'] => []
      | '.' :: '/' :: rest => trimBackward keep n ('/' :: rest)
      | _ => s

/-- The text without separators and dots that count for nothing at its end. -/
def trimBack (keep : Nat) (s : List Char) : List Char :=
  (trimBackward keep (2 * s.length) s.reverse).reverse

/-- The text behind that many components after the first one. -/
def dropNames : Nat → List Char → List Char
  | 0, s => s
  | n + 1, s => dropNames n ((trimFront s.length s).dropWhile (· != '/'))

/-- The text of a path behind that many of its components. -/
def textBehind (path : String) (count : Nat) : String :=
  let chars := path.toList
  let special := match (components path).head? with
    | some .root | some .here => 1
    | _ => 0
  if count = 0 then String.ofList (trimBack special chars)
  else
    let body := if special = 1 then dropNames (count - 1) (chars.drop 1) else dropNames count chars
    String.ofList (trimBack 0 (trimFront body.length body))

/-- The path below a base, compared component by component. -/
def below? (base path : String) : Option String :=
  if (components base).isPrefixOf (components path) then
    some (textBehind path (components base).length)
  else none

/-- The path begins at the root. -/
def isAbsolute (path : String) : Bool := path.toList.head? = some '/'

/-- A path as seen from a base; an absolute path stays what it is. -/
def join (base path : String) : String :=
  if isAbsolute path then path
  else if base = "" || base.toList.getLast? = some '/' then base ++ path
  else base ++ "/" ++ path

end ComponentAtlas.Path
