import ComponentAtlas.Charset.Word

/-! # Block tags of doc comments

A block tag stands at the beginning of a line of a doc comment, behind blanks, an opening mark
and stars. The search goes from line start to line start; blanks and stars may take it over line
ends, and it goes on behind the tag it found. -/

namespace ComponentAtlas.Source.DocComment

open ComponentAtlas.Charset

/-- A tag begins with an ASCII letter, an underscore or a dollar sign. -/
def beginsTag (c : Char) : Bool := c.isAlpha || c = '_' || c = '$'

/-- A tag goes on with word characters, dollar signs and hyphens. -/
def continuesTag (c : Char) : Bool := isWord c || c = '$' || c = '-'

/-- Blanks and stars. -/
def isDecoration (c : Char) : Bool := isBlank c || c = '*'

/-- The text behind the blanks at a line start and the opening mark, if there is one. -/
def skipOpening (s : List Char) : List Char :=
  match s.dropWhile isBlank with
  | '/' :: '*' :: '*' :: rest => rest
  | rest => rest

/-- The tag that a line start leads to, and the text behind it. -/
def tagAt? (s : List Char) : Option (List Char × List Char) :=
  match (skipOpening s).dropWhile isDecoration with
  | '@' :: c :: rest =>
    if beginsTag c then some (c :: rest.takeWhile continuesTag, rest.dropWhile continuesTag)
    else none
  | _ => none

/-- The text behind the next line end. -/
def nextLine : List Char → Option (List Char)
  | [] => none
  | '\n' :: rest => some rest
  | _ :: rest => nextLine rest

/-- The tags found from line starts on; the first argument bounds the line starts. -/
def tagsFrom : Nat → List Char → List String
  | 0, _ => []
  | n + 1, s =>
    match tagAt? s with
    | some (tag, rest) =>
      String.ofList tag :: (match nextLine rest with
        | some line => tagsFrom n line
        | none => [])
    | none =>
      match nextLine s with
      | some line => tagsFrom n line
      | none => []

/-- The block tags of a doc comment, in order. -/
def tags (comment : String) : List String :=
  tagsFrom (comment.toList.length + 1) comment.toList

end ComponentAtlas.Source.DocComment
