import ComponentAtlas.Charset.Property

/-! # Texts in small letters

Every capital letter of a text is replaced by its small letter. Two letters need care: the capital
I with a dot becomes two characters, and the Greek sigma has a form of its own at the end of a
word. -/

namespace ComponentAtlas.Charset

/-- The first character that counts for case is a letter with case. -/
def meetsCased (text : List Char) : Bool :=
  ((text.dropWhile Property.caseIgnorable.has).head?).any Property.cased.has

/-- The small form of a character between two texts, of which the first is reversed. -/
def smallForm (before : List Char) (c : Char) (after : List Char) : List Char :=
  if c = 'İ' then ['i', '\u0307']
  else if c = 'Σ' then [if meetsCased before && !meetsCased after then 'ς' else 'σ']
  else [smallLetter c]

/-- The small forms of the characters behind a text, which is given reversed. -/
def lowercaseAfter (before : List Char) : List Char → List Char
  | [] => []
  | c :: rest => smallForm before c rest ++ lowercaseAfter (c :: before) rest

/-- The text in small letters. -/
def lowercase (text : List Char) : List Char := lowercaseAfter [] text

end ComponentAtlas.Charset
