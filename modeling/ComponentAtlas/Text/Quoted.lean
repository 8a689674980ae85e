import ComponentAtlas.Charset.Property

/-! # Quoted texts

How a message shows a text that it complains about: in quotation marks, with everything escaped
that a reader could not see. -/

namespace ComponentAtlas.Text

open Charset

/-- The character can be seen on its own: it is no control, format, private or unassigned
character, no separator other than the space, and it does not join the character before it. -/
def isVisible (c : Char) : Bool :=
  c = ' ' ||
    !(CharSet.has (.union Property.graphemeExtend
      (.ofCategories [.control, .format, .privateUse, .unassigned, .lineSeparator,
        .paragraphSeparator, .spaceSeparator])) c)

/-- The hexadecimal digits of a number. -/
def hexadecimal (n : Nat) : List Char := Nat.toDigits 16 n

/-- A character as it is written between quotation marks. -/
def quotedCharacter (c : Char) : List Char :=
  match c with
  | '\x00' => ['\\', '0']
  | '\t' => ['\\', 't']
  | '\n' => ['\\', 'n']
  | '\r' => ['\\', 'r']
  | '\x22' => ['\\', '\x22']
  | '\\' => ['\\', '\\']
  | c =>
    if isVisible c then [c] else ['\\', 'u', '\x7b'] ++ hexadecimal c.toNat ++ ['\x7d']

/-- The text in quotation marks. -/
def quoted (s : String) : String :=
  String.ofList ('\x22' :: (s.toList.flatMap quotedCharacter ++ ['\x22']))

end ComponentAtlas.Text
