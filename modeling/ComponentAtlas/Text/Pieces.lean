/-! # Pieces of a text

A text is cut at separators into pieces. Nothing is dropped: two separators in a row have an empty
piece between them, and a text without separators is one piece. -/

namespace ComponentAtlas.Text

/-- The pieces between separators, in order. -/
def pieces (isSeparator : Char → Bool) : List Char → List (List Char)
  | [] => [[]]
  | c :: rest =>
    if isSeparator c then [] :: pieces isSeparator rest
    else match pieces isSeparator rest with
      | [] => [[c]]
      | first :: more => (c :: first) :: more

theorem pieces_ne_nil (isSeparator : Char → Bool) (s : List Char) : pieces isSeparator s ≠ [] := by
  cases s with
  | nil => simp [pieces]
  | cons c rest =>
    simp only [pieces]
    split
    · simp
    · split <;> simp

/-- Drops that many bytes of a text in its byte form. -/
def dropBytes : Nat → List Char → List Char
  | 0, s => s
  | _ + 1, [] => []
  | n + 1, c :: rest => dropBytes (n + 1 - c.utf8Size) rest

/-- The number of bytes of a text in its byte form. -/
def byteCount : List Char → Nat
  | [] => 0
  | c :: rest => c.utf8Size + byteCount rest

/-- A text in its byte form. -/
def bytes (s : List Char) : List UInt8 := s.flatMap String.utf8EncodeChar

theorem dropBytes_byteCount_append (s t : List Char) : dropBytes (byteCount s) (s ++ t) = t := by
  induction s with
  | nil => simp [byteCount, dropBytes]
  | cons c s ih =>
    obtain ⟨n, hn⟩ : ∃ n, c.utf8Size = n + 1 :=
      ⟨c.utf8Size - 1, by have := c.utf8Size_pos; omega⟩
    have : byteCount (c :: s) = n + byteCount s + 1 := by simp [byteCount, hn]; omega
    simp only [this, List.cons_append, dropBytes, hn]
    simpa [Nat.add_sub_cancel_left, show n + byteCount s + 1 - (n + 1) = byteCount s by omega]
      using ih

end ComponentAtlas.Text
