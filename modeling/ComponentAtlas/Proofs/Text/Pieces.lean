import ComponentAtlas.Text.Pieces

/-! # Pieces and what they are cut from

A text that is put together from pieces without separators is cut into those pieces again, and
every text is put together from its pieces. -/

namespace ComponentAtlas.Text

variable {isSeparator : Char → Bool}

/-- A text without separators is one piece. -/
theorem pieces_of_free {s : List Char} (free : ∀ c ∈ s, isSeparator c = false) :
    pieces isSeparator s = [s] := by
  induction s with
  | nil => rfl
  | cons c rest ih =>
    rw [List.forall_mem_cons] at free
    rw [pieces, if_neg (by rw [free.1]; decide), ih free.2]

/-- The first separator ends the first piece. -/
theorem pieces_append_cons {s rest : List Char} {separator : Char}
    (free : ∀ c ∈ s, isSeparator c = false) (separates : isSeparator separator = true) :
    pieces isSeparator (s ++ separator :: rest) = s :: pieces isSeparator rest := by
  induction s with
  | nil => rw [List.nil_append, pieces, if_pos separates]
  | cons c more ih =>
    rw [List.forall_mem_cons] at free
    rw [List.cons_append, pieces, if_neg (by rw [free.1]; decide), ih free.2]

/-- A separator parts the pieces in front of it from those behind it. -/
theorem pieces_append_separator {separator : Char} (separates : isSeparator separator = true)
    (s t : List Char) :
    pieces isSeparator (s ++ separator :: t) = pieces isSeparator s ++ pieces isSeparator t := by
  induction s with
  | nil =>
    simp only [List.nil_append, pieces, separates, if_true]
    rfl
  | cons c rest ih =>
    rw [List.cons_append, pieces, pieces, ih]
    split
    · rfl
    · obtain ⟨first, more, cut⟩ := List.exists_cons_of_ne_nil (pieces_ne_nil isSeparator rest)
      rw [cut]
      rfl

/-- A piece has no separators. -/
theorem free_of_mem_pieces {s piece : List Char} (member : piece ∈ pieces isSeparator s) :
    ∀ c ∈ piece, isSeparator c = false := by
  induction s generalizing piece with
  | nil =>
    rw [pieces, List.mem_singleton] at member
    subst member
    exact List.forall_mem_nil _
  | cons c rest ih =>
    rw [pieces] at member
    split at member
    · rcases List.mem_cons.1 member with rfl | member
      · exact List.forall_mem_nil _
      · exact ih member
    · next plain =>
      obtain ⟨first, more, cut⟩ := List.exists_cons_of_ne_nil (pieces_ne_nil isSeparator rest)
      rw [cut] at member ih
      rcases List.mem_cons.1 member with rfl | member
      · exact List.forall_mem_cons.2 ⟨Bool.eq_false_iff.2 plain, ih List.mem_cons_self⟩
      · exact ih (List.mem_cons_of_mem _ member)

/-- A piece has characters of the text only. -/
theorem mem_of_mem_pieces {s piece : List Char} (member : piece ∈ pieces isSeparator s) {c : Char}
    (inside : c ∈ piece) : c ∈ s := by
  induction s generalizing piece with
  | nil =>
    rw [pieces, List.mem_singleton] at member
    subst member
    exact inside
  | cons d rest ih =>
    rw [pieces] at member
    split at member
    · rcases List.mem_cons.1 member with rfl | later
      · cases inside
      · exact List.mem_cons_of_mem d (ih later inside)
    · obtain ⟨first, more, cut⟩ := List.exists_cons_of_ne_nil (pieces_ne_nil isSeparator rest)
      rw [cut] at member ih
      rcases List.mem_cons.1 member with rfl | later
      · rcases List.mem_cons.1 inside with rfl | among
        · exact List.mem_cons_self
        · exact List.mem_cons_of_mem d (ih List.mem_cons_self among)
      · exact List.mem_cons_of_mem d (ih (List.mem_cons_of_mem _ later) inside)

/-- A text that is one piece is that piece. -/
theorem eq_of_pieces_singleton {s piece : List Char} (cut : pieces isSeparator s = [piece]) :
    s = piece := by
  induction s generalizing piece with
  | nil => simpa [pieces] using cut
  | cons c rest ih =>
    rw [pieces] at cut
    split at cut
    · exact absurd (List.cons.inj cut).2 (pieces_ne_nil isSeparator rest)
    · obtain ⟨first, more, later⟩ := List.exists_cons_of_ne_nil (pieces_ne_nil isSeparator rest)
      rw [later] at cut
      obtain ⟨same, none⟩ := List.cons.inj cut
      rw [← same, ih (later.trans (congrArg _ none))]

/-- Behind the first of several pieces there is a separator. -/
theorem eq_append_cons_of_pieces {s first second : List Char} {more : List (List Char)}
    (cut : pieces isSeparator s = first :: second :: more) :
    ∃ separator rest, isSeparator separator = true ∧ s = first ++ separator :: rest ∧
      pieces isSeparator rest = second :: more := by
  induction s generalizing first with
  | nil => simp [pieces] at cut
  | cons c rest ih =>
    rw [pieces] at cut
    split at cut
    · next separates =>
      obtain ⟨none, later⟩ := List.cons.inj cut
      exact ⟨c, rest, separates, by rw [← none, List.nil_append], later⟩
    · obtain ⟨start, others, later⟩ := List.exists_cons_of_ne_nil (pieces_ne_nil isSeparator rest)
      rw [later] at cut
      obtain ⟨same, ends⟩ := List.cons.inj cut
      obtain ⟨separator, behind, separates, whole, others⟩ := ih (later.trans (congrArg _ ends))
      exact ⟨separator, behind, separates, by rw [← same, whole, List.cons_append], others⟩

/-- The pieces between copies of a character are the texts without it that the copies join. -/
theorem pieces_eq_iff {separator : Char} {s : List Char} {parts : List (List Char)} :
    pieces (· = separator) s = parts ↔
      parts ≠ [] ∧ (∀ part ∈ parts, separator ∉ part) ∧ s = [separator].intercalate parts := by
  have free_iff {part : List Char} :
      (∀ c ∈ part, decide (c = separator) = false) ↔ separator ∉ part := by
    simp only [decide_eq_false_iff_not]
    exact ⟨fun free member => free separator member rfl, fun free c member same =>
      free (same ▸ member)⟩
  induction parts generalizing s with
  | nil => exact iff_of_false (pieces_ne_nil _ s) fun h => h.1 rfl
  | cons first rest ih =>
    cases rest with
    | nil =>
      rw [List.forall_mem_singleton, List.intercalate_singleton]
      constructor
      · intro cut
        have whole := eq_of_pieces_singleton cut
        have free := free_of_mem_pieces (cut ▸ List.mem_singleton_self first)
        exact ⟨List.cons_ne_nil _ _, free_iff.1 free, whole⟩
      · rintro ⟨-, free, rfl⟩
        exact pieces_of_free (free_iff.2 free)
    | cons second more =>
      rw [List.intercalate_cons_cons, List.append_assoc, List.singleton_append]
      constructor
      · intro cut
        have free := free_of_mem_pieces (cut ▸ List.mem_cons_self : first ∈ pieces _ s)
        obtain ⟨c, behind, separates, whole, later⟩ := eq_append_cons_of_pieces cut
        obtain ⟨-, others, joins⟩ := ih.1 later
        rw [of_decide_eq_true separates, joins] at whole
        exact ⟨List.cons_ne_nil _ _, List.forall_mem_cons.2 ⟨free_iff.1 free, others⟩, whole⟩
      · rintro ⟨-, free, rfl⟩
        rw [List.forall_mem_cons] at free
        rw [pieces_append_cons (free_iff.2 free.1) (decide_eq_true rfl)]
        exact congrArg _ (ih.2 ⟨List.cons_ne_nil _ _, free.2, rfl⟩)

theorem byteCount_append (s t : List Char) : byteCount (s ++ t) = byteCount s + byteCount t := by
  induction s with
  | nil => exact (Nat.zero_add _).symm
  | cons c rest ih => rw [List.cons_append, byteCount, byteCount, ih, Nat.add_assoc]

end ComponentAtlas.Text
