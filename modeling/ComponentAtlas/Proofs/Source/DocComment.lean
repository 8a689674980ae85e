import Mathlib.Data.List.TakeWhile
import ComponentAtlas.Proofs.Text.Pieces
import ComponentAtlas.Source.DocComment

/-! # Block tags line by line

The search for block tags may begin lines before the tag that it finds, because blanks and stars
take it over line ends. Yet what is found can be told line by line: a line has a tag if it begins
with one, and no line has more. For a text that leads to a tag still leads to it when it is cut off
in front of a line, and the lines that the search passes over have no at sign. -/

namespace ComponentAtlas.Source.DocComment

open ComponentAtlas.Charset

variable {s t lead tag rest : List Char}

/-! ## Leads and tags -/

/-- A text that may stand in front of a tag: blanks, an opening mark or none, blanks and stars. -/
def IsLead (s : List Char) : Prop :=
  ∃ blanks mark stars, s = blanks ++ (mark ++ stars) ∧ (∀ c ∈ blanks, isBlank c = true) ∧
    (mark = [] ∨ mark = ['/', '*', '*']) ∧ ∀ c ∈ stars, isDecoration c = true

/-- The name of a tag. -/
def IsTag (s : List Char) : Prop :=
  ∃ c rest, s = c :: rest ∧ beginsTag c = true ∧ ∀ d ∈ rest, continuesTag d = true

/-- No tag goes on with this text. -/
def EndsTag (s : List Char) : Prop := ∀ c ∈ s.head?, continuesTag c = false

theorem isDecoration_of_isBlank {c : Char} (blank : isBlank c = true) : isDecoration c = true := by
  rw [isDecoration, blank, Bool.true_or]

theorem at_not_isDecoration : isDecoration '@' = false := by decide

theorem dropWhile_append_at {p : Char → Bool} (stops : p '@' = false)
    (all : ∀ c ∈ s, p c = true) (t : List Char) : (s ++ '@' :: t).dropWhile p = '@' :: t := by
  rw [List.dropWhile_append_of_pos all, List.dropWhile_cons_of_neg (Bool.eq_false_iff.1 stops)]

/-- No lead has an at sign, so a text can be taken apart at the first in one way only. -/
theorem IsLead.free (h : IsLead s) : '@' ∉ s := by
  obtain ⟨blanks, mark, stars, rfl, blank, marked, starred⟩ := h
  have notBlank : isBlank '@' = false := by decide
  rw [List.mem_append, List.mem_append]
  rintro (inBlanks | inMark | inStars)
  · rw [blank _ inBlanks] at notBlank
    cases notBlank
  · rcases marked with rfl | rfl
    · cases inMark
    · exact absurd inMark (by decide)
  · exact absurd (starred _ inStars) (Bool.eq_false_iff.1 at_not_isDecoration)

/-- The mark stands behind blanks only; without it there is no telling blanks from stars. -/
theorem isLead_iff : IsLead s ↔ (∀ c ∈ s, isDecoration c = true) ∨
    ∃ blanks stars, s = blanks ++ '/' :: '*' :: '*' :: stars ∧ (∀ c ∈ blanks, isBlank c = true) ∧
      ∀ c ∈ stars, isDecoration c = true := by
  constructor
  · rintro ⟨blanks, mark, stars, rfl, blank, rfl | rfl, starred⟩
    · rw [List.nil_append, List.forall_mem_append]
      exact .inl ⟨fun c member => isDecoration_of_isBlank (blank c member), starred⟩
    · exact .inr ⟨blanks, stars, rfl, blank, starred⟩
  · rintro (starred | ⟨blanks, stars, rfl, blank, starred⟩)
    · exact ⟨[], [], s, rfl, List.forall_mem_nil _, .inl rfl, starred⟩
    · exact ⟨blanks, _, stars, rfl, blank, .inr rfl, starred⟩

/-- A lead that is cut off in front of a line is a lead. -/
theorem IsLead.behind_newline {front : List Char} (h : IsLead (front ++ '\n' :: s)) : IsLead s := by
  rcases isLead_iff.1 h with starred | ⟨blanks, stars, whole, blank, starred⟩
  · rw [List.forall_mem_append, List.forall_mem_cons] at starred
    exact isLead_iff.2 (.inl starred.2.2)
  · rcases List.append_eq_append_iff.1 whole with ⟨more, rfl, behind⟩ | ⟨more, rfl, behind⟩
    · -- the line ends among the blanks in front of the mark
      cases more with
      | nil => cases behind
      | cons c more =>
        obtain ⟨-, rfl⟩ := List.cons.inj behind
        rw [List.forall_mem_append, List.forall_mem_cons] at blank
        exact isLead_iff.2 (.inr ⟨more, stars, rfl, blank.2.2, starred⟩)
    · -- the line ends among the stars behind the mark
      match more with
      | [] | [_] | [_, _] => cases behind
      | _ :: _ :: _ :: more =>
        have inStars : stars = more ++ '\n' :: s := by
          injection behind with _ behind
          injection behind with _ behind
          injection behind
        rw [inStars, List.forall_mem_append, List.forall_mem_cons] at starred
        exact isLead_iff.2 (.inl starred.2.2)

/-! ## Tags at a line start -/

theorem exists_of_skipOpening (s : List Char) :
    ∃ blanks mark, s = blanks ++ (mark ++ skipOpening s) ∧ (∀ c ∈ blanks, isBlank c = true) ∧
      (mark = [] ∨ mark = ['/', '*', '*']) := by
  have whole := (List.takeWhile_append_dropWhile (p := isBlank) (l := s)).symm
  have blank : ∀ c ∈ s.takeWhile isBlank, isBlank c = true := fun c => List.mem_takeWhile_imp
  unfold skipOpening
  split
  · next rest opened =>
    rw [opened] at whole
    exact ⟨_, ['/', '*', '*'], whole, blank, .inr rfl⟩
  · exact ⟨_, [], whole, blank, .inl rfl⟩

/-- Behind blanks and stars there is no opening mark in front of the at sign. -/
theorem skipOpening_of_decorated (starred : ∀ c ∈ s, isDecoration c = true) (t : List Char) :
    skipOpening (s ++ '@' :: t) = s.dropWhile isBlank ++ '@' :: t := by
  have drops : (s ++ '@' :: t).dropWhile isBlank = s.dropWhile isBlank ++ '@' :: t := by
    rw [List.dropWhile_append]
    split
    · next none =>
      rw [List.isEmpty_iff.1 none]
      rfl
    · rfl
  have inside : ∀ c ∈ s.dropWhile isBlank, isDecoration c = true := fun c member =>
    starred c (List.dropWhile_sublist _ |>.subset member)
  unfold skipOpening
  rw [drops]
  split
  · next rest opened =>
    cases behind : s.dropWhile isBlank with
    | nil =>
      rw [behind] at opened
      cases opened
    | cons c more =>
      rw [behind] at opened inside
      rw [(List.cons.inj opened).1, List.forall_mem_cons] at inside
      exact absurd inside.1 (by decide)
  · rfl

/-- Behind a lead the search has come to the at sign. -/
theorem dropWhile_skipOpening (h : IsLead lead) (t : List Char) :
    (skipOpening (lead ++ '@' :: t)).dropWhile isDecoration = '@' :: t := by
  rcases isLead_iff.1 h with starred | ⟨blanks, stars, rfl, blank, starred⟩
  · rw [skipOpening_of_decorated starred]
    refine dropWhile_append_at at_not_isDecoration (fun c member => ?_) t
    exact starred c (List.dropWhile_sublist _ |>.subset member)
  · have drops : (blanks ++ '/' :: '*' :: '*' :: stars ++ '@' :: t).dropWhile isBlank =
        '/' :: '*' :: '*' :: (stars ++ '@' :: t) := by
      rw [List.append_assoc, List.dropWhile_append_of_pos blank]
      exact List.dropWhile_cons_of_neg (by decide)
    unfold skipOpening
    rw [drops]
    exact dropWhile_append_at at_not_isDecoration starred t

theorem endsTag_dropWhile (s : List Char) : EndsTag (s.dropWhile continuesTag) := by
  intro c first
  have stops := List.head?_dropWhile_not continuesTag s
  rw [first] at stops
  exact stops

theorem takeWhile_of_endsTag {more : List Char} (goes : ∀ d ∈ more, continuesTag d = true)
    (ends : EndsTag rest) :
    (more ++ rest).takeWhile continuesTag = more ∧
      (more ++ rest).dropWhile continuesTag = rest := by
  rw [List.takeWhile_append_of_pos goes, List.dropWhile_append_of_pos goes]
  cases rest with
  | nil => exact ⟨List.append_nil _, rfl⟩
  | cons c behind =>
    have stops : ¬ continuesTag c = true := Bool.eq_false_iff.1 (ends c rfl)
    rw [List.takeWhile_cons_of_neg stops, List.dropWhile_cons_of_neg stops, List.append_nil]
    exact ⟨rfl, rfl⟩

/-- A line start leads to a tag if and only if there is a lead in front of an at sign and the tag,
which ends where no tag goes on. -/
theorem tagAt?_eq_some_iff :
    tagAt? s = some (tag, rest) ↔
      ∃ lead, s = lead ++ '@' :: (tag ++ rest) ∧ IsLead lead ∧ IsTag tag ∧ EndsTag rest := by
  constructor
  · intro leads
    unfold tagAt? at leads
    split at leads
    · next c more reached =>
      split at leads
      · next begins =>
        cases leads
        obtain ⟨blanks, mark, whole, blank, marked⟩ := exists_of_skipOpening s
        have stars := (List.takeWhile_append_dropWhile (p := isDecoration)
          (l := skipOpening s)).symm
        have parts := (List.takeWhile_append_dropWhile (p := continuesTag) (l := more)).symm
        refine ⟨blanks ++ (mark ++ (skipOpening s).takeWhile isDecoration), ?_,
          ⟨blanks, mark, _, rfl, blank, marked, fun c => List.mem_takeWhile_imp⟩,
          ⟨c, _, rfl, begins, fun d => List.mem_takeWhile_imp⟩, endsTag_dropWhile more⟩
        rw [List.append_assoc, List.append_assoc, List.cons_append, ← parts, ← reached, ← stars]
        exact whole
      · cases leads
    · cases leads
  · rintro ⟨lead, rfl, isLead, ⟨c, more, rfl, begins, goes⟩, ends⟩
    obtain ⟨taken, left⟩ := takeWhile_of_endsTag goes ends
    unfold tagAt?
    rw [dropWhile_skipOpening isLead, List.cons_append]
    show (if beginsTag c then _ else none) = _
    rw [if_pos begins, taken, left]

/-! ## Lines -/

/-- The tag that a line begins with. -/
def lineTag? (line : List Char) : Option (List Char) := (tagAt? line).map (·.1)

/-- The tags that the lines of a text begin with. -/
def lineTags (s : List Char) : List (List Char) :=
  (Text.pieces (· = '\n') s).filterMap lineTag?

theorem lineTag?_eq_some_iff {line : List Char} :
    lineTag? line = some tag ↔ ∃ lead behind, line = lead ++ '@' :: (tag ++ behind) ∧
      IsLead lead ∧ IsTag tag ∧ EndsTag behind := by
  rw [lineTag?, Option.map_eq_some_iff]
  constructor
  · rintro ⟨⟨_, behind⟩, leads, rfl⟩
    obtain ⟨lead, parts⟩ := tagAt?_eq_some_iff.1 leads
    exact ⟨lead, behind, parts⟩
  · rintro ⟨lead, behind, parts⟩
    exact ⟨(tag, behind), tagAt?_eq_some_iff.2 ⟨lead, parts⟩, rfl⟩

theorem lineTag?_of_free {line : List Char} (free : '@' ∉ line) : lineTag? line = none := by
  refine Option.eq_none_iff_forall_not_mem.2 ?_
  intro tag has
  obtain ⟨lead, behind, rfl, -, -, -⟩ := lineTag?_eq_some_iff.1 has
  exact free (List.mem_append_right lead (List.mem_cons_self ..))

/-- The text in front of the first at sign can be told. -/
theorem front_inj {front behind : List Char} (free : '@' ∉ front) (free' : '@' ∉ lead)
    (same : front ++ '@' :: behind = lead ++ '@' :: s) : front = lead ∧ behind = s := by
  have plain {t : List Char} (free : '@' ∉ t) : ∀ c ∈ t, decide (c = '@') = false :=
    fun c member => decide_eq_false fun same => free (same ▸ member)
  have cut := congrArg (Text.pieces (· = '@')) same
  rw [Text.pieces_append_cons (plain free) (decide_eq_true rfl),
    Text.pieces_append_cons (plain free') (decide_eq_true rfl)] at cut
  obtain ⟨rfl, -⟩ := List.cons.inj cut
  exact ⟨rfl, (List.cons.inj (List.append_cancel_left same)).2⟩

/-- An at sign behind other text is not that of a tag. -/
theorem lineTag?_behind_text {front : List Char} (free : '@' ∉ front) (other : ¬ IsLead front)
    (behind : List Char) : lineTag? (front ++ '@' :: behind) = none := by
  refine Option.eq_none_iff_forall_not_mem.2 ?_
  intro tag has
  apply other
  obtain ⟨lead, after, whole, isLead, -, -⟩ := lineTag?_eq_some_iff.1 has
  exact (front_inj free isLead.free whole).1 ▸ isLead

theorem lineTags_append_newline (s t : List Char) :
    lineTags (s ++ '\n' :: t) = lineTags s ++ lineTags t := by
  rw [lineTags, Text.pieces_append_separator (decide_eq_true rfl), List.filterMap_append]
  rfl

theorem lineTags_of_line {line : List Char} (free : '\n' ∉ line) :
    lineTags line = (lineTag? line).toList := by
  have one : Text.pieces (· = '\n') line = [line] :=
    Text.pieces_of_free fun c member => decide_eq_false fun same => free (same ▸ member)
  rw [lineTags, one]
  cases found : lineTag? line with
  | none => exact List.filterMap_cons_none found
  | some tag => exact List.filterMap_cons_some found

theorem lineTags_of_free (free : '@' ∉ s) : lineTags s = [] := by
  refine List.filterMap_eq_nil_iff.2 ?_
  intro line member
  refine lineTag?_of_free ?_
  intro inLine
  exact free (Text.mem_of_mem_pieces member inLine)

/-- The tags of the lines behind the next line end. -/
def laterTags (s : List Char) : List (List Char) := ((nextLine s).map lineTags).getD []

theorem nextLine_cons {c : Char} (ne : c ≠ '\n') (s : List Char) :
    nextLine (c :: s) = nextLine s := by
  conv =>
    lhs
    unfold nextLine
  split
  · next same => cases same
  · next same => exact absurd (List.cons.inj same).1 ne
  · next same =>
    cases same
    rfl

theorem nextLine_of_free (free : '\n' ∉ s) : nextLine s = none := by
  induction s with
  | nil => rfl
  | cons c rest ih =>
    rw [List.mem_cons, not_or] at free
    rw [nextLine_cons (Ne.symm free.1), ih free.2]

theorem nextLine_append_newline (free : '\n' ∉ s) (t : List Char) :
    nextLine (s ++ '\n' :: t) = some t := by
  induction s with
  | nil => rfl
  | cons c rest ih =>
    rw [List.mem_cons, not_or] at free
    rw [List.cons_append, nextLine_cons (Ne.symm free.1), ih free.2]

theorem length_lt_of_nextLine {line : List Char} (next : nextLine s = some line) :
    line.length < s.length := by
  by_cases ends : '\n' ∈ s
  · obtain ⟨first, behind, rfl, free⟩ := List.eq_append_cons_of_mem ends
    rw [nextLine_append_newline free] at next
    cases next
    rw [List.length_append, List.length_cons]
    omega
  · rw [nextLine_of_free ends] at next
    cases next

/-- The first line, and those behind it. -/
theorem lineTags_eq (s : List Char) :
    ∃ line, lineTags s = (lineTag? line).toList ++ laterTags s ∧
      ((s = line ∧ '\n' ∉ s) ∨ ∃ more, s = line ++ '\n' :: more ∧ nextLine s = some more) := by
  by_cases ends : '\n' ∈ s
  · obtain ⟨line, more, rfl, free⟩ := List.eq_append_cons_of_mem ends
    have next := nextLine_append_newline free more
    refine ⟨line, ?_, .inr ⟨more, rfl, next⟩⟩
    rw [lineTags_append_newline, lineTags_of_line free, laterTags, next]
    rfl
  · refine ⟨s, ?_, .inl ⟨rfl, ends⟩⟩
    rw [lineTags_of_line ends, laterTags, nextLine_of_free ends]
    exact (List.append_nil _).symm

/-! ### The search and the lines -/

theorem newline_not_continuesTag : continuesTag '\n' = false := by decide

theorem IsTag.free (h : IsTag tag) : '\n' ∉ tag := by
  obtain ⟨c, more, rfl, begins, goes⟩ := h
  rintro (_ | ⟨_, member⟩)
  · exact absurd begins (by decide)
  · exact absurd (goes _ member) (Bool.eq_false_iff.1 newline_not_continuesTag)

theorem EndsTag.of_append {behind more : List Char} (h : EndsTag (behind ++ '\n' :: more)) :
    EndsTag behind := by
  cases behind with
  | nil => exact fun _ first => nomatch first
  | cons c rest => exact h

theorem EndsTag.append_newline {behind : List Char} (h : EndsTag behind) (more : List Char) :
    EndsTag (behind ++ '\n' :: more) := by
  cases behind with
  | nil =>
    intro c first
    cases first
    exact newline_not_continuesTag
  | cons c rest => exact h

/-- A text that leads to no tag has none on its first line. -/
theorem lineTags_of_tagAt?_none (none : tagAt? s = none) : lineTags s = laterTags s := by
  obtain ⟨line, parted, whole⟩ := lineTags_eq s
  have without : lineTag? line = .none := by
    refine Option.eq_none_iff_forall_not_mem.2 ?_
    intro tag has
    obtain ⟨lead, behind, rfl, isLead, isTag, ends⟩ := lineTag?_eq_some_iff.1 has
    obtain ⟨rest, found⟩ : ∃ rest, tagAt? s = some (tag, rest) := by
      rcases whole with ⟨rfl, -⟩ | ⟨more, rfl, -⟩
      · exact ⟨behind, tagAt?_eq_some_iff.2 ⟨lead, rfl, isLead, isTag, ends⟩⟩
      · refine ⟨behind ++ '\n' :: more, tagAt?_eq_some_iff.2 ⟨lead, ?_, isLead, isTag, ?_⟩⟩
        · simp only [List.append_assoc, List.cons_append]
        · exact ends.append_newline more
    rw [none] at found
    cases found
  rw [parted, without]
  rfl

/-- A text that leads to a tag has it on the line of the tag, and none on the lines before. -/
theorem lineTags_of_tagAt?_some (leads : tagAt? s = some (tag, rest)) :
    lineTags s = tag :: laterTags rest := by
  obtain ⟨lead, rfl, isLead, isTag, ends⟩ := tagAt?_eq_some_iff.1 leads
  -- what stands in front of the tag on its own line
  obtain ⟨last, isLast, freeLast, same⟩ : ∃ last, IsLead last ∧ '\n' ∉ last ∧
      lineTags (lead ++ '@' :: (tag ++ rest)) = lineTags (last ++ '@' :: (tag ++ rest)) := by
    by_cases across : '\n' ∈ lead
    · obtain ⟨last, front, reversed, free⟩ :=
        List.eq_append_cons_of_mem (List.mem_reverse.2 across)
      have whole : lead = front.reverse ++ '\n' :: last.reverse := by
        rw [← List.reverse_reverse lead, reversed]
        simp only [List.reverse_append, List.reverse_cons, List.append_assoc,
          List.singleton_append]
      have freeFront : '@' ∉ front.reverse := fun member =>
        isLead.free (whole ▸ List.mem_append_left _ member)
      refine ⟨last.reverse, (whole ▸ isLead).behind_newline, by simpa using free, ?_⟩
      rw [whole, List.append_assoc, List.cons_append, lineTags_append_newline,
        lineTags_of_free freeFront, List.nil_append]
    · exact ⟨lead, isLead, across, rfl⟩
  have freeTag := isTag.free
  rw [same]
  by_cases more : '\n' ∈ rest
  · obtain ⟨behind, later, rfl, free⟩ := List.eq_append_cons_of_mem more
    have line : lineTag? (last ++ '@' :: (tag ++ behind)) = some tag :=
      lineTag?_eq_some_iff.2 ⟨last, behind, rfl, isLast, isTag, ends.of_append⟩
    have cut : last ++ '@' :: (tag ++ (behind ++ '\n' :: later)) =
        last ++ '@' :: (tag ++ behind) ++ '\n' :: later := by
      simp only [List.append_assoc, List.cons_append]
    rw [cut, lineTags_append_newline, lineTags_of_line, line, laterTags,
      nextLine_append_newline free]
    · rfl
    · simp [freeLast, freeTag, free]
  · have line : lineTag? (last ++ '@' :: (tag ++ rest)) = some tag :=
      lineTag?_eq_some_iff.2 ⟨last, rest, rfl, isLast, isTag, ends⟩
    rw [lineTags_of_line, line, laterTags, nextLine_of_free more]
    · rfl
    · simp [freeLast, freeTag, more]

theorem length_lt_of_tagAt? (leads : tagAt? s = some (tag, rest)) : rest.length < s.length := by
  obtain ⟨lead, rfl, -, -, -⟩ := tagAt?_eq_some_iff.1 leads
  simp only [List.length_append, List.length_cons]
  omega

/-- The tags found from the next line start on, if there is one. -/
def nextTagsFrom (n : Nat) (s : List Char) : List String :=
  ((nextLine s).map (tagsFrom n)).getD []

theorem tagsFrom_of_tagAt?_some {n : Nat} (leads : tagAt? s = some (tag, rest)) :
    tagsFrom (n + 1) s = String.ofList tag :: nextTagsFrom n rest := by
  rw [tagsFrom, leads, nextTagsFrom]
  dsimp only
  cases nextLine rest <;> rfl

theorem tagsFrom_of_tagAt?_none {n : Nat} (none : tagAt? s = none) :
    tagsFrom (n + 1) s = nextTagsFrom n s := by
  rw [tagsFrom, none, nextTagsFrom]
  cases nextLine s <;> rfl

/-- The search from line start to line start finds the tags of the lines. The induction is on the
line starts; a text behind a line start or behind a tag is shorter, so there are enough of them. -/
theorem tagsFrom_eq {n : Nat} (enough : s.length < n) :
    tagsFrom n s = (lineTags s).map String.ofList := by
  induction n generalizing s with
  | zero => exact absurd enough (Nat.not_lt_zero _)
  | succ n ih =>
    have later {t : List Char} (shorter : t.length ≤ s.length) :
        nextTagsFrom n t = (laterTags t).map String.ofList := by
      rw [nextTagsFrom, laterTags]
      cases next : nextLine t with
      | none => rfl
      | some line =>
        have := length_lt_of_nextLine next
        exact ih (by omega)
    rcases leads : tagAt? s with _ | ⟨tag, rest⟩
    · rw [tagsFrom_of_tagAt?_none leads, lineTags_of_tagAt?_none leads]
      exact later (Nat.le_refl _)
    · rw [tagsFrom_of_tagAt?_some leads, lineTags_of_tagAt?_some leads, List.map_cons]
      exact congrArg _ (later (Nat.le_of_lt (length_lt_of_tagAt? leads)))

theorem tags_eq (comment : String) :
    tags comment = (lineTags comment.toList).map String.ofList :=
  tagsFrom_eq (Nat.lt_succ_self _)

end ComponentAtlas.Source.DocComment
