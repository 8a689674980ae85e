import ComponentAtlas.Charset.Lowercase
import ComponentAtlas.Charset.Word

/-! # Characters in the tables

What the tables of characters say about the characters that versions and identifiers are made of:
the digits of the Latin script are digits, and no letter has a colon or a blank as its small
form. The small form of a letter has no other small form, so that a text in small letters is kept as
it is. -/

namespace ComponentAtlas.Charset

/-! ## Digits -/

theorem ofTable_ofList (table : List Char) :
    ofTable (String.ofList table) = readRanges [] table := by
  rw [ofTable, String.toList_ofList]

set_option maxRecDepth 20000 in
/-- The table of digits begins with those of the Latin script. -/
theorem digitRanges_eq : ∃ more, digitRanges = (0x30, 0x39) :: more := by
  obtain ⟨more, table⟩ :
      ∃ more, digitRanges = readRanges [] ('3' :: '0' :: '-' :: '3' :: '9' :: ' ' :: more) :=
    ⟨_, ofTable_ofList _⟩
  exact ⟨readRanges [] more, table⟩

theorem digitRanges_has {c : Char} (low : 0x30 ≤ c.toNat) (high : c.toNat ≤ 0x39) :
    digitRanges.has c = true := by
  obtain ⟨more, table⟩ := digitRanges_eq
  rw [table, Ranges.has, Ranges.contains, if_neg (by omega)]
  simp [high]

/-- The point lies before every digit. -/
theorem digitRanges_has_point : digitRanges.has '.' = false := by
  obtain ⟨more, table⟩ := digitRanges_eq
  rw [table]
  rfl

/-! ## Small letters -/

theorem Ranges.exists_of_contains {set : Ranges} {n : Nat} (h : set.contains n = true) :
    ∃ r ∈ set, r.1 ≤ n ∧ n ≤ r.2 := by
  induction set with
  | nil => cases h
  | cons r rest ih =>
    rw [contains] at h
    split at h
    · cases h
    · next reached =>
      rw [Bool.or_eq_true, decide_eq_true_eq] at h
      rcases h with here | later
      · exact ⟨r, List.mem_cons_self, Nat.not_lt.1 reached, here⟩
      · obtain ⟨other, member, bounds⟩ := ih later
        exact ⟨other, List.mem_cons_of_mem _ member, bounds⟩

/-- A code point is kept, or a run sends it on. -/
theorem mapBy_eq_or (runs : List Run) (n : Nat) :
    mapBy runs n = n ∨
      ∃ r ∈ runs, r.maps n = true ∧ mapBy runs n = r.target + (n - r.first) := by
  rw [mapBy]
  cases found : runs.findSome? (·.image? n) with
  | none => exact .inl rfl
  | some image =>
    obtain ⟨r, listed, maps⟩ := List.exists_of_findSome?_eq_some found
    rw [Run.image?] at maps
    split at maps
    · next inside =>
      cases maps
      exact .inr ⟨r, listed, inside, rfl⟩
    · cases maps

/-- A code point is kept, or it is sent into the target of a run. -/
theorem mapBy_cases (runs : List Run) (n : Nat) :
    mapBy runs n = n ∨
      ∃ r ∈ runs, r.target ≤ mapBy runs n ∧ mapBy runs n ≤ r.target + (r.last - r.first) := by
  rcases mapBy_eq_or runs n with kept | ⟨r, listed, inside, sent⟩
  · exact .inl kept
  · simp only [Run.maps, Bool.and_eq_true, decide_eq_true_eq] at inside
    exact .inr ⟨r, listed, by omega, by omega⟩

theorem mapBy_of_not_maps {runs : List Run} {n : Nat} (kept : ∀ r ∈ runs, r.maps n = false) :
    mapBy runs n = n := by
  have none : runs.findSome? (·.image? n) = none := by
    rw [List.findSome?_eq_none_iff]
    intro r listed
    rw [Run.image?, kept r listed]
    rfl
  rw [mapBy, none]
  rfl

theorem toNat_ofNat_cases (n : Nat) : (Char.ofNat n).toNat = n ∨ (Char.ofNat n).toNat = 0 := by
  by_cases valid : n.isValidChar
  · have same : Char.ofNat n = Char.ofNatAux n valid := dif_pos valid
    rw [same]
    exact .inl rfl
  · have zero : Char.ofNat n = '\x00' := dif_neg valid
    rw [zero]
    exact .inr rfl

/-- A set that no run leads into has no small letters but those of its own characters. -/
theorem has_of_has_smallLetter {set : Ranges} (positive : set.contains 0 = false)
    (apart : ∀ r ∈ smallLetterRuns, ∀ b ∈ set,
      r.target + (r.last - r.first) < b.1 ∨ b.2 < r.target)
    {c : Char} (h : set.has (smallLetter c) = true) : set.has c = true := by
  rw [Ranges.has, smallLetter] at h
  rcases toNat_ofNat_cases (mapBy smallLetterRuns c.toNat) with same | zero
  · rw [same] at h
    rcases mapBy_cases smallLetterRuns c.toNat with kept | ⟨r, listed, low, high⟩
    · rw [kept] at h
      exact h
    · obtain ⟨b, member, bounds⟩ := Ranges.exists_of_contains h
      have := apart r listed b member
      omega
  · rw [zero, positive] at h
    cases h

/-- Only blanks become blanks. -/
theorem isBlank_of_isBlank_smallLetter {c : Char} (h : isBlank (smallLetter c) = true) :
    isBlank c = true :=
  has_of_has_smallLetter rfl (by decide +kernel) h

/-- A character that no run leads to is the small letter of nothing else. -/
theorem eq_of_smallLetter_eq {d : Char} (positive : Ranges.contains [(d.toNat, d.toNat)] 0 = false)
    (apart : ∀ r ∈ smallLetterRuns, ∀ b ∈ [(d.toNat, d.toNat)],
      r.target + (r.last - r.first) < b.1 ∨ b.2 < r.target)
    {c : Char} (h : smallLetter c = d) : c = d := by
  have own : Ranges.has [(d.toNat, d.toNat)] (smallLetter c) = true := by
    simp [h, Ranges.has, Ranges.contains]
  obtain ⟨r, member, low, high⟩ :=
    Ranges.exists_of_contains (has_of_has_smallLetter positive apart own)
  rw [List.mem_singleton] at member
  subst member
  have same : c.toNat = d.toNat := Nat.le_antisymm high low
  rw [← Char.ofNat_toNat c, same, Char.ofNat_toNat]

/-- Only the colon becomes a colon. -/
theorem smallLetter_eq_colon {c : Char} (h : smallLetter c = ':') : c = ':' :=
  eq_of_smallLetter_eq rfl (by decide +kernel) h

/-- The code points that the run leads to are apart from those that another one starts from: they
lie elsewhere, or between them. -/
def Run.isApart (r q : Run) : Bool :=
  Nat.blt (r.target + (r.last - r.first)) q.first || (Nat.blt q.last r.target ||
    (Nat.beq q.step 2 && ((Nat.beq r.step 2 || Nat.beq r.first r.last) &&
      Nat.beq ((r.target + q.first) % 2) 1)))

theorem Run.not_maps_of_isApart {r q : Run} (apart : r.isApart q = true) {n : Nat}
    (inside : r.maps n = true) : q.maps (r.target + (n - r.first)) = false := by
  refine Bool.eq_false_iff.2 fun maps => ?_
  simp only [Run.maps, Bool.and_eq_true, decide_eq_true_eq] at inside maps
  simp only [Run.isApart, Bool.or_eq_true, Bool.and_eq_true, Nat.blt_eq, Nat.beq_eq] at apart
  rcases apart with below | above | ⟨two, alike, odd⟩
  · omega
  · omega
  · rw [two] at maps
    rcases alike with two' | alone
    · rw [two'] at inside
      omega
    · omega

-- Tested by numbers and not by instances, which takes a third of the time for so many pairs.
/-- No small letter that a run leads to is a capital letter of a run. -/
theorem smallLetterRuns_apart :
    smallLetterRuns.all (fun r => smallLetterRuns.all r.isApart) = true := by
  decide +kernel

theorem mapBy_mapBy_smallLetterRuns (n : Nat) :
    mapBy smallLetterRuns (mapBy smallLetterRuns n) = mapBy smallLetterRuns n := by
  rcases mapBy_eq_or smallLetterRuns n with kept | ⟨r, listed, inside, sent⟩
  · rw [kept, kept]
  · refine mapBy_of_not_maps fun q other => ?_
    have apart := List.all_eq_true.1 (List.all_eq_true.1 smallLetterRuns_apart r listed) q other
    rw [sent]
    exact Run.not_maps_of_isApart apart inside

/-- A character that no run starts from has no small letter but itself. -/
theorem smallLetter_of_not_maps {c : Char}
    (kept : smallLetterRuns.all (fun r => !r.maps c.toNat) = true) : smallLetter c = c := by
  have same : mapBy smallLetterRuns c.toNat = c.toNat := by
    refine mapBy_of_not_maps fun r listed => ?_
    rw [← Bool.not_eq_true']
    exact List.all_eq_true.1 kept r listed
  rw [smallLetter, same, Char.ofNat_toNat]

/-- A small letter has no other small letter. -/
theorem smallLetter_smallLetter (c : Char) : smallLetter (smallLetter c) = smallLetter c := by
  rcases toNat_ofNat_cases (mapBy smallLetterRuns c.toNat) with same | zero
  · show Char.ofNat (mapBy smallLetterRuns (smallLetter c).toNat) = smallLetter c
    rw [smallLetter, same, mapBy_mapBy_smallLetterRuns]
  · have null : smallLetter c = '\x00' := by
      rw [← Char.ofNat_toNat (smallLetter c), smallLetter, zero]
    rw [null]
    exact smallLetter_of_not_maps (by decide +kernel)

section Lowercase

variable {p q : Char → Prop}

theorem forall_mem_smallForm (small : ∀ c, c ≠ 'İ' → p c → q (smallLetter c))
    (special : ∀ c ∈ ['i', '\u0307', 'ς', 'σ'], q c) {before after : List Char} {c : Char}
    (h : p c) : ∀ d ∈ smallForm before c after, q d := by
  intro d member
  unfold smallForm at member
  split at member
  · exact special d (List.mem_append_left ['ς', 'σ'] member)
  · next plain =>
    split at member
    · rw [List.mem_singleton] at member
      subst member
      split
      · exact special 'ς' (by decide)
      · exact special 'σ' (by decide)
    · rw [List.mem_singleton] at member
      subst member
      exact small c plain h

/-- What small letters have if the letters have something, and what the small forms of the dotted I
and of the sigma have, holds of all characters of a text in small letters. -/
theorem forall_mem_lowercase (small : ∀ c, c ≠ 'İ' → p c → q (smallLetter c))
    (special : ∀ c ∈ ['i', '\u0307', 'ς', 'σ'], q c) {text : List Char} (all : ∀ c ∈ text, p c) :
    ∀ c ∈ lowercase text, q c := by
  suffices ∀ before, ∀ c ∈ lowercaseAfter before text, q c from this []
  induction text with
  | nil => exact fun _ => List.forall_mem_nil _
  | cons c rest ih =>
    rw [List.forall_mem_cons] at all
    intro before d member
    rw [lowercaseAfter, List.mem_append] at member
    rcases member with here | later
    · exact forall_mem_smallForm small special all.1 d here
    · exact ih all.2 (c :: before) d later

/-- The character is its own small form. -/
def IsSmall (c : Char) : Prop := c ≠ 'İ' ∧ smallLetter c = c

/-- All characters of a text in small letters are small, whatever the text. -/
theorem isSmall_of_mem_lowercase (text : List Char) : ∀ c ∈ lowercase text, IsSmall c := by
  have small (c : Char) (ne : c ≠ 'İ') : IsSmall (smallLetter c) :=
    ⟨fun dotted => ne (eq_of_smallLetter_eq rfl (by decide +kernel) dotted),
      smallLetter_smallLetter c⟩
  have special : ∀ c ∈ ['i', '\u0307', 'ς', 'σ'], IsSmall c := by
    have plain : 'İ' ∉ ['i', '\u0307', 'ς', 'σ'] := by decide
    have kept : ['i', '\u0307', 'ς', 'σ'].all
        (fun c => smallLetterRuns.all fun r => !r.maps c.toNat) = true := by decide +kernel
    intro c listed
    exact ⟨fun same => plain (same ▸ listed),
      smallLetter_of_not_maps (List.all_eq_true.1 kept c listed)⟩
  exact forall_mem_lowercase (p := fun _ => True) (fun c ne _ => small c ne) special
    (fun _ _ => trivial)

theorem smallForm_of_isSmall {c : Char} (small : IsSmall c) (before after : List Char) :
    smallForm before c after = [c] := by
  have notSigma : c ≠ 'Σ' := by
    rintro rfl
    have sent : mapBy smallLetterRuns 'Σ'.toNat = 'σ'.toNat := by decide +kernel
    have other : smallLetter 'Σ' = 'σ' := by rw [smallLetter, sent, Char.ofNat_toNat]
    exact absurd (other.symm.trans small.2) (by decide)
  rw [smallForm, if_neg small.1, if_neg notSigma, small.2]

/-- A text of small characters is in small letters. -/
theorem lowercase_of_isSmall {text : List Char} (small : ∀ c ∈ text, IsSmall c) :
    lowercase text = text := by
  suffices ∀ before, lowercaseAfter before text = text from this []
  induction text with
  | nil => exact fun _ => rfl
  | cons c rest ih =>
    rw [List.forall_mem_cons] at small
    intro before
    rw [lowercaseAfter, smallForm_of_isSmall small.1, ih small.2, List.singleton_append]

end Lowercase

end ComponentAtlas.Charset
