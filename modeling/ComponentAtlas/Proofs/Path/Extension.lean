import ComponentAtlas.Proofs.Path.Below
import ComponentAtlas.Proofs.Path.Spellings
import ComponentAtlas.Proofs.Related
import Mathlib.Data.List.TakeWhile

/-! # Extensions and spellings

The dialect of a path told from its text. The extension stands behind a dot; in front of the dot the
name goes on, and behind the extension there is at most padding.

The dialect is told from the text as it is spelled, where a backslash is no separator. No path has
spellings in two dialects. Yet a path may have a spelling in a dialect and one in none: those are
the paths whose text ends in an extension with no name in front of the dot, or with padding behind
it. -/

namespace ComponentAtlas.Path

/-! ## The last name -/

/-- What may stand behind the last name of a path: slashes, and dots that count for nothing. -/
inductive Padding : List Char → Prop
  | nil : Padding []
  | slash {rest : List Char} (more : Padding rest) : Padding ('/' :: rest)
  | dot {rest : List Char} (more : Padding rest) : Padding ('/' :: '.' :: rest)

/-- A name of a path may begin behind the text. -/
def EndsBeforeName (text : List Char) : Prop := text = [] ∨ text.getLast? = some '/'

theorem not_endsBeforeName_append (front : List Char) {c : Char} (other : c ≠ '/') :
    ¬ EndsBeforeName (front ++ [c]) := by
  rintro (empty | slash)
  · exact absurd empty (by simp)
  · exact other (by simpa using slash)

theorem component?_eq_none_iff {piece : List Char} :
    component? piece = none ↔ piece = [] ∨ piece = ['.'] := by
  rw [component?]
  split
  · next ignored => simpa using ignored
  · next kept =>
    have counts : ¬ (piece = [] ∨ piece = ['.']) := by simpa using kept
    split <;> simp [counts]

theorem isName_of_component? {piece : List Char} {name : String} (whole : '/' ∉ piece)
    (h : component? piece = some (.name name)) : IsName name ∧ piece = name.toList := by
  rw [component?] at h
  split at h
  · cases h
  · next kept =>
    split at h
    · cases h
    · next notUp =>
      cases h
      simp only [Bool.or_eq_true, decide_eq_true_iff, not_or] at kept
      refine ⟨⟨?_, ?_, ?_, ?_⟩, String.toList_ofList.symm⟩
      · exact fun empty => kept.1 (by simpa using congrArg String.toList empty)
      · rwa [String.toList_ofList]
      · exact fun here => kept.2 (by simpa using congrArg String.toList here)
      · exact fun up => notUp (by simpa using congrArg String.toList up)

theorem getLast?_cons_eq_name_iff {c : Component} {l : List Component} {name : String}
    (special : c ≠ .name name) :
    (c :: l).getLast? = some (.name name) ↔ l.getLast? = some (.name name) := by
  rw [List.getLast?_cons]
  cases l.getLast? with
  | none => simp [special]
  | some last => simp

/-- The file name is the last piece that counts, if that is a name. -/
theorem fileName?_eq_some_iff_getLast? {path name : String} :
    fileName? path = some name ↔
      ((pieces path.toList).filterMap component?).getLast? = some (.name name) := by
  have last : fileName? path = some name ↔ (components path).getLast? = some (.name name) := by
    rw [fileName?]
    split
    · next n found => simp [found]
    · next other =>
      simp only [reduceCtorEq, false_iff]
      exact other name
  rw [last, components]
  split
  · exact getLast?_cons_eq_name_iff (by simp)
  · split
    · next rest cut =>
      rw [cut]
      exact getLast?_cons_eq_name_iff (by simp)
    · rfl

/-- Padding has no pieces that count. -/
theorem Padding.exists_pieces {back : List Char} (padding : Padding back) :
    ∃ others, (∀ x ∈ others, component? x = none) ∧
      ∀ piece, '/' ∉ piece → pieces (piece ++ back) = piece :: others := by
  have free {piece : List Char} (whole : '/' ∉ piece) : ∀ c ∈ piece, decide (c = '/') = false :=
    fun c member => decide_eq_false fun same => whole (same ▸ member)
  induction padding with
  | nil =>
    refine ⟨[], List.forall_mem_nil _, fun piece whole => ?_⟩
    rw [List.append_nil]
    exact Text.pieces_of_free (free whole)
  | slash _ ih =>
    obtain ⟨others, ignored, cut⟩ := ih
    refine ⟨[] :: others, List.forall_mem_cons.2 ⟨rfl, ignored⟩, fun piece whole => ?_⟩
    rw [pieces, Text.pieces_append_cons (free whole) rfl]
    exact congrArg _ (cut [] List.not_mem_nil)
  | dot _ ih =>
    obtain ⟨others, ignored, cut⟩ := ih
    refine ⟨['.'] :: others, List.forall_mem_cons.2 ⟨rfl, ignored⟩, fun piece whole => ?_⟩
    rw [pieces, Text.pieces_append_cons (free whole) rfl]
    exact congrArg _ (cut ['.'] (by decide))

theorem exists_padding {text piece : List Char} {others : List (List Char)}
    (cut : pieces text = piece :: others) (ignored : ∀ x ∈ others, component? x = none) :
    ∃ back, Padding back ∧ text = piece ++ back := by
  induction others generalizing text piece with
  | nil => exact ⟨[], .nil, (Text.eq_of_pieces_singleton cut).trans (List.append_nil _).symm⟩
  | cons second more ih =>
    rw [List.forall_mem_cons] at ignored
    obtain ⟨separator, rest, separates, whole, later⟩ := Text.eq_append_cons_of_pieces cut
    obtain ⟨back, padding, behind⟩ := ih later ignored.2
    rw [of_decide_eq_true separates, behind] at whole
    refine ⟨_, ?_, whole⟩
    rcases component?_eq_none_iff.1 ignored.1 with rfl | rfl
    · exact .slash padding
    · exact .dot padding

theorem exists_front {text piece : List Char} {before others : List (List Char)}
    (cut : pieces text = before ++ piece :: others) :
    ∃ front rest, EndsBeforeName front ∧ text = front ++ rest ∧ pieces rest = piece :: others := by
  induction before generalizing text with
  | nil => exact ⟨[], text, .inl rfl, rfl, cut⟩
  | cons first more ih =>
    obtain ⟨second, behind, same⟩ : ∃ second behind, more ++ piece :: others = second :: behind :=
      List.exists_cons_of_ne_nil (by simp)
    rw [List.cons_append, same] at cut
    obtain ⟨separator, rest, separates, whole, later⟩ := Text.eq_append_cons_of_pieces cut
    obtain ⟨front, tail, ends, split, last⟩ := ih (later.trans same.symm)
    refine ⟨first ++ separator :: front, tail, .inr ?_, by simp [whole, split], last⟩
    rw [of_decide_eq_true separates]
    rcases ends with rfl | ends
    · simp
    · simp [List.getLast?_append, List.getLast?_cons, ends]

/-- The file name stands behind a slash, or in front of everything, and only padding follows. -/
theorem fileName?_eq_some_iff {path name : String} :
    fileName? path = some name ↔ IsName name ∧ ∃ front back,
      path.toList = front ++ name.toList ++ back ∧ EndsBeforeName front ∧ Padding back := by
  rw [fileName?_eq_some_iff_getLast?, List.getLast?_filterMap, List.findSome?_eq_some_iff]
  constructor
  · rintro ⟨others, piece, before, cut, counts, ignored⟩
    have whole : pieces path.toList = before.reverse ++ piece :: others.reverse := by
      rw [← List.reverse_reverse (pieces path.toList), cut]
      simp
    have free : '/' ∉ piece := fun member => by
      have piece_mem : piece ∈ pieces path.toList := by rw [whole]; simp
      exact absurd rfl (of_decide_eq_false (Text.free_of_mem_pieces piece_mem '/' member))
    obtain ⟨named, rfl⟩ := isName_of_component? free counts
    obtain ⟨front, rest, ends, split, last⟩ := exists_front whole
    obtain ⟨back, padding, behind⟩ :=
      exists_padding last fun x member => ignored x (List.mem_reverse.1 member)
    refine ⟨named, front, back, ?_, ends, padding⟩
    rw [split, behind, List.append_assoc]
  · rintro ⟨named, front, back, whole, ends, padding⟩
    obtain ⟨others, ignored, cut⟩ := padding.exists_pieces
    have last : ∃ before, pieces path.toList = before ++ name.toList :: others := by
      rcases ends with rfl | ends
      · exact ⟨[], by rw [whole, List.nil_append, cut _ named.whole, List.nil_append]⟩
      · obtain ⟨u, rfl⟩ := List.getLast?_eq_some_iff.1 ends
        refine ⟨pieces u, ?_⟩
        rw [whole, List.append_assoc, List.append_assoc, List.singleton_append, ← cut _ named.whole]
        exact Text.pieces_append_separator rfl _ _
    obtain ⟨before, last⟩ := last
    refine ⟨others.reverse, name.toList, before.reverse, by simp [last], named.component?_eq, ?_⟩
    exact fun x member => ignored x (List.mem_reverse.1 member)

/-! ## The extension -/

/-- The text ends in a dot and an extension of the dialect, up to padding. Nothing is said of what
stands in front of the dot. -/
structure Written (text front ext back : List Char) (l : Language) : Prop where
  whole : text = front ++ '.' :: ext ++ back
  dialect : Language.ofExtension? (String.ofList ext) = some l
  padding : Padding back

/-- No extension of a dialect is empty, and none has dots or separators in it. -/
theorem plain_of_dialect {ext : List Char} {l : Language}
    (dialect : Language.ofExtension? (String.ofList ext) = some l) :
    ext ≠ [] ∧ ∀ c ∈ ext, c ≠ '.' ∧ c ≠ '/' ∧ c ≠ '\\' := by
  have known : String.ofList ext ∈ ["ts", "mts", "cts", "tsx", "js", "mjs", "cjs", "jsx"] := by
    unfold Language.ofExtension? at dialect
    split at dialect <;> simp_all
  have plain : (["ts", "mts", "cts", "tsx", "js", "mjs", "cjs", "jsx"].all fun s =>
      !s.toList.isEmpty && s.toList.all fun c => c != '.' && c != '/' && c != '\\') = true := by
    decide +kernel
  have each := List.all_eq_true.1 plain _ known
  rw [String.toList_ofList] at each
  simpa [and_assoc] using each

/-- The extension is what stands behind the last dot of the file name, unless the dot is the first
character. -/
theorem extension?_eq_some_iff {path ext : String} :
    extension? path = some ext ↔ ∃ name stem, fileName? path = some name ∧ stem ≠ [] ∧
      '.' ∉ ext.toList ∧ name.toList = stem ++ '.' :: ext.toList := by
  rw [extension?, Option.bind_eq_some_iff]
  refine exists_congr fun name => ?_
  simp only [Option.ite_none_right_eq_some, exists_and_left]
  refine and_congr_right fun _ => ?_
  constructor
  · rintro ⟨longer, same⟩
    cases same
    have cut := List.takeWhile_append_dropWhile (p := (· != '.')) (l := name.toList.reverse)
    have free : '.' ∉ name.toList.reverse.takeWhile (· != '.') := fun member => by
      simpa using List.mem_takeWhile_imp member
    have head := List.head?_dropWhile_not (· != '.') name.toList.reverse
    generalize name.toList.reverse.takeWhile (· != '.') = after at longer cut free ⊢
    generalize name.toList.reverse.dropWhile (· != '.') = rest at cut head
    have whole := congrArg List.reverse cut
    rw [List.reverse_reverse, List.reverse_append] at whole
    cases rest with
    | nil =>
      rw [← cut, List.append_nil] at longer
      omega
    | cons c stem =>
      have isDot : c = '.' := by simpa using head
      subst isDot
      refine ⟨stem.reverse, ?_, ?_, ?_⟩
      · rintro empty
        rw [← cut, List.reverse_eq_nil_iff.1 empty, List.length_append] at longer
        exact absurd longer (Nat.lt_irrefl _)
      · rwa [String.toList_ofList, List.mem_reverse]
      · rw [String.toList_ofList, ← whole, List.reverse_cons, List.append_assoc,
          List.singleton_append]
  · rintro ⟨stem, nonempty, free, whole⟩
    have front : name.toList.reverse.takeWhile (· != '.') = ext.toList.reverse := by
      have pass : ∀ c ∈ ext.toList.reverse, (c != '.') = true := fun c member =>
        bne_iff_ne.2 fun same => free (same ▸ List.mem_reverse.1 member)
      rw [whole, List.reverse_append, List.reverse_cons, List.append_assoc,
        List.takeWhile_append_of_pos pass]
      simp
    rw [front]
    refine ⟨?_, by simp⟩
    have := List.length_pos_of_ne_nil nonempty
    simp only [whole, List.length_reverse, List.length_append, List.length_cons]
    omega

theorem exists_stem {front : List Char} (goesOn : ¬ EndsBeforeName front) :
    ∃ before stem, front = before ++ stem ∧ EndsBeforeName before ∧ stem ≠ [] ∧ '/' ∉ stem := by
  by_cases slashed : '/' ∈ front.reverse
  · obtain ⟨stem, before, split, free⟩ := List.eq_append_cons_of_mem slashed
    have whole : front = (before.reverse ++ ['/']) ++ stem.reverse := by
      rw [← List.reverse_reverse front, split]
      simp
    refine ⟨_, _, whole, .inr (by simp), ?_, fun member => free (List.mem_reverse.1 member)⟩
    rintro empty
    rw [empty, List.append_nil] at whole
    exact goesOn (.inr (by simp [whole]))
  · refine ⟨[], front, rfl, .inl rfl, fun empty => goesOn (.inl empty), ?_⟩
    exact fun member => slashed (List.mem_reverse.2 member)

/-- A path selects the dialect whose extension its text ends in, behind a dot in front of which a
name goes on, and up to padding. -/
theorem language?_eq_some_iff {path : String} {l : Language} :
    language? path = some l ↔
      ∃ front ext back, Written path.toList front ext back l ∧ ¬ EndsBeforeName front := by
  rw [language?, Option.bind_eq_some_iff]
  constructor
  · rintro ⟨ext, found, dialect⟩
    obtain ⟨name, stem, named, nonempty, free, split⟩ := extension?_eq_some_iff.1 found
    obtain ⟨isName, front, back, whole, ends, padding⟩ := fileName?_eq_some_iff.1 named
    refine ⟨front ++ stem, ext.toList, back, ⟨?_, ?_, padding⟩, ?_⟩
    · rw [whole, split]
      simp only [List.append_assoc]
    · rwa [String.ofList_toList]
    · rintro (empty | slash)
      · exact nonempty (List.append_eq_nil_iff.1 empty).2
      · rw [List.getLast?_append_of_ne_nil _ nonempty] at slash
        refine isName.whole ?_
        rw [split]
        exact List.mem_append_left _ (List.mem_of_getLast? slash)
  · rintro ⟨front, ext, back, ⟨whole, dialect, padding⟩, goesOn⟩
    obtain ⟨before, stem, rfl, ends, nonempty, free⟩ := exists_stem goesOn
    obtain ⟨some, plain⟩ := plain_of_dialect dialect
    refine ⟨String.ofList ext, extension?_eq_some_iff.2 ?_, dialect⟩
    have long : 2 < (String.ofList (stem ++ '.' :: ext)).toList.length := by
      have stemLong := List.length_pos_of_ne_nil nonempty
      have extLong := List.length_pos_of_ne_nil some
      rw [String.toList_ofList, List.length_append, List.length_cons]
      omega
    have named : IsName (String.ofList (stem ++ '.' :: ext)) := by
      refine ⟨?_, ?_, ?_, ?_⟩
      · intro empty
        rw [empty] at long
        exact absurd long (by decide)
      · rw [String.toList_ofList, List.mem_append, List.mem_cons, not_or, not_or]
        exact ⟨free, by decide, fun member => (plain _ member).2.1 rfl⟩
      · intro here
        rw [here] at long
        exact absurd long (by decide)
      · intro up
        rw [up] at long
        exact absurd long (by decide)
    refine ⟨String.ofList (stem ++ '.' :: ext), stem, fileName?_eq_some_iff.2 ⟨named, ?_⟩,
      nonempty, ?_, ?_⟩
    · refine ⟨before, back, ?_, ends, padding⟩
      rw [whole, String.toList_ofList]
      simp only [List.append_assoc]
    · rw [String.toList_ofList]
      exact fun member => (plain _ member).1 rfl
    · rw [String.toList_ofList, String.toList_ofList]

theorem exists_last_of_dialect {ext : List Char} {l : Language}
    (dialect : Language.ofExtension? (String.ofList ext) = some l) :
    ∃ last others, ext.reverse = last :: others ∧ last ≠ '.' ∧ last ≠ '/' ∧ last ≠ '\\' := by
  obtain ⟨nonempty, plain⟩ := plain_of_dialect dialect
  obtain ⟨last, others, same⟩ := List.exists_cons_of_ne_nil (mt List.reverse_eq_nil_iff.1 nonempty)
  exact ⟨last, others, same, plain last (List.mem_reverse.1 (same ▸ List.mem_cons_self))⟩

/-- What may be padding. -/
def isEdge (c : Char) : Bool := c = '.' || c = '/'

theorem Padding.forall_isEdge {back : List Char} (padding : Padding back) :
    ∀ c ∈ back, isEdge c = true := by
  induction padding with
  | nil => exact List.forall_mem_nil _
  | slash _ ih => exact List.forall_mem_cons.2 ⟨rfl, ih⟩
  | dot _ ih => exact List.forall_mem_cons.2 ⟨rfl, List.forall_mem_cons.2 ⟨rfl, ih⟩⟩

section Written

variable {text front ext back front' ext' back' : List Char} {l l' : Language}

theorem Written.dropWhile_reverse (h : Written text front ext back l) :
    text.reverse.dropWhile isEdge = ext.reverse ++ '.' :: front.reverse := by
  have edges : ∀ c ∈ back.reverse, isEdge c = true := fun c member =>
    h.padding.forall_isEdge c (List.mem_reverse.1 member)
  obtain ⟨last, others, same, noDot, noSlash, -⟩ := exists_last_of_dialect h.dialect
  have inside : ¬ isEdge last = true := by simp [isEdge, noDot, noSlash]
  rw [h.whole, List.reverse_append, List.dropWhile_append_of_pos edges, List.reverse_append,
    List.reverse_cons, List.append_assoc, List.singleton_append, same, List.cons_append,
    List.dropWhile_cons_of_neg inside]

/-- A text ends in an extension in one way at most. -/
theorem Written.unique (h : Written text front ext back l)
    (h' : Written text front' ext' back' l') :
    front = front' ∧ ext = ext' ∧ back = back' ∧ l = l' := by
  have cut := h.dropWhile_reverse.symm.trans h'.dropWhile_reverse
  have noDot {e : List Char} {d : Language}
      (dialect : Language.ofExtension? (String.ofList e) = some d) : '.' ∉ e.reverse :=
    fun member => ((plain_of_dialect dialect).2 _ (List.mem_reverse.1 member)).1 rfl
  obtain ⟨exts, -, fronts⟩ := append_cons_inj_of_free (noDot h'.dialect) (noDot h.dialect) cut
  have sameExt := List.reverse_inj.1 exts
  have sameFront := List.reverse_inj.1 fronts
  subst sameExt sameFront
  refine ⟨rfl, rfl, ?_, Option.some.inj (h.dialect.symm.trans h'.dialect)⟩
  exact List.append_cancel_left (h.whole.symm.trans h'.whole)

end Written

/-! ## Spellings -/

/-- The character by which a character is matched: a slash for a backslash. -/
def slash (c : Char) : Char := if c = '\\' then '/' else c

theorem toList_normalize (path : String) :
    (normalize path).toList = dropLeadingHere (path.toList.map slash) :=
  String.toList_ofList

theorem eq_of_map_slash {s t : List Char} (plain : '/' ∉ t) (same : s.map slash = t) : s = t := by
  subst same
  have each : ∀ c ∈ s, slash c = id c := by
    intro c member
    rw [slash]
    split
    · next back =>
      exact absurd (List.mem_map.2 ⟨c, member, by rw [slash, if_pos back]⟩) plain
    · rfl
  rw [List.map_congr_left each, List.map_id]

/-- Dots are dropped in front of the last dot of a file name only. -/
theorem dropLeadingHere_append (front : List Char) {rest : List Char}
    (inside : rest.head? ≠ some '/') :
    ∃ front', dropLeadingHere (front ++ '.' :: rest) = front' ++ '.' :: rest := by
  fun_induction dropLeadingHere front with
  | case1 more ih => exact ih
  | case2 s other =>
    refine ⟨s, dropLeadingHere.eq_2 _ fun more same => ?_⟩
    cases s with
    | nil => exact inside (by simp [(List.cons.inj same).2])
    | cons c more =>
      obtain ⟨rfl, tail⟩ := List.cons.inj same
      cases more with
      | nil => exact absurd (List.cons.inj tail).1 (by decide)
      | cons d behind =>
        obtain ⟨rfl, -⟩ := List.cons.inj tail
        exact other behind rfl

/-- Whatever a path ends in, the text by which it is matched ends in, too. -/
theorem Written.normalize {path : String} {front ext back : List Char} {l : Language}
    (h : Written path.toList front ext back l) :
    ∃ front', Written (normalize path).toList front' ext back l := by
  obtain ⟨nonempty, plain⟩ := plain_of_dialect h.dialect
  have extSame : ext.map slash = ext := slashes_of_free fun member => (plain _ member).2.2 rfl
  have backSame : back.map slash = back := slashes_of_free fun member =>
    absurd (h.padding.forall_isEdge _ member) (by decide)
  have inside : (ext ++ back).head? ≠ some '/' := by
    obtain ⟨c, others, rfl⟩ := List.exists_cons_of_ne_nil nonempty
    exact fun same => (plain c List.mem_cons_self).2.1 (Option.some.inj same)
  obtain ⟨front', dropped⟩ := dropLeadingHere_append (front.map slash) inside
  refine ⟨front', ?_, h.dialect, h.padding⟩
  have whole : path.toList.map slash = front.map slash ++ '.' :: (ext ++ back) := by
    rw [h.whole, List.append_assoc, List.map_append, List.cons_append, List.map_cons,
      List.map_append, extSame, backSame]
    rfl
  rw [toList_normalize, whole, dropped, List.append_assoc, List.cons_append]

/-- A file name with an extension and nothing behind it selects the dialect in every spelling. -/
theorem language?_of_written {path : String} {front ext : List Char} {l : Language}
    (h : Written (normalize path).toList front ext [] l) (goesOn : ¬ EndsBeforeName front) :
    language? path = some l := by
  obtain ⟨-, plain⟩ := plain_of_dialect h.dialect
  obtain ⟨dots, dropped⟩ := dropLeadingHere_suffix (path.toList.map slash)
  rw [← toList_normalize, h.whole, List.append_nil, ← List.append_assoc] at dropped
  obtain ⟨start, last, split, starts, lasts⟩ := List.map_eq_append_iff.1 dropped.symm
  have same : last = '.' :: ext := by
    refine eq_of_map_slash ?_ lasts
    rw [List.mem_cons, not_or]
    exact ⟨by decide, fun member => (plain _ member).2.1 rfl⟩
  refine language?_eq_some_iff.2 ⟨start, ext, [], ⟨?_, h.dialect, .nil⟩, ?_⟩
  · rw [split, same, List.append_nil]
  · have nonempty : front ≠ [] := fun empty => goesOn (.inl empty)
    rintro (empty | ends)
    · rw [empty] at starts
      exact nonempty (List.append_eq_nil_iff.1 starts.symm).2
    · have mapped := congrArg List.getLast? starts
      rw [List.getLast?_map, ends, List.getLast?_append_of_ne_nil _ nonempty] at mapped
      exact goesOn (.inr mapped.symm)

/-- The text ends in an extension that may or may not be that of a file name, depending on how
separators are spelled: no name goes on in front of the dot, or there is padding behind. -/
def IsAmbiguous (text : List Char) : Prop :=
  ∃ front ext back l, Written text front ext back l ∧ (EndsBeforeName front ∨ back ≠ [])

variable {p q : String}

theorem language?_le_of_normalize (alike : normalize p = normalize q)
    (clear : ¬ IsAmbiguous (normalize p).toList) {l : Language} (found : language? p = some l) :
    language? q = some l := by
  obtain ⟨front, ext, back, written, -⟩ := language?_eq_some_iff.1 found
  obtain ⟨front', ends⟩ := written.normalize
  have sure : ¬ (EndsBeforeName front' ∨ back ≠ []) := fun either =>
    clear ⟨front', ext, back, l, ends, either⟩
  rw [not_or, not_not] at sure
  obtain ⟨goesOn, rfl⟩ := sure
  rw [alike] at ends
  exact language?_of_written ends goesOn

/-- Unless its text is ambiguous, a path selects the same dialect in every spelling. -/
theorem language?_of_normalize (alike : normalize p = normalize q)
    (clear : ¬ IsAmbiguous (normalize p).toList) : language? p = language? q := by
  refine Option.ext fun l => ⟨language?_le_of_normalize alike clear, ?_⟩
  exact language?_le_of_normalize alike.symm (alike ▸ clear)

/-- No two spellings of a path select different dialects. -/
theorem eq_of_language? (alike : normalize p = normalize q) {l l' : Language}
    (first : language? p = some l) (second : language? q = some l') : l = l' := by
  obtain ⟨_, _, _, writtenP, -⟩ := language?_eq_some_iff.1 first
  obtain ⟨_, _, _, writtenQ, -⟩ := language?_eq_some_iff.1 second
  obtain ⟨_, endsP⟩ := writtenP.normalize
  obtain ⟨_, endsQ⟩ := writtenQ.normalize
  rw [alike] at endsP
  exact (endsP.unique endsQ).2.2.2

/-- A separator of the text may be spelled the other way. -/
theorem normalize_backslash {before behind : List Char}
    (cut : (normalize p).toList = before ++ '/' :: behind) :
    normalize (String.ofList (before ++ '\\' :: behind)) = normalize p := by
  have same (s : List Char) : List.Forall₂ IsOrBackslash s s :=
    List.forall₂_same.2 fun _ _ => .inl rfl
  have spelled : BackslashedAs (normalize p) (String.ofList (before ++ '\\' :: behind)) := by
    rw [BackslashedAs, cut, String.toList_ofList]
    exact List.rel_append (same before) (.cons (.inr ⟨rfl, rfl⟩) (same behind))
  rw [normalize_of_backslashedAs spelled, normalize_normalize]

theorem Padding.exists_last {back : List Char} (padding : Padding back) (some : back ≠ []) :
    ∃ before behind, back = before ++ '/' :: behind ∧ ∀ c ∈ behind, isEdge c = true := by
  obtain ⟨behind, before, cut, free⟩ : ∃ behind before,
      back.reverse = behind ++ '/' :: before ∧ '/' ∉ behind := by
    refine List.eq_append_cons_of_mem (List.mem_reverse.2 ?_)
    cases padding with
    | nil => exact absurd rfl some
    | slash _ => exact List.mem_cons_self
    | dot _ => exact List.mem_cons_self
  have whole : back = before.reverse ++ '/' :: behind.reverse := by
    rw [← List.reverse_reverse back, cut]
    simp
  refine ⟨_, _, whole, fun c member => padding.forall_isEdge c ?_⟩
  rw [whole]
  exact List.mem_append_right _ (List.mem_cons_of_mem _ member)

/-- A text that ends in a backslash, up to dots and slashes, ends in no extension. -/
theorem language?_of_backslash {before behind : List Char}
    (edges : ∀ c ∈ behind, isEdge c = true) :
    language? (String.ofList (before ++ '\\' :: behind)) = none := by
  refine Option.eq_none_iff_forall_ne_some.2 fun l found => ?_
  obtain ⟨front, ext, back, written, -⟩ := language?_eq_some_iff.1 found
  have cut := written.dropWhile_reverse
  have backwards : ∀ c ∈ behind.reverse, isEdge c = true := fun c member =>
    edges c (List.mem_reverse.1 member)
  rw [String.toList_ofList, List.reverse_append, List.reverse_cons, List.append_assoc,
    List.singleton_append, List.dropWhile_append_of_pos backwards,
    List.dropWhile_cons_of_neg (by decide)] at cut
  obtain ⟨last, others, same, -, -, noBackslash⟩ := exists_last_of_dialect written.dialect
  rw [same, List.cons_append] at cut
  exact noBackslash (List.cons.inj cut).1.symm

/-- Every ambiguous text has a spelling in a dialect and one in none. -/
theorem exists_spellings (ambiguous : IsAmbiguous (normalize p).toList) :
    ∃ q q' l, normalize q = normalize p ∧ normalize q' = normalize p ∧
      language? q = some l ∧ language? q' = none := by
  obtain ⟨front, ext, back, l, written, either⟩ := ambiguous
  by_cases ends : EndsBeforeName front
  · -- the dot begins the name, so the text itself is in none
    have silent : language? (normalize p) = none := by
      refine Option.eq_none_iff_forall_ne_some.2 fun l' found => ?_
      obtain ⟨front', ext', back', written', goesOn⟩ := language?_eq_some_iff.1 found
      exact goesOn ((written.unique written').1 ▸ ends)
    suffices spoken : ∃ q, normalize q = normalize p ∧ ∃ front', ¬ EndsBeforeName front' ∧
        Written q.toList front' ext back l by
      obtain ⟨q, alike, front', goesOn, written'⟩ := spoken
      exact ⟨q, normalize p, l, alike, normalize_normalize p,
        language?_eq_some_iff.2 ⟨front', ext, back, written', goesOn⟩, silent⟩
    rcases ends with rfl | slashed
    · refine ⟨".\\" ++ normalize p, ?_, ['.'] ++ ['\\'],
        not_endsBeforeName_append _ (by decide), ?_, written.dialect, written.padding⟩
      · rw [normalize_dot (.inr rfl), normalize_normalize]
      · rw [String.toList_append, written.whole]
        rfl
    · obtain ⟨before, rfl⟩ := List.getLast?_eq_some_iff.1 slashed
      have cut : (normalize p).toList = before ++ '/' :: ('.' :: ext ++ back) := by
        rw [written.whole]
        simp
      refine ⟨_, normalize_backslash cut, before ++ ['\\'],
        not_endsBeforeName_append _ (by decide), ?_, written.dialect, written.padding⟩
      rw [String.toList_ofList]
      simp
  · -- there is padding behind the extension, and its last slash may be a part of the name
    obtain ⟨before, behind, rfl, edges⟩ :=
      written.padding.exists_last (either.resolve_left ends)
    have cut : (normalize p).toList = (front ++ '.' :: ext ++ before) ++ '/' :: behind := by
      rw [written.whole]
      simp
    exact ⟨normalize p, _, l, normalize_normalize p, normalize_backslash cut,
      language?_eq_some_iff.2 ⟨front, ext, _, written, ends⟩, language?_of_backslash edges⟩

end ComponentAtlas.Path
