import ComponentAtlas.Pattern.Meaning
import ComponentAtlas.Proofs.Pattern.Search
import ComponentAtlas.Proofs.Source.DocComment

/-! # The pattern of block tags

Block tags are what the search for a pattern finds. What the pattern describes at a line start is a
lead, an at sign and the name of a tag, and the stretch that it prefers has the whole name. It
describes nothing at other places. So the search for the pattern finds the tags that begin lines. -/

namespace ComponentAtlas.Source.DocComment

open ComponentAtlas.Charset ComponentAtlas.Pattern ComponentAtlas.Pattern.Matcher

/-! ## What the pattern means -/

def docTagPattern : String := "(?m)^\\s*(?:/\\*\\*)?[\\s*]*@([A-Za-z_$][\\w$-]*)"

/-- Blanks and stars. -/
def decorations : CharSet := .union (.table blankRanges) (.union (.single '*') .empty)

/-- What names of tags begin with. -/
def tagStarts : CharSet :=
  .union (.range 'A' 'Z') (.union (.range 'a' 'z')
    (.union (.single '_') (.union (.single '$') .empty)))

/-- What names of tags go on with. -/
def tagParts : CharSet :=
  .union (.table wordRanges) (.union (.single '$') (.union (.single '-') .empty))

def openingMark : Matcher :=
  .sequence (.set (.single '/')) (.sequence (.set (.single '*'))
    (.sequence (.set (.single '*')) .nothing))

/-- The matcher of the pattern. -/
def blockTag : Matcher :=
  .sequence .nothing (.sequence (.look .lineStart) (.sequence (many (.table blankRanges))
    (.sequence (.repeated 0 (some 1) openingMark) (.sequence (many decorations)
      (.sequence (.set (.single '@')) (.sequence
        (.sequence (.set tagStarts) (.sequence (many tagParts) .nothing)) .nothing))))))

set_option maxRecDepth 20000 in
theorem meaning_docTagPattern :
    ∃ e mode, read docTagPattern = .ok e ∧ e.meaning .initial = .ok (blockTag, mode) :=
  ⟨_, _, rfl, rfl⟩

theorem has_single (d c : Char) : (CharSet.single d).has c = decide (c = d) := by
  show (decide (d.toNat ≤ c.toNat) && decide (c.toNat ≤ d.toNat)) = decide (c = d)
  rw [← Bool.decide_and]
  refine decide_eq_decide.2 ⟨fun h => ?_, fun same => same ▸ ⟨Nat.le_refl _, Nat.le_refl _⟩⟩
  rw [← Char.ofNat_toNat c, Nat.le_antisymm h.2 h.1, Char.ofNat_toNat]

theorem has_decorations : decorations.has = isDecoration := by
  funext c
  show (isBlank c || ((CharSet.single '*').has c || false)) = (isBlank c || decide (c = '*'))
  rw [Bool.or_false, has_single]

theorem has_tagParts : tagParts.has = continuesTag := by
  funext c
  show (isWord c || ((CharSet.single '$').has c || ((CharSet.single '-').has c || false))) =
    (isWord c || decide (c = '$') || decide (c = '-'))
  rw [Bool.or_false, has_single, has_single, Bool.or_assoc]

theorem isAlpha_eq (c : Char) : c.isAlpha =
    (decide ('A'.toNat ≤ c.toNat) && decide (c.toNat ≤ 'Z'.toNat) ||
      decide ('a'.toNat ≤ c.toNat) && decide (c.toNat ≤ 'z'.toNat)) := by
  show (decide (c.val ≥ 'A'.val ∧ c.val ≤ 'Z'.val) || c.isLower) = _
  rw [Bool.decide_and]
  rfl

theorem has_tagStarts : tagStarts.has = beginsTag := by
  funext c
  show (decide ('A'.toNat ≤ c.toNat) && decide (c.toNat ≤ 'Z'.toNat) ||
    (decide ('a'.toNat ≤ c.toNat) && decide (c.toNat ≤ 'z'.toNat) ||
      ((CharSet.single '_').has c || ((CharSet.single '$').has c || false)))) =
    (c.isAlpha || decide (c = '_') || decide (c = '$'))
  rw [Bool.or_false, has_single, has_single, ← Bool.or_assoc, ← Bool.or_assoc, ← isAlpha_eq]

/-! ## What the pattern describes -/

variable {s t : Spot} {lead tag rest : List Char}

theorem reaches_of_mem_single {c : Char} (member : t ∈ (Matcher.set (.single c)).ends s) :
    s.Reaches [c] t := by
  obtain ⟨d, has, step⟩ := reaches_of_mem_ends_set member
  rw [has_single] at has
  rw [← of_decide_eq_true has]
  exact step

theorem reaches_of_mem_openingMark (member : t ∈ openingMark.ends s) :
    s.Reaches ['/', '*', '*'] t := by
  obtain ⟨a, slash, member⟩ := mem_ends_sequence.1 member
  obtain ⟨b, star, member⟩ := mem_ends_sequence.1 member
  obtain ⟨c, again, member⟩ := mem_ends_sequence.1 member
  obtain rfl := List.mem_singleton.1 member
  exact (reaches_of_mem_single slash).trans
    ((reaches_of_mem_single star).trans (reaches_of_mem_single again))

theorem ends_optionalMark (s : Spot) :
    (Matcher.repeated 0 (some 1) openingMark).ends s =
      (openingMark.ends s).filter (fun t => t.ahead.length < s.ahead.length) ++ [s] := by
  rw [ends, required, List.flatMap_singleton]
  show ((openingMark.ends s).filter _).flatMap (fun t => [t]) ++ [s] = _
  rw [List.flatMap_singleton']

theorem reaches_of_mem_optionalMark
    (member : t ∈ (Matcher.repeated 0 (some 1) openingMark).ends s) :
    ∃ mark, (mark = [] ∨ mark = ['/', '*', '*']) ∧ s.Reaches mark t := by
  rw [ends_optionalMark, List.mem_append, List.mem_singleton] at member
  rcases member with marked | rfl
  · exact ⟨_, .inr rfl, reaches_of_mem_openingMark (List.mem_filter.1 marked).1⟩
  · exact ⟨[], .inl rfl, .refl t⟩

/-- The pattern describes, at a line start, a lead with an at sign and a name behind it. -/
theorem reaches_of_mem_blockTag (member : t ∈ blockTag.ends s) :
    (s.behind.head? = none ∨ s.behind.head? = some '\n') ∧
      ∃ lead tag, s.Reaches (lead ++ '@' :: tag) t ∧ IsLead lead ∧ IsTag tag := by
  obtain ⟨_, flags, onStart⟩ := mem_ends_sequence.1 member
  obtain rfl := List.mem_singleton.1 flags
  obtain ⟨_, atStart, onBlanks⟩ := mem_ends_sequence.1 onStart
  obtain ⟨start, rfl⟩ := mem_ends_look.1 atStart
  obtain ⟨a, inBlanks, onMark⟩ := mem_ends_sequence.1 onBlanks
  obtain ⟨blanks, blank, toMark⟩ := reaches_of_mem_many inBlanks
  obtain ⟨b, inMark, onStars⟩ := mem_ends_sequence.1 onMark
  obtain ⟨mark, marked, toStars⟩ := reaches_of_mem_optionalMark inMark
  obtain ⟨c, inStars, onAt⟩ := mem_ends_sequence.1 onStars
  obtain ⟨stars, starred, toAt⟩ := reaches_of_mem_many inStars
  obtain ⟨d, inAt, onName⟩ := mem_ends_sequence.1 onAt
  have toName := reaches_of_mem_single inAt
  obtain ⟨e, inName, behindName⟩ := mem_ends_sequence.1 onName
  obtain rfl := List.mem_singleton.1 behindName
  obtain ⟨f, inStart, onParts⟩ := mem_ends_sequence.1 inName
  obtain ⟨first, begins, toParts⟩ := reaches_of_mem_ends_set inStart
  obtain ⟨g, inParts, behindParts⟩ := mem_ends_sequence.1 onParts
  obtain rfl := List.mem_singleton.1 behindParts
  obtain ⟨more, goes, toEnd⟩ := reaches_of_mem_many inParts
  rw [has_decorations] at starred
  rw [has_tagStarts] at begins
  rw [has_tagParts] at goes
  refine ⟨by simpa [Look.holds] using start, blanks ++ (mark ++ stars), first :: more, ?_,
    ⟨blanks, mark, stars, rfl, blank, marked, starred⟩, ⟨first, more, rfl, begins, goes⟩⟩
  have whole := toMark.trans (toStars.trans (toAt.trans (toName.trans (toParts.trans toEnd))))
  simpa only [List.append_assoc, List.singleton_append, List.nil_append] using whole

/-! ## What the pattern prefers -/

theorem head?_ends_set {cs : CharSet} {c : Char} (has : cs.has c = true)
    (behind ahead : List Char) :
    ((Matcher.set cs).ends ⟨behind, c :: ahead⟩).head? = some ⟨c :: behind, ahead⟩ := by
  rw [ends_set_cons, if_pos has]
  rfl

/-- An opening mark is taken where there is one. -/
theorem head?_ends_optionalMark (behind s : List Char) :
    ∃ passed, ((Matcher.repeated 0 (some 1) openingMark).ends
      ⟨behind, s.dropWhile isBlank⟩).head? = some ⟨passed, skipOpening s⟩ := by
  rw [ends_optionalMark]
  unfold skipOpening
  split
  · next rest opened =>
    have taken : openingMark.ends ⟨behind, '/' :: '*' :: '*' :: rest⟩ =
        [⟨'*' :: '*' :: '/' :: behind, rest⟩] := rfl
    have shorter : rest.length < ('/' :: '*' :: '*' :: rest).length := by
      simp only [List.length_cons]
      omega
    have kept : [(⟨'*' :: '*' :: '/' :: behind, rest⟩ : Spot)].filter
        (fun t => t.ahead.length < ('/' :: '*' :: '*' :: rest).length) =
          [⟨'*' :: '*' :: '/' :: behind, rest⟩] :=
      List.filter_cons_of_pos (decide_eq_true shorter)
    rw [opened, taken, kept]
    exact ⟨_, rfl⟩
  · next other =>
    have fails : openingMark.ends ⟨behind, s.dropWhile isBlank⟩ = [] := by
      refine List.eq_nil_iff_forall_not_mem.2 ?_
      intro t marked
      exact other _ (reaches_of_mem_openingMark marked).1
    rw [fails]
    exact ⟨behind, rfl⟩

/-- At a line start the stretch is preferred that the search for tags takes. -/
theorem head?_ends_blockTag {behind s : List Char}
    (start : behind.head? = none ∨ behind.head? = some '\n') (leads : tagAt? s = some (tag, rest)) :
    ∃ passed, (blockTag.ends ⟨behind, s⟩).head? = some ⟨passed, rest⟩ := by
  unfold tagAt? at leads
  split at leads
  · next c more reached =>
    split at leads
    · next begins =>
      cases leads
      have atStart : ((Matcher.look .lineStart).ends ⟨behind, s⟩).head? = some ⟨behind, s⟩ := by
        have holds : Look.holds behind.head? s.head? .lineStart = true := by
          simpa [Look.holds] using start
        rw [ends, if_pos holds]
        rfl
      have blanks := head?_ends_many (.table blankRanges) behind s
      obtain ⟨marked, mark⟩ := head?_ends_optionalMark
        ((s.takeWhile (CharSet.table blankRanges).has).reverse ++ behind) s
      have stars := head?_ends_many decorations marked (skipOpening s)
      rw [has_decorations, reached] at stars
      have hasSign : (CharSet.single '@').has '@' = true := by decide
      have sign := head?_ends_set hasSign
        (((skipOpening s).takeWhile isDecoration).reverse ++ marked) (c :: more)
      have hasFirst : tagStarts.has c = true := has_tagStarts ▸ begins
      have first := head?_ends_set hasFirst
        ('@' :: (((skipOpening s).takeWhile isDecoration).reverse ++ marked)) more
      have name := head?_ends_many tagParts
        (c :: '@' :: (((skipOpening s).takeWhile isDecoration).reverse ++ marked)) more
      rw [has_tagParts] at name
      have named := head?_ends_sequence first (head?_ends_sequence name (head?_ends_nothing _))
      have signed := head?_ends_sequence sign (head?_ends_sequence named (head?_ends_nothing _))
      have led := head?_ends_sequence mark (head?_ends_sequence stars signed)
      have whole := head?_ends_sequence atStart (head?_ends_sequence blanks led)
      exact ⟨_, head?_ends_sequence (head?_ends_nothing _) whole⟩
    · cases leads
  · cases leads

/-- The pattern describes nothing where no tag is. -/
theorem ends_blockTag_of_tagAt?_none {behind s : List Char} (fails : tagAt? s = none) :
    blockTag.ends ⟨behind, s⟩ = [] := by
  refine List.eq_nil_iff_forall_not_mem.2 ?_
  intro t member
  obtain ⟨-, lead, tag, reaches, isLead, first, more, rfl, begins, goes⟩ :=
    reaches_of_mem_blockTag member
  -- the name may go on behind the stretch
  have leads : tagAt? s = some (first :: more ++ t.ahead.takeWhile continuesTag,
      t.ahead.dropWhile continuesTag) := by
    refine tagAt?_eq_some_iff.2 ⟨lead, ?_, isLead, ⟨first, _, List.cons_append, begins, ?_⟩,
      endsTag_dropWhile _⟩
    · rw [List.append_assoc, List.takeWhile_append_dropWhile]
      exact reaches.1.trans (List.append_assoc ..)
    · exact List.forall_mem_append.2 ⟨goes, fun d => List.mem_takeWhile_imp⟩
  rw [fails] at leads
  cases leads

theorem ends_blockTag_of_behind {behind s : List Char} {c : Char} (ne : c ≠ '\n') :
    blockTag.ends ⟨c :: behind, s⟩ = [] := by
  refine List.eq_nil_iff_forall_not_mem.2 ?_
  intro t member
  rcases (reaches_of_mem_blockTag member).1 with start | start
  · cases start
  · exact ne (Option.some.inj start)

/-! ## What the search finds -/

/-- The name in a stretch: what stands behind its at sign. -/
def nameIn (stretch : Spot × Spot) : List Char :=
  let taken := stretch.1.ahead.length - stretch.2.ahead.length
  ((stretch.1.ahead.take taken).dropWhile (· ≠ '@')).tail

theorem nameIn_eq (reaches : s.Reaches (lead ++ '@' :: tag) t) (free : '@' ∉ lead) :
    nameIn (s, t) = tag := by
  have taken : s.ahead.take (s.ahead.length - t.ahead.length) = lead ++ '@' :: tag := by
    rw [reaches.1, List.length_append, Nat.add_sub_cancel, List.take_left]
  have before : ∀ c ∈ lead, decide (c ≠ '@') = true :=
    fun c member => decide_eq_true fun same => free (same ▸ member)
  show ((s.ahead.take (s.ahead.length - t.ahead.length)).dropWhile (· ≠ '@')).tail = tag
  rw [taken, List.dropWhile_append_of_pos before]
  rfl

/-- The search passes over the rest of a line, if no stretch begins at a spot on it. -/
theorem search_nextLine {behind s : List Char} (fails : blockTag.ends ⟨behind, s⟩ = []) :
    (nextLine s = none → Search blockTag ⟨behind, s⟩ []) ∧
      ∀ line, nextLine s = some line → ∃ passed, passed.head? = some '\n' ∧
        ∀ found, Search blockTag ⟨passed, line⟩ found → Search blockTag ⟨behind, s⟩ found := by
  induction s generalizing behind with
  | nil =>
    refine ⟨fun _ => .finished fails, ?_⟩
    intro line next
    cases next
  | cons c rest ih =>
    by_cases ends : c = '\n'
    · subst ends
      constructor
      · intro next
        cases next
      · intro line next
        obtain rfl := Option.some.inj next
        exact ⟨'\n' :: behind, rfl, fun found more => .passed fails more⟩
    · rw [nextLine_cons ends]
      obtain ⟨last, later⟩ := ih (ends_blockTag_of_behind ends)
      refine ⟨fun next => .passed fails (last next), ?_⟩
      intro line next
      obtain ⟨passed, newline, goes⟩ := later line next
      exact ⟨passed, newline, fun found more => .passed fails (goes found more)⟩

/-- The preferred stretch at a line start holds the tag, and its end is not at a line start. -/
theorem exists_preferred {behind s : List Char}
    (start : behind.head? = none ∨ behind.head? = some '\n') (leads : tagAt? s = some (tag, rest)) :
    ∃ passed, (blockTag.ends ⟨behind, s⟩).head? = some ⟨passed, rest⟩ ∧
      nameIn (⟨behind, s⟩, ⟨passed, rest⟩) = tag ∧ blockTag.ends ⟨passed, rest⟩ = [] := by
  obtain ⟨passed, first⟩ := head?_ends_blockTag start leads
  obtain ⟨-, lead, name, reaches, isLead, isTag⟩ :=
    reaches_of_mem_blockTag (List.mem_of_mem_head? first)
  have same : name = tag := by
    obtain ⟨-, -, -, -, ends⟩ := tagAt?_eq_some_iff.1 leads
    have whole : s = lead ++ '@' :: (name ++ rest) := reaches.1.trans (List.append_assoc ..)
    rw [tagAt?_eq_some_iff.2 ⟨lead, whole, isLead, isTag, ends⟩] at leads
    exact (Prod.mk.inj (Option.some.inj leads)).1
  subst same
  refine ⟨passed, first, nameIn_eq reaches isLead.free, ?_⟩
  -- the last character of the name is behind the spot
  obtain ⟨c, more, whole⟩ : ∃ c more, name.reverse = c :: more := by
    obtain ⟨c, more, rfl, -, -⟩ := isTag
    exact List.exists_cons_of_ne_nil (by simp)
  have ne : c ≠ '\n' := by
    rintro rfl
    exact isTag.free (List.mem_reverse.1 (whole ▸ List.mem_cons_self ..))
  have there : passed = c :: (more ++ ('@' :: lead.reverse) ++ behind) := by
    rw [show passed = (lead ++ '@' :: name).reverse ++ behind from reaches.2, List.reverse_append,
      List.reverse_cons, whole]
    simp only [List.cons_append, List.append_assoc, List.nil_append]
  rw [there]
  exact ends_blockTag_of_behind ne

/-- From a line start on the pattern is found where the tags are. The induction is that of the
search from line start to line start. -/
theorem exists_search {n : Nat} {behind s : List Char} (enough : s.length < n)
    (start : behind.head? = none ∨ behind.head? = some '\n') :
    ∃ found, Search blockTag ⟨behind, s⟩ found ∧
      found.map (fun stretch => String.ofList (nameIn stretch)) = tagsFrom n s := by
  induction n generalizing behind s with
  | zero => exact absurd enough (Nat.not_lt_zero _)
  | succ n ih =>
    -- what is found from a spot on where no stretch begins
    have later {passed t : List Char} (fails : blockTag.ends ⟨passed, t⟩ = [])
        (shorter : t.length ≤ s.length) : ∃ found, Search blockTag ⟨passed, t⟩ found ∧
          found.map (fun stretch => String.ofList (nameIn stretch)) = nextTagsFrom n t := by
      obtain ⟨last, goes⟩ := search_nextLine fails
      rcases next : nextLine t with _ | line
      · exact ⟨[], last next, by rw [nextTagsFrom, next]; rfl⟩
      · have := length_lt_of_nextLine next
        obtain ⟨ahead, newline, goes⟩ := goes line next
        obtain ⟨found, more, names⟩ := ih (s := line) (by omega) (.inr newline)
        exact ⟨found, goes found more, by rw [nextTagsFrom, next]; exact names⟩
    rcases leads : tagAt? s with _ | ⟨tag, rest⟩
    · rw [tagsFrom_of_tagAt?_none leads]
      exact later (ends_blockTag_of_tagAt?_none leads) (Nat.le_refl _)
    · obtain ⟨passed, first, name, fails⟩ := exists_preferred start leads
      have shorter := length_lt_of_tagAt? leads
      obtain ⟨found, more, names⟩ := later fails (Nat.le_of_lt shorter)
      refine ⟨(⟨behind, s⟩, ⟨passed, rest⟩) :: found, .found first shorter more, ?_⟩
      rw [tagsFrom_of_tagAt?_some leads, List.map_cons, name, names]

/-- Block tags are found line by line. There is one for each line that begins with one, in the order
of the lines: a line that begins with blanks, an opening mark or none, blanks and stars, and then an
at sign and a name, which goes as far as it can. An at sign behind other text is not that of a tag.
The same names are in the stretches that the pattern is found in, and the search for the pattern has
no other outcome. -/
theorem tags_line_by_line (comment : String) :
    tags comment =
      ((Text.pieces (· = '\n') comment.toList).filterMap lineTag?).map String.ofList ∧
    (∀ line tag, lineTag? line = some tag ↔ ∃ lead behind,
      line = lead ++ '@' :: (tag ++ behind) ∧ IsLead lead ∧ IsTag tag ∧ EndsTag behind) ∧
    (∀ front behind, '@' ∉ front → ¬ IsLead front → lineTag? (front ++ '@' :: behind) = none) ∧
    (∃ e mode, read docTagPattern = .ok e ∧ e.meaning .initial = .ok (blockTag, mode)) ∧
    ∃ found, Search blockTag ⟨[], comment.toList⟩ found ∧
      (∀ other, Search blockTag ⟨[], comment.toList⟩ other → other = found) ∧
      found.map (fun stretch => String.ofList (nameIn stretch)) = tags comment := by
  obtain ⟨found, search, names⟩ :=
    @exists_search _ [] _ (Nat.lt_succ_self comment.toList.length) (.inl rfl)
  exact ⟨tags_eq comment, fun line tag => lineTag?_eq_some_iff,
    fun front behind free other => lineTag?_behind_text free other behind, meaning_docTagPattern,
    found, search, fun other another => another.unique search, names⟩

theorem tags_line_by_line_useCase :
    '@' ∉ " * by place".toList ∧ ¬ IsLead " * by place".toList ∧
      lineTag? (" * by place".toList ++ '@' :: "example.com".toList) = none ∧
      tags "/** @useCase of @nobody\n *\n * by place@example.com\n * @domainOp */" =
        ["useCase", "domainOp"] := by
  have free : '@' ∉ " * by place".toList := by decide
  have other : ¬ IsLead " * by place".toList := by
    intro isLead
    rcases isLead_iff.1 isLead with starred | ⟨blanks, stars, whole, -, -⟩
    · exact absurd (starred 'b' (by decide)) (by decide)
    · have slash : '/' ∈ " * by place".toList :=
        whole ▸ List.mem_append_right _ (List.mem_cons_self ..)
      exact absurd slash (by decide)
  refine ⟨free, other, (tags_line_by_line "").2.2.1 _ _ free other, ?_⟩
  rw [(tags_line_by_line _).1]
  decide

end ComponentAtlas.Source.DocComment
