import ComponentAtlas.FileSystem
import ComponentAtlas.Proofs.Text.Pieces

/-! # Paths below a path

The path of a place in a file system is its names, each behind a slash. Its components are the root
and the names, so one such path is below another when the names of the one begin with those of the
other, and what is left of the text is what is left of the names. -/

namespace ComponentAtlas

open FileSystem (pathOf)

namespace Path

/-- The text can be a name in a directory: it is one piece of a path, and a name to the eye of
whoever follows the path. -/
structure IsName (name : String) : Prop where
  nonempty : name ≠ ""
  whole : '/' ∉ name.toList
  notHere : name ≠ "."
  notUp : name ≠ ".."

/-- Every one of the texts can be a name in a directory. -/
def AreNames (names : List String) : Prop := ∀ name ∈ names, IsName name

variable {name : String} {names : List String}

/-! ## Components -/

theorem IsName.component?_eq (h : IsName name) : component? name.toList = some (.name name) := by
  have nonempty : name.toList ≠ [] := fun empty => h.nonempty (String.toList_eq_nil_iff.1 empty)
  have notHere : name.toList ≠ ['.'] := fun same => h.notHere (String.toList_inj.1 same)
  have notUp : name.toList ≠ ['.', '.'] := fun same => h.notUp (String.toList_inj.1 same)
  simp [component?, nonempty, notHere, notUp]

theorem filterMap_component? (proper : AreNames names) :
    (names.map String.toList).filterMap component? = names.map .name := by
  induction names with
  | nil => rfl
  | cons name rest ih =>
    rw [AreNames, List.forall_mem_cons] at proper
    rw [List.map_cons, List.filterMap_cons, proper.1.component?_eq, ih proper.2, List.map_cons]

theorem toList_pathOf (names : List String) :
    (pathOf names).toList = '/' :: ("/".intercalate names).toList := by
  rw [pathOf, String.toList_append]
  rfl

theorem components_pathOf (proper : AreNames names) :
    components (pathOf names) = .root :: names.map .name := by
  have cut : (pieces ('/' :: ("/".intercalate names).toList)).filterMap component? =
      names.map .name := by
    rw [pieces, Text.pieces, if_pos (by decide)]
    cases names with
    | nil => simp [Text.pieces, component?]
    | cons first rest =>
      have joined : Text.pieces (· = '/') ("/".intercalate (first :: rest)).toList =
          (first :: rest).map String.toList := by
        refine Text.pieces_eq_iff.2 ⟨List.cons_ne_nil _ _, ?_, String.toList_intercalate⟩
        simpa using fun name member => (proper name member).whole
      rw [joined, List.filterMap_cons, ← filterMap_component? proper]
      rfl
  rw [components, toList_pathOf]
  exact congrArg _ cut

/-! ## Texts -/

/-- The characters of names, each behind a slash. -/
def slashed (names : List String) : List Char := names.flatMap fun name => '/' :: name.toList

theorem toList_intercalate_cons (name : String) (rest : List String) :
    ("/".intercalate (name :: rest)).toList = name.toList ++ slashed rest := by
  induction rest generalizing name with
  | nil => rw [String.intercalate_singleton, slashed, List.flatMap_nil, List.append_nil]
  | cons next more ih =>
    rw [String.intercalate_cons_cons, String.toList_append, String.toList_append, ih,
      List.append_assoc]
    rfl

/-- A piece that counts for something, whichever way it is read. -/
structure IsSolid (piece : List Char) : Prop where
  nonempty : piece ≠ []
  whole : '/' ∉ piece
  notHere : piece ≠ ['.']

theorem IsName.isSolid (h : IsName name) : IsSolid name.toList where
  nonempty empty := h.nonempty (String.toList_eq_nil_iff.1 empty)
  whole := h.whole
  notHere same := h.notHere (String.toList_inj.1 same)

section

variable {piece tail : List Char}

theorem IsSolid.reverse (solid : IsSolid piece) : IsSolid piece.reverse where
  nonempty empty := solid.nonempty (List.reverse_eq_nil_iff.1 empty)
  whole member := solid.whole (List.mem_reverse.1 member)
  notHere same := solid.notHere (List.reverse_eq_iff.1 same)

/-- Nothing in front of a piece that counts for something can be trimmed. -/
theorem IsSolid.append_ne (solid : IsSolid piece) (tail rest : List Char) :
    piece ++ tail ≠ '/' :: rest ∧ piece ++ tail ≠ ['.'] ∧ piece ++ tail ≠ '.' :: '/' :: rest := by
  obtain ⟨nonempty, whole, notHere⟩ := solid
  match piece with
  | [] => exact absurd rfl nonempty
  | [c] =>
    have own : c ≠ '/' := fun same => whole (same ▸ List.mem_singleton_self c)
    have other : c ≠ '.' := fun same => notHere (same ▸ rfl)
    simp [own, other]
  | c :: d :: more =>
    have first : c ≠ '/' := fun same => whole (same ▸ List.mem_cons_self)
    have second : d ≠ '/' := fun same =>
      whole (same ▸ List.mem_cons_of_mem _ List.mem_cons_self)
    simp [first, second]

theorem trimFront_of_isSolid (solid : IsSolid piece) (n : Nat) :
    trimFront n (piece ++ tail) = piece ++ tail := by
  cases n with
  | zero => rfl
  | succ n =>
    have kept := solid.append_ne tail
    unfold trimFront
    split
    · next rest same => exact absurd same (kept rest).1
    · next same => exact absurd same (kept []).2.1
    · next rest same => exact absurd same (kept rest).2.2
    · rfl

theorem trimBackward_of_isSolid (solid : IsSolid piece) (keep n : Nat) :
    trimBackward keep n (piece ++ tail) = piece ++ tail := by
  cases n with
  | zero => rfl
  | succ n =>
    have kept := solid.append_ne tail
    unfold trimBackward
    split
    · rfl
    · split
      · next rest same => exact absurd same (kept rest).1
      · next same => exact absurd same (kept []).2.1
      · next rest same => exact absurd same (kept rest).2.2
      · rfl

end

/-- The slash in front of names is trimmed, and nothing else. -/
theorem trimFront_slashed (proper : AreNames names) :
    trimFront (slashed names).length (slashed names) = ("/".intercalate names).toList := by
  cases names with
  | nil => rfl
  | cons name rest =>
    have solid := (proper name List.mem_cons_self).isSolid
    rw [toList_intercalate_cons]
    exact trimFront_of_isSolid solid _

theorem trimFront_joined (proper : AreNames names) (n : Nat) :
    trimFront n ("/".intercalate names).toList = ("/".intercalate names).toList := by
  cases names with
  | nil => cases n <;> rfl
  | cons name rest =>
    have solid := (proper name List.mem_cons_self).isSolid
    rw [toList_intercalate_cons]
    exact trimFront_of_isSolid solid n

/-- Nothing at the end of names is trimmed. -/
theorem trimBack_joined (proper : AreNames names) (keep : Nat) :
    trimBack keep ("/".intercalate names).toList = ("/".intercalate names).toList := by
  have ends : ("/".intercalate names).toList = [] ∨
      ∃ before last, IsSolid last ∧ ("/".intercalate names).toList = before ++ last := by
    cases names with
    | nil => exact .inl rfl
    | cons name rest =>
      right
      rw [toList_intercalate_cons]
      rcases List.eq_nil_or_concat rest with rfl | ⟨more, last, rfl⟩
      · exact ⟨[], name.toList, (proper name List.mem_cons_self).isSolid, List.append_nil _⟩
      · refine ⟨name.toList ++ slashed more ++ ['/'], last.toList,
          (proper last (by simp)).isSolid, by simp [slashed]⟩
  unfold trimBack
  rcases ends with empty | ⟨before, last, solid, whole⟩
  · rw [empty]
    rfl
  · rw [whole, List.reverse_append, trimBackward_of_isSolid solid.reverse,
      ← List.reverse_append, List.reverse_reverse]

theorem dropWhile_name (h : IsName name) (rest : List String) :
    (name.toList ++ slashed rest).dropWhile (· != '/') = slashed rest := by
  have whole : ∀ c ∈ name.toList, (c != '/') = true := fun c member =>
    bne_iff_ne.2 fun same => h.whole (same ▸ member)
  rw [List.dropWhile_append_of_pos whole]
  cases rest with
  | nil => rfl
  | cons next more => rfl

/-- Names are dropped one by one. -/
theorem dropNames_slashed {above : List String} (proper : AreNames above) (below : List String) :
    dropNames above.length (slashed (above ++ below)) = slashed below := by
  induction above with
  | nil => rfl
  | cons name rest ih =>
    rw [AreNames, List.forall_mem_cons] at proper
    have whole : slashed (name :: rest ++ below) = '/' :: (name.toList ++ slashed (rest ++ below)) :=
      rfl
    rw [List.length_cons, dropNames, whole, List.length_cons, trimFront,
      trimFront_of_isSolid proper.1.isSolid, dropWhile_name proper.1, ih proper.2]

/-- What is left of joined names when some of them are dropped: what joins the others, or the same
behind a slash. -/
theorem dropNames_joined {above : List String} (proper : AreNames above) (below : List String) :
    dropNames above.length ("/".intercalate (above ++ below)).toList = slashed below ∨
      dropNames above.length ("/".intercalate (above ++ below)).toList =
        ("/".intercalate below).toList := by
  cases above with
  | nil => exact .inr rfl
  | cons name rest =>
    rw [AreNames, List.forall_mem_cons] at proper
    left
    rw [List.length_cons, dropNames, List.cons_append, toList_intercalate_cons,
      trimFront_of_isSolid proper.1.isSolid, dropWhile_name proper.1, dropNames_slashed proper.2]

/-- Behind the root and the names of a path's beginning stand the other names. -/
theorem textBehind_pathOf {above below : List String} (aboveProper : AreNames above)
    (belowProper : AreNames below) :
    textBehind (pathOf (above ++ below)) (above.length + 1) = "/".intercalate below := by
  have whole : components (pathOf (above ++ below)) = .root :: (above ++ below).map .name :=
    components_pathOf (List.forall_mem_append.2 ⟨aboveProper, belowProper⟩)
  have trimmed : trimFront
      (dropNames above.length ("/".intercalate (above ++ below)).toList).length
      (dropNames above.length ("/".intercalate (above ++ below)).toList) =
        ("/".intercalate below).toList := by
    rcases dropNames_joined aboveProper below with behind | behind
    · rw [behind, trimFront_slashed belowProper]
    · rw [behind, trimFront_joined belowProper]
  simp only [textBehind, whole, List.head?_cons, toList_pathOf, if_pos,
    Nat.succ_ne_zero, if_false, Nat.add_sub_cancel, List.drop_succ_cons, List.drop_zero,
    trimmed, trimBack_joined belowProper, String.ofList_toList]

/-! ## Paths below paths -/

theorem components_pathOf_prefix_iff {base place : List String} (baseProper : AreNames base)
    (placeProper : AreNames place) :
    components (pathOf base) <+: components (pathOf place) ↔ base <+: place := by
  rw [components_pathOf baseProper, components_pathOf placeProper, List.cons_prefix_cons,
    and_iff_right rfl]
  constructor
  · intro begins
    obtain ⟨above, prefixed, same⟩ := List.prefix_map_iff.1 begins
    rwa [(List.map_inj_right fun _ _ => Component.name.inj).1 same]
  · exact fun begins => begins.map _

/-- One path is below another when the names of the one begin with those of the other. -/
theorem below?_pathOf_eq_some_iff {base place : List String} (baseProper : AreNames base)
    (placeProper : AreNames place) {s : String} :
    below? (pathOf base) (pathOf place) = some s ↔
      ∃ below, place = base ++ below ∧ s = "/".intercalate below := by
  have behind {below : List String} (whole : place = base ++ below) :
      textBehind (pathOf place) (components (pathOf base)).length = "/".intercalate below := by
    subst whole
    rw [components_pathOf baseProper, List.length_cons, List.length_map]
    exact textBehind_pathOf baseProper (List.forall_mem_append.1 placeProper).2
  rw [below?, Option.ite_none_right_eq_some, List.isPrefixOf_iff_prefix,
    components_pathOf_prefix_iff baseProper placeProper, Option.some_inj]
  constructor
  · rintro ⟨⟨below, whole⟩, text⟩
    exact ⟨below, whole.symm, text.symm.trans (behind whole.symm)⟩
  · rintro ⟨below, whole, text⟩
    exact ⟨⟨below, whole.symm⟩, (behind whole).trans text.symm⟩

theorem below?_pathOf_eq_none_iff {base place : List String} (baseProper : AreNames base)
    (placeProper : AreNames place) :
    below? (pathOf base) (pathOf place) = none ↔ ¬ base <+: place := by
  simp only [Option.eq_none_iff_forall_ne_some, ne_eq,
    below?_pathOf_eq_some_iff baseProper placeProper]
  constructor
  · rintro none ⟨below, whole⟩
    exact none _ ⟨below, whole.symm, rfl⟩
  · rintro beyond s ⟨below, whole, -⟩
    exact beyond ⟨below, whole.symm⟩

end Path

end ComponentAtlas
