import ComponentAtlas.Proofs.Path.Below

/-! # Where paths lead

A path that can be resolved leads to a file or a directory, whatever links are on the way, and the
names of that place are names: no dots and no slashes are left in them. -/

namespace ComponentAtlas

open ComponentAtlas.Path (AreNames IsName)

theorem Entry.at?_append (e : Entry) (p q : Place) :
    e.at? (p ++ q) = (e.at? p).bind fun other => other.at? q := by
  induction p generalizing e with
  | nil => rfl
  | cons name rest ih =>
    simp only [List.cons_append, Entry.at?]
    cases e.child? name with
    | none => rfl
    | some c => exact ih c

namespace FileSystem

/-- At the place there is a directory. -/
def IsDirectory (root : Entry) (place : Place) : Prop :=
  ∃ entries, root.at? place = some (.directory entries)

/-- At the place there is a file. -/
def IsFile (root : Entry) (place : Place) : Prop := ∃ bytes, root.at? place = some (.file bytes)

/-- The place can be where a path leads. -/
structure IsResolved (root : Entry) (place : Place) : Prop where
  names : AreNames place
  stands : IsFile root place ∨ IsDirectory root place

variable {root : Entry} {here place : Place}

/-- What a directory stands in is a directory. -/
theorem IsDirectory.dropLast (h : IsDirectory root here) : IsDirectory root here.dropLast := by
  rcases List.eq_nil_or_concat here with rfl | ⟨above, name, rfl⟩
  · exact h
  · obtain ⟨entries, found⟩ := h
    rw [List.concat_eq_append, Entry.at?_append] at found
    rw [List.concat_eq_append, List.dropLast_concat]
    obtain ⟨parent, standing, child⟩ := Option.bind_eq_some_iff.1 found
    cases parent with
    | directory siblings => exact ⟨siblings, standing⟩
    | file bytes => cases child
    | link target => cases child

theorem names_dropLast (names : AreNames here) : AreNames here.dropLast :=
  fun name member => names name ((List.dropLast_sublist here).subset member)

/-- None of the pieces has a slash. -/
def AreWhole (pieces : List String) : Prop := ∀ piece ∈ pieces, '/' ∉ piece.toList

theorem areWhole_pieces (path : String) : AreWhole (pieces path) := by
  intro piece member
  obtain ⟨chars, cut, rfl⟩ := List.mem_map.1 member
  rw [String.toList_ofList]
  intro slash
  exact absurd (Text.free_of_mem_pieces cut '/' slash) (by decide)

theorem pieces_ne_nil (path : String) : pieces path ≠ [] :=
  fun none => Text.pieces_ne_nil _ _ (List.map_eq_nil_iff.1 none)

/-- What is known where a link is jumped over: names lead there, and whole pieces are left. -/
def JumpsResolved (root : Entry)
    (jump : Place → String → List String → Except Failure Place) : Prop :=
  ∀ here target rest place, AreNames here → AreWhole rest →
    jump here target rest = .ok place → IsResolved root place

/-- One piece after another keeps to names; behind the last one there is something. -/
theorem follow_isResolved {jump : Place → String → List String → Except Failure Place}
    (jumps : JumpsResolved root jump) {pieces : List String} (names : AreNames here)
    (whole : AreWhole pieces) (stands : pieces = [] → IsDirectory root here ∨ IsFile root here)
    (found : follow root jump here pieces = .ok place) : IsResolved root place := by
  induction pieces generalizing here with
  | nil =>
    cases found
    exact ⟨names, (stands rfl).symm⟩
  | cons piece rest ih =>
    rw [AreWhole, List.forall_mem_cons] at whole
    rw [follow] at found
    split at found
    · next entries inside =>
      have directory : IsDirectory root here := ⟨entries, inside⟩
      split at found
      · exact ih names whole.2 (fun _ => .inl directory) found
      · next counts =>
        split at found
        · exact ih (names_dropLast names) whole.2 (fun _ => .inl directory.dropLast) found
        · next notUp =>
          split at found
          · cases found
          · exact jumps _ _ _ _ names whole.2 found
          · next e notLink listed =>
            simp only [Bool.or_eq_true, decide_eq_true_eq, not_or] at counts
            have proper : IsName piece := ⟨counts.1, whole.1, counts.2, notUp⟩
            have child : root.at? (here ++ [piece]) = some e := by
              rw [Entry.at?_append, inside]
              simpa [Entry.at?, Entry.child?] using listed
            refine ih (List.forall_mem_append.2 ⟨names, List.forall_mem_singleton.2 proper⟩)
              whole.2 (fun _ => ?_) found
            cases e with
            | file bytes => exact .inr ⟨bytes, child⟩
            | directory inner => exact .inl ⟨inner, child⟩
            | link target => exact absurd rfl (notLink target)
    · cases found
    · cases found

theorem walk_isResolved (n : Nat) {pieces : List String} (names : AreNames here)
    (whole : AreWhole pieces) (some : pieces ≠ [])
    (found : walk root n here pieces = .ok place) : IsResolved root place := by
  induction n generalizing here place pieces with
  | zero =>
    refine follow_isResolved ?_ names whole (fun none => absurd none some) found
    intro here target rest place _ _ jumped
    cases jumped
  | succ n ih =>
    refine follow_isResolved ?_ names whole (fun none => absurd none some) found
    intro here target rest place names whole jumped
    dsimp only at jumped
    split at jumped
    · cases jumped
    · have begins : AreNames (start target here) := by
        unfold start
        split
        · exact List.forall_mem_nil _
        · exact names
      exact ih begins (List.forall_mem_append.2 ⟨areWhole_pieces target, whole⟩)
        (fun none => pieces_ne_nil target (List.append_eq_nil_iff.1 none).1) jumped

/-- A path that can be resolved leads to a file or a directory by names. -/
theorem resolve_isResolved {fs : FileSystem} (named : AreNames fs.working) {path : String}
    (found : fs.resolve path = .ok place) : IsResolved fs.root place := by
  unfold resolve at found
  split at found
  · cases found
  · have begins : AreNames (start path fs.working) := by
      unfold start
      split
      · exact List.forall_mem_nil _
      · exact named
    exact walk_isResolved _ begins (areWhole_pieces path) (pieces_ne_nil path) found

end FileSystem

end ComponentAtlas
