import ComponentAtlas.Charset.Word
import ComponentAtlas.Glob

/-! # Spellings of paths and plain globs

A glob selects a path in every spelling or in none, because the spelling by which paths are matched
is spelled like itself. A text without stars and brackets, such as one of blanks only, is a glob. -/

namespace ComponentAtlas

namespace Path

theorem dropLeadingHere_suffix (s : List Char) : dropLeadingHere s <:+ s := by
  fun_induction dropLeadingHere s with
  | case1 rest ih => exact ih.trans ((List.suffix_cons _ _).trans (List.suffix_cons _ _))
  | case2 s _ => exact List.suffix_refl s

theorem dropLeadingHere_dropLeadingHere (s : List Char) :
    dropLeadingHere (dropLeadingHere s) = dropLeadingHere s := by
  fun_induction dropLeadingHere s with
  | case1 rest ih => exact ih
  | case2 s other => rw [dropLeadingHere.eq_2 s other]

theorem slashes_of_free {s : List Char} (free : '\\' ∉ s) :
    (s.map fun c => if c = '\\' then '/' else c) = s := by
  have same : ∀ c ∈ s, (if c = '\\' then '/' else c) = id c := by
    intro c member
    have other : c ≠ '\\' := fun equal => free (equal ▸ member)
    rw [if_neg other, id]
  rw [List.map_congr_left same, List.map_id]

theorem free_of_slashes (s : List Char) :
    '\\' ∉ s.map fun c => if c = '\\' then '/' else c := by
  intro member
  obtain ⟨c, -, same⟩ := List.mem_map.1 member
  split at same
  · cases same
  · contradiction

/-- What is spelled for matching is spelled so once and for all. -/
theorem normalize_normalize (path : String) : normalize (normalize path) = normalize path := by
  have free := fun member => free_of_slashes path.toList ((dropLeadingHere_suffix _).subset member)
  rw [normalize, normalize, String.toList_ofList, slashes_of_free free,
    dropLeadingHere_dropLeadingHere]

end Path

namespace Glob

@[simp] theorem selects_normalize (g : Glob) (path : String) :
    g.selects (Path.normalize path) = g.selects path := by
  rw [selects, selects, Path.normalize_normalize]

/-- A character other than a star and a bracket is a part of a glob by itself. -/
theorem token_of_plain {c : Char} (noStar : c ≠ '*') (noBracket : c ≠ '[') (position : Nat)
    (previous : Option Char) (rest : List Char) :
    ∃ t, token position previous c rest = .ok (t, 1) := by
  rw [token, if_neg noStar, if_neg noBracket]
  split
  · exact ⟨_, rfl⟩
  · exact ⟨_, rfl⟩

theorem readTokens_of_plain {chars : List Char} (plain : ∀ c ∈ chars, c ≠ '*' ∧ c ≠ '[')
    (fuel position : Nat) (previous : Option Char) (before : List GlobToken) :
    ∃ tokens, readTokens fuel position previous before chars = .ok tokens := by
  induction fuel generalizing position previous before chars with
  | zero => exact ⟨_, rfl⟩
  | succ fuel ih =>
    cases chars with
    | nil => exact ⟨_, rfl⟩
    | cons c rest =>
      rw [List.forall_mem_cons] at plain
      obtain ⟨t, first⟩ := token_of_plain plain.1.1 plain.1.2 position previous rest
      rw [readTokens, first]
      exact ih plain.2 _ _ _

/-- A text without stars and brackets is a glob. -/
theorem read_of_plain {text : String} (plain : ∀ c ∈ text.toList, c ≠ '*' ∧ c ≠ '[') :
    ∃ g, read text = .ok g := by
  obtain ⟨tokens, found⟩ := readTokens_of_plain plain text.length 0 none []
  refine ⟨⟨tokens⟩, ?_⟩
  rw [read, found]
  rfl

/-- A text of blanks is a glob. -/
theorem read_of_blank {text : String} (blank : ∀ c ∈ text.toList, Charset.isBlank c = true) :
    ∃ g, read text = .ok g := by
  refine read_of_plain fun c member => ⟨?_, ?_⟩
  · rintro rfl
    exact absurd (blank _ member) (by decide)
  · rintro rfl
    exact absurd (blank _ member) (by decide)

end Glob

end ComponentAtlas
