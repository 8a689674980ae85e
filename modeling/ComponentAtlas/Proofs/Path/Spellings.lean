import ComponentAtlas.Proofs.Glob
import Mathlib.Data.List.Forall2

/-! # Spellings of a path

Two texts are spellings of one path when the same text stands for both in matching. Such are a path
with slashes written as backslashes, a path behind any number of dots with separators, and the text
that stands for it. -/

namespace ComponentAtlas.Path

/-- Both are the same character, or the second is a backslash for a slash. -/
def IsOrBackslash (a b : Char) : Prop := a = b ∨ a = '/' ∧ b = '\\'

/-- The second text is the first one with some of its slashes written as backslashes. -/
def BackslashedAs (path other : String) : Prop :=
  List.Forall₂ IsOrBackslash path.toList other.toList

/-- Every one of the texts is a dot with a separator. -/
def AreLeadingDots (dots : List String) : Prop := ∀ dot ∈ dots, dot = "./" ∨ dot = ".\\"

theorem slashes_eq_of_forall₂ {s t : List Char} (alike : List.Forall₂ IsOrBackslash s t) :
    (t.map fun c => if c = '\\' then '/' else c) =
      s.map fun c => if c = '\\' then '/' else c := by
  induction alike with
  | nil => rfl
  | cons first _ ih =>
    rw [List.map_cons, List.map_cons, ih]
    rcases first with rfl | ⟨rfl, rfl⟩
    · rfl
    · rfl

theorem normalize_of_backslashedAs {path other : String} (h : BackslashedAs path other) :
    normalize other = normalize path := by
  rw [normalize, normalize, slashes_eq_of_forall₂ h]

theorem normalize_dot {dot : String} (leading : dot = "./" ∨ dot = ".\\") (path : String) :
    normalize (dot ++ path) = normalize path := by
  rcases leading with rfl | rfl
  · rw [normalize, String.toList_append]
    rfl
  · rw [normalize, String.toList_append]
    rfl

/-- Dots in front of a path, however many, count for nothing. -/
theorem normalize_dots {dots : List String} (leading : AreLeadingDots dots) (path : String) :
    normalize (String.join dots ++ path) = normalize path := by
  induction dots with
  | nil => rw [String.join_nil, String.empty_append]
  | cons dot rest ih =>
    rw [AreLeadingDots, List.forall_mem_cons] at leading
    rw [String.join_cons, String.append_assoc, normalize_dot leading.1, ih leading.2]

end ComponentAtlas.Path
