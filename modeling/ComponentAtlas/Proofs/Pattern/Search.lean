import ComponentAtlas.Pattern.Matcher

/-! # Searching a text

A matcher is tried at a spot of a text. The stretches that it describes there come in the order of
preference: a repetition prefers more rounds to fewer, and an alternative its first branch. A search
goes through the text from the left. It takes the preferred stretch at the first spot where there is
one, and goes on behind it, so that the stretches that are found do not overlap. -/

namespace ComponentAtlas.Pattern

open Charset

/-! ## Spots -/

/-- A spot in a text: the characters behind it, the last one first, and those ahead. -/
structure Spot where
  behind : List Char
  ahead : List Char
deriving DecidableEq, Repr

/-- The stretch lies between the spots. -/
def Spot.Reaches (s : Spot) (stretch : List Char) (t : Spot) : Prop :=
  s.ahead = stretch ++ t.ahead ∧ t.behind = stretch.reverse ++ s.behind

namespace Spot.Reaches

variable {s t u : Spot} {a b : List Char}

theorem refl (s : Spot) : s.Reaches [] s := ⟨rfl, rfl⟩

theorem trans (h : s.Reaches a t) (h' : t.Reaches b u) : s.Reaches (a ++ b) u := by
  refine ⟨?_, ?_⟩
  · rw [h.1, h'.1, List.append_assoc]
  · rw [h'.2, h.2, List.reverse_append, List.append_assoc]

end Spot.Reaches

/-! ## Stretches in the order of preference -/

/-- The spots that so many rounds lead to. -/
def required (step : Spot → List Spot) : Nat → Spot → List Spot
  | 0, s => [s]
  | n + 1, s => (step s).flatMap (required step n)

/-- The spots that at most so many rounds lead to, those of more rounds first. A round that takes no
character is not made. -/
def optional (step : Spot → List Spot) : Nat → Spot → List Spot
  | 0, s => [s]
  | n + 1, s =>
    ((step s).filter fun t => t.ahead.length < s.ahead.length).flatMap (optional step n) ++ [s]

namespace Matcher

/-- The spots where stretches that begin at a spot end, in the order of preference. -/
def ends : Matcher → Spot → List Spot
  | nothing, s => [s]
  | set cs, s =>
    match s.ahead with
    | c :: rest => if cs.has c then [⟨c :: s.behind, rest⟩] else []
    | [] => []
  | look l, s => if l.holds s.behind.head? s.ahead.head? then [s] else []
  | sequence a b, s => (ends a s).flatMap (ends b)
  | either a b, s => ends a s ++ ends b s
  | repeated least most a, s =>
    (required (ends a) least s).flatMap fun t =>
      optional (ends a) (most.elim t.ahead.length (· - least)) t

variable {cs : CharSet} {a b : Matcher} {s t u : Spot}

theorem head?_ends_nothing (s : Spot) : (nothing.ends s).head? = some s := rfl

theorem ends_set_cons {behind rest : List Char} {c : Char} :
    (set cs).ends ⟨behind, c :: rest⟩ = if cs.has c then [⟨c :: behind, rest⟩] else [] :=
  rfl

theorem mem_ends_sequence : t ∈ (sequence a b).ends s ↔ ∃ u ∈ a.ends s, t ∈ b.ends u :=
  List.mem_flatMap

theorem mem_ends_look {l : Look} :
    t ∈ (look l).ends s ↔ l.holds s.behind.head? s.ahead.head? = true ∧ t = s := by
  rw [ends, List.mem_ite_nil_right, List.mem_singleton]

/-- The preferred stretch of a sequence, if the preferred stretch of its first part can be gone on
from. -/
theorem head?_ends_sequence (first : (a.ends s).head? = some t)
    (second : (b.ends t).head? = some u) : ((sequence a b).ends s).head? = some u := by
  rw [List.head?_eq_some_iff] at first second
  obtain ⟨others, first⟩ := first
  obtain ⟨more, second⟩ := second
  rw [ends, first, List.flatMap_cons, second]
  rfl

theorem reaches_of_mem_ends_set (member : t ∈ (set cs).ends s) :
    ∃ c, cs.has c = true ∧ s.Reaches [c] t := by
  rcases s with ⟨behind, _ | ⟨c, rest⟩⟩
  · cases member
  · rw [ends_set_cons, List.mem_ite_nil_right, List.mem_singleton] at member
    obtain ⟨has, rfl⟩ := member
    exact ⟨c, has, rfl, rfl⟩

/-! ### Repeated characters -/

/-- Any number of characters of a set. -/
def many (cs : CharSet) : Matcher := repeated 0 none (set cs)

theorem ends_many (cs : CharSet) (s : Spot) :
    (many cs).ends s = optional (set cs).ends s.ahead.length s := by
  rw [many, ends, required, List.flatMap_singleton]
  rfl

theorem reaches_of_mem_optional {n : Nat} (member : t ∈ optional (set cs).ends n s) :
    ∃ run, (∀ c ∈ run, cs.has c = true) ∧ s.Reaches run t := by
  induction n generalizing s with
  | zero =>
    rw [optional, List.mem_singleton] at member
    subst member
    exact ⟨[], List.forall_mem_nil _, .refl t⟩
  | succ n ih =>
    rw [optional, List.mem_append, List.mem_singleton] at member
    rcases member with further | rfl
    · obtain ⟨u, round, later⟩ := List.mem_flatMap.1 further
      obtain ⟨c, has, step⟩ := reaches_of_mem_ends_set (List.mem_filter.1 round).1
      obtain ⟨run, all, rest⟩ := ih later
      exact ⟨c :: run, List.forall_mem_cons.2 ⟨has, all⟩, step.trans rest⟩
    · exact ⟨[], List.forall_mem_nil _, .refl t⟩

theorem reaches_of_mem_many (member : t ∈ (many cs).ends s) :
    ∃ run, (∀ c ∈ run, cs.has c = true) ∧ s.Reaches run t := by
  rw [ends_many] at member
  exact reaches_of_mem_optional member

/-- As many characters as there are are preferred. -/
theorem head?_ends_many (cs : CharSet) (behind ahead : List Char) :
    ((many cs).ends ⟨behind, ahead⟩).head? =
      some ⟨(ahead.takeWhile cs.has).reverse ++ behind, ahead.dropWhile cs.has⟩ := by
  rw [ends_many]
  induction ahead generalizing behind with
  | nil => rfl
  | cons c rest ih =>
    show (optional (set cs).ends (rest.length + 1) ⟨behind, c :: rest⟩).head? = _
    rw [optional, ends_set_cons, List.takeWhile_cons, List.dropWhile_cons]
    cases has : cs.has c with
    | true =>
      have shorter : [(⟨c :: behind, rest⟩ : Spot)].filter
          (fun t => t.ahead.length < (c :: rest).length) = [⟨c :: behind, rest⟩] :=
        List.filter_cons_of_pos (decide_eq_true (Nat.lt_succ_self _))
      simp only [if_true, shorter, List.flatMap_singleton, List.head?_append]
      rw [ih (c :: behind), Option.some_or, List.reverse_cons, List.append_assoc,
        List.singleton_append]
    | false => rfl

end Matcher

/-! ## Searches -/

/-- The stretches that are found from a spot on, each with the spots where it begins and ends. None
of them is empty. -/
inductive Search (m : Matcher) : Spot → List (Spot × Spot) → Prop
  | finished {behind : List Char} (none : m.ends ⟨behind, []⟩ = []) : Search m ⟨behind, []⟩ []
  | passed {behind rest : List Char} {c : Char} {found : List (Spot × Spot)}
      (none : m.ends ⟨behind, c :: rest⟩ = []) (more : Search m ⟨c :: behind, rest⟩ found) :
      Search m ⟨behind, c :: rest⟩ found
  | found {s t : Spot} {found : List (Spot × Spot)} (first : (m.ends s).head? = some t)
      (takes : t.ahead.length < s.ahead.length) (more : Search m t found) :
      Search m s ((s, t) :: found)

/-- A text is searched in one way only. The induction is on the search. -/
theorem Search.unique {m : Matcher} {s : Spot} {found other : List (Spot × Spot)}
    (h : Search m s found) (h' : Search m s other) : found = other := by
  induction h generalizing other with
  | finished none =>
    cases h' with
    | finished => rfl
    | found first =>
      rw [none] at first
      cases first
  | passed none _ ih =>
    cases h' with
    | passed _ more => exact ih more
    | found first =>
      rw [none] at first
      cases first
  | found first _ _ ih =>
    cases h' with
    | finished none =>
      rw [none] at first
      cases first
    | passed none =>
      rw [none] at first
      cases first
    | found first' _ more =>
      rw [first] at first'
      cases first'
      rw [ih more]

end ComponentAtlas.Pattern
