import Mathlib.Data.List.Forall2

/-! # Lists related one by one

Functions make the same of two lists if they make the same of the elements that correspond. Elements
at one index correspond. Cuts of one list correspond, too, unless one is behind the other. -/

namespace ComponentAtlas

variable {α β γ : Type} {as : List α} {bs : List β}

theorem map_eq_iff_forall₂ {f : α → γ} {g : β → γ} :
    as.map f = bs.map g ↔ List.Forall₂ (fun a b => f a = g b) as bs := by
  rw [← List.forall₂_eq_eq_eq, List.forall₂_map_left_iff, List.forall₂_map_right_iff]

theorem filterMap_eq_of_forall₂ {f : α → Option γ} {g : β → Option γ}
    (same : List.Forall₂ (fun a b => f a = g b) as bs) : as.filterMap f = bs.filterMap g := by
  induction same with
  | nil => rfl
  | cons head _ ih => rw [List.filterMap_cons, List.filterMap_cons, head, ih]

/-- If what `f` makes of the elements is made of the corresponding ones, too, it is so in order. -/
theorem filterMap_sublist_of_forall₂ {f : α → Option γ} {g : β → Option γ}
    (kept : List.Forall₂ (fun a b => ∀ c, f a = some c → g b = some c) as bs) :
    (as.filterMap f).Sublist (bs.filterMap g) := by
  induction kept with
  | nil => exact .slnil
  | @cons a b _ _ head _ ih =>
    rw [List.filterMap_cons, List.filterMap_cons]
    cases found : f a with
    | none =>
      cases g b with
      | none => exact ih
      | some c => exact ih.cons c
    | some c =>
      rw [head c found]
      exact ih.cons_cons c

theorem flatMap_eq_of_forall₂ {f : α → List γ} {g : β → List γ}
    (same : List.Forall₂ (fun a b => f a = g b) as bs) : as.flatMap f = bs.flatMap g := by
  rw [List.flatMap_def, List.flatMap_def, map_eq_iff_forall₂.2 same]

/-- Two things that say the same of related elements say the same of related lists. -/
theorem forall₂_congr {r p q : α → β → Prop} (each : List.Forall₂ r as bs)
    (same : ∀ a b, r a b → (p a b ↔ q a b)) : List.Forall₂ p as bs ↔ List.Forall₂ q as bs := by
  induction each with
  | nil => exact ⟨fun _ => .nil, fun _ => .nil⟩
  | cons head _ ih => rw [List.forall₂_cons, List.forall₂_cons, same _ _ head, ih]

theorem rel_getElem?_of_forall₂ {r : α → β → Prop} (each : List.Forall₂ r as bs) (i : Nat) :
    Option.Rel r as[i]? bs[i]? := by
  induction each generalizing i with
  | nil => exact .none
  | cons head _ ih =>
    cases i with
    | zero => exact .some head
    | succ i => exact ih i

/-- Two cuts of a list are one, if neither element stands in front of the other cut. -/
theorem append_cons_inj_of_free {u u' r r' : List α} {a a' : α} (free : a ∉ u') (free' : a' ∉ u)
    (same : u ++ a :: r = u' ++ a' :: r') : u = u' ∧ a = a' ∧ r = r' := by
  rcases List.append_eq_append_iff.1 same with ⟨more, fronts, backs⟩ | ⟨more, fronts, backs⟩
  · cases more with
    | nil =>
      obtain ⟨first, rest⟩ := List.cons.inj backs
      exact ⟨(fronts.trans (List.append_nil u)).symm, first, rest⟩
    | cons c others =>
      obtain ⟨rfl, -⟩ := List.cons.inj backs
      exact absurd (fronts ▸ List.mem_append_right u List.mem_cons_self) free
  · cases more with
    | nil =>
      obtain ⟨first, rest⟩ := List.cons.inj backs
      exact ⟨fronts.trans (List.append_nil u'), first.symm, rest.symm⟩
    | cons c others =>
      obtain ⟨rfl, -⟩ := List.cons.inj backs
      exact absurd (fronts ▸ List.mem_append_right u' List.mem_cons_self) free'

end ComponentAtlas
