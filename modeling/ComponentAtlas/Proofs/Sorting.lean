import Mathlib.Data.List.Basic

/-! # Sorting by a number

Items with their indices have one order by a number and then by the index. A sort by the number
alone puts the items in that order: it keeps the order of those with the same number. So it also may
change places with a selection of items. -/

namespace ComponentAtlas

variable {α : Type} {number : α → Nat} {items : List α}

/-- The indices of items ascend. -/
theorem pairwise_zipIdx (items : List α) :
    items.zipIdx.Pairwise fun a b => a.2 < b.2 := by
  have ascending : (items.zipIdx.map Prod.snd).Pairwise (· < ·) := by
    rw [List.zipIdx_map_snd]
    exact List.pairwise_lt_range' 1
  exact List.pairwise_map.1 ascending

/-- Items with their indices are put in the order of their numbers and then of their indices. -/
theorem pairwise_mergeSort_zipIdx :
    (items.zipIdx.mergeSort (List.zipIdxLE fun a b => number a ≤ number b)).Pairwise fun a b =>
      number a.1 < number b.1 ∨ number a.1 = number b.1 ∧ a.2 < b.2 := by
  let le (a b : α) : Bool := number a ≤ number b
  have trans (a b c : α) (ab : le a b) (bc : le b c) : le a c := by
    simp only [le, decide_eq_true_eq] at ab bc ⊢
    omega
  have total (a b : α) : le a b || le b a := by
    simp only [le, Bool.or_eq_true, decide_eq_true_eq]
    omega
  have sorted := List.pairwise_mergeSort (List.zipIdxLE_trans trans) (List.zipIdxLE_total total)
    items.zipIdx
  have apart : (items.zipIdx.mergeSort (List.zipIdxLE le)).Pairwise fun a b => a.2 ≠ b.2 := by
    have perm := List.mergeSort_perm items.zipIdx (List.zipIdxLE le)
    refine List.pairwise_map.1 ((perm.map Prod.snd).nodup_iff.2 ?_)
    rw [List.zipIdx_map_snd]
    exact List.nodup_range'
  refine (sorted.and apart).imp fun {a b} ⟨ordered, distinct⟩ => ?_
  simp only [List.zipIdxLE, le, decide_eq_true_eq] at ordered
  split at ordered
  · split at ordered
    · rw [decide_eq_true_eq] at ordered
      omega
    · omega
  · cases ordered

theorem rel_of_mem_zipIdx {r : α → α → Prop} (given : items.Pairwise r) {a b : α × Nat}
    (ha : a ∈ items.zipIdx) (hb : b ∈ items.zipIdx) (lower : a.2 < b.2) : r a.1 b.1 := by
  obtain ⟨boundA, atA⟩ := List.getElem?_eq_some_iff.1 (List.mem_zipIdx_iff_getElem?.1 ha)
  obtain ⟨boundB, atB⟩ := List.getElem?_eq_some_iff.1 (List.mem_zipIdx_iff_getElem?.1 hb)
  rw [← atA, ← atB]
  exact List.pairwise_iff_getElem.1 given a.2 b.2 boundA boundB lower

/-- A sort by a number keeps the order in which items with the same number are given. -/
theorem pairwise_mergeSort_of_pairwise {r : α → α → Prop} (given : items.Pairwise r) :
    (items.mergeSort fun a b => number a ≤ number b).Pairwise fun a b =>
      number a < number b ∨ number a = number b ∧ r a b := by
  rw [← List.mergeSort_zipIdx, List.pairwise_map]
  refine pairwise_mergeSort_zipIdx.imp_of_mem fun {a b} ha hb ordered => ?_
  rw [List.mem_mergeSort] at ha hb
  exact ordered.imp_right fun ⟨same, lower⟩ => ⟨same, rel_of_mem_zipIdx given ha hb lower⟩

/-- Items with their indices are sorted and selected in one order only, since no two are the
same. -/
theorem filter_mergeSort_zipIdx (items : List α) (keep : α × Nat → Bool) :
    (items.zipIdx.mergeSort fun a b => number a.1 ≤ number b.1).filter keep =
      (items.zipIdx.filter keep).mergeSort fun a b => number a.1 ≤ number b.1 := by
  let le (a b : α × Nat) : Bool := number a.1 ≤ number b.1
  let before (a b : α × Nat) : Prop :=
    number a.1 < number b.1 ∨ number a.1 = number b.1 ∧ a.2 < b.2
  have sorted : ((items.zipIdx.mergeSort le).filter keep).Pairwise before :=
    (pairwise_mergeSort_of_pairwise (pairwise_zipIdx items)).filter keep
  have selected : ((items.zipIdx.filter keep).mergeSort le).Pairwise before :=
    pairwise_mergeSort_of_pairwise ((pairwise_zipIdx items).filter keep)
  have perm : ((items.zipIdx.mergeSort le).filter keep).Perm
      ((items.zipIdx.filter keep).mergeSort le) :=
    ((List.mergeSort_perm _ _).filter _).trans (List.mergeSort_perm _ _).symm
  exact perm.eq_of_pairwise (fun a b _ _ ab ba => by omega) sorted selected

/-- A sort by a number and a selection may change places. -/
theorem filter_mergeSort (items : List α) (keep : α → Bool) :
    (items.mergeSort fun a b => number a ≤ number b).filter keep =
      (items.filter keep).mergeSort fun a b => number a ≤ number b := by
  let le (a b : α × Nat) : Bool := number a.1 ≤ number b.1
  have forget (tagged : List (α × Nat)) : (tagged.mergeSort le).map Prod.fst =
      (tagged.map Prod.fst).mergeSort fun a b => number a ≤ number b :=
    List.map_mergeSort fun _ _ _ _ => rfl
  have select (tagged : List (α × Nat)) : (tagged.filter fun a => keep a.1).map Prod.fst =
      (tagged.map Prod.fst).filter keep := List.filter_map.symm
  calc (items.mergeSort fun a b => number a ≤ number b).filter keep
      = ((items.zipIdx.mergeSort le).map Prod.fst).filter keep := by
        rw [forget, List.zipIdx_map_fst]
    _ = ((items.zipIdx.filter fun a => keep a.1).mergeSort le).map Prod.fst := by
        rw [← select, filter_mergeSort_zipIdx]
    _ = (items.filter keep).mergeSort fun a b => number a ≤ number b := by
        rw [forget, select, List.zipIdx_map_fst]

end ComponentAtlas
