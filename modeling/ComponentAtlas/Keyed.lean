/-! # Values under keys

Lists of keys with values, in ascending order of the keys and with each key once. Setting a value
keeps the order, and a table holds a list of which the order is known. -/

namespace ComponentAtlas

namespace Keyed

variable {α : Type}

/-- The keys of a list ascend. -/
def Ascending (entries : List (String × α)) : Prop := (entries.map (·.1)).Pairwise (· < ·)

/-- Sets the value under a key in an ascending list. A key that is there gets the new value. -/
def set (key : String) (value : α) : List (String × α) → List (String × α)
  | [] => [(key, value)]
  | (k, v) :: rest =>
    if key < k then (key, value) :: (k, v) :: rest
    else if key = k then (key, value) :: rest
    else (k, v) :: set key value rest

/-- The ascending list of entries; of two with one key the later counts. -/
def sorted (entries : List (String × α)) : List (String × α) :=
  entries.foldl (fun done e => set e.1 e.2 done) []

theorem mem_keys_set {key k : String} {value : α} {entries : List (String × α)} :
    k ∈ (set key value entries).map (·.1) ↔ k = key ∨ k ∈ entries.map (·.1) := by
  induction entries with
  | nil => simp [set]
  | cons e rest ih =>
    rcases e with ⟨other, v⟩
    simp only [set]
    split
    · simp
    · split
      · next h => simp [h]
      · simp only [List.map_cons, List.mem_cons, ih]
        exact or_left_comm

theorem ascending_set (key : String) (value : α) {entries : List (String × α)}
    (h : Ascending entries) : Ascending (set key value entries) := by
  induction entries with
  | nil => simp [Ascending, set]
  | cons e rest ih =>
    rcases e with ⟨other, v⟩
    simp only [Ascending, List.map_cons, List.pairwise_cons] at h
    simp only [set]
    split
    · next below =>
      simp only [Ascending, List.map_cons, List.pairwise_cons]
      refine ⟨fun k member => ?_, h⟩
      rcases List.mem_cons.1 member with rfl | member
      · exact below
      · exact String.lt_trans below (h.1 k member)
    · split
      · next same => simpa [Ascending, same] using h
      · next notBelow other_ne =>
        simp only [Ascending, List.map_cons, List.pairwise_cons]
        refine ⟨fun k member => ?_, ih h.2⟩
        rcases mem_keys_set.1 member with rfl | member
        · exact Std.lt_of_le_of_ne (String.not_lt.1 notBelow) (Ne.symm other_ne)
        · exact h.1 k member

theorem ascending_sorted (entries : List (String × α)) : Ascending (sorted entries) := by
  suffices ∀ done : List (String × α), Ascending done →
      Ascending (entries.foldl (fun done e => set e.1 e.2 done) done) from
    this [] (by simp [Ascending])
  induction entries with
  | nil => exact fun _ h => h
  | cons e rest ih => exact fun done h => ih _ (ascending_set e.1 e.2 h)

theorem lookup_cons (k key : String) (value : α) (rest : List (String × α)) :
    ((key, value) :: rest).lookup k = if k = key then some value else rest.lookup k := by
  by_cases h : k = key
  · simp [h]
  · simp [List.lookup_cons, h, beq_eq_false_iff_ne.2 h]

theorem lookup_set (key k : String) (value : α) (entries : List (String × α)) :
    (set key value entries).lookup k = if k = key then some value else entries.lookup k := by
  induction entries with
  | nil => exact lookup_cons k key value []
  | cons e rest ih =>
    rcases e with ⟨other, v⟩
    simp only [set]
    split
    · exact lookup_cons k key value _
    · split
      · next same =>
        subst same
        simp only [lookup_cons]
        split <;> rfl
      · next other_ne =>
        simp only [lookup_cons, ih]
        by_cases h : k = other
        · subst h
          simp [Ne.symm other_ne]
        · simp [h]

end Keyed

/-- Entries whose keys ascend. -/
structure Keyed (α : Type) where
  entries : List (String × α)
  ascending : Keyed.Ascending entries
deriving DecidableEq

namespace Keyed

variable {α : Type}

/-- The table of entries; of two with one key the later counts. -/
def ofList (entries : List (String × α)) : Keyed α := ⟨sorted entries, ascending_sorted entries⟩

/-- The keys in ascending order. -/
def keys (t : Keyed α) : List String := t.entries.map (·.1)

end Keyed

end ComponentAtlas
