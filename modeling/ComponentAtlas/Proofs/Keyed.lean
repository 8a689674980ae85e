import ComponentAtlas.Keyed

/-! # Ascending lists as tables

An ascending list is determined by what its keys lead to. So a list is rebuilt from any ascending
list of keys that holds all of its own, and entries with distinct keys may be given in any order. -/

namespace ComponentAtlas.Keyed

variable {α β : Type}

instance (entries : List (String × α)) : Decidable (Ascending entries) :=
  inferInstanceAs (Decidable (List.Pairwise _ _))

theorem lookup_eq_none_iff {key : String} {entries : List (String × α)} :
    entries.lookup key = none ↔ key ∉ entries.map (·.1) := by
  induction entries with
  | nil => simp
  | cons e rest ih =>
    rcases e with ⟨k, v⟩
    rw [lookup_cons, List.map_cons, List.mem_cons]
    split
    · next h => simp [h]
    · next h => rw [ih]; simp [h]

theorem mem_of_lookup {key : String} {value : α} {entries : List (String × α)}
    (h : entries.lookup key = some value) : (key, value) ∈ entries := by
  induction entries with
  | nil => simp at h
  | cons e rest ih =>
    rcases e with ⟨k, v⟩
    rw [lookup_cons] at h
    split at h
    · next same =>
      cases h
      exact same ▸ List.mem_cons_self
    · exact List.mem_cons_of_mem _ (ih h)

theorem lookup_of_mem {key : String} {value : α} {entries : List (String × α)}
    (distinct : (entries.map (·.1)).Nodup) (member : (key, value) ∈ entries) :
    entries.lookup key = some value := by
  induction entries with
  | nil => cases member
  | cons e rest ih =>
    rcases e with ⟨k, v⟩
    rw [List.map_cons, List.nodup_cons] at distinct
    rw [lookup_cons]
    rcases List.mem_cons.1 member with same | later
    · cases same
      exact if_pos rfl
    · have among : key ∈ rest.map (·.1) := List.mem_map.2 ⟨_, later, rfl⟩
      have ne : key ≠ k := fun same => distinct.1 (same ▸ among)
      rw [if_neg ne]
      exact ih distinct.2 later

theorem ascending_cons {key : String} {value : α} {rest : List (String × α)} :
    Ascending ((key, value) :: rest) ↔ (∀ k ∈ rest.map (·.1), key < k) ∧ Ascending rest := by
  simp [Ascending, List.pairwise_cons]

theorem Ascending.nodup {entries : List (String × α)} (h : Ascending entries) :
    (entries.map (·.1)).Nodup := by
  refine List.Pairwise.imp ?_ h
  rintro k _ below rfl
  exact String.lt_irrefl k below

/-- The head of an ascending list is under the least of its keys. -/
theorem head_le {key k : String} {value : α} {rest : List (String × α)}
    (h : Ascending ((key, value) :: rest))
    (present : ((key, value) :: rest).lookup k ≠ none) : key = k ∨ key < k := by
  rw [lookup_cons] at present
  split at present
  · next same => exact .inl same.symm
  · refine .inr ((ascending_cons.1 h).1 k (Classical.byContradiction fun missing => ?_))
    exact present (lookup_eq_none_iff.2 missing)

/-- Two ascending lists in which every key leads to the same are the same. -/
theorem ext_lookup {a b : List (String × α)} (ha : Ascending a) (hb : Ascending b)
    (same : ∀ key, a.lookup key = b.lookup key) : a = b := by
  induction a generalizing b with
  | nil =>
    cases b with
    | nil => rfl
    | cons e' b =>
      rcases e' with ⟨k', v'⟩
      simpa [lookup_cons] using same k'
  | cons e a ih =>
    rcases e with ⟨k, v⟩
    cases b with
    | nil => simpa [lookup_cons] using same k
    | cons e' b =>
      rcases e' with ⟨k', v'⟩
      -- each head is the least key of both lists
      have left : k = k' ∨ k < k' := head_le ha (by rw [same, lookup_cons, if_pos rfl]; simp)
      have right : k' = k ∨ k' < k := head_le hb (by rw [← same, lookup_cons, if_pos rfl]; simp)
      have keys : k = k' := by
        rcases left with equal | below
        · exact equal
        · rcases right with equal | above
          · exact equal.symm
          · exact absurd (String.lt_trans below above) (String.lt_irrefl k)
      subst keys
      have heads : v = v' := by simpa [lookup_cons] using same k
      subst heads
      rw [ascending_cons] at ha hb
      refine congrArg _ (ih ha.2 hb.2 fun key => ?_)
      have here := same key
      rw [lookup_cons, lookup_cons] at here
      split at here
      · next equal =>
        subst equal
        rw [lookup_eq_none_iff.2 fun member => String.lt_irrefl _ (ha.1 _ member),
          lookup_eq_none_iff.2 fun member => String.lt_irrefl _ (hb.1 _ member)]
      · exact here

theorem ascending_filter {entries : List (String × α)} (h : Ascending entries)
    (test : String × α → Bool) : Ascending (entries.filter test) :=
  h.sublist (List.filter_sublist.map _)

theorem lookup_filter {entries : List (String × α)} (distinct : (entries.map (·.1)).Nodup)
    (test : String × α → Bool) (key : String) :
    (entries.filter test).lookup key =
      (entries.lookup key).filter fun value => test (key, value) := by
  induction entries with
  | nil => rfl
  | cons e rest ih =>
    rcases e with ⟨k, v⟩
    rw [List.map_cons, List.nodup_cons] at distinct
    rw [lookup_cons, List.filter_cons]
    by_cases same : key = k
    · subst same
      have later : (rest.filter test).lookup key = none := by
        rw [ih distinct.2, lookup_eq_none_iff.2 distinct.1]
        rfl
      by_cases passes : test (key, v) = true
      · simp [passes, Option.filter]
      · simp [passes, later, Option.filter]
    · rw [if_neg same, ← ih distinct.2]
      split
      · rw [lookup_cons, if_neg same]
      · rfl

/-! ## Sorting -/

theorem lookup_foldl_set {entries : List (String × α)} (distinct : (entries.map (·.1)).Nodup)
    (done : List (String × α)) (key : String) :
    (entries.foldl (fun done e => set e.1 e.2 done) done).lookup key =
      (entries.lookup key).or (done.lookup key) := by
  induction entries generalizing done with
  | nil => simp
  | cons e rest ih =>
    rcases e with ⟨k, v⟩
    rw [List.map_cons, List.nodup_cons] at distinct
    rw [List.foldl_cons, ih distinct.2, lookup_set, lookup_cons]
    split
    · next same =>
      subst same
      rw [lookup_eq_none_iff.2 distinct.1]
      rfl
    · rfl

/-- Sorting entries with distinct keys keeps what every key leads to. -/
theorem lookup_sorted {entries : List (String × α)} (distinct : (entries.map (·.1)).Nodup)
    (key : String) : (sorted entries).lookup key = entries.lookup key := by
  rw [sorted, lookup_foldl_set distinct]
  simp

theorem sorted_of_ascending {entries : List (String × α)} (h : Ascending entries) :
    sorted entries = entries :=
  ext_lookup (ascending_sorted entries) h (lookup_sorted h.nodup)

theorem mem_of_mem_set {key : String} {value : α} {entries : List (String × α)}
    {e : String × α} (h : e ∈ set key value entries) : e = (key, value) ∨ e ∈ entries := by
  induction entries with
  | nil => exact .inl (List.mem_singleton.1 h)
  | cons first rest ih =>
    rw [set] at h
    split at h
    · exact List.mem_cons.1 h
    · split at h
      · rcases List.mem_cons.1 h with same | member
        · exact .inl same
        · exact .inr (List.mem_cons_of_mem _ member)
      · rcases List.mem_cons.1 h with same | member
        · exact .inr (List.mem_cons.2 (.inl same))
        · exact (ih member).imp_right (List.mem_cons_of_mem _)

theorem mem_of_mem_sorted {entries : List (String × α)} {e : String × α}
    (h : e ∈ sorted entries) : e ∈ entries := by
  suffices ∀ done : List (String × α), e ∈ entries.foldl (fun done e => set e.1 e.2 done) done →
      e ∈ entries ∨ e ∈ done from
    (this [] h).resolve_right List.not_mem_nil
  clear h
  induction entries with
  | nil => exact fun _ member => .inr member
  | cons first rest ih =>
    intro done member
    rcases ih _ member with later | earlier
    · exact .inl (List.mem_cons_of_mem _ later)
    · rcases mem_of_mem_set earlier with same | before
      · exact .inl (List.mem_cons.2 (.inl same))
      · exact .inr before

theorem mem_keys_sorted {key : String} {entries : List (String × α)}
    (h : key ∈ entries.map (·.1)) : key ∈ (sorted entries).map (·.1) := by
  suffices ∀ done : List (String × α), key ∈ entries.map (·.1) ∨ key ∈ done.map (·.1) →
      key ∈ (entries.foldl (fun done e => set e.1 e.2 done) done).map (·.1) from
    this [] (.inl h)
  clear h
  induction entries with
  | nil => exact fun _ member => member.resolve_left List.not_mem_nil
  | cons first rest ih =>
    intro done member
    refine ih _ ?_
    rw [List.map_cons, List.mem_cons, or_assoc, or_left_comm] at member
    exact member.imp_right mem_keys_set.2

/-! ## Rebuilding a list from its keys -/

/-- The entries under some keys, in the order of the keys. -/
def select (keys : List String) (entries : List (String × α)) : List (String × α) :=
  keys.filterMap fun key => (entries.lookup key).map fun value => (key, value)

theorem map_fst_select_sublist (keys : List String) (entries : List (String × α)) :
    ((select keys entries).map (·.1)).Sublist keys := by
  induction keys with
  | nil => simp [select]
  | cons key rest ih =>
    rw [select, List.filterMap_cons]
    cases entries.lookup key with
    | none => exact ih.cons key
    | some v => exact ih.cons_cons key

theorem lookup_select {keys : List String} {entries : List (String × α)} (key : String) :
    (select keys entries).lookup key = if key ∈ keys then entries.lookup key else none := by
  induction keys with
  | nil => simp [select]
  | cons k rest ih =>
    rw [select, List.filterMap_cons]
    cases found : entries.lookup k with
    | none =>
      show (select rest entries).lookup key = _
      rw [ih]
      by_cases same : key = k
      · simp [same, found]
      · simp [same]
    | some v =>
      show ((k, v) :: select rest entries).lookup key = _
      rw [lookup_cons, ih]
      by_cases same : key = k
      · simp [same, found]
      · simp [same]

/-- An ascending list consists of its entries under any ascending keys that hold all of its own. -/
theorem select_eq_self {keys : List String} {entries : List (String × α)}
    (ascending : keys.Pairwise (· < ·)) (h : Ascending entries)
    (known : ∀ e ∈ entries, e.1 ∈ keys) : select keys entries = entries := by
  refine ext_lookup (ascending.sublist (map_fst_select_sublist keys entries)) h fun key => ?_
  rw [lookup_select]
  split
  · rfl
  · next unknown =>
    refine (lookup_eq_none_iff.2 fun member => ?_).symm
    obtain ⟨e, present, rfl⟩ := List.mem_map.1 member
    exact unknown (known e present)

end ComponentAtlas.Keyed
