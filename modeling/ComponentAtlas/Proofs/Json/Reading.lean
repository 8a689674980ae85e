import ComponentAtlas.Json.Decoding
import ComponentAtlas.Proofs.Keyed

/-! # Reading a value and writing it again

`ReadsAs decode encode v w` says that `v` can be read and that what is read has the document `w`.
Lists and members of objects inherit the relation from their parts. -/

namespace ComponentAtlas.Json

variable {α β : Type} {decode : Json → Decoded α} {encode : α → Json}

/-! ## Ordered values -/

@[simp] theorem ordered_bool (b : Bool) : Ordered (.bool b) := .bool b

@[simp] theorem ordered_null : Ordered .null := .null

@[simp] theorem ordered_number (n : JsonNumber) : Ordered (.number n) := .number n

@[simp] theorem ordered_string (s : String) : Ordered (.string s) := .string s

@[simp] theorem ordered_array_iff {items : List Json} :
    Ordered (.array items) ↔ ∀ v ∈ items, Ordered v := by
  constructor
  · intro h
    cases h with
    | array each => exact each
  · exact .array

@[simp] theorem ordered_object_iff {members : List (String × Json)} :
    Ordered (.object members) ↔ Keyed.Ascending members ∧ ∀ m ∈ members, Ordered m.2 := by
  constructor
  · intro h
    cases h with
    | object ascending each => exact ⟨ascending, each⟩
  · rintro ⟨ascending, each⟩
    exact .object ascending each

mutual

/-- The keys of every object in the value ascend, as a test. -/
def isOrdered : Json → Bool
  | array items => areOrdered items
  | object members => decide (Keyed.Ascending members) && membersOrdered members
  | null | bool _ | number _ | string _ => true

def areOrdered : List Json → Bool
  | [] => true
  | v :: rest => v.isOrdered && areOrdered rest

def membersOrdered : List (String × Json) → Bool
  | [] => true
  | m :: rest => m.2.isOrdered && membersOrdered rest

end

mutual

theorem isOrdered_iff (v : Json) : v.isOrdered = true ↔ v.Ordered := by
  cases v with
  | array items => rw [isOrdered, areOrdered_iff, ordered_array_iff]
  | object members =>
    rw [isOrdered, Bool.and_eq_true, decide_eq_true_iff, membersOrdered_iff, ordered_object_iff]
  | _ => simp [isOrdered]

theorem areOrdered_iff (items : List Json) : areOrdered items = true ↔ ∀ v ∈ items, v.Ordered := by
  cases items with
  | nil => simp [areOrdered]
  | cons v rest =>
    rw [areOrdered, Bool.and_eq_true, isOrdered_iff, areOrdered_iff, List.forall_mem_cons]

theorem membersOrdered_iff (members : List (String × Json)) :
    membersOrdered members = true ↔ ∀ m ∈ members, m.2.Ordered := by
  cases members with
  | nil => simp [membersOrdered]
  | cons m rest =>
    rw [membersOrdered, Bool.and_eq_true, isOrdered_iff, membersOrdered_iff, List.forall_mem_cons]

end

instance (v : Json) : Decidable v.Ordered := decidable_of_iff _ (isOrdered_iff v)

theorem Ordered.items {items : List Json} (h : Ordered (.array items)) : ∀ v ∈ items, Ordered v :=
  ordered_array_iff.1 h

theorem Ordered.ascending {members : List (String × Json)} (h : Ordered (.object members)) :
    Keyed.Ascending members :=
  (ordered_object_iff.1 h).1

theorem Ordered.member {members : List (String × Json)} {key : String} {v : Json}
    (h : Ordered (.object members)) (found : memberOf? members key = some v) : Ordered v :=
  (ordered_object_iff.1 h).2 _ (Keyed.mem_of_lookup found)

theorem ordered_ofMembers {members : List (String × Json)} (h : ∀ m ∈ members, Ordered m.2) :
    Ordered (.ofMembers members) :=
  .object (Keyed.ascending_sorted _) fun m member => h m (Keyed.mem_of_mem_sorted member)

/-! ## Members by key -/

theorem select_found {key : String} {keys : List String} {members : List (String × Json)}
    {v : Json} (found : memberOf? members key = some v) :
    Keyed.select (key :: keys) members = (key, v) :: Keyed.select keys members := by
  rw [memberOf?] at found
  rw [Keyed.select, List.filterMap_cons, found]
  rfl

theorem select_missing {key : String} {keys : List String} {members : List (String × Json)}
    (missing : memberOf? members key = none) :
    Keyed.select (key :: keys) members = Keyed.select keys members := by
  rw [memberOf?] at missing
  rw [Keyed.select, List.filterMap_cons, missing]
  rfl

/-- An ordered object consists of its members under any ascending keys that hold all of its own. -/
theorem Ordered.eq_select {keys : List String} {members : List (String × Json)}
    (ordered : (Json.object members).Ordered) (ascending : keys.Pairwise (· < ·))
    (known : ∀ m ∈ members, m.1 ∈ keys) : members = Keyed.select keys members :=
  (Keyed.select_eq_self ascending ordered.ascending known).symm

/-! ## Reading -/

/-- The value is read, and what is read has the document `w`. -/
def ReadsAs (decode : Json → Decoded α) (encode : α → Json) (v w : Json) : Prop :=
  ∃ a, decode v = .ok a ∧ encode a = w

theorem ok_bind (a : α) (f : α → Decoded β) : (Except.ok a >>= f) = f a := rfl

theorem readsAs_string (s : String) : ReadsAs decodeString .string (.string s) (.string s) :=
  ⟨s, rfl, rfl⟩

theorem decodeItems_cons {v : Json} {rest : List Json} {a : α} {more : List α}
    (first : decode v = .ok a) (others : decodeItems decode rest = .ok more) :
    decodeItems decode (v :: rest) = .ok (a :: more) := by
  rw [decodeItems, first, others]
  rfl

/-- The documents of the items of a list are read as the list. -/
theorem decodeList_map (items : List α) (read : ∀ a ∈ items, decode (encode a) = .ok a) :
    decodeList decode (.array (items.map encode)) = .ok items := by
  show decodeItems decode (items.map encode) = .ok items
  induction items with
  | nil => rfl
  | cons a rest ih =>
    rw [List.forall_mem_cons] at read
    exact decodeItems_cons read.1 (ih read.2)

/-- A list is read item by item. -/
theorem readsAs_list {items : List Json} (target : Json → Json)
    (each : ∀ v ∈ items, ReadsAs decode encode v (target v)) :
    ReadsAs (decodeList decode) (fun list => .array (list.map encode)) (.array items)
      (.array (items.map target)) := by
  induction items with
  | nil => exact ⟨[], rfl, rfl⟩
  | cons v rest ih =>
    rw [List.forall_mem_cons] at each
    obtain ⟨a, first, same⟩ := each.1
    obtain ⟨more, others, written⟩ := ih each.2
    refine ⟨a :: more, decodeItems_cons first others, ?_⟩
    injection written with written
    show Json.array (encode a :: more.map encode) = .array (target v :: rest.map target)
    rw [same, written]

theorem decodeMember_of_some {members : List (String × Json)} {key : String} {v : Json} {a : α}
    (found : memberOf? members key = some v) (read : decode v = .ok a) :
    decodeMember decode members key = .ok (some a) := by
  rw [decodeMember, found]
  show (decode v).map some = _
  rw [read]
  rfl

theorem decodeMember_of_none {members : List (String × Json)} {key : String}
    (missing : memberOf? members key = none) :
    decodeMember decode members key = .ok none := by
  rw [decodeMember, missing]

/-- The name of a variant is read as that variant. -/
theorem decodeName_of_found {ofName? : String → Option α} {known : List String} {name : String}
    {a : α} (found : ofName? name = some a) :
    decodeName ofName? known (.string name) = .ok a := by
  simp only [decodeName, variant?, bind, Except.bind, found]
  rfl

end ComponentAtlas.Json
