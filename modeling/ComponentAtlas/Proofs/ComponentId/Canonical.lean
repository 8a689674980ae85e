import ComponentAtlas.Hashing
import ComponentAtlas.Proofs.ComponentId
import ComponentAtlas.Proofs.Text.Bytes

/-! # Identifiers stand for their texts

An identifier keeps, beside its text, where its name begins, and identifiers are compared, ordered
and hashed with both. This place is the same however an identifier is made: one byte behind the
third colon of the text. So for identifiers that can be made only the text matters: they are equal,
ordered and hashed as their texts are by their bytes, and sorted identifiers have sorted texts. -/

namespace ComponentAtlas

/-! ## What hashers tell apart -/

/-- The hasher that keeps all writes and tells in the end whether they are the given ones. -/
def Hasher.recognizing (writes : List HashWrite) : Hasher where
  State := List HashWrite
  start := []
  write done next := done ++ [next]
  finish done := if done = writes then 1 else 0

theorem Hasher.hash_recognizing (v w : List HashWrite) :
    (recognizing v).hash w = if w = v then 1 else 0 := by
  have kept : w.foldl (fun done next => done ++ [next]) [] = w := by
    rw [List.foldl_append_eq_append, List.nil_append, ← List.flatMap_def, List.flatMap_singleton']
  show (if w.foldl (fun done next => done ++ [next]) [] = v then 1 else 0) = _
  rw [kept]

/-- Only the same writes have the same hash by every hasher. -/
theorem Hasher.hash_eq_iff {v w : List HashWrite} :
    (∀ h : Hasher, h.hash v = h.hash w) ↔ v = w := by
  constructor
  · intro same
    have recognized := same (recognizing w)
    rw [hash_recognizing, hash_recognizing, if_pos rfl] at recognized
    by_contra distinct
    rw [if_neg distinct] at recognized
    cases recognized
  · rintro rfl h
    rfl

theorem Text.hashWrites_inj {s t : String} : Text.hashWrites s = Text.hashWrites t ↔ s = t := by
  rw [Text.hashWrites, Text.hashWrites, List.cons.injEq, HashWrite.bytes.injEq, Text.bytes_inj,
    and_iff_left rfl]

namespace ComponentId

/-! ## Where the name begins -/

/-- The name of an identifier begins one byte behind the third colon of the text. A character begins
there, before the end of the text. -/
structure NameMarked (id : ComponentId) : Prop where
  behindThirdColon : ∃ front : String, id.text = front ++ ":" ++ id.name ∧
    front.toList.count ':' = 2 ∧ id.nameStart = front.utf8ByteSize + 1
  boundary : String.Pos.Raw.IsValid id.text ⟨id.nameStart⟩
  inside : id.nameStart < id.text.utf8ByteSize
  named : id.name ≠ ""

/-- In front of the last segment and its colon there are two more colons. -/
theorem HasSegments.exists_front {text : String} {domain module type name : List Char}
    (has : HasSegments text [domain, module, type, name]) :
    ∃ front : String, text = front ++ ":" ++ String.ofList name ∧ front.toList.count ':' = 2 := by
  obtain ⟨⟨-, noColonA⟩, ⟨-, noColonB⟩, ⟨-, noColonC⟩, -⟩ := by
    simpa only [List.forall_mem_cons] using has.proper
  refine ⟨String.ofList (domain ++ ':' :: module ++ ':' :: type), ?_, ?_⟩
  · rw [← String.toList_inj, has.joined]
    simp
  · simp [List.count_eq_zero.2 noColonA, List.count_eq_zero.2 noColonB,
      List.count_eq_zero.2 noColonC]

theorem Made.exists_front {id : ComponentId} (h : id.Made) :
    ∃ front : String, id.text = front ++ ":" ++ id.name ∧ front.toList.count ':' = 2 ∧
      id.nameStart = front.utf8ByteSize + 1 ∧ id.name ≠ "" := by
  obtain ⟨_, _, _, name, has, same⟩ := ofText?_eq_some_iff.1 h.ofText?_text
  obtain ⟨front, whole, colons⟩ := has.exists_front
  have characters : id.text.toList = (front ++ ":").toList ++ name := by
    rw [whole, String.toList_append, String.toList_ofList]
  have start : id.nameStart = Text.byteCount (front ++ ":").toList := by
    rw [congrArg nameStart same, characters, Text.byteCount_append, Nat.add_sub_cancel]
  have named : id.name = String.ofList name := by
    rw [ComponentId.name, start, characters, Text.dropBytes_byteCount_append]
  have nonempty : name ≠ [] := (has.proper name (by simp)).1
  refine ⟨front, named ▸ whole, colons, ?_, ?_⟩
  · rw [start, Text.byteCount_toList, String.utf8ByteSize_append]
    rfl
  · rw [named]
    simpa using nonempty

/-- However an identifier is made, its name begins behind the third colon. -/
theorem Made.nameMarked {id : ComponentId} (h : id.Made) : id.NameMarked := by
  obtain ⟨front, whole, colons, start, named⟩ := h.exists_front
  have ahead : (front ++ ":").utf8ByteSize = id.nameStart := by
    rw [start, String.utf8ByteSize_append]
    rfl
  refine ⟨⟨front, whole, colons, start⟩, ?_, ?_, named⟩
  · refine String.Pos.Raw.isValid_iff_exists_append.2 ⟨front ++ ":", id.name, whole, ?_⟩
    rw [String.rawEndPos, ahead]
  · rw [whole, String.utf8ByteSize_append, ahead]
    refine Nat.lt_add_of_pos_right (Nat.pos_of_ne_zero fun empty => named ?_)
    exact String.utf8ByteSize_eq_zero_iff.1 empty

/-! ## The order of identifiers -/

theorem precedes_iff {a b : ComponentId} :
    a.precedes b = true ↔ a.text < b.text ∨ a.text = b.text ∧ a.nameStart < b.nameStart := by
  rw [precedes, Bool.or_eq_true, Bool.and_eq_true, decide_eq_true_iff, decide_eq_true_iff,
    decide_eq_true_iff]

theorem precedes_trans {a b c : ComponentId} (ab : a.precedes b = true)
    (bc : b.precedes c = true) : a.precedes c = true := by
  rw [precedes_iff] at ab bc ⊢
  rcases ab with ab | ⟨sameAB, ab⟩ <;> rcases bc with bc | ⟨sameBC, bc⟩
  · exact .inl (lt_trans ab bc)
  · exact .inl (sameBC ▸ ab)
  · exact .inl (sameAB ▸ bc)
  · exact .inr ⟨sameAB.trans sameBC, lt_trans ab bc⟩

theorem precedes_of_not {a b : ComponentId} (distinct : a ≠ b) (not : ¬a.precedes b = true) :
    b.precedes a = true := by
  rw [precedes_iff] at not ⊢
  rcases lt_trichotomy a.text b.text with less | same | greater
  · exact absurd (.inl less) not
  · rcases lt_trichotomy a.nameStart b.nameStart with less | starts | greater
    · exact absurd (.inr ⟨same, less⟩) not
    · cases a
      cases b
      cases same
      cases starts
      exact absurd rfl distinct
    · exact .inr ⟨same.symm, greater⟩
  · exact .inl greater

/-- Identifiers that can be made are ordered as the bytes of their texts are. -/
theorem Made.precedes_iff_bytes {a b : ComponentId} (ha : a.Made) (hb : b.Made) :
    a.precedes b = true ↔ Text.bytes a.text.toList < Text.bytes b.text.toList := by
  rw [precedes_iff, Text.bytes_lt_iff]
  constructor
  · rintro (less | ⟨same, less⟩)
    · exact less
    · rw [(ha.text_inj hb).1 same] at less
      exact absurd less (Nat.lt_irrefl _)
  · exact .inl

/-! ## Sorted identifiers -/

theorem mem_insert {a b : ComponentId} {ids : List ComponentId} :
    b ∈ insert a ids ↔ b = a ∨ b ∈ ids := by
  induction ids with
  | nil => rw [insert, List.mem_singleton, or_iff_left List.not_mem_nil]
  | cons other rest ih =>
    rw [insert]
    split
    · next same =>
      rw [← same, List.mem_cons, ← or_assoc, or_self]
    · split
      · rw [List.mem_cons]
      · rw [List.mem_cons, ih, List.mem_cons, or_left_comm]

theorem pairwise_insert {id : ComponentId} {ids : List ComponentId}
    (ascends : ids.Pairwise fun a b => a.precedes b = true) :
    (insert id ids).Pairwise fun a b => a.precedes b = true := by
  induction ids with
  | nil => exact List.pairwise_singleton _ _
  | cons other rest ih =>
    obtain ⟨first, later⟩ := List.pairwise_cons.1 ascends
    rw [insert]
    split
    · exact ascends
    · next distinct =>
      split
      · next below =>
        refine List.pairwise_cons.2 ⟨fun b member => ?_, ascends⟩
        rcases List.mem_cons.1 member with rfl | member
        · exact below
        · exact precedes_trans below (first b member)
      · next notBelow =>
        refine List.pairwise_cons.2 ⟨fun b member => ?_, ih later⟩
        rcases mem_insert.1 member with rfl | member
        · exact precedes_of_not distinct notBelow
        · exact first b member

theorem mem_sort {id : ComponentId} {ids : List ComponentId} : id ∈ sort ids ↔ id ∈ ids := by
  induction ids with
  | nil => rfl
  | cons other rest ih =>
    show id ∈ insert other (sort rest) ↔ _
    rw [mem_insert, ih, List.mem_cons]

theorem pairwise_sort (ids : List ComponentId) :
    (sort ids).Pairwise fun a b => a.precedes b = true := by
  induction ids with
  | nil => exact .nil
  | cons other rest ih => exact pairwise_insert ih

/-- The texts of sorted identifiers are their texts, sorted. -/
theorem map_text_sort {ids : List ComponentId} (made : ∀ id ∈ ids, id.Made) :
    (sort ids).map text = Text.inByteOrder (ids.map text) := by
  refine Text.eq_inByteOrder ?_ fun text => ?_
  · refine List.pairwise_map.2 ((pairwise_sort ids).imp_of_mem fun {a b} ha hb below => ?_)
    have order := (made a (mem_sort.1 ha)).precedes_iff_bytes (made b (mem_sort.1 hb))
    exact Text.bytes_lt_iff.1 (order.1 below)
  · simp only [List.mem_map, mem_sort]

example : (sort (["shop:cart:api:é", "shop:cart", "shop:cart:api:z", "shop:cart:api:é"].filterMap
    ofText?)).map text = ["shop:cart:api:z", "shop:cart:api:é"] := by decide +kernel

/-! ## Hashed identifiers -/

/-- Identifiers that can be made have the same hashes if and only if their texts have. -/
theorem Made.hash_eq_iff {a b : ComponentId} (ha : a.Made) (hb : b.Made) :
    (∀ h : Hasher, h.hash a.hashWrites = h.hash b.hashWrites) ↔
      ∀ h : Hasher, h.hash (Text.hashWrites a.text) = h.hash (Text.hashWrites b.text) := by
  rw [Hasher.hash_eq_iff, Hasher.hash_eq_iff, Text.hashWrites_inj]
  constructor
  · intro same
    rw [hashWrites, hashWrites] at same
    exact Text.hashWrites_inj.1 (List.append_inj_left same rfl)
  · intro same
    rw [(ha.text_inj hb).1 same]

/-! ## Where identifiers come from -/

/-- What an identifier is made of: labels, a text that is read, or a document that is decoded. -/
inductive Origin
  | labels (l : Labels)
  | text (read : String)
  | document (v : Json)

/-- The identifier that is made of it, if there is one. -/
def Origin.id? : Origin → Option ComponentId
  | .labels l => some (ofLabels l)
  | .text read => ofText? read
  | .document v => (decode v).toOption

theorem Origin.made {o : Origin} {id : ComponentId} (h : o.id? = some id) : id.Made := by
  cases o with
  | labels l =>
    rw [Origin.id?, Option.some.injEq] at h
    exact h ▸ .ofLabels l
  | text read =>
    rw [Origin.id?] at h
    exact .ofText h
  | document v =>
    rw [Origin.id?] at h
    cases decoded : decode v with
    | error e =>
      rw [decoded] at h
      cases h
    | ok other =>
      rw [decoded] at h
      cases h
      exact made_of_decode decoded

/-- Identifiers stand for their texts. Whatever an identifier is made of, its name begins one byte
behind the third colon of its text, where a character begins, and the name is not empty. So two
identifiers, whatever each of them is made of, are equal, ordered and hashed as their texts are,
ordered by their bytes; and sorted identifiers, each of them once, have the texts sorted, each of
them once. -/
theorem represented_by_text :
    (∀ (o : Origin) (id : ComponentId), o.id? = some id → id.NameMarked) ∧
    (∀ (o p : Origin) (a b : ComponentId), o.id? = some a → p.id? = some b →
      (a = b ↔ a.text = b.text) ∧
      (a.precedes b = true ↔ Text.bytes a.text.toList < Text.bytes b.text.toList) ∧
      ((∀ h : Hasher, h.hash a.hashWrites = h.hash b.hashWrites) ↔
        ∀ h : Hasher, h.hash (Text.hashWrites a.text) = h.hash (Text.hashWrites b.text))) ∧
    ∀ origins : List Origin,
      (sort (origins.filterMap Origin.id?)).map text =
        Text.inByteOrder ((origins.filterMap Origin.id?).map text) := by
  refine ⟨fun o id h => (Origin.made h).nameMarked, ?_, fun origins => map_text_sort ?_⟩
  · intro o p a b ha hb
    have madeA := Origin.made ha
    have madeB := Origin.made hb
    exact ⟨(madeA.text_inj madeB).symm, madeA.precedes_iff_bytes madeB, madeA.hash_eq_iff madeB⟩
  · intro id member
    obtain ⟨o, -, h⟩ := List.mem_filterMap.1 member
    exact Origin.made h

theorem represented_by_text_books :
    let shown : ComponentId := ⟨"bücher:check-out:api:größe", 22⟩
    let other : ComponentId := ⟨"bücher:check-out:api:grund", 22⟩
    Origin.id? (.labels ⟨"Bücher", "Check Out", "api", "Größe"⟩) = some shown ∧
    Origin.id? (.document (.string "bücher:check-out:api:grund")) = some other ∧
    shown.NameMarked ∧
    (shown = other ↔ shown.text = other.text) ∧
    (shown.precedes other = true ↔
      Text.bytes shown.text.toList < Text.bytes other.text.toList) ∧
    ((∀ h : Hasher, h.hash shown.hashWrites = h.hash other.hashWrites) ↔
      ∀ h : Hasher, h.hash (Text.hashWrites shown.text) = h.hash (Text.hashWrites other.text)) := by
  have made : Origin.id? (.labels ⟨"Bücher", "Check Out", "api", "Größe"⟩) =
      some ⟨"bücher:check-out:api:größe", 22⟩ := by decide +kernel
  have decoded : Origin.id? (.document (.string "bücher:check-out:api:grund")) =
      some ⟨"bücher:check-out:api:grund", 22⟩ := by decide +kernel
  exact ⟨made, decoded, represented_by_text.1 _ _ made,
    represented_by_text.2.1 _ _ _ _ made decoded⟩

end ComponentId

end ComponentAtlas
