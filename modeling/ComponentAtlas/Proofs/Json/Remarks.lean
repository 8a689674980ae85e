import Mathlib.Data.List.Nodup
import ComponentAtlas.Proofs.Json.Pointer

/-! # Remarks on documents

A remark stands at a place of a document and says something of the value there. Remarks about
different members of an object, and remarks in different items of an array, are not the same. So
nothing is remarked twice if what is said of each member and of each item is said once. Which
remarks are shown as the same text is told by their places and messages: the places lie in one
document. -/

namespace ComponentAtlas

/-! ## Places of values -/

/-- `p` leads to a value of which something holds: it goes on, from the place of a value, to that
value or to a part of it. The keys on its way are among those that may be passed. -/
def Pointer.Meets (p : Pointer) (passes : String → Prop) (holds : Json → Prop) (place : Pointer)
    (v : Json) : Prop :=
  ∃ inner node, p = place ++ inner ∧ (∀ key, .key key ∈ inner → passes key) ∧
    inner.resolve? v = some node ∧ holds node

namespace Pointer.Meets

variable {passes : String → Prop} {holds : Json → Prop} {place p : Pointer} {v w : Json}

theorem here (h : holds v) : place.Meets passes holds place v :=
  ⟨[], v, (List.append_nil _).symm, fun _ passed => (List.not_mem_nil passed).elim, rfl, h⟩

theorem member {members : List (String × Json)} {key : String} (passed : passes key)
    (found : Json.memberOf? members key = some w)
    (inside : p.Meets passes holds (place.member key) w) :
    p.Meets passes holds place (.object members) := by
  obtain ⟨inner, node, rfl, known, leads, h⟩ := inside
  refine ⟨.key key :: inner, node, List.append_assoc .., ?_, ?_, h⟩
  · intro name step
    rcases List.mem_cons.1 step with same | later
    · cases same
      exact passed
    · exact known name later
  · rw [resolve?]
    exact Option.bind_eq_some_iff.2 ⟨w, found, leads⟩

theorem item {items : List Json} {i : Nat} (found : items[i]? = some w)
    (inside : p.Meets passes holds (place.item i) w) :
    p.Meets passes holds place (.array items) := by
  obtain ⟨inner, node, rfl, known, leads, h⟩ := inside
  refine ⟨.index i :: inner, node, List.append_assoc .., ?_, ?_, h⟩
  · intro name step
    rcases List.mem_cons.1 step with same | later
    · cases same
    · exact known name later
  · rw [resolve?]
    exact Option.bind_eq_some_iff.2 ⟨w, found, leads⟩

/-- The place lies below that of the value. -/
theorem isPrefix (h : p.Meets passes holds place v) : place <+: p := by
  obtain ⟨inner, node, rfl, -, -, -⟩ := h
  exact List.prefix_append ..

/-- In a whole document the pointer leads to the value, and so does its text. -/
theorem of_root (h : p.Meets passes holds [] v) :
    (∀ key, .key key ∈ p → passes key) ∧
      ∃ node, p.resolve? v = some node ∧ locate? p.text v = some node ∧ holds node := by
  obtain ⟨inner, node, rfl, known, leads, h⟩ := h
  exact ⟨known, node, leads, locate?_text leads, h⟩

end Pointer.Meets

/-! ## Messages -/

/-- One of the texts begins with the other. -/
def Agree (a b : String) : Prop := a.toList <+: b.toList ∨ b.toList <+: a.toList

/-- Whether two texts agree is decided by their characters. -/
theorem not_agree {a b : String} {s t : List Char} (first : a = String.ofList s)
    (second : b = String.ofList t) (apart : ¬ (s <+: t ∨ t <+: s)) : ¬ Agree a b := by
  rw [Agree, first, second, String.toList_ofList, String.toList_ofList]
  exact apart

/-- Beginnings of one text agree. -/
theorem agree_of_append_eq {a b rest more : String} (same : a ++ rest = b ++ more) :
    Agree a b := by
  have left : a.toList <+: (a ++ rest).toList := by
    rw [String.toList_append]
    exact List.prefix_append ..
  have right : b.toList <+: (a ++ rest).toList := by
    rw [same, String.toList_append]
    exact List.prefix_append ..
  exact List.prefix_or_prefix_of_prefix left right

/-- What a message quotes can be read off it. -/
theorem quoted_inj {before behind a b : String}
    (same : before ++ a ++ behind = before ++ b ++ behind) : a = b :=
  (String.append_right_inj _).1 ((String.append_left_inj _).1 same)

/-- What is said of an object without a member. -/
def missingMessage (key : String) : String := "must have required property '" ++ key ++ "'"

/-! ## Remarks -/

/-- Remarks have a place and a message, and the message says something of the value at the place.
The keys of some members only may be passed on the way to the place. -/
class Remark (α : Type) where
  place : α → Pointer
  message : α → String
  Fits : α → Json → Prop
  Passes : α → String → Prop

namespace Remark

variable {α : Type} [Remark α] {base : Pointer} {v w : Json} {members : List (String × Json)}
  {items : List Json} {key other : String} {keys more : List String} {index : Nat} {x : α}
  {found rest : List α}

/-- What is said, and where. -/
def said (x : α) : Pointer × String := (place x, message x)

/-- The remark is about the value at a place, or about a part of it, and what it says is so. -/
def IsTrue (base : Pointer) (v : Json) (x : α) : Prop :=
  (place x).Meets (Passes x) (Fits x) base v

/-- What is found in a value is so, and nothing is said twice. -/
structure Exact (base : Pointer) (v : Json) (found : List α) : Prop where
  isTrue : ∀ x ∈ found, IsTrue base v x
  nodup : (found.map said).Nodup

theorem Exact.nil : Exact base v ([] : List α) := ⟨List.forall_mem_nil _, List.nodup_nil⟩

theorem Exact.single (here : place x = base) (fits : Fits x v) : Exact base v [x] := by
  subst here
  exact ⟨List.forall_mem_singleton.2 (.here fits), List.nodup_singleton _⟩

theorem Exact.append (h : Exact base v found) (h' : Exact base v rest)
    (apart : ∀ x ∈ found, ∀ y ∈ rest, said x ≠ said y) : Exact base v (found ++ rest) where
  isTrue := List.forall_mem_append.2 ⟨h.isTrue, h'.isTrue⟩
  nodup := by
    rw [List.map_append]
    refine h.nodup.append h'.nodup ?_
    intro r first second
    obtain ⟨x, one, rfl⟩ := List.mem_map.1 first
    obtain ⟨y, another, same⟩ := List.mem_map.1 second
    exact apart x one y another same.symm

/-- Remarks on one document are shown as different texts. -/
theorem Exact.nodup_shown (h : Exact [] v found) :
    (found.map fun x => ((place x).text, message x)).Nodup := by
  have shown : (found.map fun x => ((place x).text, message x)) =
      (found.map said).map fun r => (r.1.text, r.2) := by
    rw [List.map_map]
    rfl
  have placed : ∀ r ∈ found.map said, ∃ node, r.1.resolve? v = some node := by
    intro r made
    obtain ⟨x, member, rfl⟩ := List.mem_map.1 made
    obtain ⟨-, node, leads, -, -⟩ := (h.isTrue x member).of_root
    exact ⟨node, leads⟩
  rw [shown]
  refine h.nodup.map_on ?_
  intro r first s second same
  obtain ⟨texts, messages⟩ := Prod.mk.inj same
  obtain ⟨a, leads⟩ := placed r first
  obtain ⟨b, leads'⟩ := placed s second
  exact Prod.ext (Pointer.eq_of_text_eq leads leads' texts) messages

/-! ### Members -/

/-- The remark is about a member of the object at a place: it is made in the member, or it says
that there is none. -/
def IsOf (base : Pointer) (key : String) (x : α) : Prop :=
  base.member key <+: place x ∨ (place x = base ∧ message x = missingMessage key)

theorem member_not_below (base : Pointer) (key : String) : ¬ base.member key <+: base := by
  intro further
  have shorter := further.length_le
  rw [Pointer.member, List.length_append, List.length_singleton] at shorter
  omega

theorem member_unique_below {p : Pointer} (first : base.member key <+: p)
    (second : base.member other <+: p) : key = other := by
  have same : base.member key = base.member other := by
    refine List.prefix_of_prefix_length_le first second ?_ |>.eq_of_length ?_
    all_goals simp [Pointer.member]
  exact Step.key.inj (List.cons.inj (List.append_cancel_left same)).1

/-- What is said is about one member only. -/
theorem IsOf.unique {y : α} (first : IsOf base key x) (second : IsOf base other y)
    (same : said x = said y) : key = other := by
  obtain ⟨places, messages⟩ := Prod.mk.inj same
  rcases first with inside | ⟨here, text⟩
  · rw [places] at inside
    rcases second with inside' | ⟨here', -⟩
    · exact member_unique_below inside inside'
    · rw [here'] at inside
      exact absurd inside (member_not_below base key)
  · rw [here] at places
    rcases second with inside' | ⟨-, text'⟩
    · rw [← places] at inside'
      exact absurd inside' (member_not_below base other)
    · rw [text, text'] at messages
      exact quoted_inj messages

/-- What is found is so, it is about the members with these keys, and nothing is said twice. -/
structure ExactFor (base : Pointer) (members : List (String × Json)) (keys : List String)
    (found : List α) : Prop extends Exact base (.object members) found where
  isOf : ∀ x ∈ found, ∃ key ∈ keys, IsOf base key x

namespace ExactFor

theorem nil : ExactFor base members keys ([] : List α) := ⟨.nil, List.forall_mem_nil _⟩

theorem missing (here : place x = base) (text : message x = missingMessage key)
    (fits : Fits x (.object members)) : ExactFor base members [key] [x] where
  toExact := .single here fits
  isOf := List.forall_mem_singleton.2 ⟨key, List.mem_singleton_self _, .inr ⟨here, text⟩⟩

/-- What is found in a member is found in the object. -/
theorem member (present : Json.memberOf? members key = some w)
    (passed : ∀ x ∈ found, Passes x key) (inside : Exact (base.member key) w found) :
    ExactFor base members [key] found where
  isTrue x made := .member (passed x made) present (inside.isTrue x made)
  nodup := inside.nodup
  isOf x made := ⟨key, List.mem_singleton_self _, .inl (inside.isTrue x made).isPrefix⟩

theorem mono (h : ExactFor base members keys found) (sub : ∀ key ∈ keys, key ∈ more) :
    ExactFor base members more found where
  toExact := h.toExact
  isOf x made := by
    obtain ⟨key, listed, isOf⟩ := h.isOf x made
    exact ⟨key, sub key listed, isOf⟩

/-- Remarks about some members and remarks about others. -/
theorem append (h : ExactFor base members keys found) (h' : ExactFor base members more rest)
    (apart : ∀ key ∈ keys, key ∉ more) : ExactFor base members (keys ++ more) (found ++ rest) where
  toExact := by
    refine h.toExact.append h'.toExact ?_
    intro x one y another same
    obtain ⟨key, listed, isOf⟩ := h.isOf x one
    obtain ⟨other, among, isOf'⟩ := h'.isOf y another
    exact apart key listed (isOf.unique isOf' same ▸ among)
  isOf x made := by
    rcases List.mem_append.1 made with first | second
    · obtain ⟨key, listed, isOf⟩ := h.isOf x first
      exact ⟨key, List.mem_append_left _ listed, isOf⟩
    · obtain ⟨key, listed, isOf⟩ := h'.isOf x second
      exact ⟨key, List.mem_append_right _ listed, isOf⟩

/-- A remark on the object itself that misses no member differs from those about its members. -/
theorem said_ne {y : α} (h : ExactFor base members keys found) (made : x ∈ found)
    (here : place y = base) (other : ∀ key, message y ≠ missingMessage key) :
    said x ≠ said y := by
  intro same
  obtain ⟨places, messages⟩ := Prod.mk.inj same
  obtain ⟨key, -, inside | ⟨-, text⟩⟩ := h.isOf x made
  · rw [places, here] at inside
    exact member_not_below base key inside
  · rw [messages] at text
    exact other key text

end ExactFor

/-! ### Items -/

theorem item_unique_below {i j : Nat} {p : Pointer} (first : base.item i <+: p)
    (second : base.item j <+: p) : i = j := by
  have same : base.item i = base.item j := by
    refine List.prefix_of_prefix_length_le first second ?_ |>.eq_of_length ?_
    all_goals simp [Pointer.item]
  exact Step.index.inj (List.cons.inj (List.append_cancel_left same)).1

/-- What is found is so, it is about items from an index on, and nothing is said twice. -/
structure ExactIn (base : Pointer) (items : List Json) (index : Nat) (found : List α) : Prop
    extends Exact base (.array items) found where
  inItem : ∀ x ∈ found, ∃ i, index ≤ i ∧ base.item i <+: place x

namespace ExactIn

theorem nil : ExactIn base items index ([] : List α) := ⟨.nil, List.forall_mem_nil _⟩

/-- What is found in an item, and what is found in the items behind it. -/
theorem cons (present : items[index]? = some w) (here : Exact (base.item index) w found)
    (later : ExactIn base items (index + 1) rest) : ExactIn base items index (found ++ rest) where
  toExact := by
    have own : Exact base (.array items) found :=
      ⟨fun x made => .item present (here.isTrue x made), here.nodup⟩
    refine own.append later.toExact ?_
    intro x one y another same
    obtain ⟨i, behind, inside⟩ := later.inItem y another
    have equal := item_unique_below (here.isTrue x one).isPrefix
      ((Prod.mk.inj same).1 ▸ inside)
    omega
  inItem x made := by
    rcases List.mem_append.1 made with first | second
    · exact ⟨index, Nat.le_refl _, (here.isTrue x first).isPrefix⟩
    · obtain ⟨i, behind, inside⟩ := later.inItem x second
      exact ⟨i, by omega, inside⟩

end ExactIn

end Remark

end ComponentAtlas
