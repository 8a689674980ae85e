import ComponentAtlas.Proofs.Text.Pieces
import Mathlib.Data.List.Dedup
import Mathlib.Data.List.Sort
import Mathlib.Data.String.Basic

/-! # The byte form of a text

Texts compare by their bytes as they compare by their characters, although a character may have
more than one byte. The first byte of a character tells how many there are, and it is greater the
more there are. Of two characters with the same number of bytes the bytes are digits to the base
64, and so the greater character has the greater bytes. -/

namespace ComponentAtlas.Text

theorem bytes_cons (c : Char) (s : List Char) :
    bytes (c :: s) = String.utf8EncodeChar c ++ bytes s := List.flatMap_cons

/-- The byte form is the one in which texts are kept. -/
theorem bytes_toList (text : String) : bytes text.toList = text.toByteArray.data.toList := by
  rw [← String.utf8Encode_toList, List.utf8Encode, bytes, List.data_toByteArray]

theorem length_bytes (s : List Char) : (bytes s).length = byteCount s := by
  induction s with
  | nil => rfl
  | cons c rest ih => rw [bytes_cons, List.length_append, String.length_utf8EncodeChar, ih, byteCount]

theorem byteCount_toList (text : String) : byteCount text.toList = text.utf8ByteSize := by
  rw [← length_bytes, bytes_toList]
  rfl

/-! ## The bytes of one character -/

/-- The last digits of a number to the base 64, each of them marked as going on a character. -/
def trailingBytes : Nat → Nat → List UInt8
  | 0, _ => []
  | k + 1, v => UInt8.ofNat (v / 64 ^ k % 64 + 0x80) :: trailingBytes k v

/-- A character with the number `v` has `k` bytes behind its first one, and the first one is marked
with this. -/
inductive Shape : Nat → Nat → Nat → Prop
  | one {v : Nat} (upper : v < 0x80) : Shape v 0 0
  | two {v : Nat} (lower : 0x80 ≤ v) (upper : v < 0x800) : Shape v 1 0xc0
  | three {v : Nat} (lower : 0x800 ≤ v) (upper : v < 0x10000) : Shape v 2 0xe0
  | four {v : Nat} (lower : 0x10000 ≤ v) (upper : v < 0x110000) : Shape v 3 0xf0

theorem exists_shape (c : Char) : ∃ k mark, Shape c.toNat k mark ∧
    String.utf8EncodeChar c =
      UInt8.ofNat (c.toNat / 64 ^ k + mark) :: trailingBytes k c.toNat := by
  have upper : c.toNat < 0x110000 := by
    rcases c.valid with low | high
    · exact Nat.lt_trans low (by decide)
    · exact high.2
  rw [String.utf8EncodeChar, Char.toNat_val]
  split
  · exact ⟨0, 0, .one (by omega), by simp [trailingBytes]⟩
  · split
    · have first : c.toNat / 64 % 32 = c.toNat / 64 := Nat.mod_eq_of_lt (by omega)
      exact ⟨1, 0xc0, .two (by omega) (by omega), by simp [trailingBytes, first]⟩
    · split
      · have first : c.toNat / 4096 % 16 = c.toNat / 4096 := Nat.mod_eq_of_lt (by omega)
        exact ⟨2, 0xe0, .three (by omega) (by omega), by simp [trailingBytes, first]⟩
      · have first : c.toNat / 262144 % 8 = c.toNat / 262144 := Nat.mod_eq_of_lt (by omega)
        exact ⟨3, 0xf0, .four (by omega) upper, by simp [trailingBytes, first]⟩

/-- A greater character has a first byte that is not lower. -/
theorem Shape.first_le {v w k l m n : Nat} (hv : Shape v k m) (hw : Shape w l n) (less : v < w) :
    v / 64 ^ k + m ≤ w / 64 ^ l + n ∧ w / 64 ^ l + n < 256 := by
  cases hv <;> cases hw <;> omega

/-- Characters with the same first byte have the same number of bytes. -/
theorem Shape.eq_of_first_eq {v w k l m n : Nat} (hv : Shape v k m) (hw : Shape w l n)
    (same : v / 64 ^ k + m = w / 64 ^ l + n) : k = l ∧ v / 64 ^ k = w / 64 ^ l := by
  cases hv <;> cases hw <;> omega

theorem ofNat_cons_lt {m n : Nat} {x y : List UInt8} (le : m ≤ n) (bound : n < 256)
    (rest : m = n → x < y) : UInt8.ofNat m :: x < UInt8.ofNat n :: y := by
  rw [List.cons_lt_cons_iff]
  rcases Nat.lt_or_eq_of_le le with less | rfl
  · left
    rw [UInt8.lt_iff_toNat_lt, UInt8.toNat_ofNat_of_lt' bound,
      UInt8.toNat_ofNat_of_lt' (Nat.lt_of_le_of_lt le bound)]
    exact less
  · exact .inr ⟨rfl, rest rfl⟩

/-- Of numbers with the same digits in front the lower one has the lower last digits. -/
theorem trailingBytes_append_lt {v w k : Nat} (less : v < w) (front : v / 64 ^ k = w / 64 ^ k)
    (x y : List UInt8) : trailingBytes k v ++ x < trailingBytes k w ++ y := by
  induction k with
  | zero =>
    rw [Nat.pow_zero, Nat.div_one, Nat.div_one] at front
    exact absurd front (Nat.ne_of_lt less)
  | succ k ih =>
    rw [Nat.pow_succ, ← Nat.div_div_eq_div_mul, ← Nat.div_div_eq_div_mul] at front
    have le : v / 64 ^ k ≤ w / 64 ^ k := Nat.div_le_div_right (Nat.le_of_lt less)
    exact ofNat_cons_lt (by omega) (by omega) fun digit => ih (by omega)

/-- The bytes of a character are below those of a greater one, whatever stands behind them. -/
theorem utf8EncodeChar_append_lt {c d : Char} (less : c < d) (x y : List UInt8) :
    String.utf8EncodeChar c ++ x < String.utf8EncodeChar d ++ y := by
  obtain ⟨k, m, shapeC, formC⟩ := exists_shape c
  obtain ⟨l, n, shapeD, formD⟩ := exists_shape d
  rw [formC, formD, List.cons_append, List.cons_append]
  obtain ⟨le, bound⟩ := shapeC.first_le shapeD less
  refine ofNat_cons_lt le bound fun same => ?_
  obtain ⟨rfl, front⟩ := shapeC.eq_of_first_eq shapeD same
  exact trailingBytes_append_lt less front x y

/-! ## The order of texts -/

theorem bytes_lt_of_lt {s t : List Char} (less : s < t) : bytes s < bytes t := by
  induction s generalizing t with
  | nil =>
    cases t with
    | nil => cases less
    | cons d t =>
      obtain ⟨first, rest, form⟩ :=
        List.exists_cons_of_ne_nil (String.utf8EncodeChar_ne_nil (c := d))
      rw [bytes_cons, form]
      exact List.nil_lt_cons _ _
  | cons c s ih =>
    cases t with
    | nil => cases less
    | cons d t =>
      rw [bytes_cons, bytes_cons]
      rcases List.cons_lt_cons_iff.1 less with lower | ⟨rfl, later⟩
      · exact utf8EncodeChar_append_lt lower _ _
      · exact List.append_left_lt (ih later)

/-- Texts compare by their bytes as they do by their characters. -/
theorem bytes_lt_iff {s t : String} : bytes s.toList < bytes t.toList ↔ s < t := by
  constructor
  · intro less
    rcases lt_trichotomy s t with lower | rfl | greater
    · exact lower
    · exact absurd less (List.lt_irrefl _)
    · exact absurd less (List.lt_asymm (bytes_lt_of_lt greater))
  · exact bytes_lt_of_lt

theorem bytes_inj {s t : String} : bytes s.toList = bytes t.toList ↔ s = t := by
  constructor
  · intro same
    rcases lt_trichotomy s t with lower | rfl | greater
    · exact absurd (same ▸ bytes_lt_of_lt lower) (List.lt_irrefl _)
    · rfl
    · exact absurd (same ▸ bytes_lt_of_lt greater) (List.lt_irrefl _)
  · rintro rfl
    rfl

/-- Texts in the order of their bytes, each of them once. -/
def inByteOrder (texts : List String) : List String :=
  (texts.mergeSort fun s t => ¬bytes t.toList < bytes s.toList).dedup

theorem pairwise_inByteOrder (texts : List String) : (inByteOrder texts).Pairwise (· < ·) := by
  let le (s t : String) : Bool := ¬bytes t.toList < bytes s.toList
  have le_iff (s t : String) : le s t = true ↔ s ≤ t :=
    decide_eq_true_iff.trans ((not_congr bytes_lt_iff).trans not_lt)
  have trans (s t u : String) (st : le s t = true) (tu : le t u = true) : le s u = true :=
    (le_iff s u).2 (le_trans ((le_iff s t).1 st) ((le_iff t u).1 tu))
  have total (s t : String) : (le s t || le t s) = true := by
    rw [Bool.or_eq_true, le_iff, le_iff]
    exact le_total s t
  have sorted : (texts.mergeSort le).Pairwise fun s t => le s t = true :=
    List.pairwise_mergeSort trans total texts
  have ascending := (sorted.sublist (List.dedup_sublist _)).and (List.nodup_dedup _)
  exact ascending.imp fun ⟨below, distinct⟩ => lt_of_le_of_ne ((le_iff _ _).1 below) distinct

theorem mem_inByteOrder {texts : List String} {text : String} :
    text ∈ inByteOrder texts ↔ text ∈ texts := by
  rw [inByteOrder, List.mem_dedup, List.mem_mergeSort]

/-- Ascending texts are in the order of their bytes. -/
theorem eq_inByteOrder {ascending texts : List String} (ascends : ascending.Pairwise (· < ·))
    (same : ∀ text, text ∈ ascending ↔ text ∈ texts) : ascending = inByteOrder texts :=
  ascends.eq_of_mem_iff (pairwise_inByteOrder texts) fun text =>
    (same text).trans mem_inByteOrder.symm

end ComponentAtlas.Text
