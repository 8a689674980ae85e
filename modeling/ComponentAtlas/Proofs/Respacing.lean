import Mathlib.Logic.Relation
import ComponentAtlas.Proofs.ComponentId

/-! # Labels that make the same identifier

A segment is its own segment, so labels that are taken from an identifier make it again. Of a label
only the words matter: which separators stand between two words, how many of them, and which stand
in front of the first word and behind the last, makes no difference. -/

namespace ComponentAtlas.ComponentId

/-! ## Segments of segments -/

theorem words_of_plain {s : List Char} (nonempty : s ≠ [])
    (plain : ∀ c ∈ s, separatesWords c = false) : words s = [s] := by
  rw [words, Text.pieces_of_free plain]
  exact List.filter_cons_of_pos (decide_eq_true nonempty)

theorem isSmall_of_mem_segment {label : String} : ∀ c ∈ segment label, Charset.IsSmall c := by
  unfold segment
  split
  · rw [List.forall_mem_singleton]
    exact ⟨by decide, Charset.smallLetter_of_not_maps (by decide +kernel)⟩
  · exact Charset.isSmall_of_mem_lowercase _

/-- One word in small letters becomes itself. -/
theorem segment_ofList {s : List Char} (nonempty : s ≠ [])
    (plain : ∀ c ∈ s, separatesWords c = false) (small : ∀ c ∈ s, Charset.IsSmall c) :
    segment (String.ofList s) = s := by
  rw [segment, String.toList_ofList, words_of_plain nonempty plain, List.intercalate_singleton,
    Charset.lowercase_of_isSmall small]
  split
  · exact absurd rfl nonempty
  · rfl

theorem segment_segment (label : String) :
    segment (String.ofList (segment label)) = segment label :=
  segment_ofList (segment_ne_nil label) (plain_of_mem_segment label) isSmall_of_mem_segment

/-- The identifier made from the segments of one made from labels. -/
theorem ofLabels_segments (l : Labels) :
    ofLabels ⟨String.ofList (segment l.domain), String.ofList (segment l.module),
      String.ofList (segment l.type), String.ofList (segment l.name)⟩ = ofLabels l :=
  ofLabels_eq_iff.2 ⟨segment_segment _, segment_segment _, segment_segment _, segment_segment _⟩

/-! ## Separators -/

/-- The text has nothing but separators. -/
def OnlySeparates (s : List Char) : Prop := ∀ c ∈ s, separatesWords c = true

instance (s : List Char) : Decidable (OnlySeparates s) := List.decidableBAll _ s

theorem words_append_cons {c : Char} (separates : separatesWords c = true) (s t : List Char) :
    words (s ++ c :: t) = words s ++ words t := by
  rw [words, Text.pieces_append_separator separates, List.filter_append]
  rfl

theorem words_separators_append {front : List Char} (h : OnlySeparates front) (s : List Char) :
    words (front ++ s) = words s := by
  induction front with
  | nil => rfl
  | cons c rest ih =>
    rw [OnlySeparates, List.forall_mem_cons] at h
    rw [List.cons_append]
    exact (words_append_cons h.1 [] (rest ++ s)).trans (ih h.2)

/-- Words are parted by separators, whichever and however many. -/
theorem words_append_separators {run : List Char} (nonempty : run ≠ []) (h : OnlySeparates run)
    (s t : List Char) : words (s ++ (run ++ t)) = words s ++ words t := by
  cases run with
  | nil => exact absurd rfl nonempty
  | cons c rest =>
    rw [OnlySeparates, List.forall_mem_cons] at h
    rw [List.cons_append, words_append_cons h.1, words_separators_append h.2]

theorem words_append_separators_nil {back : List Char} (h : OnlySeparates back) (s : List Char) :
    words (s ++ back) = words s := by
  by_cases empty : back = []
  · rw [empty, List.append_nil]
  · have parted := words_append_separators empty h s []
    rw [List.append_nil] at parted
    rw [parted]
    exact List.append_nil _

/-! ## Other spacing -/

/-- A label with other separators at one place: at its ends, where there may be none, or between
other parts of it, where there are some before and after. -/
inductive Respacing : List Char → List Char → Prop
  | ends {front front' back back' : List Char} (leads : OnlySeparates front)
      (leads' : OnlySeparates front') (trails : OnlySeparates back)
      (trails' : OnlySeparates back') (s : List Char) :
      Respacing (front ++ (s ++ back)) (front' ++ (s ++ back'))
  | run {run run' : List Char} (some : run ≠ []) (separates : OnlySeparates run)
      (some' : run' ≠ []) (separates' : OnlySeparates run') (s t : List Char) :
      Respacing (s ++ (run ++ t)) (s ++ (run' ++ t))

/-- A label that comes of another when its separators are changed at any number of places. -/
def Respaced (label other : String) : Prop :=
  Relation.ReflTransGen Respacing label.toList other.toList

theorem Respacing.words_eq {s t : List Char} (h : Respacing s t) : words s = words t := by
  cases h with
  | ends leads leads' trails trails' s =>
    rw [words_separators_append leads, words_separators_append leads',
      words_append_separators_nil trails, words_append_separators_nil trails']
  | run some separates some' separates' s t =>
    rw [words_append_separators some separates, words_append_separators some' separates']

/-- The words stay while separators change, one place after another. -/
theorem words_eq_of_changes {s t : List Char} (changes : Relation.ReflTransGen Respacing s t) :
    words s = words t := by
  induction changes with
  | refl => rfl
  | tail _ change ih => rw [ih, change.words_eq]

theorem Respaced.segment_eq {label other : String} (h : Respaced label other) :
    segment label = segment other := by
  rw [segment, segment, words_eq_of_changes h]

/-- Each label has other spacing, or the same. -/
structure Labels.Respaced (l k : Labels) : Prop where
  domain : ComponentId.Respaced l.domain k.domain
  module : ComponentId.Respaced l.module k.module
  type : ComponentId.Respaced l.type k.type
  name : ComponentId.Respaced l.name k.name

/-- Making identifiers is bringing labels into one form. Labels make the same identifier if and
only if each of them makes the same segment. A segment becomes itself, and so labels that are the
segments of an identifier made from labels make this identifier again. Other spacing makes no other
identifier. -/
theorem ofLabels_canonical :
    (∀ l k : Labels, ofLabels l = ofLabels k ↔ segment l.domain = segment k.domain ∧
      segment l.module = segment k.module ∧ segment l.type = segment k.type ∧
      segment l.name = segment k.name) ∧
    (∀ label, segment (String.ofList (segment label)) = segment label) ∧
    (∀ l : Labels, ∃ domain module type name,
      segments? (ofLabels l).text = some [domain, module, type, name] ∧
      ofLabels ⟨String.ofList domain, String.ofList module, String.ofList type,
        String.ofList name⟩ = ofLabels l) ∧
    ∀ l k : Labels, l.Respaced k → ofLabels l = ofLabels k := by
  refine ⟨fun l k => ofLabels_eq_iff, segment_segment, ?_, ?_⟩
  · intro l
    exact ⟨_, _, _, _, segments?_ofLabels l, ofLabels_segments l⟩
  · intro l k h
    exact ofLabels_eq_iff.2 ⟨h.domain.segment_eq, h.module.segment_eq, h.type.segment_eq,
      h.name.segment_eq⟩

theorem ofLabels_canonical_order :
    Labels.Respaced ⟨"orders", " ", "use case", "Place: Order"⟩
        ⟨"orders:", "::", "use\tcase", " Place Order"⟩ ∧
      ofLabels ⟨"orders", " ", "use case", "Place: Order"⟩ =
        ofLabels ⟨"orders:", "::", "use\tcase", " Place Order"⟩ := by
  have none : OnlySeparates [] := by decide
  have blank : OnlySeparates [' '] := by decide
  have between : Respacing "Place: Order".toList "Place Order".toList :=
    @Respacing.run [':', ' '] [' '] (by decide) (by decide) (by decide) blank "Place".toList
      "Order".toList
  have respaced : Labels.Respaced ⟨"orders", " ", "use case", "Place: Order"⟩
      ⟨"orders:", "::", "use\tcase", " Place Order"⟩ := by
    refine ⟨.single ?_, .single ?_, .single ?_, .tail (.single between) ?_⟩
    · exact @Respacing.ends [] [] [] [':'] none none none (by decide) "orders".toList
    · exact @Respacing.ends [' '] [':', ':'] [] [] blank (by decide) none none []
    · exact @Respacing.run [' '] ['\t'] (by decide) blank (by decide) (by decide) "use".toList
        "case".toList
    · exact @Respacing.ends [] [' '] [] [] none blank none none "Place Order".toList
  exact ⟨respaced, ofLabels_canonical.2.2.2 _ _ respaced⟩

end ComponentAtlas.ComponentId
