import ComponentAtlas.ComponentId
import ComponentAtlas.Proofs.Charset
import ComponentAtlas.Proofs.Text.Pieces

/-! # Identifiers made from labels and texts

The segments of an identifier that is made from labels have neither colons nor blanks and are not
empty. So its text is read as that identifier. A text is read as an identifier if and only if it is
four such segments with colons between them, with blanks or without. However identifiers are made,
two of them are the same if their texts are. -/

namespace ComponentAtlas.ComponentId

/-! ## Segments of labels -/

theorem separatesWords_eq_false_iff {c : Char} :
    separatesWords c = false ↔ Charset.isBlank c = false ∧ c ≠ ':' := by
  rw [separatesWords, Bool.or_eq_false_iff, decide_eq_false_iff_not]

theorem plain_of_mem_words {label word : List Char} (member : word ∈ words label) :
    ∀ c ∈ word, separatesWords c = false :=
  Text.free_of_mem_pieces (List.mem_filter.1 member).1

theorem plain_of_mem_intercalate {parts : List (List Char)}
    (plain : ∀ s ∈ parts, ∀ c ∈ s, separatesWords c = false) :
    ∀ c ∈ ['-'].intercalate parts, separatesWords c = false := by
  induction parts with
  | nil => exact List.forall_mem_nil _
  | cons first rest ih =>
    rw [List.forall_mem_cons] at plain
    cases rest with
    | nil =>
      rw [List.intercalate_singleton]
      exact plain.1
    | cons second rest =>
      rw [List.intercalate_cons_cons, List.forall_mem_append, List.forall_mem_append,
        List.forall_mem_singleton]
      exact ⟨⟨plain.1, by decide⟩, ih plain.2⟩

theorem plain_smallLetter {c : Char} (plain : separatesWords c = false) :
    separatesWords (Charset.smallLetter c) = false := by
  rw [separatesWords_eq_false_iff, Bool.eq_false_iff] at plain ⊢
  exact ⟨fun blank => plain.1 (Charset.isBlank_of_isBlank_smallLetter blank),
    fun colon => plain.2 (Charset.smallLetter_eq_colon colon)⟩

/-- No character of a segment separates words. -/
theorem plain_of_mem_segment (label : String) : ∀ c ∈ segment label, separatesWords c = false := by
  have special : ∀ c ∈ ['i', '\u0307', 'ς', 'σ'], separatesWords c = false := by
    simp only [List.mem_cons, List.not_mem_nil, or_false, forall_eq_or_imp, forall_eq]
    decide
  have plain : ∀ c ∈ Charset.lowercase (['-'].intercalate (words label.toList)),
      separatesWords c = false :=
    Charset.forall_mem_lowercase (p := fun c => separatesWords c = false)
      (fun _ _ => plain_smallLetter) special
      (plain_of_mem_intercalate fun _ => plain_of_mem_words)
  unfold segment
  split
  · exact List.forall_mem_singleton.2 (by decide)
  · exact plain

theorem isBlank_of_mem_segment {label : String} {c : Char} (member : c ∈ segment label) :
    Charset.isBlank c = false :=
  (separatesWords_eq_false_iff.1 (plain_of_mem_segment label c member)).1

theorem segment_ne_nil (label : String) : segment label ≠ [] := by
  unfold segment
  split
  · exact List.cons_ne_nil _ _
  · next nonempty => exact nonempty

theorem segment_proper (label : String) : segment label ≠ [] ∧ ':' ∉ segment label :=
  ⟨segment_ne_nil label, fun member =>
    (separatesWords_eq_false_iff.1 (plain_of_mem_segment label ':' member)).2 rfl⟩

/-! ## Segments of texts -/

/-- The text is four segments with colons between them; none of them is empty or has a colon. -/
structure HasSegments (text : String) (parts : List (List Char)) : Prop where
  four : parts.length = 4
  proper : ∀ s ∈ parts, s ≠ [] ∧ ':' ∉ s
  joined : text.toList = [':'].intercalate parts

theorem segments?_eq_some_iff {text : String} {parts : List (List Char)} :
    segments? text = some parts ↔ HasSegments text parts := by
  rw [segments?, Option.ite_none_right_eq_some, Option.some.injEq]
  constructor
  · rintro ⟨⟨four, nonempty⟩, rfl⟩
    obtain ⟨-, free, joined⟩ := Text.pieces_eq_iff.1 rfl
    exact ⟨four, fun s member => ⟨nonempty s member, free s member⟩, joined⟩
  · rintro ⟨four, proper, joined⟩
    have nonempty : parts ≠ [] := by
      rintro rfl
      cases four
    have cut : Text.pieces (· = ':') text.toList = parts :=
      Text.pieces_eq_iff.2 ⟨nonempty, fun s member => (proper s member).2, joined⟩
    rw [cut]
    exact ⟨⟨four, fun s member => (proper s member).1⟩, rfl⟩

/-- The segments that labels become. -/
def Labels.segments (l : Labels) : List (List Char) :=
  [segment l.domain, segment l.module, segment l.type, segment l.name]

theorem isBlank_of_mem_segments {l : Labels} :
    ∀ s ∈ l.segments, ∀ c ∈ s, Charset.isBlank c = false := by
  simp only [Labels.segments, List.forall_mem_cons]
  exact ⟨fun _ => isBlank_of_mem_segment, fun _ => isBlank_of_mem_segment,
    fun _ => isBlank_of_mem_segment, fun _ => isBlank_of_mem_segment, List.forall_mem_nil _⟩

/-- The text of an identifier made from labels has the segments of the labels. -/
theorem hasSegments_ofLabels (l : Labels) : HasSegments (ofLabels l).text l.segments := by
  refine ⟨rfl, ?_, ?_⟩
  · simp only [Labels.segments, List.forall_mem_cons]
    exact ⟨segment_proper _, segment_proper _, segment_proper _, segment_proper _,
      List.forall_mem_nil _⟩
  · simp only [ofLabels, String.toList_ofList, Labels.segments, List.intercalate_cons_cons,
      List.intercalate_singleton, List.append_assoc]

theorem segments?_ofLabels (l : Labels) :
    segments? (ofLabels l).text =
      some [segment l.domain, segment l.module, segment l.type, segment l.name] :=
  segments?_eq_some_iff.2 (hasSegments_ofLabels l)

/-- The text of an identifier made from labels is read as that identifier. -/
theorem ofText?_ofLabels (l : Labels) : ofText? (ofLabels l).text = some (ofLabels l) := by
  rw [ofText?, segments?_ofLabels]
  show some (ComponentId.mk (ofLabels l).text _) = some (ofLabels l)
  have start : Text.byteCount (ofLabels l).text.toList - Text.byteCount (segment l.name) =
      (ofLabels l).nameStart := by
    rw [ofLabels, String.toList_ofList, Text.byteCount_append, Nat.add_sub_cancel]
  rw [start]

/-- Labels make the same identifier if and only if each of them makes the same segment. -/
theorem ofLabels_eq_iff {l k : Labels} :
    ofLabels l = ofLabels k ↔ segment l.domain = segment k.domain ∧
      segment l.module = segment k.module ∧ segment l.type = segment k.type ∧
      segment l.name = segment k.name := by
  constructor
  · intro same
    have cut := segments?_ofLabels l
    rw [same, segments?_ofLabels k] at cut
    simp only [Option.some.injEq, List.cons.injEq, and_true] at cut
    obtain ⟨domain, module, type, name⟩ := cut
    exact ⟨domain.symm, module.symm, type.symm, name.symm⟩
  · rintro ⟨domain, module, type, name⟩
    rw [ofLabels, ofLabels, domain, module, type, name]

/-! ## Identifiers that are read -/

theorem text_of_ofText? {text : String} {id : ComponentId} (h : ofText? text = some id) :
    id.text = text := by
  rw [ofText?] at h
  split at h
  · cases h
    rfl
  · cases h

/-- A text is read as an identifier if and only if it has segments, and then the name has as many
bytes as the last of them. -/
theorem ofText?_eq_some_iff {text : String} {id : ComponentId} :
    ofText? text = some id ↔
      ∃ domain module type name, HasSegments text [domain, module, type, name] ∧
        id = ⟨text, Text.byteCount text.toList - Text.byteCount name⟩ := by
  rw [ofText?]
  constructor
  · intro read
    split at read
    · next domain module type name cut =>
      cases read
      exact ⟨domain, module, type, name, segments?_eq_some_iff.1 cut, rfl⟩
    · cases read
  · rintro ⟨domain, module, type, name, has, rfl⟩
    rw [segments?_eq_some_iff.2 has]

theorem exists_ofText?_iff {text : String} :
    (∃ id, ofText? text = some id) ↔ ∃ parts, HasSegments text parts := by
  constructor
  · rintro ⟨id, read⟩
    obtain ⟨_, _, _, _, has, -⟩ := ofText?_eq_some_iff.1 read
    exact ⟨_, has⟩
  · rintro ⟨parts, has⟩
    match parts, has.four with
    | [_, _, _, _], _ => exact ⟨_, ofText?_eq_some_iff.2 ⟨_, _, _, _, has, rfl⟩⟩

/-- The name of an identifier that is read is the text behind the third colon. -/
theorem hasSegments_of_ofText? {text : String} {id : ComponentId} (read : ofText? text = some id) :
    ∃ domain module type, HasSegments text [domain, module, type, id.name.toList] := by
  obtain ⟨domain, module, type, name, has, rfl⟩ := ofText?_eq_some_iff.1 read
  -- the bytes in front of the name are those of the other segments and the colons
  have behind : text.toList = (domain ++ [':'] ++ module ++ [':'] ++ type ++ [':']) ++ name := by
    rw [has.joined]
    simp only [List.intercalate_cons_cons, List.intercalate_singleton, List.append_assoc]
  refine ⟨domain, module, type, ?_⟩
  rw [ComponentId.name, String.toList_ofList]
  show HasSegments text [domain, module, type,
    Text.dropBytes (Text.byteCount text.toList - Text.byteCount name) text.toList]
  rw [behind, Text.byteCount_append, Nat.add_sub_cancel, Text.dropBytes_byteCount_append]
  exact has

theorem name_ofLabels (l : Labels) : (ofLabels l).name = String.ofList (segment l.name) := by
  rw [name, ofLabels, String.toList_ofList, Text.dropBytes_byteCount_append]

theorem decode_string (text : String) :
    decode (.string text) = (ofText? text).elim (.error (.refused (complaint text))) .ok := by
  cases found : ofText? text with
  | none => simp only [decode, Json.decodeString, bind, Except.bind, found, Option.elim_none]
  | some id =>
    simp only [decode, Json.decodeString, bind, Except.bind, found, Option.elim_some]
    rfl

/-- The identifier is one that can be made: from labels, or from the text that it is read from. -/
inductive Made : ComponentId → Prop
  | ofLabels (l : Labels) : Made (ofLabels l)
  | ofText {text : String} {id : ComponentId} (read : ofText? text = some id) : Made id

/-- An identifier that can be made is read from its text. -/
theorem Made.ofText?_text {id : ComponentId} (h : id.Made) : ofText? id.text = some id := by
  cases h with
  | ofLabels l => exact ofText?_ofLabels l
  | ofText read => rw [text_of_ofText? read, read]

/-- Identifiers that can be made differ if and only if their texts do. -/
theorem Made.text_inj {a b : ComponentId} (ha : a.Made) (hb : b.Made) :
    a.text = b.text ↔ a = b := by
  constructor
  · intro same
    have read := ha.ofText?_text
    rw [same, hb.ofText?_text] at read
    exact (Option.some.inj read).symm
  · rintro rfl
    rfl

theorem Made.decode_encode {id : ComponentId} (h : id.Made) : decode id.encode = .ok id := by
  rw [encode, decode_string, h.ofText?_text, Option.elim_some]

theorem made_of_decode {v : Json} {id : ComponentId} (h : decode v = .ok id) : id.Made := by
  cases v with
  | string text =>
    rw [decode_string] at h
    cases found : ofText? text with
    | none =>
      rw [found] at h
      cases h
    | some other =>
      rw [found] at h
      cases h
      exact .ofText found
  | _ => cases h

/-! ## Labels and texts -/

/-- Identifiers go around. An identifier made from labels has four segments without blanks, those
that the labels become; it comes back from its text and from its document, and its name is the last
segment. A text is read as an identifier if and only if it has four segments, and then it is the
text of that identifier, whose name stands behind the third colon. -/
theorem roundTrip_exact :
    (∀ l : Labels,
      HasSegments (ofLabels l).text l.segments ∧
      (∀ s ∈ l.segments, ∀ c ∈ s, Charset.isBlank c = false) ∧
      ofText? (ofLabels l).text = some (ofLabels l) ∧
      decode (ofLabels l).encode = .ok (ofLabels l) ∧
      (ofLabels l).name = String.ofList (segment l.name)) ∧
    ∀ text : String,
      ((∃ id, ofText? text = some id) ↔ ∃ parts, HasSegments text parts) ∧
      ∀ id, ofText? text = some id → id.text = text ∧
        ∃ domain module type, HasSegments text [domain, module, type, id.name.toList] := by
  refine ⟨fun l => ?_, fun text => ⟨exists_ofText?_iff, fun id read => ?_⟩⟩
  · exact ⟨hasSegments_ofLabels l, isBlank_of_mem_segments, ofText?_ofLabels l,
      (Made.ofLabels l).decode_encode, name_ofLabels l⟩
  · exact ⟨text_of_ofText? read, hasSegments_of_ofText? read⟩

example : (ofLabels ⟨"orders:v2", " ", "Check : out", "GET /İ"⟩).text =
    "orders-v2:-:check-out:get-/i̇" := by decide +kernel

end ComponentAtlas.ComponentId
