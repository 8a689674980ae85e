import ComponentAtlas.Graph.Admission
import ComponentAtlas.Proofs.Graph.References
import ComponentAtlas.Proofs.Json.Remarks

/-! # Reports on references

What is reported of a document is a place and a message for each violation, both as text. The
messages on references begin like no other messages and quote what they are about. So a place and
the beginning of a message select one report or none, and which it is can be told from what the
document gives. -/

namespace ComponentAtlas.Graph

open Json

/-! ## How messages begin -/

namespace Cause

/-- What a message says before it quotes anything. -/
def opening : Cause → String
  | notObject => "must be object"
  | notArray => "must be array"
  | notString => "must be string"
  | notInteger => "must be integer"
  | missing _ => "must have required property '"
  | notVersion => "must match pattern \"^\\d+\\.\\d+$\""
  | notAllowed => "must be equal to one of the allowed values"
  | notIdentifier => "must be a component ID of the form 'domain:module:type:name'"
  | belowOne => "must be >= 1"
  | aboveLimit => "must be <= "
  | repeatedId _ => "duplicate component ID '"
  | undeclaredDomain _ => "must reference a domain declared in /metadata/domains (got '"
  | unknownComponent _ => "must reference an existing component ID (got '"

theorem exists_message_eq (c : Cause) : ∃ rest, c.message = c.opening ++ rest := by
  cases c with
  | missing key => exact ⟨key ++ "'", String.append_assoc ..⟩
  | aboveLimit => exact ⟨toString lineLimit, rfl⟩
  | repeatedId id => exact ⟨id ++ "'", String.append_assoc ..⟩
  | undeclaredDomain name => exact ⟨name ++ "')", String.append_assoc ..⟩
  | unknownComponent id => exact ⟨id ++ "')", String.append_assoc ..⟩
  | _ => exact ⟨"", (String.append_empty ..).symm⟩

/-- The message begins with the words. -/
def Begins (words : String) (c : Cause) : Prop := words.toList <+: c.message.toList

variable {c : Cause} {words : String}

/-- A message begins with words only if they agree with its opening. -/
theorem Begins.agree (begins : c.Begins words) : Agree words c.opening := by
  obtain ⟨rest, whole⟩ := c.exists_message_eq
  refine List.prefix_or_prefix_of_prefix begins ?_
  rw [whole, String.toList_append]
  exact List.prefix_append ..

/-- Causes of one kind are told by words that their opening begins with and that agree with no
other opening. -/
theorem begins_iff_of_agree {kind : String → Cause} {rest : String}
    (opens : ∀ text, (kind text).opening = words ++ rest)
    (only : Agree words c.opening → ∃ text, c = kind text) :
    c.Begins words ↔ ∃ text, c = kind text := by
  refine ⟨fun begins => only begins.agree, ?_⟩
  rintro ⟨text, rfl⟩
  obtain ⟨more, whole⟩ := (kind text).exists_message_eq
  rw [Begins, whole, opens, String.append_assoc, String.toList_append]
  exact List.prefix_append ..

theorem begins_repeatedId_iff : c.Begins "duplicate component ID" ↔ ∃ id, c = .repeatedId id := by
  refine begins_iff_of_agree (fun _ => show _ = _ ++ " '" from rfl) fun agree => ?_
  cases c with
  | repeatedId id => exact ⟨id, rfl⟩
  | _ => exact absurd agree (not_agree rfl rfl (by decide))

theorem begins_undeclaredDomain_iff :
    c.Begins "must reference a domain declared in /metadata/domains" ↔
      ∃ name, c = .undeclaredDomain name := by
  refine begins_iff_of_agree (fun _ => show _ = _ ++ " (got '" from rfl) fun agree => ?_
  cases c with
  | undeclaredDomain name => exact ⟨name, rfl⟩
  | _ => exact absurd agree (not_agree rfl rfl (by decide))

theorem begins_unknownComponent_iff :
    c.Begins "must reference an existing component ID" ↔ ∃ id, c = .unknownComponent id := by
  refine begins_iff_of_agree (fun _ => show _ = _ ++ " (got '" from rfl) fun agree => ?_
  cases c with
  | unknownComponent id => exact ⟨id, rfl⟩
  | _ => exact absurd agree (not_agree rfl rfl (by decide))

end Cause

/-! ## Reports -/

/-- What is reported of a document: the places and the messages. -/
def reports (document : Json) : List (String × String) := (Failure.invalid (check document)).lines

/-- The place of a member of an item in a list, as text. -/
def itemPath (list : String) (i : Nat) (key : String) : String :=
  "/" ++ list ++ "/" ++ toString i ++ "/" ++ key

/-- The reports at a place that begin with the words. -/
def reportsAt (document : Json) (path words : String) : List (String × String) :=
  (reports document).filter fun r => r.1 = path ∧ words.toList <+: r.2.toList

/-- The texts that are bad under a key of items in a list are reported there, and each of them once:
of the reports at the place that begin with the words there is one with the message for the text if
it is bad, and there is none if no text is. -/
def ReportedOnce (document : Json) (list key words : String) (message : String → String)
    (bad : Nat → String → Prop) : Prop :=
  ∀ i, (∀ text, reportsAt document (itemPath list i key) words =
      [(itemPath list i key, message text)] ↔ bad i text) ∧
    (reportsAt document (itemPath list i key) words = [] ↔ ∀ text, ¬ bad i text)

/-- Reports that begin with the words are under these keys of items in these lists. -/
def ReportedOnlyAt (document : Json) (words : String) (members : List (String × String)) : Prop :=
  ∀ r ∈ reports document, words.toList <+: r.2.toList →
    ∃ e ∈ members, ∃ i, r.1 = itemPath e.1 i e.2

/-! ## One report at a place -/

section

variable {members : List (String × Json)} {x : Violation}

/-- Of elements any two of which differ there is at most one if they do not differ. -/
theorem eq_nil_or_singleton {α : Type} {different : α → α → Prop} {found : List α}
    (apart : found.Pairwise different) (alike : ∀ a ∈ found, ∀ b ∈ found, ¬ different a b) :
    found = [] ∨ ∃ a, found = [a] := by
  match found with
  | [] => exact .inl rfl
  | [a] => exact .inr ⟨a, rfl⟩
  | a :: b :: _ =>
    exact absurd ((List.pairwise_cons.1 apart).1 b List.mem_cons_self)
      (alike a List.mem_cons_self b (List.mem_cons_of_mem _ List.mem_cons_self))

/-- The references at a place whose messages begin with the words. -/
def referencesAt (document : Json) (path words : String) : List Violation :=
  (references (check document)).filter fun x =>
    x.place.text = path ∧ words.toList <+: x.cause.message.toList

/-- If only messages on references begin with the words, the references are what is reported. -/
theorem reportsAt_eq {document : Json} {path words : String}
    (only : ∀ c : Cause, c.Begins words → c.isReference = true) :
    reportsAt document path words =
      (referencesAt document path words).map fun x => (x.place.text, x.cause.message) := by
  unfold reportsAt reports Failure.lines referencesAt references
  rw [List.filter_map, List.filter_filter]
  refine congrArg _ (List.filter_congr fun x _ => Bool.eq_iff_iff.2 ?_)
  simp only [Function.comp_apply, Bool.and_eq_true, decide_eq_true_eq]
  exact ⟨fun selected => ⟨selected, only x.cause selected.2⟩, And.left⟩

theorem isPlain_of_mem_referenceKeys {list key : String} (listed : (list, key) ∈ referenceKeys) :
    Step.IsPlain list ∧ Step.IsPlain key := by
  have plain : ∀ e ∈ referenceKeys, Step.IsPlain e.1 ∧ Step.IsPlain e.2 := by decide
  exact plain (list, key) listed

/-- References are at members of items. -/
theorem BadReference.place_eq {document : Json} (bad : BadReference document x) :
    ∃ list i key, x.place = [.key list, .index i, .key key] := by
  cases bad with
  | repeated => exact ⟨_, _, _, rfl⟩
  | undeclared => exact ⟨_, _, _, rfl⟩
  | @unknown list key i id listed => exact ⟨list, i, key, rfl⟩

/-- Where one kind of bad reference is reported and how it is worded. -/
structure IsWorded (list key words : String) (cause : String → Cause) : Prop where
  listPlain : Step.IsPlain list
  keyPlain : Step.IsPlain key
  reference (text : String) : (cause text).isReference = true
  begins (c : Cause) : c.Begins words ↔ ∃ text, c = cause text
  tells {a b : String} (same : (cause a).message = (cause b).message) : a = b

variable {list key words : String} {cause : String → Cause}

theorem IsWorded.only (worded : IsWorded list key words cause) (c : Cause)
    (begins : c.Begins words) : c.isReference = true := by
  obtain ⟨text, rfl⟩ := (worded.begins c).1 begins
  exact worded.reference text

theorem IsWorded.path (worded : IsWorded list key words cause) (i : Nat) :
    Pointer.text [.key list, .index i, .key key] = itemPath list i key :=
  Pointer.text_item_member worded.listPlain worded.keyPlain i

/-- The item gives a text under the key that is a bad reference for that cause. -/
def IsBad (document : Json) (list key : String) (cause : String → Cause) (i : Nat)
    (text : String) : Prop :=
  BadReference document ⟨[.key list, .index i, .key key], cause text⟩

theorem mem_referencesAt_iff (worded : IsWorded list key words cause) (i : Nat) :
    x ∈ referencesAt (.object members) (itemPath list i key) words ↔
      ∃ text, IsBad (.object members) list key cause i text ∧
        x = ⟨[.key list, .index i, .key key], cause text⟩ := by
  simp only [referencesAt, List.mem_filter, mem_references_check_iff, decide_eq_true_eq,
    ← worded.path i]
  constructor
  · rintro ⟨wrong, place, begins⟩
    obtain ⟨text, said⟩ := (worded.begins x.cause).1 begins
    obtain ⟨other, j, own, placed⟩ := wrong.place_eq
    rw [placed] at place
    have same := Pointer.item_member_inj place
    obtain rfl : x = ⟨[.key list, .index i, .key key], cause text⟩ := by
      rw [← same, ← placed, ← said]
    exact ⟨text, wrong, rfl⟩
  · rintro ⟨text, wrong, rfl⟩
    exact ⟨wrong, rfl, (worded.begins _).2 ⟨text, rfl⟩⟩

theorem referencesAt_eq_nil_or_singleton (worded : IsWorded list key words cause) (i : Nat) :
    referencesAt (.object members) (itemPath list i key) words = [] ∨
      ∃ x, referencesAt (.object members) (itemPath list i key) words = [x] := by
  refine eq_nil_or_singleton ((pairwise_references_check members).filter _) ?_
  intro a ha b hb different
  obtain ⟨_, -, rfl⟩ := (mem_referencesAt_iff worded i).1 ha
  obtain ⟨_, -, rfl⟩ := (mem_referencesAt_iff worded i).1 hb
  exact different rfl

theorem reportedOnce (worded : IsWorded list key words cause) :
    ReportedOnce (.object members) list key words (fun text => (cause text).message)
      (IsBad (.object members) list key cause) := by
  intro i
  have found (text : String) (wrong : IsBad (.object members) list key cause i text) :=
    (mem_referencesAt_iff worded i).2 ⟨text, wrong, rfl⟩
  rw [reportsAt_eq worded.only]
  refine ⟨fun text => ⟨fun reported => ?_, fun wrong => ?_⟩, ?_⟩
  · obtain ⟨x, single, said⟩ := List.map_eq_singleton_iff.1 reported
    obtain ⟨other, wrong, rfl⟩ :=
      (mem_referencesAt_iff worded i).1 (single ▸ List.mem_singleton_self x)
    rwa [← worded.tells (Prod.mk.inj said).2]
  · have member := found text wrong
    rcases referencesAt_eq_nil_or_singleton worded i with none | ⟨x, single⟩
    · exact absurd (none ▸ member) List.not_mem_nil
    · rw [single, List.mem_singleton] at member
      rw [single, ← member, List.map_singleton, worded.path i]
  · rw [List.map_eq_nil_iff, List.eq_nil_iff_forall_not_mem]
    constructor
    · exact fun none text wrong => none _ (found text wrong)
    · intro none x member
      obtain ⟨text, wrong, -⟩ := (mem_referencesAt_iff worded i).1 member
      exact none text wrong

theorem reportedOnlyAt {members : List (String × Json)} {places : List (String × String)}
    (only : ∀ c : Cause, c.Begins words → c.isReference = true)
    (placed : ∀ x, BadReference (.object members) x → x.cause.Begins words →
      ∃ e ∈ places, ∃ i, x.place.text = itemPath e.1 i e.2) :
    ReportedOnlyAt (.object members) words places := by
  intro r reported begins
  obtain ⟨x, member, rfl⟩ := List.mem_map.1 reported
  have reference : x ∈ references (check (.object members)) :=
    List.mem_filter.2 ⟨member, only x.cause begins⟩
  exact placed x (mem_references_check_iff.1 reference) begins

end

/-! ## The reports on references -/

theorem isWorded_repeatedId :
    IsWorded "components" "id" "duplicate component ID" .repeatedId where
  listPlain := by decide
  keyPlain := by decide
  reference _ := rfl
  begins _ := Cause.begins_repeatedId_iff
  tells := quoted_inj

theorem isWorded_undeclaredDomain :
    IsWorded "components" "domain" "must reference a domain declared in /metadata/domains"
      .undeclaredDomain where
  listPlain := by decide
  keyPlain := by decide
  reference _ := rfl
  begins _ := Cause.begins_undeclaredDomain_iff
  tells := quoted_inj

theorem isWorded_unknownComponent {list key : String} (listed : (list, key) ∈ referenceKeys) :
    IsWorded list key "must reference an existing component ID" .unknownComponent := by
  obtain ⟨listPlain, keyPlain⟩ := isPlain_of_mem_referenceKeys listed
  exact ⟨listPlain, keyPlain, fun _ => rfl, fun _ => Cause.begins_unknownComponent_iff,
    quoted_inj⟩

section

variable {document : Json} {x : Violation}

theorem isBad_repeatedId :
    IsBad document "components" "id" .repeatedId = IsRepeated document := by
  funext i text
  simp [IsBad, badReference_iff]

theorem isBad_undeclaredDomain :
    IsBad document "components" "domain" .undeclaredDomain = IsUndeclared document := by
  funext i text
  simp [IsBad, badReference_iff]

theorem isBad_unknownComponent {list key : String} (listed : (list, key) ∈ referenceKeys) :
    IsBad document list key .unknownComponent = IsUnknown document list key := by
  funext i text
  simp [IsBad, badReference_iff, listed]

theorem BadReference.path_of_repeatedId (bad : BadReference document x)
    (begins : x.cause.Begins "duplicate component ID") :
    ∃ i, x.place.text = itemPath "components" i "id" := by
  obtain ⟨id, said⟩ := Cause.begins_repeatedId_iff.1 begins
  cases bad with
  | repeated => exact ⟨_, isWorded_repeatedId.path _⟩
  | _ => cases said

theorem BadReference.path_of_undeclaredDomain (bad : BadReference document x)
    (begins : x.cause.Begins "must reference a domain declared in /metadata/domains") :
    ∃ i, x.place.text = itemPath "components" i "domain" := by
  obtain ⟨name, said⟩ := Cause.begins_undeclaredDomain_iff.1 begins
  cases bad with
  | undeclared => exact ⟨_, isWorded_undeclaredDomain.path _⟩
  | _ => cases said

theorem BadReference.path_of_unknownComponent (bad : BadReference document x)
    (begins : x.cause.Begins "must reference an existing component ID") :
    ∃ e ∈ referenceKeys, ∃ i, x.place.text = itemPath e.1 i e.2 := by
  obtain ⟨id, said⟩ := Cause.begins_unknownComponent_iff.1 begins
  cases bad with
  | unknown listed => exact ⟨_, listed, _, (isWorded_unknownComponent listed).path _⟩
  | _ => cases said

end

/-- Whatever else is wrong with a document, its references are reported as they are: a component
with the identifier of one before it, a component in a domain that is not among the declared ones,
and a link or an external link to or from what is no component. Each of them is reported once, at
its place and with a quotation, and no report of these kinds is anywhere else. -/
theorem reports_references_exact (members : List (String × Json)) :
    ReportedOnce (.object members) "components" "id" "duplicate component ID"
        (fun id => "duplicate component ID '" ++ id ++ "'")
        (IsRepeated (.object members)) ∧
      ReportedOnce (.object members) "components" "domain"
        "must reference a domain declared in /metadata/domains"
        (fun name => "must reference a domain declared in /metadata/domains (got '" ++ name ++ "')")
        (IsUndeclared (.object members)) ∧
      (∀ e ∈ [("links", "source"), ("links", "target"), ("externalLinks", "source")],
        ReportedOnce (.object members) e.1 e.2 "must reference an existing component ID"
          (fun id => "must reference an existing component ID (got '" ++ id ++ "')")
          (IsUnknown (.object members) e.1 e.2)) ∧
      ReportedOnlyAt (.object members) "duplicate component ID" [("components", "id")] ∧
      ReportedOnlyAt (.object members) "must reference a domain declared in /metadata/domains"
        [("components", "domain")] ∧
      ReportedOnlyAt (.object members) "must reference an existing component ID"
        [("links", "source"), ("links", "target"), ("externalLinks", "source")] := by
  refine ⟨isBad_repeatedId ▸ reportedOnce isWorded_repeatedId,
    isBad_undeclaredDomain ▸ reportedOnce isWorded_undeclaredDomain, ?_, ?_, ?_, ?_⟩
  · intro e listed
    exact isBad_unknownComponent listed ▸ reportedOnce (isWorded_unknownComponent listed)
  · exact reportedOnlyAt isWorded_repeatedId.only fun x bad begins =>
      ⟨_, List.mem_singleton_self _, bad.path_of_repeatedId begins⟩
  · exact reportedOnlyAt isWorded_undeclaredDomain.only fun x bad begins =>
      ⟨_, List.mem_singleton_self _, bad.path_of_undeclaredDomain begins⟩
  · refine reportedOnlyAt (fun c begins => ?_) fun x bad begins =>
      bad.path_of_unknownComponent begins
    obtain ⟨id, rfl⟩ := Cause.begins_unknownComponent_iff.1 begins
    rfl

end ComponentAtlas.Graph
