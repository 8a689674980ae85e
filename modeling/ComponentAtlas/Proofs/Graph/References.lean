import ComponentAtlas.Proofs.Graph.Acceptance
import ComponentAtlas.Proofs.Json.Pointer
import ComponentAtlas.Proofs.Sorting
import Mathlib.Tactic.MkIffOfInductiveProp

/-! # References in documents

Components repeat identifiers, lie in domains, and are named by links. What is reported of that is
settled by what the document gives as lists, identifiers and domains, and by nothing else that may
be wrong with it: the rest of the schema reports no references, and each of the three reports is
made once for every value that earns it. -/

namespace ComponentAtlas.Graph

open Json Schema

/-! ## What documents give -/

/-- The value is an item of the list under a key of the document. -/
def ItemAt (document : Json) (key : String) (i : Nat) (v : Json) : Prop :=
  ∃ items, document.get? key = some (.array items) ∧ items[i]? = some v

/-- The value is an object with that text under the key. -/
def Gives (v : Json) (key text : String) : Prop := v.get? key = some (.string text)

/-- The value is an object with that identifier, and it is a proper one. -/
def HasId (v : Json) (id : String) : Prop := Gives v "id" id ∧ (ComponentId.ofText? id).isSome

/-- Some component of the document has the identifier. -/
def IsKnown (document : Json) (id : String) : Prop :=
  ∃ i v, ItemAt document "components" i v ∧ HasId v id

/-- The document declares domains, and these are they. -/
def DeclaresDomains (document : Json) (domains : List (String × Json)) : Prop :=
  ∃ metadata, document.get? "metadata" = some metadata ∧
    metadata.get? "domains" = some (.object domains)

/-- The items of the list under a key of the document, if there is a list. -/
def itemsOf (document : Json) (key : String) : List Json :=
  match document.get? key with
  | some (.array items) => items
  | _ => []

variable {document v : Json} {key : String}

theorem getElem?_itemsOf_iff {i : Nat} :
    (itemsOf document key)[i]? = some v ↔ ItemAt document key i v := by
  unfold itemsOf ItemAt
  constructor
  · intro found
    split at found
    · next items given => exact ⟨items, given, found⟩
    · cases found
  · rintro ⟨items, given, found⟩
    rw [given]
    exact found

theorem identifiers_eq_filterMap :
    identifiers document = (itemsOf document "components").filterMap idOf? := by
  unfold identifiers itemsOf
  cases document.get? "components" with
  | none => rfl
  | some v => cases v <;> rfl

theorem idOf?_eq_some_iff_hasId {id : String} : idOf? v = some id ↔ HasId v id :=
  idOf?_eq_some_iff

theorem mem_identifiers_iff_isKnown {id : String} :
    id ∈ identifiers document ↔ IsKnown document id := by
  simp only [identifiers_eq_filterMap, List.mem_filterMap, idOf?_eq_some_iff_hasId, IsKnown]
  constructor
  · rintro ⟨v, member, own⟩
    obtain ⟨i, found⟩ := List.mem_iff_getElem?.1 member
    exact ⟨i, v, getElem?_itemsOf_iff.1 found, own⟩
  · rintro ⟨i, v, placed, own⟩
    exact ⟨v, List.mem_iff_getElem?.2 ⟨i, getElem?_itemsOf_iff.2 placed⟩, own⟩

theorem domainNames?_eq_some_iff {names : List String} :
    domainNames? document = some names ↔
      ∃ domains, DeclaresDomains document domains ∧ names = domains.map (·.1) := by
  unfold domainNames? DeclaresDomains
  constructor
  · intro found
    split at found
    · next domains given =>
      obtain ⟨metadata, described, declared⟩ := Option.bind_eq_some_iff.1 given
      cases found
      exact ⟨domains, ⟨metadata, described, declared⟩, rfl⟩
    · cases found
  · rintro ⟨domains, ⟨metadata, described, declared⟩, rfl⟩
    rw [described, Option.bind_some, declared]

/-! ## The reports on references -/

/-- The cause is a reference, or an identifier that two components have. -/
def Cause.isReference : Cause → Bool
  | repeatedId _ | undeclaredDomain _ | unknownComponent _ => true
  | _ => false

/-- The violations with such a cause. -/
def references (found : List Violation) : List Violation := found.filter (·.cause.isReference)

/-- The identifier of a component that one before it has. -/
def repeated (before : List Json) (place : Pointer) (v : Json) : List Violation :=
  match idOf? v with
  | some id =>
    if before.any fun other => idOf? other = some id then [⟨place.member "id", .repeatedId id⟩]
    else []
  | none => []

/-- The domain of a component that is not among the declared ones, if any are. -/
def undeclared (domains : Option (List String)) (place : Pointer) (v : Json) : List Violation :=
  match textOf? v "domain", domains with
  | some name, some names =>
    if names.contains name then [] else [⟨place.member "domain", .undeclaredDomain name⟩]
  | _, _ => []

/-- The text under a key that is none of the known identifiers. -/
def unknown (known : List String) (key : String) (place : Pointer) (v : Json) : List Violation :=
  match textOf? v key with
  | some id => if known.contains id then [] else [⟨place.member key, .unknownComponent id⟩]
  | none => []

section Silence

variable {place : Pointer} {given : List (String × Json)} {check : Check}

@[simp] theorem references_append (a b : List Violation) :
    references (a ++ b) = references a ++ references b := List.filter_append ..

theorem references_flatMap {α : Type} (items : List α) (f : α → List Violation) :
    references (items.flatMap f) = items.flatMap fun a => references (f a) := List.filter_flatMap ..

/-- A check of the schema that reports no references. -/
def Silent (check : Check) : Prop := ∀ place v, references (check place v) = []

/-- A check of members that reports no references. -/
def SilentMember (check : MemberCheck) : Prop :=
  ∀ place given, references (check place given) = []

theorem silent_textWith {fault? : String → Option Cause}
    (plain : ∀ s cause, fault? s = some cause → cause.isReference = false) :
    Silent (textWith fault?) := by
  intro place v
  cases v with
  | string s =>
    rw [textWith]
    cases faulty : fault? s with
    | none => rfl
    | some cause => simp [references, plain s cause faulty]
  | _ => rfl

theorem silent_text : Silent text := silent_textWith fun _ _ faulty => nomatch faulty

/-- A test of texts with one complaint for all that fail it. -/
theorem silent_tested (test : String → Bool) {cause : Cause} (plain : cause.isReference = false) :
    Silent (textWith fun s => if test s then none else some cause) := by
  refine silent_textWith fun s other faulty => ?_
  split at faulty
  · cases faulty
  · cases faulty
    exact plain

theorem silent_oneOf (allowed : List String) : Silent (oneOf allowed) := silent_tested _ rfl

theorem silent_version : Silent Schema.version := silent_tested _ rfl

theorem silent_identifier : Silent identifier := silent_tested _ rfl

theorem silent_lineNumber : Silent lineNumber := by
  intro place v
  unfold lineNumber
  split
  · split
    · rfl
    · split <;> rfl
  · rfl

theorem references_record_object (members : List MemberCheck) :
    references (record members place (.object given)) =
      members.flatMap fun check => references (check place given) :=
  references_flatMap members _

theorem silent_record {members : List MemberCheck} (each : ∀ check ∈ members, SilentMember check) :
    Silent (record members) := by
  intro place v
  cases v with
  | object given =>
    rw [references_record_object, List.flatMap_eq_nil_iff]
    exact fun check member => each check member place given
  | _ => rfl

theorem silent_each (h : Silent check) : Silent (Schema.each check) := by
  intro place v
  cases v with
  | object given =>
    rw [Schema.each, references_flatMap, List.flatMap_eq_nil_iff]
    exact fun m _ => h _ _
  | _ => rfl

theorem silent_required (key : String) (h : Silent check) : SilentMember (required key check) := by
  intro place given
  unfold required
  split
  · exact h _ _
  · rfl

theorem silent_optional (key : String) (h : Silent check) :
    SilentMember (Schema.optional key check) := by
  intro place given
  unfold Schema.optional
  split
  · exact h _ _
  · rfl

/-- A list is checked item by item; each check is told the items before. -/
theorem references_checkItems (check : List Json → Check) (place : Pointer)
    (before items : List Json) :
    references (checkItems check place before items) =
      (items.zipIdx before.length).flatMap fun e =>
        references (check ((before ++ items).take e.2) (place.item e.2) e.1) := by
  induction items generalizing before with
  | nil => rfl
  | cons v rest ih =>
    have whole : before ++ v :: rest = (before ++ [v]) ++ rest := by
      rw [List.append_assoc, List.singleton_append]
    have first : (before ++ v :: rest).take before.length = before := List.take_left
    rw [checkItems, references_append, ih, List.zipIdx_cons, List.flatMap_cons, first, whole,
      List.length_append, List.length_singleton]

theorem silent_list {check : List Json → Check} (h : ∀ before, Silent (check before)) :
    Silent (Schema.list check) := by
  intro place v
  cases v with
  | array items =>
    rw [Schema.list, references_checkItems, List.flatMap_eq_nil_iff]
    exact fun e _ => h _ _ _
  | _ => rfl

theorem silent_domain : Silent Schema.domain := by
  refine silent_record ?_
  simp only [List.forall_mem_cons]
  exact ⟨silent_required _ silent_text, silent_required _ (silent_oneOf _), List.forall_mem_nil _⟩

theorem silent_metadata : Silent Schema.metadata := by
  refine silent_record ?_
  simp only [List.forall_mem_cons]
  exact ⟨silent_optional _ silent_text, silent_optional _ silent_text,
    silent_required _ (silent_each silent_domain), List.forall_mem_nil _⟩

theorem silent_sourceLocation : Silent Schema.sourceLocation := by
  refine silent_record ?_
  simp only [List.forall_mem_cons]
  exact ⟨silent_required _ silent_text, silent_required _ silent_text,
    silent_optional _ silent_lineNumber, List.forall_mem_nil _⟩

theorem silent_externalTarget : Silent Schema.externalTarget := by
  refine silent_record ?_
  simp only [List.forall_mem_cons]
  exact ⟨silent_required _ silent_text, silent_optional _ silent_text,
    silent_optional _ silent_text, List.forall_mem_nil _⟩

theorem silent_detailsOf (type : ComponentType) : ∀ check ∈ detailsOf type, SilentMember check := by
  cases type <;> simp only [detailsOf, List.forall_mem_cons]
  case ui => exact ⟨silent_required _ silent_text, List.forall_mem_nil _⟩
  case api =>
    exact ⟨silent_required _ (silent_oneOf _), silent_optional _ (silent_oneOf _),
      silent_optional _ silent_text, List.forall_mem_nil _⟩
  case useCase => exact List.forall_mem_nil _
  case domainOp =>
    exact ⟨silent_required _ silent_text, silent_optional _ silent_text, List.forall_mem_nil _⟩
  case event => exact ⟨silent_required _ silent_text, List.forall_mem_nil _⟩
  case eventHandler =>
    exact ⟨silent_required _ (silent_list fun _ => silent_text), List.forall_mem_nil _⟩
  case custom => exact ⟨silent_required _ silent_text, List.forall_mem_nil _⟩

theorem silent_details : SilentMember details := by
  intro place given
  unfold details
  split
  · next type _ =>
    rw [references_flatMap, List.flatMap_eq_nil_iff]
    exact fun check member => silent_detailsOf type check member place given
  · rfl

end Silence

/-! ## What components and links report -/

section Reports

variable {place : Pointer}

theorem references_repeated (before : List Json) (place : Pointer) (v : Json) :
    references (repeated before place v) = repeated before place v := by
  unfold repeated
  split
  · split <;> rfl
  · rfl

theorem references_undeclared (domains : Option (List String)) (place : Pointer) (v : Json) :
    references (undeclared domains place v) = undeclared domains place v := by
  unfold undeclared
  split
  · split <;> rfl
  · rfl

theorem references_unknown (known : List String) (key : String) (place : Pointer) (v : Json) :
    references (unknown known key place v) = unknown known key place v := by
  unfold unknown
  split
  · split <;> rfl
  · rfl

theorem references_required_reference (known : List String) (key : String) (place : Pointer)
    (given : List (String × Json)) :
    references (required key (reference known) place given) =
      unknown known key place (.object given) := by
  have text : textOf? (.object given) key = (memberOf? given key).bind Json.string? := rfl
  rw [required, ← references_unknown, unknown, text]
  cases memberOf? given key with
  | none => rfl
  | some v =>
    cases v with
    | string s =>
      show references ((if known.contains s then none else some (Cause.unknownComponent s)).map
          fun cause => Violation.mk (place.member key) cause).toList =
        references (if known.contains s then [] else [⟨place.member key, .unknownComponent s⟩])
      cases known.contains s <;> rfl
    | _ => rfl

theorem references_component (domains : Option (List String)) (before : List Json)
    (place : Pointer) (v : Json) :
    references (Schema.component domains before place v) =
      repeated before place v ++ undeclared domains place v := by
  cases v with
  | object given =>
    have own : references (unlike before place given) = repeated before place (.object given) :=
      references_repeated before place (.object given)
    have placed : references (declared domains place given) =
        undeclared domains place (.object given) :=
      references_undeclared domains place (.object given)
    simp only [Schema.component, references_record_object, List.flatMap_cons, List.flatMap_nil,
      silent_required _ silent_identifier _ _, silent_required _ silent_text _ _,
      silent_optional _ silent_text _ _, silent_required _ silent_sourceLocation _ _,
      silent_required _ (silent_oneOf _) _ _, silent_details _ _, own, placed, List.nil_append,
      List.append_nil]
  | _ => rfl

theorem references_link (known : List String) (place : Pointer) (v : Json) :
    references (Schema.link known place v) =
      unknown known "source" place v ++ unknown known "target" place v := by
  cases v with
  | object given =>
    simp only [Schema.link, references_record_object, List.flatMap_cons, List.flatMap_nil,
      silent_optional _ silent_text _ _, silent_optional _ (silent_oneOf _) _ _,
      references_required_reference, List.nil_append, List.append_nil]
  | _ => rfl

theorem references_externalLink (known : List String) (place : Pointer) (v : Json) :
    references (Schema.externalLink known place v) = unknown known "source" place v := by
  cases v with
  | object given =>
    simp only [Schema.externalLink, references_record_object, List.flatMap_cons, List.flatMap_nil,
      silent_optional _ (silent_oneOf _) _ _, silent_required _ silent_externalTarget _ _,
      references_required_reference, List.nil_append, List.append_nil]
  | _ => rfl

end Reports

/-! ## References in a document -/

/-- The component has an identifier that one before it has. -/
def IsRepeated (document : Json) (i : Nat) (id : String) : Prop :=
  ∃ v, ItemAt document "components" i v ∧ HasId v id ∧
    ∃ j < i, ∃ other, ItemAt document "components" j other ∧ HasId other id

/-- The component lies in a domain that is not among the declared ones. -/
def IsUndeclared (document : Json) (i : Nat) (name : String) : Prop :=
  ∃ v domains, ItemAt document "components" i v ∧ Gives v "domain" name ∧
    DeclaresDomains document domains ∧ name ∉ domains.map (·.1)

/-- The item of the list names something under the key that is no component of the document. -/
def IsUnknown (document : Json) (list key : String) (i : Nat) (id : String) : Prop :=
  ∃ v, ItemAt document list i v ∧ Gives v key id ∧ ¬ IsKnown document id

/-- The lists whose items refer to components, with the keys under which they do. -/
def referenceKeys : List (String × String) :=
  [("links", "source"), ("links", "target"), ("externalLinks", "source")]

/-- Something is wrong with a reference at that place of the document. -/
@[mk_iff]
inductive BadReference (document : Json) : Violation → Prop
  | repeated {i : Nat} {id : String} (bad : IsRepeated document i id) :
      BadReference document ⟨[.key "components", .index i, .key "id"], .repeatedId id⟩
  | undeclared {i : Nat} {name : String} (bad : IsUndeclared document i name) :
      BadReference document ⟨[.key "components", .index i, .key "domain"], .undeclaredDomain name⟩
  | unknown {list key : String} {i : Nat} {id : String} (listed : (list, key) ∈ referenceKeys)
      (bad : IsUnknown document list key i id) :
      BadReference document ⟨[.key list, .index i, .key key], .unknownComponent id⟩

section Document

variable {members : List (String × Json)} {check : List Json → Check} {x : Violation}

/-- What a check reports of the items of the list under a key. -/
def itemReferences (document : Json) (key : String) (check : List Json → Check) :
    List Violation :=
  (itemsOf document key).zipIdx.flatMap fun e =>
    references (check ((itemsOf document key).take e.2) [.key key, .index e.2] e.1)

theorem references_list (key : String) (v : Json) (given : memberOf? members key = some v) :
    references (Schema.list check [.key key] v) = itemReferences (.object members) key check := by
  have found : (Json.object members).get? key = some v := given
  unfold itemReferences itemsOf
  rw [found]
  cases v with
  | array items => exact references_checkItems check [.key key] [] items
  | _ => rfl

theorem itemReferences_of_missing (missing : memberOf? members key = none) :
    itemReferences (.object members) key check = [] := by
  have found : (Json.object members).get? key = none := missing
  unfold itemReferences itemsOf
  rw [found]
  rfl

theorem references_required_list (key : String) :
    references (required key (Schema.list check) [] members) =
      itemReferences (.object members) key check := by
  unfold required
  split
  · next v given => exact references_list key v given
  · next missing => exact (itemReferences_of_missing missing).symm

theorem references_optional_list (key : String) :
    references (Schema.optional key (Schema.list check) [] members) =
      itemReferences (.object members) key check := by
  unfold Schema.optional
  split
  · next v given => exact references_list key v given
  · next missing => exact (itemReferences_of_missing missing).symm

/-- The references that are reported of a document come from its three lists. -/
theorem references_check (members : List (String × Json)) :
    references (Graph.check (.object members)) =
      itemReferences (.object members) "components"
          (Schema.component (domainNames? (.object members))) ++
        (itemReferences (.object members) "links"
            (fun _ => Schema.link (identifiers (.object members))) ++
          itemReferences (.object members) "externalLinks"
            (fun _ => Schema.externalLink (identifiers (.object members)))) := by
  simp only [Graph.check, references_record_object, List.flatMap_cons, List.flatMap_nil,
    silent_required _ silent_version _ _, silent_required _ silent_metadata _ _,
    references_required_list, references_optional_list, List.nil_append, List.append_nil]

/-! ### Which they are -/

theorem mem_itemReferences_iff {document : Json} {key : String} :
    x ∈ itemReferences document key check ↔ ∃ i v, ItemAt document key i v ∧
      x ∈ references (check ((itemsOf document key).take i) [.key key, .index i] v) := by
  simp only [itemReferences, List.mem_flatMap, Prod.exists, List.mem_zipIdx_iff_getElem?,
    getElem?_itemsOf_iff]
  exact exists_comm

theorem mem_take_itemsOf_iff {document v : Json} {key : String} {i : Nat} :
    v ∈ (itemsOf document key).take i ↔ ∃ j < i, ItemAt document key j v := by
  simp only [List.mem_iff_getElem?, List.getElem?_take, Option.ite_none_right_eq_some,
    getElem?_itemsOf_iff]

theorem mem_repeated_iff {before : List Json} {place : Pointer} :
    x ∈ repeated before place v ↔ ∃ id, HasId v id ∧ (∃ other ∈ before, HasId other id) ∧
      x = ⟨place.member "id", .repeatedId id⟩ := by
  simp only [← idOf?_eq_some_iff_hasId]
  unfold repeated
  cases own : idOf? v with
  | none => simp
  | some id => simp

theorem mem_undeclared_iff {domains : Option (List String)} {place : Pointer} :
    x ∈ undeclared domains place v ↔ ∃ name names, Gives v "domain" name ∧
      domains = some names ∧ name ∉ names ∧ x = ⟨place.member "domain", .undeclaredDomain name⟩ := by
  simp only [Gives, ← textOf?_eq_some_iff]
  unfold undeclared
  cases given : textOf? v "domain" with
  | none => simp
  | some name => cases domains <;> simp

theorem mem_unknown_iff {known : List String} {key : String} {place : Pointer} :
    x ∈ unknown known key place v ↔ ∃ id, Gives v key id ∧ id ∉ known ∧
      x = ⟨place.member key, .unknownComponent id⟩ := by
  simp only [Gives, ← textOf?_eq_some_iff]
  unfold unknown
  cases given : textOf? v key with
  | none => simp
  | some id => simp

theorem mem_references_check_iff :
    x ∈ references (Graph.check (.object members)) ↔ BadReference (.object members) x := by
  simp only [references_check, List.mem_append, mem_itemReferences_iff, references_component,
    references_link, references_externalLink, mem_repeated_iff, mem_undeclared_iff, mem_unknown_iff,
    mem_take_itemsOf_iff, domainNames?_eq_some_iff, mem_identifiers_iff_isKnown]
  constructor
  · rintro (⟨i, v, item, h⟩ | ⟨i, v, item, h⟩ | ⟨i, v, item, h⟩)
    · rcases h with ⟨id, own, ⟨other, ⟨j, before, earlier⟩, same⟩, rfl⟩ |
        ⟨name, _, given, ⟨domains, declared, rfl⟩, missing, rfl⟩
      · exact .repeated ⟨v, item, own, j, before, other, earlier, same⟩
      · exact .undeclared ⟨v, domains, item, given, declared, missing⟩
    · rcases h with ⟨id, given, unknown, rfl⟩ | ⟨id, given, unknown, rfl⟩
      · exact .unknown (by decide) ⟨v, item, given, unknown⟩
      · exact .unknown (by decide) ⟨v, item, given, unknown⟩
    · obtain ⟨id, given, unknown, rfl⟩ := h
      exact .unknown (by decide) ⟨v, item, given, unknown⟩
  · rintro (⟨v, item, own, j, before, other, earlier, same⟩ |
      ⟨v, domains, item, given, declared, missing⟩ | ⟨listed, v, item, given, unknown⟩)
    · exact .inl ⟨_, v, item, .inl ⟨_, own, ⟨other, ⟨j, before, earlier⟩, same⟩, rfl⟩⟩
    · exact .inl ⟨_, v, item, .inr ⟨_, _, given, ⟨domains, declared, rfl⟩, missing, rfl⟩⟩
    · simp only [referenceKeys, List.mem_cons, Prod.mk.injEq, List.not_mem_nil, or_false] at listed
      rcases listed with ⟨rfl, rfl⟩ | ⟨rfl, rfl⟩ | ⟨rfl, rfl⟩
      · exact .inr (.inl ⟨_, v, item, .inl ⟨_, given, unknown, rfl⟩⟩)
      · exact .inr (.inl ⟨_, v, item, .inr ⟨_, given, unknown, rfl⟩⟩)
      · exact .inr (.inr ⟨_, v, item, _, given, unknown, rfl⟩)

/-! ### Each at a place of its own -/

/-- The violations are at different places. -/
def Apart (a b : Violation) : Prop := a.place ≠ b.place

/-- A check that reports each reference in an item at another member of it. -/
structure IsSpread (check : List Json → Check) : Prop where
  apart (before : List Json) (place : Pointer) (v : Json) :
    (references (check before place v)).Pairwise Apart
  below (before : List Json) (place : Pointer) (v : Json) :
    ∀ x ∈ references (check before place v), ∃ key, x.place = place.member key

theorem isSpread_component (domains : Option (List String)) :
    IsSpread (Schema.component domains) where
  apart before place v := by
    rw [references_component, List.pairwise_append]
    refine ⟨?_, ?_, fun x repeated y undeclared => ?_⟩
    · unfold repeated
      split
      · split <;> simp
      · exact .nil
    · unfold undeclared
      split
      · split <;> simp
      · exact .nil
    · obtain ⟨id, -, -, rfl⟩ := mem_repeated_iff.1 repeated
      obtain ⟨name, names, -, -, -, rfl⟩ := mem_undeclared_iff.1 undeclared
      simp [Apart, Pointer.member]
  below before place v x member := by
    rw [references_component, List.mem_append, mem_repeated_iff, mem_undeclared_iff] at member
    rcases member with ⟨id, -, -, rfl⟩ | ⟨name, names, -, -, -, rfl⟩
    · exact ⟨"id", rfl⟩
    · exact ⟨"domain", rfl⟩

theorem pairwise_unknown (known : List String) (key : String) (place : Pointer) (v : Json) :
    (unknown known key place v).Pairwise Apart := by
  unfold unknown
  split
  · split <;> simp
  · exact .nil

theorem isSpread_link (known : List String) : IsSpread fun _ => Schema.link known where
  apart before place v := by
    rw [references_link, List.pairwise_append]
    refine ⟨pairwise_unknown .., pairwise_unknown .., fun x source y target => ?_⟩
    obtain ⟨_, -, -, rfl⟩ := mem_unknown_iff.1 source
    obtain ⟨_, -, -, rfl⟩ := mem_unknown_iff.1 target
    simp [Apart, Pointer.member]
  below before place v x member := by
    rw [references_link, List.mem_append, mem_unknown_iff, mem_unknown_iff] at member
    rcases member with ⟨id, -, -, rfl⟩ | ⟨id, -, -, rfl⟩
    · exact ⟨"source", rfl⟩
    · exact ⟨"target", rfl⟩

theorem isSpread_externalLink (known : List String) :
    IsSpread fun _ => Schema.externalLink known where
  apart before place v := by
    rw [references_externalLink]
    exact pairwise_unknown ..
  below before place v x member := by
    rw [references_externalLink, mem_unknown_iff] at member
    obtain ⟨id, -, -, rfl⟩ := member
    exact ⟨"source", rfl⟩

/-- The references in the items of a list are at the members of those items. -/
theorem IsSpread.place_eq {document : Json} (spread : IsSpread check)
    (member : x ∈ itemReferences document key check) :
    ∃ i own, x.place = [.key key, .index i, .key own] := by
  obtain ⟨i, v, -, reported⟩ := mem_itemReferences_iff.1 member
  obtain ⟨own, placed⟩ := spread.below _ _ _ x reported
  exact ⟨i, own, placed⟩

theorem IsSpread.pairwise_itemReferences {document : Json} (spread : IsSpread check) :
    (itemReferences document key check).Pairwise Apart := by
  refine List.pairwise_flatMap.2 ⟨fun e _ => spread.apart _ _ _, ?_⟩
  refine (pairwise_zipIdx _).imp fun {a b} lower x hx y hy same => ?_
  obtain ⟨own, placed⟩ := spread.below _ _ _ x hx
  obtain ⟨other, elsewhere⟩ := spread.below _ _ _ y hy
  rw [placed, elsewhere] at same
  simp only [Pointer.member, List.cons_append, List.nil_append, List.cons.injEq,
    Step.index.injEq] at same
  omega

theorem apart_of_keys {document : Json} {first second : String}
    {own other : List Json → Check} (different : first ≠ second) (spread : IsSpread own)
    (elsewhere : IsSpread other) :
    ∀ x ∈ itemReferences document first own, ∀ y ∈ itemReferences document second other,
      Apart x y := by
  intro x hx y hy same
  obtain ⟨i, a, placed⟩ := spread.place_eq hx
  obtain ⟨j, b, beyond⟩ := elsewhere.place_eq hy
  rw [placed, beyond] at same
  exact different (Step.key.inj (List.cons.inj same).1)

/-- No two references are reported at one place. -/
theorem pairwise_references_check (members : List (String × Json)) :
    (references (Graph.check (.object members))).Pairwise Apart := by
  have component := isSpread_component (domainNames? (.object members))
  have link := isSpread_link (identifiers (.object members))
  have externalLink := isSpread_externalLink (identifiers (.object members))
  rw [references_check, List.pairwise_append, List.pairwise_append]
  refine ⟨component.pairwise_itemReferences, ⟨link.pairwise_itemReferences,
    externalLink.pairwise_itemReferences, apart_of_keys (by decide) link externalLink⟩, ?_⟩
  intro x hx y hy
  rcases List.mem_append.1 hy with hy | hy
  · exact apart_of_keys (by decide) component link x hx y hy
  · exact apart_of_keys (by decide) component externalLink x hx y hy

end Document

end ComponentAtlas.Graph
