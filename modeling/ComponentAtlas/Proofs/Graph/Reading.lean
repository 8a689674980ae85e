import ComponentAtlas.Proofs.ComponentId
import ComponentAtlas.Proofs.Graph.Checks
import ComponentAtlas.Proofs.Graph.Kept

/-! # Reading graphs

Where the schema finds nothing, the decoding succeeds, and what is decoded has the document that is
kept. There is one lemma for each kind of member and one for each type of the schema. -/

namespace ComponentAtlas.Graph

open Json Schema

/-! ## Members -/

namespace Kept

/-- What is kept under one key. -/
def part (given : List (String × Json)) (entry : String × (Json → Json)) : List (String × Json) :=
  Json.optional entry.1 ((memberOf? given entry.1).map entry.2)

/-- What is kept, in the order of the known keys. -/
def parts (known : Known) (given : List (String × Json)) : List (String × Json) :=
  known.flatMap (part given)

variable {known : Known} {given : List (String × Json)}

theorem map_fst_parts_sublist : ((parts known given).map (·.1)).Sublist (known.map (·.1)) := by
  induction known with
  | nil => exact .slnil
  | cons entry rest ih =>
    rw [parts, List.flatMap_cons, part]
    cases memberOf? given entry.1 with
    | none => exact ih.cons _
    | some v => exact ih.cons_cons _

theorem lookup_parts (distinct : (known.map (·.1)).Nodup) (key : String) :
    (parts known given).lookup key =
      (known.lookup key).bind fun keep => (memberOf? given key).map keep := by
  induction known with
  | nil => rfl
  | cons entry rest ih =>
    rcases entry with ⟨k, keep⟩
    rw [List.map_cons, List.nodup_cons] at distinct
    rw [Keyed.lookup_cons, parts, List.flatMap_cons, part]
    by_cases same : key = k
    · subst same
      rw [if_pos rfl]
      cases memberOf? given key with
      | none =>
        show (parts rest given).lookup key = none
        rw [ih distinct.2, Keyed.lookup_eq_none_iff.2 distinct.1]
        rfl
      | some v => exact (Keyed.lookup_cons key key _ _).trans (if_pos rfl)
    · rw [if_neg same, ← ih distinct.2]
      cases memberOf? given k with
      | none => rfl
      | some v => exact (Keyed.lookup_cons key k _ _).trans (if_neg same)

/-- The known keys may be given in any order if what is kept is sorted. -/
theorem sorted_parts (distinct : (known.map (·.1)).Nodup) (ascending : Keyed.Ascending given) :
    Keyed.sorted (parts known given) = members known given := by
  refine Keyed.ext_lookup (Keyed.ascending_sorted _) (ascending_members known ascending)
    fun key => ?_
  rw [Keyed.lookup_sorted (distinct.sublist map_fst_parts_sublist), lookup_parts distinct]
  exact (memberOf?_members known given key).symm

theorem parts_eq_members (sorted : Keyed.Ascending known) (ascending : Keyed.Ascending given) :
    parts known given = members known given := by
  rw [← sorted_parts sorted.nodup ascending, Keyed.sorted_of_ascending]
  exact sorted.sublist map_fst_parts_sublist

end Kept

open Kept

section Members

variable {α : Type} {decode : Json → Decoded α} {encode : α → Json} {keep : Json → Json}
  {check : Check} {place : Pointer} {given : List (String × Json)} {key : String}

/-- The check of a member that must be there finds nothing, so the member is decoded. -/
theorem required_reads (h : required key check place given = [])
    (reads : ∀ v, memberOf? given key = some v → check (place.member key) v = [] →
      ReadsAs decode encode v (keep v)) :
    ∃ a, decodeRequired decode given key = .ok a ∧ part given (key, keep) = [(key, encode a)] := by
  obtain ⟨v, found, passes⟩ := required_eq_nil_iff.1 h
  obtain ⟨a, read, written⟩ := reads v found passes
  refine ⟨a, ?_, ?_⟩
  · rw [decodeRequired, decodeMember_of_some found read]
    rfl
  · rw [part, found, written]
    rfl

/-- The check of a member that may be there finds nothing, so the member is decoded if it is
there. The check must not let null pass, which the decoding takes for a member that is absent. -/
theorem optional_reads (h : Schema.optional key check place given = [])
    (refuses : ∀ place, check place .null ≠ [])
    (reads : ∀ v, memberOf? given key = some v → check (place.member key) v = [] →
      ReadsAs decode encode v (keep v)) :
    ∃ a, decodeOptional decode given key = .ok a ∧
      part given (key, keep) = Json.optional key (a.map encode) := by
  cases found : memberOf? given key with
  | none =>
    refine ⟨none, ?_, ?_⟩
    · rw [decodeOptional, decodeMember_of_none found]
      rfl
    · rw [part, found]
      rfl
  | some v =>
    have passes := optional_eq_nil_iff.1 h v found
    obtain ⟨a, read, written⟩ := reads v found passes
    have present : decodeOption decode v = .ok (some a) := by
      cases v with
      | null => exact absurd passes (refuses _)
      | _ => exact congrArg (Except.map some) read
    refine ⟨some a, ?_, ?_⟩
    · rw [decodeOptional, decodeMember_of_some found present]
      rfl
    · rw [part, found, Option.map_some, Option.map_some, written]

theorem text_reads {v : Json} (h : text place v = []) :
    ReadsAs decodeString .string v (id v) := by
  obtain ⟨s, rfl⟩ := text_eq_nil_iff.1 h
  exact readsAs_string s

theorem required_text_reads (h : required key text place given = []) :
    ∃ s, decodeRequired decodeString given key = .ok s ∧
      part given (key, id) = [(key, .string s)] :=
  required_reads h fun _ _ => text_reads

theorem optional_text_reads (h : Schema.optional key text place given = []) :
    ∃ s, decodeOptional decodeString given key = .ok s ∧
      part given (key, id) = Json.optional key (s.map .string) :=
  optional_reads h (fun _ => List.cons_ne_nil _ _) fun _ _ => text_reads

end Members

theorem version_reads {place : Pointer} {v : Json} (h : Schema.version place v = []) :
    ReadsAs decodeString .string v (id v) := by
  obtain ⟨s, rfl, -⟩ := version_eq_nil_iff.1 h
  exact readsAs_string s

/-- A name that is among those of a type is read as the one it names. -/
theorem oneOf_reads {α : Type} {all : List α} {name : α → String} {ofName? : String → Option α}
    (named : ∀ a, ofName? (name a) = some a) {place : Pointer} {v : Json}
    (h : oneOf (all.map name) place v = []) :
    ReadsAs (decodeName ofName? (all.map name)) (fun a => .string (name a)) v (id v) := by
  obtain ⟨s, rfl, member⟩ := oneOf_eq_nil_iff.1 h
  obtain ⟨a, -, rfl⟩ := List.mem_map.1 member
  exact ⟨a, decodeName_of_found (named a), rfl⟩

/-- A list in which nothing is found is read item by item. -/
theorem list_reads {α : Type} {decode : Json → Decoded α} {encode : α → Json} {keep : Json → Json}
    {check : List Json → Check} {place : Pointer} {v : Json}
    (h : Schema.list check place v = []) (ordered : v.Ordered)
    (reads : ∀ before place w, check before place w = [] → w.Ordered →
      ReadsAs decode encode w (keep w)) :
    ReadsAs (decodeList decode) (fun list => .array (list.map encode)) v (Kept.list keep v) := by
  obtain ⟨items, rfl, passes⟩ := list_eq_nil_iff.1 h
  refine readsAs_list keep fun w member => ?_
  obtain ⟨front, back, split⟩ := List.append_of_mem member
  exact reads _ _ w (passes front w back split) (ordered.items w member)

/-- A member of an object in which nothing is found is read under its key. -/
theorem each_reads {α : Type} {decode : Json → Decoded α} {encode : α → Json} {keep : Json → Json}
    {given : List (String × Json)} (reads : ∀ m ∈ given, ReadsAs decode encode m.2 (keep m.2)) :
    ∃ entries, decodeEach decode given = .ok entries ∧
      entries.map (·.1) = given.map (·.1) ∧
      entries.map (fun e => (e.1, encode e.2)) = given.map fun m => (m.1, keep m.2) := by
  induction given with
  | nil => exact ⟨[], rfl, rfl, rfl⟩
  | cons m rest ih =>
    rw [List.forall_mem_cons] at reads
    obtain ⟨a, first, written⟩ := reads.1
    obtain ⟨entries, others, keys, same⟩ := ih reads.2
    refine ⟨(m.1, a) :: entries, ?_, ?_, ?_⟩
    · rw [decodeEach, first, others]
      rfl
    · rw [List.map_cons, List.map_cons, keys]
    · rw [List.map_cons, List.map_cons, same, written]

/-! ## Domains and places -/

theorem domain_reads {place : Pointer} {v : Json} (h : Schema.domain place v = [])
    (ordered : v.Ordered) : ReadsAs Domain.decode Domain.encode v (Kept.domain v) := by
  obtain ⟨given, rfl, passes⟩ := record_eq_nil_iff.1 h
  simp only [List.forall_mem_cons] at passes
  obtain ⟨description, readDescription, keptDescription⟩ := required_text_reads passes.1
  obtain ⟨type, readType, keptType⟩ :=
    required_reads passes.2.1 fun _ _ => oneOf_reads SystemType.ofName?_name
  refine ⟨⟨description, type⟩, ?_, ?_⟩
  · simp only [Domain.decode, decodeObject, ok_bind, readDescription, SystemType.decode, readType]
    rfl
  · rw [Kept.domain, Kept.record, ← parts_eq_members (by decide) ordered.ascending]
    simp only [parts, List.flatMap_cons, keptDescription, keptType]
    rfl

theorem domains_reads {place : Pointer} {v : Json} (h : Schema.each Schema.domain place v = [])
    (ordered : v.Ordered) :
    ReadsAs decodeDomains (fun domains => .object (domains.entries.map fun e => (e.1, e.2.encode)))
      v (Kept.each Kept.domain v) := by
  obtain ⟨given, rfl, passes⟩ := each_eq_nil_iff.1 h
  obtain ⟨entries, read, keys, written⟩ := each_reads fun m member =>
    domain_reads (passes m member) ((ordered_object_iff.1 ordered).2 m member)
  -- the domains stand in ascending order, so the table holds them as they are
  have ascending : Keyed.Ascending entries := by
    rw [Keyed.Ascending, keys]
    exact ordered.ascending
  refine ⟨.ofList entries, ?_, ?_⟩
  · simp only [decodeDomains, decodeObject, ok_bind, read]
    rfl
  · show Json.object ((Keyed.sorted entries).map fun e => (e.1, e.2.encode)) = _
    rw [Keyed.sorted_of_ascending ascending, written]
    rfl

theorem metadata_reads {place : Pointer} {v : Json} (h : Schema.metadata place v = [])
    (ordered : v.Ordered) : ReadsAs Metadata.decode Metadata.encode v (Kept.metadata v) := by
  obtain ⟨given, rfl, passes⟩ := record_eq_nil_iff.1 h
  simp only [List.forall_mem_cons] at passes
  obtain ⟨name, readName, keptName⟩ := optional_text_reads passes.1
  obtain ⟨description, readDescription, keptDescription⟩ := optional_text_reads passes.2.1
  obtain ⟨domains, readDomains, keptDomains⟩ :=
    required_reads passes.2.2.1 fun _ found passed => domains_reads passed (ordered.member found)
  refine ⟨⟨name, description, domains⟩, ?_, ?_⟩
  · simp only [Metadata.decode, decodeObject, ok_bind, readName, readDescription, readDomains]
    rfl
  · rw [Kept.metadata, Kept.record, ← parts_eq_members (by decide) ordered.ascending]
    simp only [parts, List.flatMap_cons, keptName, keptDescription, keptDomains]
    simp only [Metadata.encode, optionalText, List.append_assoc, List.flatMap_nil, List.append_nil]

theorem lineNumber_reads {place : Pointer} {v : Json} (h : lineNumber place v = []) :
    ReadsAs decodeLine (fun n => .int n.toNat) v (id v) := by
  obtain ⟨n, rfl, low, high⟩ := lineNumber_eq_nil_iff.1 h
  have limit : lineLimit = 4294967295 := rfl
  have size : UInt32.size = 4294967296 := rfl
  rw [limit] at high
  refine ⟨UInt32.ofNat n.toNat, if_pos ⟨by omega, by rw [size]; omega⟩, ?_⟩
  show Json.int (UInt32.ofNat n.toNat).toNat = Json.int n
  rw [UInt32.toNat_ofNat', Nat.mod_eq_of_lt (by omega), Int.toNat_of_nonneg (by omega)]

theorem sourceLocation_reads {place : Pointer} {v : Json} (h : Schema.sourceLocation place v = [])
    (ordered : v.Ordered) :
    ReadsAs SourceLocation.decode SourceLocation.encode v (Kept.sourceLocation v) := by
  obtain ⟨given, rfl, passes⟩ := record_eq_nil_iff.1 h
  simp only [List.forall_mem_cons] at passes
  obtain ⟨repository, readRepository, keptRepository⟩ := required_text_reads passes.1
  obtain ⟨path, readPath, keptPath⟩ := required_text_reads passes.2.1
  obtain ⟨line, readLine, keptLine⟩ :=
    optional_reads passes.2.2.1 (fun _ => List.cons_ne_nil _ _) fun _ _ => lineNumber_reads
  refine ⟨⟨repository, path, line⟩, ?_, ?_⟩
  · simp only [SourceLocation.decode, decodeObject, ok_bind, readRepository, readPath, readLine]
    rfl
  · rw [Kept.sourceLocation, Kept.record, ← parts_eq_members (by decide) ordered.ascending]
    simp only [parts, List.flatMap_cons, keptRepository, keptPath, keptLine]
    simp only [SourceLocation.encode, List.append_assoc, List.flatMap_nil, List.append_nil]

/-! ## Components -/

theorem decodeType_reads {place : Pointer} {v : Json}
    (h : oneOf (ComponentType.all.map (·.name)) place v = []) :
    ReadsAs decodeType (fun type => .string type.name) v (id v) := by
  obtain ⟨s, rfl, member⟩ := oneOf_eq_nil_iff.1 h
  obtain ⟨type, -, rfl⟩ := List.mem_map.1 member
  refine ⟨type, ?_, rfl⟩
  rw [decodeType, ComponentType.ofName?_name]

theorem events_reads {place : Pointer} {v : Json} (h : Schema.list (fun _ => text) place v = [])
    (ordered : v.Ordered) :
    ReadsAs (decodeList decodeString) (fun events => .array (events.map .string)) v (id v) := by
  have whole : Kept.list id v = id v := by
    cases v with
    | array items => exact congrArg Json.array (List.map_id items)
    | _ => rfl
  rw [← whole]
  exact list_reads h ordered fun _ _ _ passed _ => text_reads passed

/-- The details of a type are decoded as details of that type. -/
theorem details_reads {place : Pointer} {given : List (String × Json)} {type : ComponentType}
    (passes : ∀ check ∈ Schema.detailsOf type, check place given = [])
    (ordered : (Json.object given).Ordered) :
    ∃ d, Details.decode given type = .ok d ∧ d.type = type ∧
      parts (Kept.detailsOf type) given = d.members := by
  cases type with
  | useCase => exact ⟨.useCase, rfl, rfl, rfl⟩
  | ui =>
    simp only [Schema.detailsOf, List.forall_mem_cons] at passes
    obtain ⟨route, read, keptRoute⟩ := required_text_reads passes.1
    refine ⟨.ui route, ?_, rfl, ?_⟩
    · simp only [Details.decode, read]
      rfl
    · simp only [parts, Kept.detailsOf, List.flatMap_cons, keptRoute]
      rfl
  | event =>
    simp only [Schema.detailsOf, List.forall_mem_cons] at passes
    obtain ⟨name, read, keptName⟩ := required_text_reads passes.1
    refine ⟨.event name, ?_, rfl, ?_⟩
    · simp only [Details.decode, read]
      rfl
    · simp only [parts, Kept.detailsOf, List.flatMap_cons, keptName]
      rfl
  | custom =>
    simp only [Schema.detailsOf, List.forall_mem_cons] at passes
    obtain ⟨name, read, keptName⟩ := required_text_reads passes.1
    refine ⟨.custom name, ?_, rfl, ?_⟩
    · simp only [Details.decode, read]
      rfl
    · simp only [parts, Kept.detailsOf, List.flatMap_cons, keptName]
      rfl
  | eventHandler =>
    simp only [Schema.detailsOf, List.forall_mem_cons] at passes
    obtain ⟨events, read, keptEvents⟩ := required_reads passes.1 fun _ found passed =>
      events_reads passed (ordered.member found)
    refine ⟨.eventHandler events, ?_, rfl, ?_⟩
    · simp only [Details.decode, read]
      rfl
    · simp only [parts, Kept.detailsOf, List.flatMap_cons, keptEvents]
      rfl
  | domainOp =>
    simp only [Schema.detailsOf, List.forall_mem_cons] at passes
    obtain ⟨name, readName, keptName⟩ := required_text_reads passes.1
    obtain ⟨entity, readEntity, keptEntity⟩ := optional_text_reads passes.2.1
    refine ⟨.domainOp name entity, ?_, rfl, ?_⟩
    · simp only [Details.decode, readName, readEntity]
      rfl
    · simp only [parts, Kept.detailsOf, List.flatMap_cons, keptName, keptEntity]
      rfl
  | api =>
    simp only [Schema.detailsOf, List.forall_mem_cons] at passes
    obtain ⟨style, readStyle, keptStyle⟩ :=
      required_reads passes.1 fun _ _ => oneOf_reads ApiType.ofName?_name
    obtain ⟨method, readMethod, keptMethod⟩ := optional_reads passes.2.1
      (fun _ => List.cons_ne_nil _ _) fun _ _ => oneOf_reads HttpMethod.ofName?_name
    obtain ⟨path, readPath, keptPath⟩ := optional_text_reads passes.2.2.1
    refine ⟨.api style method path, ?_, rfl, ?_⟩
    · simp only [Details.decode, ApiType.decode, HttpMethod.decode, readStyle, readMethod, readPath]
      rfl
    · simp only [parts, Kept.detailsOf, List.flatMap_cons, keptStyle, keptMethod, keptPath]
      simp only [Details.members, optionalText, Option.map_map, Function.comp_def,
        List.append_assoc, List.flatMap_nil, List.append_nil]

theorem identifier_reads_text {s : String} (proper : (ComponentId.ofText? s).isSome) :
    ReadsAs ComponentId.decode ComponentId.encode (.string s) (id (.string s)) := by
  obtain ⟨a, found⟩ := Option.isSome_iff_exists.1 proper
  refine ⟨a, ?_, congrArg Json.string (ComponentId.text_of_ofText? found)⟩
  rw [ComponentId.decode_string, found, Option.elim_some]

theorem identifier_reads {place : Pointer} {v : Json} (h : identifier place v = []) :
    ReadsAs ComponentId.decode ComponentId.encode v (id v) := by
  obtain ⟨s, rfl, proper⟩ := identifier_eq_nil_iff.1 h
  exact identifier_reads_text proper

theorem distinct_knownOf (type : ComponentType) :
    ((common ++ Kept.detailsOf type).map (·.1)).Nodup := by
  cases type <;> decide

theorem component_reads {domains : Option (List String)} {before : List Json} {place : Pointer}
    {v : Json} (h : Schema.component domains before place v = []) (ordered : v.Ordered) :
    ReadsAs Component.decode Component.encode v (Kept.component v) := by
  obtain ⟨given, rfl, passes⟩ := record_eq_nil_iff.1 h
  simp only [List.forall_mem_cons] at passes
  obtain ⟨passId, passName, passDomain, passModule, passDescription, passLocation, passType,
    passDetails, -⟩ := passes
  obtain ⟨id, readId, keptId⟩ := required_reads passId fun _ _ => identifier_reads
  obtain ⟨name, readName, keptName⟩ := required_text_reads passName
  obtain ⟨domain, readDomain, keptDomain⟩ := required_text_reads passDomain
  obtain ⟨module, readModule, keptModule⟩ := required_text_reads passModule
  obtain ⟨description, readDescription, keptDescription⟩ := optional_text_reads passDescription
  obtain ⟨location, readLocation, keptLocation⟩ := required_reads passLocation
    fun _ found passed => sourceLocation_reads passed (ordered.member found)
  obtain ⟨type, readType, keptType⟩ := required_reads passType fun _ _ => decodeType_reads
  -- the type that is decoded tells which details were checked
  have typed := typeOf?_of_decoded readType
  rw [typeOf?] at typed
  rw [details, typed] at passDetails
  obtain ⟨d, readDetails, sameType, keptDetails⟩ :=
    details_reads (List.flatMap_eq_nil_iff.1 passDetails) ordered
  subst sameType
  refine ⟨⟨id, name, domain, module, location, description, d⟩, ?_, ?_⟩
  · simp only [Component.decode, decodeObject, ok_bind, readType, readId, readName, readDomain,
      readModule, readLocation, readDescription, readDetails]
    rfl
  · have commonParts :
        Component.commonMembers ⟨id, name, domain, module, location, description, d⟩ =
          parts common given := by
      simp only [parts, common, List.flatMap_cons, keptId, keptName, keptDomain, keptModule,
        keptDescription, keptLocation, keptType]
      rfl
    -- common members and details are sorted together, wherever they stood
    rw [Kept.component, Kept.record, knownOf_of_type typed,
      ← sorted_parts (distinct_knownOf d.type) ordered.ascending, parts, List.flatMap_append]
    rw [parts] at commonParts keptDetails
    rw [← commonParts, keptDetails]
    rfl

/-! ## Links -/

theorem externalTarget_reads {place : Pointer} {v : Json} (h : Schema.externalTarget place v = [])
    (ordered : v.Ordered) :
    ReadsAs ExternalTarget.decode ExternalTarget.encode v (Kept.externalTarget v) := by
  obtain ⟨given, rfl, passes⟩ := record_eq_nil_iff.1 h
  simp only [List.forall_mem_cons] at passes
  obtain ⟨name, readName, keptName⟩ := required_text_reads passes.1
  obtain ⟨domain, readDomain, keptDomain⟩ := optional_text_reads passes.2.1
  obtain ⟨url, readUrl, keptUrl⟩ := optional_text_reads passes.2.2.1
  refine ⟨⟨name, domain, url⟩, ?_, ?_⟩
  · simp only [ExternalTarget.decode, decodeObject, ok_bind, readName, readDomain, readUrl]
    rfl
  · rw [Kept.externalTarget, Kept.record, ← parts_eq_members (by decide) ordered.ascending]
    simp only [parts, List.flatMap_cons, keptName, keptDomain, keptUrl]
    simp only [ExternalTarget.encode, optionalText, List.append_assoc, List.flatMap_nil,
      List.append_nil]

section Links

variable {ids : List String} (proper : ∀ s ∈ ids, (ComponentId.ofText? s).isSome)
  {place : Pointer} {v : Json}

include proper

theorem reference_reads (h : reference ids place v = []) :
    ReadsAs ComponentId.decode ComponentId.encode v (id v) := by
  obtain ⟨s, rfl, member⟩ := reference_eq_nil_iff.1 h
  exact identifier_reads_text (proper s member)

theorem link_reads (h : Schema.link ids place v = []) (ordered : v.Ordered) :
    ReadsAs Link.decode Link.encode v (Kept.link v) := by
  obtain ⟨given, rfl, passes⟩ := record_eq_nil_iff.1 h
  simp only [List.forall_mem_cons] at passes
  obtain ⟨id, readId, keptId⟩ := optional_text_reads passes.1
  obtain ⟨type, readType, keptType⟩ := optional_reads passes.2.1
    (fun _ => List.cons_ne_nil _ _) fun _ _ => oneOf_reads LinkType.ofName?_name
  obtain ⟨source, readSource, keptSource⟩ :=
    required_reads passes.2.2.1 fun _ _ => reference_reads proper
  obtain ⟨target, readTarget, keptTarget⟩ :=
    required_reads passes.2.2.2.1 fun _ _ => reference_reads proper
  refine ⟨⟨id, source, target, type⟩, ?_, ?_⟩
  · simp only [Link.decode, decodeObject, ok_bind, LinkType.decode, readId, readType, readSource,
      readTarget]
    rfl
  · rw [Kept.link, Kept.record, ← parts_eq_members (by decide) ordered.ascending]
    simp only [parts, List.flatMap_cons, keptId, keptType, keptSource, keptTarget]
    simp only [Link.encode, optionalText, Option.map_map, Function.comp_def, List.append_assoc,
      List.cons_append, List.flatMap_nil, List.append_nil, List.nil_append]

theorem externalLink_reads (h : Schema.externalLink ids place v = []) (ordered : v.Ordered) :
    ReadsAs ExternalLink.decode ExternalLink.encode v (Kept.externalLink v) := by
  obtain ⟨given, rfl, passes⟩ := record_eq_nil_iff.1 h
  simp only [List.forall_mem_cons] at passes
  obtain ⟨type, readType, keptType⟩ := optional_reads passes.1
    (fun _ => List.cons_ne_nil _ _) fun _ _ => oneOf_reads LinkType.ofName?_name
  obtain ⟨source, readSource, keptSource⟩ :=
    required_reads passes.2.1 fun _ _ => reference_reads proper
  obtain ⟨target, readTarget, keptTarget⟩ := required_reads passes.2.2.1
    fun _ found passed => externalTarget_reads passed (ordered.member found)
  refine ⟨⟨source, target, type⟩, ?_, ?_⟩
  · simp only [ExternalLink.decode, decodeObject, ok_bind, LinkType.decode, readType, readSource,
      readTarget]
    rfl
  · rw [Kept.externalLink, Kept.record, ← parts_eq_members (by decide) ordered.ascending]
    simp only [parts, List.flatMap_cons, keptType, keptSource, keptTarget]
    simp only [ExternalLink.encode, optionalText, Option.map_map, Function.comp_def,
      List.cons_append, List.flatMap_nil, List.append_nil, List.nil_append]

end Links

end ComponentAtlas.Graph
