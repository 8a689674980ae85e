import ComponentAtlas.Proofs.Graph.Reading

/-! # Graphs come back from their documents

What stands under the keys of the documents that are written, for every type of a graph, and that
decoding such a document gives the value it was written from. Identifiers come back if they are ones
that can be made; those that are decoded can be. -/

namespace ComponentAtlas

open Json

namespace Graph

/-! ## Members that are written and decoded -/

section Members

variable {α : Type} {decode : Json → Decoded α} {encode : α → Json}
  {members : List (String × Json)} {key : String}

theorem decodeRequired_of_found {v : Json} {a : α} (found : memberOf? members key = some v)
    (read : decode v = .ok a) : decodeRequired decode members key = .ok a := by
  rw [decodeRequired, decodeMember_of_some found read]
  rfl

theorem decodeRequired_text {s : String} (found : memberOf? members key = some (.string s)) :
    decodeRequired decodeString members key = .ok s :=
  decodeRequired_of_found found rfl

/-- An optional member that was written is decoded, unless it is written as null. -/
theorem decodeOptional_of_found {o : Option α} (found : memberOf? members key = o.map encode)
    (read : ∀ a, o = some a → decode (encode a) = .ok a) (visible : ∀ a, encode a ≠ .null) :
    decodeOptional decode members key = .ok o := by
  cases o with
  | none =>
    rw [decodeOptional, decodeMember_of_none found]
    rfl
  | some a =>
    have present : decodeOption decode (encode a) = .ok (some a) := by
      have same := congrArg (Except.map some) (read a rfl)
      cases written : encode a with
      | null => exact absurd written (visible a)
      | _ =>
        rw [written] at same
        exact same
    rw [decodeOptional, decodeMember_of_some found present]
    rfl

theorem decodeOptional_text {o : Option String} (found : memberOf? members key = o.map .string) :
    decodeOptional decodeString members key = .ok o :=
  decodeOptional_of_found found (fun _ _ => rfl) fun _ same => by cases same

section Names

variable {ofName? : String → Option α} {name : α → String} {known : List String}
  (named : ∀ a, ofName? (name a) = some a)

include named

theorem decodeRequired_name {a : α} (found : memberOf? members key = some (.string (name a))) :
    decodeRequired (decodeName ofName? known) members key = .ok a :=
  decodeRequired_of_found found (decodeName_of_found (named a))

theorem decodeOptional_name {o : Option α}
    (found : memberOf? members key = o.map fun a => .string (name a)) :
    decodeOptional (decodeName ofName? known) members key = .ok o :=
  decodeOptional_of_found found (fun a _ => decodeName_of_found (named a))
    fun _ same => by cases same

end Names

end Members

/-! ## Metadata -/

theorem Domain.encode_members (d : Domain) :
    ∃ members, d.encode = .object members ∧
      memberOf? members "description" = some (.string d.description) ∧
      memberOf? members "systemType" = some (.string d.systemType.name) :=
  ⟨_, rfl, rfl, rfl⟩

theorem Domain.decode_encode (d : Domain) : Domain.decode d.encode = .ok d := by
  obtain ⟨members, written, description, systemType⟩ := d.encode_members
  simp only [written, Domain.decode, decodeObject, ok_bind, SystemType.decode,
    decodeRequired_text description,
    decodeRequired_name SystemType.ofName?_name systemType]
  rfl

theorem decodeEach_map {entries : List (String × Domain)} :
    decodeEach Domain.decode (entries.map fun e => (e.1, e.2.encode)) = .ok entries := by
  induction entries with
  | nil => rfl
  | cons e rest ih =>
    simp only [List.map_cons, decodeEach, Domain.decode_encode, ih, ok_bind]
    rfl

theorem Metadata.encode_members (m : Metadata) :
    ∃ members, m.encode = .object members ∧
      memberOf? members "name" = m.name.map .string ∧
      memberOf? members "description" = m.description.map .string ∧
      memberOf? members "domains" =
        some (.object (m.domains.entries.map fun e => (e.1, e.2.encode))) := by
  refine ⟨_, rfl, ?_, ?_, ?_⟩ <;> cases m.description <;> cases m.name <;> rfl

theorem Metadata.decode_encode (m : Metadata) : Metadata.decode m.encode = .ok m := by
  obtain ⟨members, written, name, description, domains⟩ := m.encode_members
  have table : decodeDomains (.object (m.domains.entries.map fun e => (e.1, e.2.encode))) =
      .ok m.domains := by
    simp only [decodeDomains, decodeObject, ok_bind, decodeEach_map]
    show Except.ok (Keyed.mk (Keyed.sorted m.domains.entries) _) = Except.ok m.domains
    simp only [Keyed.sorted_of_ascending m.domains.ascending]
  simp only [written, Metadata.decode, decodeObject, ok_bind, decodeOptional_text name,
    decodeOptional_text description, decodeRequired_of_found domains table]
  rfl

/-! ## Components -/

theorem SourceLocation.encode_members (l : SourceLocation) :
    ∃ members, l.encode = .object members ∧
      memberOf? members "repository" = some (.string l.repository) ∧
      memberOf? members "filePath" = some (.string l.filePath) ∧
      memberOf? members "lineNumber" = l.lineNumber.map fun n => .int n.toNat := by
  refine ⟨_, rfl, ?_, ?_, ?_⟩ <;> cases l.lineNumber <;> rfl

theorem decodeLine_toNat (n : UInt32) : decodeLine (.int n.toNat) = .ok n := by
  have bounded := n.toNat_lt_size
  rw [int, decodeLine, if_pos ⟨by omega, by omega⟩, Int.toNat_natCast, UInt32.ofNat_toNat]

theorem SourceLocation.decode_encode (l : SourceLocation) :
    SourceLocation.decode l.encode = .ok l := by
  obtain ⟨members, written, repository, filePath, lineNumber⟩ := l.encode_members
  simp only [written, SourceLocation.decode, decodeObject, ok_bind,
    decodeRequired_text repository, decodeRequired_text filePath,
    decodeOptional_of_found lineNumber (fun n _ => decodeLine_toNat n) fun _ same => by cases same]
  rfl

theorem keys_optional_sublist (key : String) (o : Option Json) :
    ((Json.optional key o).map (·.1)).Sublist [key] := by
  cases o with
  | none => exact List.nil_sublist _
  | some v => exact .refl _

theorem Component.keys_sublist (c : Component) :
    (c.commonMembers.map (·.1)).Sublist (Kept.common.map (·.1)) := by
  rw [commonMembers, List.map_append]
  exact (keys_optional_sublist _ _).append (.refl _)

/-- Details are written under the keys that their type knows. -/
theorem Details.keys_sublist (d : Details) :
    (d.members.map (·.1)).Sublist ((Kept.detailsOf d.type).map (·.1)) := by
  cases d with
  | api apiType method path =>
    simp only [members, List.map_append]
    exact ((List.Sublist.refl ["apiType"]).append (keys_optional_sublist _ _)).append
      (keys_optional_sublist _ _)
  | domainOp operationName entity =>
    simp only [members, List.map_append]
    exact (keys_optional_sublist _ _).append (.refl _)
  | _ => exact .refl _

/-- The members of the document of a component. -/
def Component.members (c : Component) : List (String × Json) :=
  Keyed.sorted (c.commonMembers ++ c.details.members)

/-- Under a key that every component knows stands a common member, and under any other key one of
the details. -/
theorem Component.memberOf?_members (c : Component) (key : String) :
    memberOf? c.members key =
      if key ∈ Kept.common.map (·.1) then c.commonMembers.lookup key
      else c.details.members.lookup key := by
  have known := distinct_knownOf c.details.type
  have distinct : ((c.commonMembers ++ c.details.members).map (·.1)).Nodup := by
    rw [List.map_append] at known ⊢
    exact known.sublist (c.keys_sublist.append c.details.keys_sublist)
  rw [List.map_append] at known
  rw [members, memberOf?, Keyed.lookup_sorted distinct, List.lookup_append]
  split
  · next common =>
    have absent : c.details.members.lookup key = none :=
      Keyed.lookup_eq_none_iff.2 fun member =>
        (List.nodup_append.1 known).2.2 key common key (c.details.keys_sublist.subset member) rfl
    rw [absent, Option.or_none]
  · next other =>
    have absent : c.commonMembers.lookup key = none :=
      Keyed.lookup_eq_none_iff.2 fun member => other (c.keys_sublist.subset member)
    rw [absent, Option.none_or]

theorem Component.encode_members (c : Component) :
    c.encode = .object c.members ∧
      memberOf? c.members "id" = some c.id.encode ∧
      memberOf? c.members "name" = some (.string c.name) ∧
      memberOf? c.members "domain" = some (.string c.domain) ∧
      memberOf? c.members "module" = some (.string c.module) ∧
      memberOf? c.members "sourceLocation" = some c.location.encode ∧
      memberOf? c.members "description" = c.description.map .string ∧
      memberOf? c.members "type" = some (.string c.details.type.name) := by
  refine ⟨rfl, ?_⟩
  simp only [memberOf?_members, commonMembers]
  cases c.description <;> exact ⟨rfl, rfl, rfl, rfl, rfl, rfl, rfl⟩

/-- The members hold details: under a key that components of every type do not know stands what
the details have there. -/
def Details.Given (d : Details) (members : List (String × Json)) : Prop :=
  ∀ key, key ∉ Kept.common.map (·.1) → memberOf? members key = d.members.lookup key

theorem Component.details_given (c : Component) : c.details.Given c.members := by
  intro key other
  rw [memberOf?_members, if_neg other]

theorem Details.Given.domainOp {operationName : String} {entity : Option String}
    {members : List (String × Json)} (given : (domainOp operationName entity).Given members) :
    memberOf? members "operationName" = some (.string operationName) ∧
      memberOf? members "entity" = entity.map .string := by
  rw [given "operationName" (by decide), given "entity" (by decide)]
  cases entity <;> exact ⟨rfl, rfl⟩

theorem Details.Given.api {style : ApiType} {method : Option HttpMethod} {path : Option String}
    {members : List (String × Json)} (given : (api style method path).Given members) :
    memberOf? members "apiType" = some (.string style.name) ∧
      memberOf? members "httpMethod" = (method.map fun m => .string m.name) ∧
      memberOf? members "path" = path.map .string := by
  rw [given "apiType" (by decide), given "httpMethod" (by decide), given "path" (by decide)]
  cases method <;> cases path <;> exact ⟨rfl, rfl, rfl⟩

theorem Details.Given.decode {d : Details} {members : List (String × Json)}
    (given : d.Given members) : Details.decode members d.type = .ok d := by
  cases d with
  | useCase => rfl
  | ui route =>
    simp only [Details.type, Details.decode, decodeRequired_text (given "route" (by decide))]
    rfl
  | event eventName =>
    simp only [Details.type, Details.decode, decodeRequired_text (given "eventName" (by decide))]
    rfl
  | custom typeName =>
    simp only [Details.type, Details.decode,
      decodeRequired_text (given "customTypeName" (by decide))]
    rfl
  | eventHandler events =>
    have list : decodeList decodeString (.array (events.map .string)) = .ok events :=
      decodeList_map events fun _ _ => rfl
    simp only [Details.type, Details.decode,
      decodeRequired_of_found (given "subscribedEvents" (by decide)) list]
    rfl
  | domainOp operationName entity =>
    obtain ⟨operation, optional⟩ := given.domainOp
    simp only [Details.type, Details.decode, decodeRequired_text operation,
      decodeOptional_text optional]
    rfl
  | api style method path =>
    obtain ⟨foundStyle, foundMethod, foundPath⟩ := given.api
    simp only [Details.type, Details.decode, ApiType.decode, HttpMethod.decode,
      decodeRequired_name ApiType.ofName?_name foundStyle,
      decodeOptional_name HttpMethod.ofName?_name foundMethod, decodeOptional_text foundPath]
    rfl

theorem Component.decode_encode (c : Component) (made : c.id.Made) :
    Component.decode c.encode = .ok c := by
  obtain ⟨written, id, name, domain, module, location, description, type⟩ := c.encode_members
  have typed : decodeType (.string c.details.type.name) = .ok c.details.type := by
    rw [decodeType, ComponentType.ofName?_name]
  simp only [written, Component.decode, decodeObject, ok_bind, decodeRequired_of_found type typed,
    decodeRequired_of_found id made.decode_encode, decodeRequired_text name,
    decodeRequired_text domain, decodeRequired_text module,
    decodeRequired_of_found location c.location.decode_encode, decodeOptional_text description,
    c.details_given.decode]
  rfl

/-! ## Links -/

theorem Link.encode_members (l : Link) :
    ∃ members, l.encode = .object members ∧
      memberOf? members "id" = l.id.map .string ∧
      memberOf? members "source" = some l.source.encode ∧
      memberOf? members "target" = some l.target.encode ∧
      memberOf? members "type" = l.type.map fun t => .string t.name := by
  refine ⟨_, rfl, ?_⟩
  cases l.id <;> cases l.type <;> exact ⟨rfl, rfl, rfl, rfl⟩

theorem Link.decode_encode (l : Link) (source : l.source.Made) (target : l.target.Made) :
    Link.decode l.encode = .ok l := by
  obtain ⟨members, written, foundId, foundSource, foundTarget, foundType⟩ := l.encode_members
  simp only [written, Link.decode, decodeObject, ok_bind, LinkType.decode,
    decodeOptional_text foundId, decodeRequired_of_found foundSource source.decode_encode,
    decodeRequired_of_found foundTarget target.decode_encode,
    decodeOptional_name LinkType.ofName?_name foundType]
  rfl

theorem ExternalTarget.encode_members (t : ExternalTarget) :
    ∃ members, t.encode = .object members ∧
      memberOf? members "name" = some (.string t.name) ∧
      memberOf? members "domain" = t.domain.map .string ∧
      memberOf? members "url" = t.url.map .string := by
  refine ⟨_, rfl, ?_⟩
  cases t.domain <;> cases t.url <;> exact ⟨rfl, rfl, rfl⟩

theorem ExternalTarget.decode_encode (t : ExternalTarget) :
    ExternalTarget.decode t.encode = .ok t := by
  obtain ⟨members, written, name, domain, url⟩ := t.encode_members
  simp only [written, ExternalTarget.decode, decodeObject, ok_bind, decodeRequired_text name,
    decodeOptional_text domain, decodeOptional_text url]
  rfl

theorem ExternalLink.encode_members (l : ExternalLink) :
    ∃ members, l.encode = .object members ∧
      memberOf? members "source" = some l.source.encode ∧
      memberOf? members "target" = some l.target.encode ∧
      memberOf? members "type" = l.type.map fun t => .string t.name := by
  refine ⟨_, rfl, ?_⟩
  cases l.type <;> exact ⟨rfl, rfl, rfl⟩

theorem ExternalLink.decode_encode (l : ExternalLink) (source : l.source.Made) :
    ExternalLink.decode l.encode = .ok l := by
  obtain ⟨members, written, foundSource, foundTarget, foundType⟩ := l.encode_members
  simp only [written, ExternalLink.decode, decodeObject, ok_bind, LinkType.decode,
    decodeRequired_of_found foundSource source.decode_encode,
    decodeRequired_of_found foundTarget l.target.decode_encode,
    decodeOptional_name LinkType.ofName?_name foundType]
  rfl

/-! ## Graphs -/

/-- Every identifier in the graph is one that can be made. -/
structure Made (g : Graph) : Prop where
  components : ∀ c ∈ g.components, c.id.Made
  links : ∀ l ∈ g.links, l.source.Made ∧ l.target.Made
  externalLinks : ∀ links, g.externalLinks = some links → ∀ l ∈ links, l.source.Made

theorem encode_members (g : Graph) :
    ∃ members, g.encode = .object members ∧
      memberOf? members "version" = some (.string g.version) ∧
      memberOf? members "metadata" = some g.metadata.encode ∧
      memberOf? members "components" = some (.array (g.components.map Component.encode)) ∧
      memberOf? members "links" = some (.array (g.links.map Link.encode)) ∧
      memberOf? members "externalLinks" =
        g.externalLinks.map fun links => .array (links.map ExternalLink.encode) := by
  refine ⟨_, rfl, ?_⟩
  cases g.externalLinks <;> exact ⟨rfl, rfl, rfl, rfl, rfl⟩

/-- A graph comes back from its document. -/
theorem decode_encode {g : Graph} (made : g.Made) : Graph.decode g.encode = .ok g := by
  obtain ⟨members, written, version, metadata, components, links, external⟩ := g.encode_members
  have readComponents := decodeList_map g.components fun c member =>
    c.decode_encode (made.components c member)
  have readLinks := decodeList_map g.links fun l member =>
    l.decode_encode (made.links l member).1 (made.links l member).2
  have readExternal : decodeOptional (decodeList ExternalLink.decode) members "externalLinks" =
      .ok g.externalLinks := by
    refine decodeOptional_of_found external (fun list given => ?_) fun _ same => by cases same
    exact decodeList_map list fun l member =>
      l.decode_encode (made.externalLinks list given l member)
  simp only [written, Graph.decode, decodeObject, ok_bind, decodeRequired_text version,
    decodeRequired_of_found metadata g.metadata.decode_encode,
    decodeRequired_of_found components readComponents, decodeRequired_of_found links readLinks,
    readExternal]
  rfl

/-! ## What is decoded -/

section Decoded

variable {α β : Type}

theorem bind_eq_ok {x : Decoded α} {f : α → Decoded β} {b : β} :
    (x >>= f) = .ok b ↔ ∃ a, x = .ok a ∧ f a = .ok b := by
  cases x with
  | error e => simp [bind, Except.bind]
  | ok a => simp [bind, Except.bind]

theorem map_eq_ok {x : Decoded α} {f : α → β} {b : β} :
    x.map f = .ok b ↔ ∃ a, x = .ok a ∧ f a = b := by
  cases x with
  | error e => simp [Except.map]
  | ok a => simp [Except.map]

variable {decode : Json → Decoded α} {members : List (String × Json)} {key : String}

theorem exists_of_decodeMember {a : α} (h : decodeMember decode members key = .ok (some a)) :
    ∃ v, decode v = .ok a := by
  rw [decodeMember] at h
  split at h
  · cases h
  · next v _ =>
    obtain ⟨b, read, same⟩ := map_eq_ok.1 h
    cases same
    exact ⟨v, read⟩

theorem exists_of_decodeRequired {a : α} (h : decodeRequired decode members key = .ok a) :
    ∃ v, decode v = .ok a := by
  obtain ⟨found, read, required⟩ := bind_eq_ok.1 h
  cases found with
  | none => cases required
  | some other =>
    cases required
    exact exists_of_decodeMember read

theorem exists_of_decodeOptional {a : α}
    (h : decodeOptional decode members key = .ok (some a)) : ∃ v, decode v = .ok a := by
  obtain ⟨found, read, joined⟩ := bind_eq_ok.1 h
  injection joined with joined
  rw [Option.join_eq_some_iff] at joined
  rw [joined] at read
  obtain ⟨v, read⟩ := exists_of_decodeMember read
  cases v with
  | null => cases read
  | _ =>
    obtain ⟨b, read, same⟩ := map_eq_ok.1 read
    cases same
    exact ⟨_, read⟩

theorem exists_of_decodeList {v : Json} {list : List α} (h : decodeList decode v = .ok list) :
    ∀ a ∈ list, ∃ w, decode w = .ok a := by
  cases v with
  | array items =>
    change decodeItems decode items = .ok list at h
    induction items generalizing list with
    | nil =>
      cases h
      exact List.forall_mem_nil _
    | cons v rest ih =>
      obtain ⟨a, first, h⟩ := bind_eq_ok.1 h
      obtain ⟨more, others, same⟩ := bind_eq_ok.1 h
      cases same
      exact List.forall_mem_cons.2 ⟨⟨v, first⟩, ih others⟩
  | _ => cases h

end Decoded

theorem Component.made_of_decode {v : Json} {c : Component} (h : Component.decode v = .ok c) :
    c.id.Made := by
  simp only [Component.decode, bind_eq_ok] at h
  obtain ⟨_, -, _, -, id, readId, _, -, _, -, _, -, _, -, _, -, _, -, same⟩ := h
  cases same
  obtain ⟨w, read⟩ := exists_of_decodeRequired readId
  exact ComponentId.made_of_decode read

theorem Link.made_of_decode {v : Json} {l : Link} (h : Link.decode v = .ok l) :
    l.source.Made ∧ l.target.Made := by
  simp only [Link.decode, bind_eq_ok] at h
  obtain ⟨_, -, _, -, source, readSource, target, readTarget, _, -, same⟩ := h
  cases same
  obtain ⟨w, source⟩ := exists_of_decodeRequired readSource
  obtain ⟨u, target⟩ := exists_of_decodeRequired readTarget
  exact ⟨ComponentId.made_of_decode source, ComponentId.made_of_decode target⟩

theorem ExternalLink.made_of_decode {v : Json} {l : ExternalLink}
    (h : ExternalLink.decode v = .ok l) : l.source.Made := by
  simp only [ExternalLink.decode, bind_eq_ok] at h
  obtain ⟨_, -, source, readSource, _, -, _, -, same⟩ := h
  cases same
  obtain ⟨w, read⟩ := exists_of_decodeRequired readSource
  exact ComponentId.made_of_decode read

/-- The identifiers of a graph that is decoded are ones that can be made. -/
theorem made_of_decode {v : Json} {g : Graph} (h : Graph.decode v = .ok g) : g.Made := by
  simp only [Graph.decode, bind_eq_ok] at h
  obtain ⟨_, -, _, -, _, -, components, readComponents, links, readLinks, external, readExternal,
    same⟩ := h
  cases same
  obtain ⟨_, readComponents⟩ := exists_of_decodeRequired readComponents
  obtain ⟨_, readLinks⟩ := exists_of_decodeRequired readLinks
  refine ⟨fun c member => ?_, fun l member => ?_, fun list given l member => ?_⟩
  · obtain ⟨w, read⟩ := exists_of_decodeList readComponents c member
    exact Component.made_of_decode read
  · obtain ⟨w, read⟩ := exists_of_decodeList readLinks l member
    exact Link.made_of_decode read
  · obtain rfl : external = some list := given
    obtain ⟨_, readList⟩ := exists_of_decodeOptional readExternal
    obtain ⟨w, read⟩ := exists_of_decodeList readList l member
    exact ExternalLink.made_of_decode read

end Graph

end ComponentAtlas
