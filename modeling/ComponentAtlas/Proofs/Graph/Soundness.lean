import ComponentAtlas.Proofs.Graph.Acceptance
import ComponentAtlas.Proofs.Graph.Gate
import ComponentAtlas.Proofs.Graph.RoundTrip

/-! # Sound graphs

The gate of graphs makes sound graphs only, and a graph passes it by its document if and only if it
is sound. The forms of values that the schema asks for hold of every document that is written, apart
from the version and the line numbers; what remains is that the parts of the graph fit together. -/

namespace ComponentAtlas.Graph

open Json

/-- The graph has a proper version and no line zero, its components have identifiers of their own
and lie in domains that it declares, and its links lead from and to components. -/
structure Sound (g : Graph) : Prop where
  version : IsVersionText g.version
  lines : ∀ c ∈ g.components, c.location.lineNumber ≠ some 0
  distinct : (g.components.map (·.id)).Nodup
  declared : ∀ c ∈ g.components, c.domain ∈ g.metadata.domains.keys
  links : ∀ l ∈ g.links,
    l.source ∈ g.components.map (·.id) ∧ l.target ∈ g.components.map (·.id)
  externalLinks : ∀ links, g.externalLinks = some links →
    ∀ l ∈ links, l.source ∈ g.components.map (·.id)

/-! ## Members that are written -/

section Members

variable {α : Type} {encode : α → Json} {form : Json → Prop} {members : List (String × Json)}
  {key : String}

theorem has_text {s : String} (found : memberOf? members key = some (.string s)) :
    Has key IsText members :=
  ⟨_, found, s, rfl⟩

theorem mayHave_iff {o : Option α} (found : memberOf? members key = o.map encode) :
    MayHave key form members ↔ ∀ a, o = some a → form (encode a) := by
  rw [MayHave, found]
  cases o <;> simp

theorem mayHave_text {o : Option String} (found : memberOf? members key = o.map .string) :
    MayHave key IsText members :=
  (mayHave_iff found).2 fun s _ => ⟨s, rfl⟩

end Members

theorem isOneOf_linkType (t : LinkType) : IsOneOf ["sync", "async"] (.string t.name) :=
  ⟨_, rfl, by cases t <;> decide⟩

/-! ## Objects that are written -/

theorem isDomain_encode (d : Domain) : IsDomain d.encode := by
  obtain ⟨members, written, description, systemType⟩ := d.encode_members
  rw [written]
  exact .mk (has_text description) ⟨_, systemType, _, rfl, by cases d.systemType <;> decide⟩

theorem isLineNumber_toNat {n : UInt32} : IsLineNumber (.int n.toNat) ↔ n ≠ 0 := by
  have bounded := n.toNat_lt_size
  have size : UInt32.size = 4294967296 := rfl
  have zero : n = 0 ↔ n.toNat = 0 := UInt32.toNat_inj.symm
  rw [Ne, zero]
  constructor
  · rintro ⟨m, same, low, -⟩ none
    rw [none] at same
    cases same
    omega
  · intro some
    exact ⟨n.toNat, rfl, by omega, by omega⟩

theorem isSourceLocation_encode {l : SourceLocation} :
    IsSourceLocation l.encode ↔ l.lineNumber ≠ some 0 := by
  obtain ⟨members, written, repository, filePath, lineNumber⟩ := l.encode_members
  have line : MayHave "lineNumber" IsLineNumber members ↔ l.lineNumber ≠ some 0 := by
    rw [mayHave_iff lineNumber]
    simp only [isLineNumber_toNat]
    exact ⟨fun h same => h 0 same rfl, fun h n same zero => h (zero ▸ same)⟩
  rw [written, ← line]
  constructor
  · rintro ⟨-, -, h⟩
    exact h
  · exact .mk (has_text repository) (has_text filePath)

/-- Details have what their type asks for. -/
theorem Details.Given.hasDetails {d : Details} {members : List (String × Json)}
    (given : d.Given members) : HasDetails members d.type := by
  cases d with
  | useCase => exact .useCase
  | ui route => exact .ui (has_text (given "route" (by decide)))
  | event eventName => exact .event (has_text (given "eventName" (by decide)))
  | custom typeName => exact .custom (has_text (given "customTypeName" (by decide)))
  | eventHandler events =>
    refine .eventHandler ⟨_, given "subscribedEvents" (by decide), _, rfl, fun v member => ?_⟩
    obtain ⟨s, -, rfl⟩ := List.mem_map.1 member
    exact ⟨s, rfl⟩
  | domainOp operationName entity =>
    obtain ⟨operation, optional⟩ := given.domainOp
    exact .domainOp (has_text operation) (mayHave_text optional)
  | api style method path =>
    obtain ⟨foundStyle, foundMethod, foundPath⟩ := given.api
    exact .api ⟨_, foundStyle, _, rfl, by cases style <;> decide⟩
      ((mayHave_iff foundMethod).2 fun m _ => ⟨_, rfl, by cases m <;> decide⟩)
      (mayHave_text foundPath)

theorem isComponent_encode {c : Component} (made : c.id.Made) :
    IsComponent c.encode ↔ c.location.lineNumber ≠ some 0 := by
  obtain ⟨written, id, name, domain, module, location, description, type⟩ := c.encode_members
  rw [written, ← isSourceLocation_encode]
  constructor
  · rintro ⟨-, -, -, -, -, ⟨_, found, form⟩, -, -⟩
    rw [location] at found
    cases found
    exact form
  · intro form
    have proper : (ComponentId.ofText? c.id.text).isSome := by
      rw [made.ofText?_text]
      rfl
    exact .mk ⟨_, id, _, rfl, proper⟩ (has_text name) (has_text domain) (has_text module)
      (mayHave_text description) ⟨_, location, form⟩ type c.details_given.hasDetails

theorem isLink_encode (l : Link) : IsLink l.encode := by
  obtain ⟨members, written, id, source, target, type⟩ := l.encode_members
  rw [written]
  exact .mk (mayHave_text id) ((mayHave_iff type).2 fun t _ => isOneOf_linkType t)
    (has_text source) (has_text target)

theorem isExternalTarget_encode (t : ExternalTarget) : IsExternalTarget t.encode := by
  obtain ⟨members, written, name, domain, url⟩ := t.encode_members
  rw [written]
  exact .mk (has_text name) (mayHave_text domain) (mayHave_text url)

theorem isExternalLink_encode (l : ExternalLink) : IsExternalLink l.encode := by
  obtain ⟨members, written, source, target, type⟩ := l.encode_members
  rw [written]
  exact .mk ((mayHave_iff type).2 fun t _ => isOneOf_linkType t) (has_text source)
    ⟨_, target, isExternalTarget_encode l.target⟩

/-! ## What the parts say of each other -/

theorem Component.get?_id (c : Component) : c.encode.get? "id" = some c.id.encode :=
  c.encode_members.2.1

theorem Component.get?_domain (c : Component) :
    c.encode.get? "domain" = some (.string c.domain) :=
  c.encode_members.2.2.2.1

theorem Link.get?_source (l : Link) : l.encode.get? "source" = some l.source.encode := by
  obtain ⟨_, written, -, source, -, -⟩ := l.encode_members
  rw [written]
  exact source

theorem Link.get?_target (l : Link) : l.encode.get? "target" = some l.target.encode := by
  obtain ⟨_, written, -, -, target, -⟩ := l.encode_members
  rw [written]
  exact target

theorem ExternalLink.get?_source (l : ExternalLink) :
    l.encode.get? "source" = some l.source.encode := by
  obtain ⟨_, written, source, -, -⟩ := l.encode_members
  rw [written]
  exact source

theorem encode_inj {a b : ComponentId} (ha : a.Made) (hb : b.Made) :
    a.encode = b.encode ↔ a = b := by
  rw [← ha.text_inj hb, ComponentId.encode, ComponentId.encode, Json.string.injEq]

section Components

variable {components : List Component} (made : ∀ c ∈ components, c.id.Made)

include made

theorem refersTo_encode {link : Json} {key : String} {id : ComponentId} (proper : id.Made)
    (found : link.get? key = some id.encode) :
    RefersTo (components.map Component.encode) key link ↔ id ∈ components.map (·.id) := by
  have each (c : Component) (member : c ∈ components) :
      c.encode.get? "id" = link.get? key ↔ c.id = id := by
    rw [c.get?_id, found, Option.some_inj, encode_inj (made c member) proper]
  rw [RefersTo, List.mem_map]
  constructor
  · rintro ⟨_, listed, same⟩
    obtain ⟨c, member, rfl⟩ := List.mem_map.1 listed
    exact ⟨c, member, (each c member).1 same⟩
  · rintro ⟨c, member, same⟩
    exact ⟨_, List.mem_map_of_mem member, (each c member).2 same⟩

theorem distinct_encode :
    ((components.map Component.encode).Pairwise fun a b => a.get? "id" ≠ b.get? "id") ↔
      (components.map (·.id)).Nodup := by
  rw [List.Nodup, List.pairwise_map, List.pairwise_map]
  refine List.Pairwise.iff_of_mem fun {a b} first second => ?_
  rw [a.get?_id, b.get?_id, Ne, Option.some_inj, encode_inj (made a first) (made b second)]

end Components

theorem liesIn_encode {domains : Keyed Domain} {c : Component} :
    LiesIn (domains.entries.map fun e => (e.1, e.2.encode)) c.encode ↔ c.domain ∈ domains.keys := by
  simp only [LiesIn, c.get?_domain, List.map_map, Function.comp_def, Keyed.keys, Option.some_inj,
    Json.string.injEq]
  exact ⟨fun ⟨name, listed, same⟩ => same ▸ listed, fun listed => ⟨_, listed, rfl⟩⟩

/-! ## Graphs -/

theorem isVersion_text {s : String} : IsVersion (.string s) ↔ IsVersionText s :=
  ⟨fun ⟨_, same, form⟩ => Json.string.inj same ▸ form, fun form => ⟨s, rfl, form⟩⟩

theorem isListOf_array {form : Json → Prop} {items : List Json} :
    IsListOf form (.array items) ↔ ∀ item ∈ items, form item :=
  ⟨fun ⟨_, same, each⟩ => Json.array.inj same ▸ each, fun each => ⟨items, rfl, each⟩⟩

section Graph

variable {g : Graph} (made : g.Made)

include made

theorem known_encode {l : Link} (member : l ∈ g.links) :
    RefersTo (g.components.map Component.encode) "source" l.encode ∧
      RefersTo (g.components.map Component.encode) "target" l.encode ↔
    l.source ∈ g.components.map (·.id) ∧ l.target ∈ g.components.map (·.id) :=
  and_congr (refersTo_encode made.components (made.links l member).1 l.get?_source)
    (refersTo_encode made.components (made.links l member).2 l.get?_target)

theorem knownExternal_encode {list : List ExternalLink} (given : g.externalLinks = some list)
    {l : ExternalLink} (member : l ∈ list) :
    RefersTo (g.components.map Component.encode) "source" l.encode ↔
      l.source ∈ g.components.map (·.id) :=
  refersTo_encode made.components (made.externalLinks list given l member) l.get?_source

theorem sound_of_isDocument (h : IsDocument g.encode) : g.Sound := by
  obtain ⟨members, written, version, metadata, components, links, external⟩ := g.encode_members
  obtain ⟨described, writtenMetadata, -, -, domains⟩ := g.metadata.encode_members
  rw [writtenMetadata] at metadata
  rw [written] at h
  -- every member that the document speaks of is the one that is written
  obtain ⟨foundVersion, foundMetadata, -, -, foundDomains, -, foundComponents, eachComponent,
    foundLinks, -, -, distinct, placed, known, knownExternal⟩ := h
  obtain ⟨_, foundVersion, form⟩ := foundVersion
  cases version.symm.trans foundVersion
  cases metadata.symm.trans foundMetadata
  cases domains.symm.trans foundDomains
  cases components.symm.trans foundComponents
  cases links.symm.trans foundLinks
  rw [List.forall_mem_map] at eachComponent placed known
  rw [mayHave_iff external] at knownExternal
  refine ⟨isVersion_text.1 form, fun c member => ?_, (distinct_encode made.components).1 distinct,
    fun c member => liesIn_encode.1 (placed c member),
    fun l member => (known_encode made member).1 (known l member), fun list given l member => ?_⟩
  · exact (isComponent_encode (made.components c member)).1 (eachComponent c member)
  · have each := List.forall_mem_map.1 (isListOf_array.1 (knownExternal list given))
    exact (knownExternal_encode made given member).1 (each l member)

theorem isDocument_of_sound (sound : g.Sound) : IsDocument g.encode := by
  obtain ⟨members, written, version, metadata, components, links, external⟩ := g.encode_members
  obtain ⟨described, writtenMetadata, name, description, domains⟩ := g.metadata.encode_members
  rw [writtenMetadata] at metadata
  rw [written]
  refine .mk ⟨_, version, isVersion_text.2 sound.version⟩ metadata (mayHave_text name)
    (mayHave_text description) domains ?_ components ?_ links ?_ ?_
    ((distinct_encode made.components).2 sound.distinct) ?_ ?_ ?_
  · exact List.forall_mem_map.2 fun e _ => isDomain_encode e.2
  · exact List.forall_mem_map.2 fun c member =>
      (isComponent_encode (made.components c member)).2 (sound.lines c member)
  · exact List.forall_mem_map.2 fun l _ => isLink_encode l
  · exact (mayHave_iff external).2 fun list _ =>
      isListOf_array.2 (List.forall_mem_map.2 fun l _ => isExternalLink_encode l)
  · exact List.forall_mem_map.2 fun c member => liesIn_encode.2 (sound.declared c member)
  · exact List.forall_mem_map.2 fun l member => (known_encode made member).2 (sound.links l member)
  · refine (mayHave_iff external).2 fun list given => isListOf_array.2 ?_
    exact List.forall_mem_map.2 fun l member =>
      (knownExternal_encode made given member).2 (sound.externalLinks list given l member)

theorem check_encode_eq_nil_iff : check g.encode = [] ↔ g.Sound :=
  ⟨fun valid => sound_of_isDocument made (isDocument_of_check valid),
    fun sound => check_of_isDocument (isDocument_of_sound made sound)⟩

theorem ofJson_encode (sound : g.Sound) : ofJson g.encode = .ok g := by
  rw [ofJson_of_valid ((check_encode_eq_nil_iff made).2 sound), decode_encode made]
  rfl

end Graph

theorem made_and_sound_of_ofJson {document : Json} {g : Graph} (ordered : document.Ordered)
    (passed : ofJson document = .ok g) : g.Made ∧ g.Sound := by
  have valid := check_of_ofJson passed
  obtain ⟨other, read, again, written⟩ := ofJson_of_check valid ordered
  cases passed.symm.trans again
  have made := made_of_decode read
  -- the document that the graph writes is the one that was kept of the document it was made from
  have validAgain : check g.encode = [] := by
    rw [written, check_kept]
    exact valid
  exact ⟨made, (check_encode_eq_nil_iff made).1 validAgain⟩

/-- The gate makes sound graphs, and every sound graph passes it by its document and comes back as
it was. The schema finds nothing in the document of a graph if and only if the graph is sound. -/
theorem trusted_iff_sound :
    (∀ document g, document.Ordered → ofJson document = .ok g → g.Made ∧ g.Sound) ∧
    ∀ g : Graph, g.Made →
      (check g.encode = [] ↔ g.Sound) ∧ (g.Sound → ofJson g.encode = .ok g) :=
  ⟨fun _ _ ordered passed => made_and_sound_of_ofJson ordered passed,
    fun _ made => ⟨check_encode_eq_nil_iff made, ofJson_encode made⟩⟩

/-- The graph of the shop is sound, and so its document is admitted. -/
theorem trusted_iff_sound_shop :
    ∃ g, shopDocument.Ordered ∧ ofJson shopDocument = .ok g ∧ g.Made ∧ g.Sound ∧
      check g.encode = [] ∧ ofJson g.encode = .ok g := by
  obtain ⟨g, -, passed, -⟩ := ofJson_of_check check_shopDocument shopDocument_ordered
  obtain ⟨made, sound⟩ := trusted_iff_sound.1 shopDocument g shopDocument_ordered passed
  obtain ⟨valid, exact⟩ := trusted_iff_sound.2 g made
  exact ⟨g, shopDocument_ordered, passed, made, sound, valid.2 sound, exact sound⟩

end ComponentAtlas.Graph
