import ComponentAtlas.Proofs.ComponentId
import ComponentAtlas.Proofs.Config.Gate
import ComponentAtlas.Proofs.Extraction.Drafts
import ComponentAtlas.Proofs.Graph.Gate

/-! # Graphs of what is extracted

The drafts that extraction finds make up a document of a graph, when they are supplemented with what
no source tells. The schema has nothing against it but identifiers that several drafts share. -/

namespace ComponentAtlas

open Json

/-! ## The document -/

/-- What a document says of a component and its draft does not. Of the details only those of the
draft's own type are used. -/
structure Supplement where
  repository : String
  apiType : Graph.ApiType
  operationName : String
  eventName : String
  subscribedEvents : List String
  route : String

/-- The members that the type of a slot requires besides the common ones. -/
def Supplement.details (s : Supplement) : Slot → List (String × Json)
  | .api => [("apiType", .string s.apiType.name)]
  | .useCase => []
  | .domainOp => [("operationName", .string s.operationName)]
  | .event => [("eventName", .string s.eventName)]
  | .eventHandler => [("subscribedEvents", .array (s.subscribedEvents.map .string))]
  | .ui => [("route", .string s.route)]

namespace Draft

/-- The place of a draft in a repository. -/
def sourceLocation (d : Draft) (s : Supplement) : List (String × Json) :=
  [("repository", .string s.repository), ("filePath", .string d.location.file),
    ("lineNumber", .int d.location.line)]

/-- The members of a draft as a component. -/
def members (d : Draft) (s : Supplement) : List (String × Json) :=
  [("id", .string d.id.text), ("type", .string d.slot.type.name), ("name", .string d.name),
    ("domain", .string d.domain), ("module", .string d.module),
    ("sourceLocation", .ofMembers (d.sourceLocation s))] ++ s.details d.slot

/-- The component that a draft becomes. -/
def component (d : Draft) (s : Supplement) : Json := .ofMembers (d.members s)

end Draft

/-- The domains of the document, one for every module of the configuration. -/
def Config.domainMembers (c : Config) (domain : String → Graph.Domain) : List (String × Json) :=
  c.modules.map fun m => (m.name, (domain m.name).encode)

/-- The members of the document for drafts of a configuration. The supplement of a draft is found by
its index. -/
def Config.graphMembers (c : Config) (domain : String → Graph.Domain)
    (supplement : Nat → Supplement) (drafts : List Draft) : List (String × Json) :=
  [("version", .string "1.0"),
    ("metadata", .ofMembers [("domains", .ofMembers (c.domainMembers domain))]),
    ("components", .array (drafts.zipIdx.map fun d => d.1.component (supplement d.2))),
    ("links", .array [])]

/-- The document for drafts of a configuration. -/
def Config.graphDocument (c : Config) (domain : String → Graph.Domain)
    (supplement : Nat → Supplement) (drafts : List Draft) : Json :=
  .ofMembers (c.graphMembers domain supplement drafts)

/-- The violation of the draft at an index, if one before it has its identifier. -/
def Draft.repeatedAt (all : List Draft) (d : Draft × Nat) : Option Graph.Violation :=
  if (all.take d.2).any (·.id = d.1.id) then
    some ⟨[.key "components", .index d.2, .key "id"], .repeatedId d.1.id.text⟩
  else none

/-- The violations of drafts whose identifiers earlier ones have, in order. -/
def Draft.repeatedIds (drafts : List Draft) : List Graph.Violation :=
  drafts.zipIdx.filterMap (repeatedAt drafts)

/-! ## Identifiers that are shared -/

namespace Draft

theorem id_text_inj {a b : Draft} : a.id.text = b.id.text ↔ a.id = b.id :=
  ComponentId.Made.text_inj (.ofLabels _) (.ofLabels _)

/-- No identifier is repeated if and only if they are distinct. The induction moves drafts from
those that remain to those before. -/
theorem filterMap_repeatedAt_eq_nil_iff (before drafts : List Draft) :
    (drafts.zipIdx before.length).filterMap (repeatedAt (before ++ drafts)) = [] ↔
      (∀ d ∈ drafts, ∀ b ∈ before, b.id ≠ d.id) ∧ (drafts.map id).Nodup := by
  induction drafts generalizing before with
  | nil => simp
  | cons d rest ih =>
    -- all drafts together and the indices of the rest stay as they are when the first moves
    have moved := ih (before ++ [d])
    rw [List.length_append, List.length_singleton, List.append_assoc,
      List.singleton_append] at moved
    have here : repeatedAt (before ++ d :: rest) (d, before.length) = none ↔
        ∀ b ∈ before, b.id ≠ d.id := by
      rw [repeatedAt, List.take_left]
      simp
    rw [List.zipIdx_cons, List.filterMap_eq_nil_iff, List.forall_mem_cons, here,
      ← List.filterMap_eq_nil_iff, moved, List.map_cons, List.nodup_cons, List.forall_mem_cons]
    constructor
    · rintro ⟨first, apart, distinct⟩
      refine ⟨⟨first, fun e member b earlier => ?_⟩, fun listed => ?_, distinct⟩
      · exact apart e member b (List.mem_append_left _ earlier)
      · obtain ⟨e, member, same⟩ := List.mem_map.1 listed
        exact apart e member d (List.mem_append_right _ List.mem_cons_self) same.symm
    · rintro ⟨⟨first, apart⟩, fresh, distinct⟩
      refine ⟨first, fun e member b earlier => ?_, distinct⟩
      rcases List.mem_append.1 earlier with old | new
      · exact apart e member b old
      · rw [List.mem_singleton.1 new]
        exact fun same => fresh (List.mem_map.2 ⟨e, member, same.symm⟩)

theorem repeatedIds_eq_nil_iff {drafts : List Draft} :
    repeatedIds drafts = [] ↔ (drafts.map id).Nodup := by
  have all := filterMap_repeatedAt_eq_nil_iff [] drafts
  rw [List.nil_append, List.length_nil] at all
  exact all.trans (and_iff_right fun _ _ _ member => absurd member List.not_mem_nil)

end Draft

/-! ## Components -/

namespace Draft

open ComponentAtlas.Graph Schema

variable {d : Draft} {s : Supplement} {place : Pointer}

theorem members_distinct (d : Draft) (s : Supplement) : ((d.members s).map (·.1)).Nodup := by
  rw [members]
  cases d.slot <;> simp [Supplement.details]

/-- The members of a component are found under their keys. -/
theorem memberOf?_component (d : Draft) (s : Supplement) (key : String) :
    memberOf? (Keyed.sorted (d.members s)) key = (d.members s).lookup key :=
  Keyed.lookup_sorted (d.members_distinct s) key

theorem memberOf?_id : memberOf? (Keyed.sorted (d.members s)) "id" = some (.string d.id.text) :=
  memberOf?_component d s "id"

theorem memberOf?_type :
    memberOf? (Keyed.sorted (d.members s)) "type" = some (.string d.slot.type.name) :=
  memberOf?_component d s "type"

theorem id_proper (d : Draft) : (ComponentId.ofText? d.id.text).isSome := by
  rw [id, ComponentId.ofText?_ofLabels]
  rfl

theorem idOf?_component : idOf? (d.component s) = some d.id.text := by
  rw [idOf?, textOf?, component, ofMembers, get?, memberOf?_id]
  simp [string?, d.id_proper]

/-- The details of a draft are those that its type requires. -/
theorem check_details :
    ((detailsOf d.slot.type).flatMap fun check => check place (Keyed.sorted (d.members s))) =
      [] := by
  have distinct := d.members_distinct s
  obtain ⟨slot, name, location, domain, module⟩ := d
  rw [List.flatMap_eq_nil_iff]
  cases slot with
  | api =>
    simp only [Slot.type, detailsOf, List.forall_mem_cons]
    exact ⟨required_sorted distinct rfl (oneOf_apiType _), optional_sorted_of_missing distinct rfl,
      optional_sorted_of_missing distinct rfl, List.forall_mem_nil _⟩
  | useCase => exact List.forall_mem_nil _
  | domainOp =>
    simp only [Slot.type, detailsOf, List.forall_mem_cons]
    exact ⟨required_sorted distinct rfl rfl, optional_sorted_of_missing distinct rfl,
      List.forall_mem_nil _⟩
  | event =>
    simp only [Slot.type, detailsOf, List.forall_mem_cons]
    exact ⟨required_sorted distinct rfl rfl, List.forall_mem_nil _⟩
  | eventHandler =>
    simp only [Slot.type, detailsOf, List.forall_mem_cons]
    exact ⟨required_sorted distinct rfl (list_text _), List.forall_mem_nil _⟩
  | ui =>
    simp only [Slot.type, detailsOf, List.forall_mem_cons]
    exact ⟨required_sorted distinct rfl rfl, List.forall_mem_nil _⟩

theorem check_sourceLocation (positive : 1 ≤ d.location.line)
    (bounded : d.location.line ≤ lineLimit) :
    Schema.sourceLocation place (.ofMembers (d.sourceLocation s)) = [] := by
  have distinct : ((d.sourceLocation s).map (·.1)).Nodup := by simp [Draft.sourceLocation]
  refine record_eq_nil_iff.2 ⟨_, rfl, ?_⟩
  simp only [List.forall_mem_cons]
  exact ⟨required_sorted distinct rfl rfl, required_sorted distinct rfl rfl,
    optional_sorted distinct rfl (lineNumber_eq_nil_iff.2 ⟨_, rfl, by omega, by omega⟩),
    List.forall_mem_nil _⟩

/-- What every component must have is there. -/
theorem check_common (d : Draft) (s : Supplement) (place : Pointer)
    (positive : 1 ≤ d.location.line) (bounded : d.location.line ≤ lineLimit) :
    ∀ check ∈ [required "id" identifier, required "name" text, required "domain" text,
        required "module" text, optional "description" text,
        required "sourceLocation" Schema.sourceLocation,
        required "type" (oneOf (ComponentType.all.map (·.name))), details],
      check place (Keyed.sorted (d.members s)) = [] := by
  have distinct := d.members_distinct s
  have undescribed : (d.members s).lookup "description" = none := by
    rw [members]
    cases d.slot <;> rfl
  have type : (textOf? (.object (Keyed.sorted (d.members s))) "type").bind ComponentType.ofName? =
      some d.slot.type := by
    rw [textOf?, get?, memberOf?_type]
    exact ComponentType.ofName?_name d.slot.type
  simp only [List.forall_mem_cons]
  refine ⟨required_sorted distinct rfl (identifier_eq_nil_iff.2 ⟨_, rfl, id_proper d⟩),
    required_sorted distinct rfl rfl, required_sorted distinct rfl rfl,
    required_sorted distinct rfl rfl, optional_sorted_of_missing distinct undescribed,
    required_sorted distinct rfl (check_sourceLocation positive bounded),
    required_sorted distinct rfl (oneOf_componentType _), ?_, List.forall_mem_nil _⟩
  rw [details, type]
  exact check_details

theorem check_declared {names : List String} (listed : d.domain ∈ names) :
    declared (some names) place (Keyed.sorted (d.members s)) = [] := by
  have domain : textOf? (.object (Keyed.sorted (d.members s))) "domain" = some d.domain := by
    rw [textOf?, get?, memberOf?_component]
    rfl
  unfold declared
  rw [domain]
  exact if_pos (List.contains_iff_mem.2 listed)

/-- A component in a declared domain and on a proper line has no fault but an identifier that is one
of the components before. -/
theorem check_component {names : List String} {before : List Json} (listed : d.domain ∈ names)
    (positive : 1 ≤ d.location.line) (bounded : d.location.line ≤ lineLimit) :
    Schema.component (some names) before place (d.component s) =
      if before.any fun other => idOf? other = some d.id.text then
        [⟨place.member "id", .repeatedId d.id.text⟩]
      else [] := by
  -- apart from the identifiers before, every check looks at the component alone
  have common := List.flatMap_eq_nil_iff.2 (d.check_common s place positive bounded)
  have given : Schema.component (some names) before place (d.component s) =
      unlike before place (Keyed.sorted (d.members s)) := by
    simp only [List.flatMap_cons, List.flatMap_nil, List.append_nil,
      List.append_eq_nil_iff] at common
    obtain ⟨id, name, domain, module, description, location, type, details⟩ := common
    simp only [Schema.component, component, ofMembers, record, List.flatMap_cons, List.flatMap_nil,
      id, name, domain, module, description, location, type, details, check_declared listed,
      List.nil_append, List.append_nil]
  have own : idOf? (.object (Keyed.sorted (d.members s))) = some d.id.text := idOf?_component
  rw [given, unlike, own]

/-- The components before a draft have its identifier if drafts before it do. -/
theorem any_idOf?_component (supplement : Nat → Supplement) (before : List Draft) (d : Draft) :
    ((before.zipIdx.map fun e => e.1.component (supplement e.2)).any fun other =>
      idOf? other = some d.id.text) = before.any fun b => b.id = d.id := by
  have shared (e : Draft × Nat) :
      idOf? (e.1.component (supplement e.2)) = some d.id.text ↔ e.1.id = d.id := by
    rw [idOf?_component, Option.some_inj, id_text_inj]
  have first : (before.any fun b => b.id = d.id) =
      (before.zipIdx.map Prod.fst).any fun b => b.id = d.id := by
    rw [List.zipIdx_map_fst]
  rw [first, List.any_map, List.any_map]
  simp only [Function.comp_def, shared]

/-- Checking the components of drafts finds the identifiers that are repeated. -/
theorem checkItems_components (names : List String) (supplement : Nat → Supplement)
    (before drafts : List Draft)
    (within : ∀ d ∈ drafts, d.domain ∈ names ∧ 1 ≤ d.location.line ∧ d.location.line ≤ lineLimit) :
    checkItems (Schema.component (some names)) [.key "components"]
        (before.zipIdx.map fun d => d.1.component (supplement d.2))
        ((drafts.zipIdx before.length).map fun d => d.1.component (supplement d.2)) =
      (drafts.zipIdx before.length).filterMap (repeatedAt (before ++ drafts)) := by
  induction drafts generalizing before with
  | nil => rfl
  | cons d rest ih =>
    rw [List.forall_mem_cons] at within
    obtain ⟨⟨listed, positive, bounded⟩, others⟩ := within
    have moved := ih (before ++ [d]) others
    rw [List.length_append, List.length_singleton, List.append_assoc, List.singleton_append,
      List.zipIdx_append, List.map_append, Nat.zero_add] at moved
    rw [List.zipIdx_cons, List.map_cons, checkItems, check_component listed positive bounded,
      any_idOf?_component, List.length_map, List.length_zipIdx, List.filterMap_cons, repeatedAt,
      List.take_left]
    split
    · exact congrArg _ moved
    · exact moved

theorem component_ordered (d : Draft) (s : Supplement) : (d.component s).Ordered := by
  have place : (Json.ofMembers (d.sourceLocation s)).Ordered := by
    refine ordered_ofMembers ?_
    simp [Draft.sourceLocation, int]
  have details : ∀ m ∈ s.details d.slot, m.2.Ordered := by
    cases d.slot <;> simp [Supplement.details]
  refine ordered_ofMembers ?_
  rw [members, List.forall_mem_append]
  exact ⟨by simp [place], details⟩

end Draft

/-! ## The document's check -/

namespace Config

open ComponentAtlas.Graph Schema

variable {c : Config} {domain : String → Graph.Domain} {supplement : Nat → Supplement}
  {drafts : List Draft}

theorem graphMembers_distinct :
    ((c.graphMembers domain supplement drafts).map (·.1)).Nodup := by
  simp [graphMembers]

theorem domainNames?_graphDocument :
    domainNames? (c.graphDocument domain supplement drafts) =
      some ((Keyed.sorted (c.domainMembers domain)).map (·.1)) := by
  rw [domainNames?, graphDocument, ofMembers, get?, memberOf?,
    Keyed.lookup_sorted graphMembers_distinct]
  rfl

theorem check_domainMembers (place : Pointer) :
    each Schema.domain place (.ofMembers (c.domainMembers domain)) = [] := by
  refine each_eq_nil_iff.2 ⟨_, rfl, fun m member => ?_⟩
  obtain ⟨module, -, rfl⟩ := List.mem_map.1 (Keyed.mem_of_mem_sorted member)
  refine record_eq_nil_iff.2 ⟨_, rfl, ?_⟩
  simp only [List.forall_mem_cons]
  exact ⟨rfl, oneOf_systemType _, List.forall_mem_nil _⟩

/-- Of a draft in a module the document declares the domain. -/
theorem domain_listed {d : Draft} {last : Nat} (within : d.Within c last) :
    d.domain ∈ (Keyed.sorted (c.domainMembers domain)).map (·.1) := by
  obtain ⟨m, listed, same, -⟩ := within.named
  refine Keyed.mem_keys_sorted ?_
  rw [same, domainMembers, List.map_map]
  exact List.mem_map_of_mem listed

/-- The schema finds nothing in the document of drafts but the identifiers that are repeated. -/
theorem check_graphDocument (within : ∀ d ∈ drafts, d.Within c lineLimit) :
    Graph.check (c.graphDocument domain supplement drafts) = Draft.repeatedIds drafts := by
  have listed := Draft.checkItems_components ((Keyed.sorted (c.domainMembers domain)).map (·.1))
    supplement [] drafts fun d member =>
      ⟨domain_listed (within d member), (within d member).line_pos, (within d member).line_le⟩
  have distinct := @graphMembers_distinct c domain supplement drafts
  have version : required "version" Schema.version []
      (Keyed.sorted (c.graphMembers domain supplement drafts)) = [] :=
    required_sorted distinct rfl (version_eq_nil_iff.2 ⟨_, rfl, isVersion_one_zero⟩)
  have metadata : required "metadata" Schema.metadata []
      (Keyed.sorted (c.graphMembers domain supplement drafts)) = [] := by
    refine required_sorted distinct rfl (record_eq_nil_iff.2 ⟨_, rfl, ?_⟩)
    simp only [List.forall_mem_cons]
    exact ⟨rfl, rfl, check_domainMembers _, List.forall_mem_nil _⟩
  have components : memberOf? (Keyed.sorted (c.graphMembers domain supplement drafts))
      "components" = some (.array (drafts.zipIdx.map fun d => d.1.component (supplement d.2))) :=
    Keyed.lookup_sorted distinct "components"
  have links (known : List String) : required "links" (list fun _ => link known) []
      (Keyed.sorted (c.graphMembers domain supplement drafts)) = [] :=
    required_sorted distinct rfl rfl
  have external (known : List String) : Schema.optional "externalLinks"
      (list fun _ => externalLink known) []
      (Keyed.sorted (c.graphMembers domain supplement drafts)) = [] :=
    optional_sorted_of_missing distinct rfl
  rw [Graph.check, domainNames?_graphDocument, graphDocument, ofMembers]
  simp only [record, List.flatMap_cons, List.flatMap_nil, version, metadata, links, external,
    List.append_nil, List.nil_append]
  rw [required, components]
  exact listed

theorem domain_ordered (d : Graph.Domain) : d.encode.Ordered :=
  have ascending : ["description", "systemType"].Pairwise (· < ·) := by decide
  .object ascending (by simp)

theorem graphDocument_ordered : (c.graphDocument domain supplement drafts).Ordered := by
  refine ordered_ofMembers ?_
  simp only [graphMembers, List.forall_mem_cons]
  refine ⟨.string _, ordered_ofMembers ?_, .array ?_, .array ?_,
    List.forall_mem_nil _⟩
  · intro m member
    rw [List.mem_singleton.1 member]
    refine ordered_ofMembers fun entry listed => ?_
    obtain ⟨module, -, rfl⟩ := List.mem_map.1 listed
    exact domain_ordered _
  · intro v member
    obtain ⟨d, -, rfl⟩ := List.mem_map.1 member
    exact d.1.component_ordered _
  · exact List.forall_mem_nil _

/-- A document for drafts of a configuration is a graph if and only if their identifiers are
distinct. -/
theorem ofJson_graphDocument (within : ∀ d ∈ drafts, d.Within c lineLimit) :
    (∃ g, Graph.ofJson (c.graphDocument domain supplement drafts) = .ok g) ↔
      (drafts.map Draft.id).Nodup := by
  rw [← Draft.repeatedIds_eq_nil_iff, ← check_graphDocument within]
  constructor
  · rintro ⟨g, passed⟩
    exact check_of_ofJson passed
  · intro valid
    obtain ⟨g, -, passed, -⟩ := Graph.ofJson_of_check valid graphDocument_ordered
    exact ⟨g, passed⟩

/-- Extraction feeds the gate of graphs. With a configuration that passes its own gate, extraction
of files gives drafts, and in their document the schema finds the identifiers that are repeated and
nothing else. So the document is a graph if and only if their identifiers are distinct. -/
theorem extraction_feeds_graph (v : Json) (ordered : v.Ordered) (c : Config)
    (passed : Config.ofJson v = .ok c) (files : List (String × String))
    (short : ∀ file ∈ files, file.2.toList.count '\n' < lineLimit)
    (domain : String → Graph.Domain) (supplement : Nat → Supplement) :
    ∃ e drafts, Extractor.ofConfig c = .ok e ∧ e.extractFiles files = .ok drafts ∧
      Graph.check (c.graphDocument domain supplement drafts) = Draft.repeatedIds drafts ∧
      ((∃ g, Graph.ofJson (c.graphDocument domain supplement drafts) = .ok g) ↔
        (drafts.map Draft.id).Nodup) := by
  obtain ⟨-, -, valid⟩ := encode_of_ofJson ordered passed
  obtain ⟨r, -, made⟩ := Extractor.ofConfig_of_valid valid
  obtain ⟨drafts, found, within⟩ := Extractor.extractFiles_within ⟨c, r⟩ short
  exact ⟨⟨c, r⟩, drafts, made, found, check_graphDocument within, ofJson_graphDocument within⟩

/-- Two files that both declare an order, so that their drafts share an identifier. -/
def orderFiles : List (String × String) :=
  [("orders/place.ts", "import UseCase from 'kit';\n\n@UseCase\nexport class PlaceOrder {}\n"),
    ("orders/old/place.ts", "import UseCase from 'kit';\n@UseCase export class PlaceOrder {}\n")]

def ordersDomain : Graph.Domain := ⟨"Orders", .domain⟩

def orderSupplement : Supplement := ⟨"shop", .rest, "place", "placed", ["placed"], "/orders"⟩

/-- The two files are extracted, with one domain for every name and one supplement for every
draft. -/
theorem extraction_feeds_graph_orders :
    ordersDocument.Ordered ∧ (∀ file ∈ orderFiles, file.2.toList.count '\n' < lineLimit) ∧
      ∃ c, Config.ofJson ordersDocument = .ok c ∧
        ∃ e drafts, Extractor.ofConfig c = .ok e ∧ e.extractFiles orderFiles = .ok drafts ∧
          Graph.check (c.graphDocument (fun _ => ordersDomain) (fun _ => orderSupplement) drafts) =
            Draft.repeatedIds drafts ∧
          ((∃ g, Graph.ofJson
              (c.graphDocument (fun _ => ordersDomain) (fun _ => orderSupplement) drafts) = .ok g) ↔
            (drafts.map Draft.id).Nodup) := by
  have short : ∀ file ∈ orderFiles, file.2.toList.count '\n' < lineLimit := by decide
  obtain ⟨c, passed⟩ := exists_ofJson_of_isConfig ordersDocument_isConfig ordersDocument_ordered
    (.inr (.inl rfl))
  exact ⟨ordersDocument_ordered, short, c, passed, extraction_feeds_graph ordersDocument
    ordersDocument_ordered c passed orderFiles short (fun _ => ordersDomain)
    (fun _ => orderSupplement)⟩

end Config

end ComponentAtlas
