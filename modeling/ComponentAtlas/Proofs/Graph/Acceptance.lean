import ComponentAtlas.Proofs.Graph.Checks
import ComponentAtlas.Proofs.Graph.Grammar
import ComponentAtlas.Proofs.Text.Pieces

/-! # What the check of graphs accepts

The schema finds nothing in a document if and only if the document belongs to the grammar of
graphs. The check of every type of object finds nothing in exactly the documents of the type; what
components and links refer to is settled for the document as a whole. -/

namespace ComponentAtlas.Graph

open Json Schema

variable {place : Pointer} {v : Json} {given : List (String × Json)} {key : String}

/-! ## Forms of values -/

theorem isVersion_iff {s : String} : isVersion s = true ↔ IsVersionText s := by
  unfold isVersion
  constructor
  · intro h
    split at h
    · next major minor cut =>
      obtain ⟨point, rest, separates, whole, last⟩ := Text.eq_append_cons_of_pieces cut
      obtain rfl := Text.eq_of_pieces_singleton last
      rw [decide_eq_true_iff] at separates
      subst separates
      simp only [List.all_cons, List.all_nil, Bool.and_true, Bool.and_eq_true, Bool.not_eq_true',
        List.isEmpty_eq_false_iff, List.all_eq_true] at h
      exact ⟨major, rest, whole, h.1, h.2⟩
    · cases h
  · rintro ⟨major, minor, whole, first, second⟩
    -- no digit is a point, so the text is cut at the point between the runs only
    have free {digits : List Char} (h : AreDigits digits) :
        ∀ c ∈ digits, decide (c = '.') = false := by
      intro c inside
      rw [decide_eq_false_iff_not]
      rintro rfl
      exact absurd (h.2 '.' inside) (by rw [Charset.digitRanges_has_point]; decide)
    have cut : Text.pieces (· = '.') s.toList = [major, minor] := by
      rw [whole, Text.pieces_append_cons (free first) rfl, Text.pieces_of_free (free second)]
    rw [cut]
    simp only [List.all_cons, List.all_nil, Bool.and_true, Bool.and_eq_true, Bool.not_eq_true',
      List.isEmpty_eq_false_iff, List.all_eq_true]
    exact ⟨first, second⟩

theorem version_eq_nil_iff_isVersion : Schema.version place v = [] ↔ IsVersion v := by
  simp only [version_eq_nil_iff, isVersion_iff, IsVersion]

theorem lineNumber_eq_nil_iff_isLineNumber : lineNumber place v = [] ↔ IsLineNumber v := by
  have limit : lineLimit = 4294967295 := rfl
  rw [lineNumber_eq_nil_iff, limit]
  constructor
  · rintro ⟨n, rfl, low, high⟩
    exact ⟨n.toNat, by rw [Int.toNat_of_nonneg (by omega)], by omega, by omega⟩
  · rintro ⟨n, rfl, low, high⟩
    exact ⟨n, rfl, by omega, by omega⟩

theorem list_eq_nil_iff_isListOf {check : Check} {form : Json → Prop}
    (h : ∀ place v, check place v = [] ↔ form v) :
    Schema.list (fun _ => check) place v = [] ↔ IsListOf form v := by
  simp only [list_eq_nil_iff, h, IsListOf]
  constructor
  · rintro ⟨items, rfl, all⟩
    refine ⟨items, rfl, fun item member => ?_⟩
    obtain ⟨front, back, split⟩ := List.append_of_mem member
    exact all front item back split
  · rintro ⟨items, rfl, all⟩
    refine ⟨items, rfl, fun front item back split => all item ?_⟩
    rw [split]
    exact List.mem_append_right _ List.mem_cons_self

/-! ## Members -/

theorem required_eq_nil_iff_has {check : Check} {form : Json → Prop}
    (h : ∀ place v, check place v = [] ↔ form v) :
    required key check place given = [] ↔ Has key form given := by
  simp only [required_eq_nil_iff, h, Has]

theorem optional_eq_nil_iff_mayHave {check : Check} {form : Json → Prop}
    (h : ∀ place v, check place v = [] ↔ form v) :
    Schema.optional key check place given = [] ↔ MayHave key form given := by
  simp only [optional_eq_nil_iff, h, MayHave]

theorem requiredText_eq_nil_iff : required key text place given = [] ↔ Has key IsText given :=
  required_eq_nil_iff_has fun _ _ => text_eq_nil_iff

theorem optionalText_eq_nil_iff :
    Schema.optional key text place given = [] ↔ MayHave key IsText given :=
  optional_eq_nil_iff_mayHave fun _ _ => text_eq_nil_iff

theorem requiredVersion_eq_nil_iff :
    required key Schema.version place given = [] ↔ Has key IsVersion given :=
  required_eq_nil_iff_has fun _ _ => version_eq_nil_iff_isVersion

theorem requiredName_eq_nil_iff {names : List String} :
    required key (oneOf names) place given = [] ↔ Has key (IsOneOf names) given :=
  required_eq_nil_iff_has fun _ _ => oneOf_eq_nil_iff

theorem optionalName_eq_nil_iff {names : List String} :
    Schema.optional key (oneOf names) place given = [] ↔ MayHave key (IsOneOf names) given :=
  optional_eq_nil_iff_mayHave fun _ _ => oneOf_eq_nil_iff

/-! ## Objects -/

theorem domain_eq_nil_iff : Schema.domain place v = [] ↔ IsDomain v := by
  simp only [Schema.domain, record_eq_nil_iff, List.forall_mem_cons, requiredText_eq_nil_iff,
    requiredName_eq_nil_iff]
  constructor
  · rintro ⟨members, rfl, description, systemType, -⟩
    exact .mk description systemType
  · rintro ⟨description, systemType⟩
    exact ⟨_, rfl, description, systemType, List.forall_mem_nil _⟩

theorem sourceLocation_eq_nil_iff : Schema.sourceLocation place v = [] ↔ IsSourceLocation v := by
  have line {place given} : Schema.optional "lineNumber" lineNumber place given = [] ↔
      MayHave "lineNumber" IsLineNumber given :=
    optional_eq_nil_iff_mayHave fun _ _ => lineNumber_eq_nil_iff_isLineNumber
  simp only [Schema.sourceLocation, record_eq_nil_iff, List.forall_mem_cons,
    requiredText_eq_nil_iff, line]
  constructor
  · rintro ⟨members, rfl, repository, filePath, lineNumber, -⟩
    exact .mk repository filePath lineNumber
  · rintro ⟨repository, filePath, lineNumber⟩
    exact ⟨_, rfl, repository, filePath, lineNumber, List.forall_mem_nil _⟩

/-- The details of a type are those that the grammar asks for. -/
theorem detailsOf_eq_nil_iff {type : ComponentType} :
    (∀ check ∈ detailsOf type, check place given = []) ↔ HasDetails given type := by
  have events {place given} : required "subscribedEvents" (Schema.list fun _ => text) place given =
      [] ↔ Has "subscribedEvents" (IsListOf IsText) given :=
    required_eq_nil_iff_has fun _ _ => list_eq_nil_iff_isListOf fun _ _ => text_eq_nil_iff
  cases type with
  | ui =>
    simp only [detailsOf, List.forall_mem_cons, requiredText_eq_nil_iff]
    exact ⟨fun h => .ui h.1, fun | .ui route => ⟨route, List.forall_mem_nil _⟩⟩
  | api =>
    simp only [detailsOf, List.forall_mem_cons, requiredName_eq_nil_iff, optionalName_eq_nil_iff,
      optionalText_eq_nil_iff]
    exact ⟨fun h => .api h.1 h.2.1 h.2.2.1,
      fun | .api apiType method path => ⟨apiType, method, path, List.forall_mem_nil _⟩⟩
  | useCase => exact ⟨fun _ => .useCase, fun _ => List.forall_mem_nil _⟩
  | domainOp =>
    simp only [detailsOf, List.forall_mem_cons, requiredText_eq_nil_iff, optionalText_eq_nil_iff]
    exact ⟨fun h => .domainOp h.1 h.2.1,
      fun | .domainOp operation entity => ⟨operation, entity, List.forall_mem_nil _⟩⟩
  | event =>
    simp only [detailsOf, List.forall_mem_cons, requiredText_eq_nil_iff]
    exact ⟨fun h => .event h.1, fun | .event name => ⟨name, List.forall_mem_nil _⟩⟩
  | eventHandler =>
    simp only [detailsOf, List.forall_mem_cons, events]
    exact ⟨fun h => .eventHandler h.1, fun | .eventHandler list => ⟨list, List.forall_mem_nil _⟩⟩
  | custom =>
    simp only [detailsOf, List.forall_mem_cons, requiredText_eq_nil_iff]
    exact ⟨fun h => .custom h.1, fun | .custom name => ⟨name, List.forall_mem_nil _⟩⟩

theorem externalTarget_eq_nil_iff : Schema.externalTarget place v = [] ↔ IsExternalTarget v := by
  simp only [Schema.externalTarget, record_eq_nil_iff, List.forall_mem_cons,
    requiredText_eq_nil_iff, optionalText_eq_nil_iff]
  constructor
  · rintro ⟨members, rfl, name, domain, url, -⟩
    exact .mk name domain url
  · rintro ⟨name, domain, url⟩
    exact ⟨_, rfl, name, domain, url, List.forall_mem_nil _⟩

/-! ## What documents give to each other -/

theorem textOf?_eq_some_iff {s : String} :
    textOf? v key = some s ↔ v.get? key = some (.string s) := by
  rw [textOf?]
  cases found : v.get? key with
  | none => simp
  | some value => cases value <;> simp [string?]

theorem idOf?_eq_some_iff {s : String} :
    idOf? v = some s ↔ v.get? "id" = some (.string s) ∧ (ComponentId.ofText? s).isSome := by
  rw [idOf?, Option.filter_eq_some_iff, textOf?_eq_some_iff]

theorem IsComponent.exists_id (h : IsComponent v) :
    ∃ s, v.get? "id" = some (.string s) ∧ (ComponentId.ofText? s).isSome := by
  cases h with
  | mk id =>
    obtain ⟨_, found, s, rfl, proper⟩ := id
    exact ⟨s, found, proper⟩

/-- The identifiers that components give are the texts of their members. -/
theorem mem_identifiers_iff {components : List Json} (each : ∀ c ∈ components, IsComponent c)
    {s : String} :
    s ∈ components.filterMap idOf? ↔ ∃ c ∈ components, c.get? "id" = some (.string s) := by
  simp only [List.mem_filterMap, idOf?_eq_some_iff]
  constructor
  · rintro ⟨c, member, found, -⟩
    exact ⟨c, member, found⟩
  · rintro ⟨c, member, found⟩
    obtain ⟨other, same, proper⟩ := (each c member).exists_id
    rw [found] at same
    cases same
    exact ⟨c, member, found, proper⟩

/-! ## Components -/

/-- A component has a known type and the details of that type. -/
theorem type_and_details_eq_nil_iff :
    (required "type" (oneOf (ComponentType.all.map (·.name))) place given = [] ∧
      details place given = []) ↔
    ∃ type : ComponentType, memberOf? given "type" = some (.string type.name) ∧
      HasDetails given type := by
  have opened {type : ComponentType} (typed : memberOf? given "type" = some (.string type.name)) :
      details place given = [] ↔ HasDetails given type := by
    have known : (textOf? (.object given) "type").bind ComponentType.ofName? = some type := by
      have found : (Json.object given).get? "type" = some (.string type.name) := typed
      rw [textOf?_eq_some_iff.2 found]
      exact ComponentType.ofName?_name type
    rw [details, known]
    exact List.flatMap_eq_nil_iff.trans detailsOf_eq_nil_iff
  rw [requiredName_eq_nil_iff]
  constructor
  · rintro ⟨⟨_, typed, s, rfl, listed⟩, passes⟩
    obtain ⟨type, -, rfl⟩ := List.mem_map.1 listed
    exact ⟨type, typed, (opened typed).1 passes⟩
  · rintro ⟨type, typed, asked⟩
    have listed : type ∈ ComponentType.all := by cases type <;> decide
    exact ⟨⟨_, typed, type.name, rfl, List.mem_map_of_mem listed⟩, (opened typed).2 asked⟩

theorem unlike_eq_nil_iff {before : List Json} {id : String}
    (found : memberOf? given "id" = some (.string id)) (proper : (ComponentId.ofText? id).isSome) :
    unlike before place given = [] ↔
      ∀ other ∈ before, other.get? "id" ≠ (Json.object given).get? "id" := by
  have own : idOf? (.object given) = some id := idOf?_eq_some_iff.2 ⟨found, proper⟩
  have same : (Json.object given).get? "id" = some (.string id) := found
  rw [unlike, own, same]
  simp only [List.any_eq_true, decide_eq_true_eq, idOf?_eq_some_iff, proper, and_true,
    ite_eq_right_iff, List.cons_ne_nil, imp_false, not_exists, not_and]

theorem declared_eq_nil_iff {domains : List (String × Json)} {name : String}
    (found : memberOf? given "domain" = some (.string name)) :
    declared (some (domains.map (·.1))) place given = [] ↔ LiesIn domains (.object given) := by
  have own : textOf? (.object given) "domain" = some name := textOf?_eq_some_iff.2 found
  have same : (Json.object given).get? "domain" = some (.string name) := found
  unfold declared LiesIn
  rw [own, same]
  simp

/-- The schema finds nothing in a component behind others if it has the form of one, an identifier
that none of the others has, and one of the domains. -/
theorem component_eq_nil_iff {domains : List (String × Json)} {before : List Json} :
    Schema.component (some (domains.map (·.1))) before place v = [] ↔
      IsComponent v ∧ (∀ other ∈ before, other.get? "id" ≠ v.get? "id") ∧ LiesIn domains v := by
  have identified {place given} : required "id" identifier place given = [] ↔
      Has "id" IsIdentifier given := required_eq_nil_iff_has fun _ _ => identifier_eq_nil_iff
  have located {place given} : required "sourceLocation" Schema.sourceLocation place given = [] ↔
      Has "sourceLocation" IsSourceLocation given :=
    required_eq_nil_iff_has fun _ _ => sourceLocation_eq_nil_iff
  simp only [Schema.component, record_eq_nil_iff, List.forall_mem_cons, requiredText_eq_nil_iff,
    optionalText_eq_nil_iff, identified, located]
  constructor
  · rintro ⟨given, rfl, id, name, domain, module, description, location, type, details, unlike,
      declared, -⟩
    obtain ⟨type, typed, details⟩ := type_and_details_eq_nil_iff.1 ⟨type, details⟩
    obtain ⟨_, foundId, text, rfl, proper⟩ := id
    obtain ⟨_, foundDomain, domainName, rfl⟩ := domain
    exact ⟨.mk ⟨_, foundId, text, rfl, proper⟩ name ⟨_, foundDomain, domainName, rfl⟩ module
        description location typed details,
      (unlike_eq_nil_iff foundId proper).1 unlike, (declared_eq_nil_iff foundDomain).1 declared⟩
  · rintro ⟨⟨id, name, domain, module, description, location, typed, asked⟩, unlike, declared⟩
    obtain ⟨type, details⟩ := type_and_details_eq_nil_iff.2 ⟨_, typed, asked⟩
    obtain ⟨_, foundId, text, rfl, proper⟩ := id
    obtain ⟨_, foundDomain, domainName, rfl⟩ := domain
    exact ⟨_, rfl, ⟨_, foundId, text, rfl, proper⟩, name, ⟨_, foundDomain, domainName, rfl⟩,
      module, description, location, type, details, (unlike_eq_nil_iff foundId proper).2 unlike,
      (declared_eq_nil_iff foundDomain).2 declared, List.forall_mem_nil _⟩

/-! ## Links -/

section Links

variable {components : List Json} (each : ∀ c ∈ components, IsComponent c)

include each

/-- A reference is a text and leads to one of the components. -/
theorem requiredReference_eq_nil_iff :
    required key (reference (components.filterMap idOf?)) place given = [] ↔
      Has key IsText given ∧ RefersTo components key (.object given) := by
  simp only [required_eq_nil_iff, reference_eq_nil_iff, mem_identifiers_iff each]
  constructor
  · rintro ⟨_, found, s, rfl, c, member, same⟩
    exact ⟨⟨_, found, s, rfl⟩, c, member, same.trans found.symm⟩
  · rintro ⟨⟨_, found, s, rfl⟩, c, member, same⟩
    exact ⟨_, found, s, rfl, c, member, same.trans found⟩

theorem link_eq_nil_iff :
    Schema.link (components.filterMap idOf?) place v = [] ↔
      IsLink v ∧ RefersTo components "source" v ∧ RefersTo components "target" v := by
  simp only [Schema.link, record_eq_nil_iff, List.forall_mem_cons, optionalText_eq_nil_iff,
    optionalName_eq_nil_iff, requiredReference_eq_nil_iff each]
  constructor
  · rintro ⟨given, rfl, id, type, ⟨source, knownSource⟩, ⟨target, knownTarget⟩, -⟩
    exact ⟨.mk id type source target, knownSource, knownTarget⟩
  · rintro ⟨⟨id, type, source, target⟩, knownSource, knownTarget⟩
    exact ⟨_, rfl, id, type, ⟨source, knownSource⟩, ⟨target, knownTarget⟩, List.forall_mem_nil _⟩

theorem externalLink_eq_nil_iff :
    Schema.externalLink (components.filterMap idOf?) place v = [] ↔
      IsExternalLink v ∧ RefersTo components "source" v := by
  have aimed {place given} : required "target" Schema.externalTarget place given = [] ↔
      Has "target" IsExternalTarget given :=
    required_eq_nil_iff_has fun _ _ => externalTarget_eq_nil_iff
  simp only [Schema.externalLink, record_eq_nil_iff, List.forall_mem_cons, optionalName_eq_nil_iff,
    requiredReference_eq_nil_iff each, aimed]
  constructor
  · rintro ⟨given, rfl, type, ⟨source, known⟩, target, -⟩
    exact ⟨.mk type source target, known⟩
  · rintro ⟨⟨type, source, target⟩, known⟩
    exact ⟨_, rfl, type, ⟨source, known⟩, target, List.forall_mem_nil _⟩

theorem links_eq_nil_iff :
    Schema.list (fun _ => Schema.link (components.filterMap idOf?)) place v = [] ↔
      IsListOf (fun l => IsLink l ∧ RefersTo components "source" l ∧
        RefersTo components "target" l) v :=
  list_eq_nil_iff_isListOf fun _ _ => link_eq_nil_iff each

theorem externalLinks_eq_nil_iff :
    Schema.list (fun _ => Schema.externalLink (components.filterMap idOf?)) place v = [] ↔
      IsListOf (fun l => IsExternalLink l ∧ RefersTo components "source" l) v :=
  list_eq_nil_iff_isListOf fun _ _ => externalLink_eq_nil_iff each

end Links

/-! ## Documents -/

/-- Every item stands in a relation to those behind it if and only if every item is in relation to
those before it. -/
theorem pairwise_iff_forall_split {α : Type} {r : α → α → Prop} {items : List α} :
    items.Pairwise r ↔ ∀ front a back, items = front ++ a :: back → ∀ b ∈ front, r b a := by
  constructor
  · intro h front a back split b member
    rw [split] at h
    exact (List.pairwise_append.1 h).2.2 b member a List.mem_cons_self
  · intro h
    induction items with
    | nil => exact .nil
    | cons first rest ih =>
      refine List.pairwise_cons.2 ⟨fun a member => ?_, ih fun front a back split b member => ?_⟩
      · obtain ⟨front, back, split⟩ := List.append_of_mem member
        exact h (first :: front) a back (by rw [split]; rfl) first List.mem_cons_self
      · exact h (first :: front) a back (by rw [split]; rfl) b (List.mem_cons_of_mem _ member)

theorem components_eq_nil_iff {domains : List (String × Json)} :
    Schema.list (Schema.component (some (domains.map (·.1)))) place v = [] ↔
      ∃ components, v = .array components ∧ (∀ c ∈ components, IsComponent c) ∧
        (components.Pairwise fun a b => a.get? "id" ≠ b.get? "id") ∧
        ∀ c ∈ components, LiesIn domains c := by
  simp only [list_eq_nil_iff, component_eq_nil_iff, pairwise_iff_forall_split]
  constructor
  · rintro ⟨components, rfl, all⟩
    refine ⟨components, rfl, fun c member => ?_, fun front a back split => (all _ _ _ split).2.1,
      fun c member => ?_⟩
    · obtain ⟨front, back, split⟩ := List.append_of_mem member
      exact (all front c back split).1
    · obtain ⟨front, back, split⟩ := List.append_of_mem member
      exact (all front c back split).2.2
  · rintro ⟨components, rfl, each, distinct, placed⟩
    refine ⟨components, rfl, fun front c back split => ?_⟩
    have member : c ∈ components := split ▸ List.mem_append_right _ List.mem_cons_self
    exact ⟨each c member, distinct front c back split, placed c member⟩

theorem metadata_eq_nil_iff :
    Schema.metadata place v = [] ↔
      ∃ members domains, v = .object members ∧ MayHave "name" IsText members ∧
        MayHave "description" IsText members ∧
        memberOf? members "domains" = some (.object domains) ∧ ∀ m ∈ domains, IsDomain m.2 := by
  simp only [Schema.metadata, record_eq_nil_iff, List.forall_mem_cons, optionalText_eq_nil_iff,
    required_eq_nil_iff, each_eq_nil_iff, domain_eq_nil_iff]
  constructor
  · rintro ⟨members, rfl, name, description, ⟨_, found, domains, rfl, each⟩, -⟩
    exact ⟨members, domains, rfl, name, description, found, each⟩
  · rintro ⟨members, domains, rfl, name, description, found, each⟩
    exact ⟨members, rfl, name, description, ⟨_, found, domains, rfl, each⟩, List.forall_mem_nil _⟩

section Document

variable {members metadata domains : List (String × Json)} {components : List Json}

theorem identifiers_eq (listed : memberOf? members "components" = some (.array components)) :
    identifiers (.object members) = components.filterMap idOf? := by
  rw [identifiers, get?, listed]

theorem domainNames?_eq (described : memberOf? members "metadata" = some (.object metadata))
    (declared : memberOf? metadata "domains" = some (.object domains)) :
    domainNames? (.object members) = some (domains.map (·.1)) := by
  rw [domainNames?, get?, described, Option.bind_some, get?, declared]

end Document

/-- A document in which the schema finds nothing belongs to the grammar. -/
theorem isDocument_of_check (h : check v = []) : IsDocument v := by
  obtain ⟨members, rfl, passes⟩ := record_eq_nil_iff.1 h
  simp only [List.forall_mem_cons] at passes
  obtain ⟨version, metadata, components, links, external, -⟩ := passes
  obtain ⟨_, described, passMetadata⟩ := required_eq_nil_iff.1 metadata
  obtain ⟨metadata, domains, rfl, name, description, declared, eachDomain⟩ :=
    metadata_eq_nil_iff.1 passMetadata
  obtain ⟨_, listed, passComponents⟩ := required_eq_nil_iff.1 components
  -- the domains that components are checked against are those of the metadata
  rw [domainNames?_eq described declared] at passComponents
  obtain ⟨components, rfl, eachComponent, distinct, placed⟩ :=
    components_eq_nil_iff.1 passComponents
  obtain ⟨_, linked, passLinks⟩ := required_eq_nil_iff.1 links
  rw [identifiers_eq listed] at passLinks external
  obtain ⟨links, rfl, eachLink⟩ := (links_eq_nil_iff eachComponent).1 passLinks
  have externals (v : Json) (found : memberOf? members "externalLinks" = some v) :=
    (externalLinks_eq_nil_iff eachComponent).1 (optional_eq_nil_iff.1 external v found)
  refine .mk (requiredVersion_eq_nil_iff.1 version) described name description declared
    eachDomain listed eachComponent linked (fun l member => (eachLink l member).1)
    (fun v found => ?_) distinct placed (fun l member => (eachLink l member).2) fun v found => ?_
  · obtain ⟨items, rfl, all⟩ := externals v found
    exact ⟨items, rfl, fun l member => (all l member).1⟩
  · obtain ⟨items, rfl, all⟩ := externals v found
    exact ⟨items, rfl, fun l member => (all l member).2⟩

/-- In a document of the grammar the schema finds nothing. -/
theorem check_of_isDocument (h : IsDocument v) : check v = [] := by
  obtain ⟨version, described, name, description, declared, eachDomain, listed, eachComponent,
    linked, eachLink, external, distinct, placed, known, knownExternal⟩ := h
  refine record_eq_nil_iff.2 ⟨_, rfl, ?_⟩
  rw [identifiers_eq listed, domainNames?_eq described declared]
  simp only [List.forall_mem_cons]
  refine ⟨requiredVersion_eq_nil_iff.2 version,
    required_eq_nil_iff.2 ⟨_, described, metadata_eq_nil_iff.2
      ⟨_, _, rfl, name, description, declared, eachDomain⟩⟩,
    required_eq_nil_iff.2 ⟨_, listed, components_eq_nil_iff.2
      ⟨_, rfl, eachComponent, distinct, placed⟩⟩,
    required_eq_nil_iff.2 ⟨_, linked, (links_eq_nil_iff eachComponent).2
      ⟨_, rfl, fun l member => ⟨eachLink l member, known l member⟩⟩⟩,
    optional_eq_nil_iff.2 fun v found => ?_, List.forall_mem_nil _⟩
  obtain ⟨items, rfl, forms⟩ := external v found
  obtain ⟨_, same, refers⟩ := knownExternal _ found
  cases same
  exact (externalLinks_eq_nil_iff eachComponent).2
    ⟨items, rfl, fun l member => ⟨forms l member, refers l member⟩⟩

/-- The schema finds nothing in a document exactly when it is one of a graph. -/
theorem check_eq_nil_iff_isDocument (v : Json) : check v = [] ↔ IsDocument v :=
  ⟨isDocument_of_check, check_of_isDocument⟩

end ComponentAtlas.Graph
