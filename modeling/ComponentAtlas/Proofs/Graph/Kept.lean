import ComponentAtlas.Graph.Admission
import ComponentAtlas.Proofs.Json.Reading

/-! # What graphs keep of a document

A document may have members that graphs do not know, and a component members that belong to another
type. `kept` is the document without them. Neither the schema nor the decoding sees a difference
between the two, so one is admitted as the other is. -/

namespace ComponentAtlas.Graph

open Json

/-! ## The members that are known -/

namespace Kept

/-- The keys that a type of object knows, each with what is kept of the value under it. -/
abbrev Known := List (String × (Json → Json))

/-- The members of an object that are known, with what is kept of their values. -/
def members (known : Known) (given : List (String × Json)) : List (String × Json) :=
  given.filterMap fun m => (known.lookup m.1).map fun keep => (m.1, keep m.2)

def record (known : Known) : Json → Json
  | .object given => .object (members known given)
  | v => v

/-- Of an object with any keys, the same is kept of every value. -/
def each (keep : Json → Json) : Json → Json
  | .object given => .object (given.map fun m => (m.1, keep m.2))
  | v => v

def list (keep : Json → Json) : Json → Json
  | .array items => .array (items.map keep)
  | v => v

def domain : Json → Json := record [("description", id), ("systemType", id)]

def metadata : Json → Json :=
  record [("description", id), ("domains", each domain), ("name", id)]

def sourceLocation : Json → Json :=
  record [("filePath", id), ("lineNumber", id), ("repository", id)]

/-- What every component knows. -/
def common : Known :=
  [("description", id), ("domain", id), ("id", id), ("module", id), ("name", id),
    ("sourceLocation", sourceLocation), ("type", id)]

/-- What a type of component knows besides. -/
def detailsOf : ComponentType → Known
  | .ui => [("route", id)]
  | .api => [("apiType", id), ("httpMethod", id), ("path", id)]
  | .useCase => []
  | .domainOp => [("entity", id), ("operationName", id)]
  | .event => [("eventName", id)]
  | .eventHandler => [("subscribedEvents", id)]
  | .custom => [("customTypeName", id)]

/-- The type that a component gives, if it gives one. -/
def typeOf? (v : Json) : Option ComponentType :=
  (Schema.textOf? v "type").bind ComponentType.ofName?

/-- What is known of a component depends on the type that it gives. -/
def knownOf (v : Json) : Known := common ++ ((typeOf? v).map detailsOf).getD []

def component (v : Json) : Json := record (knownOf v) v

def link : Json → Json := record [("id", id), ("source", id), ("target", id), ("type", id)]

def externalTarget : Json → Json := record [("domain", id), ("name", id), ("url", id)]

def externalLink : Json → Json :=
  record [("source", id), ("target", externalTarget), ("type", id)]

end Kept

/-- A document without the members that graphs do not know. -/
def kept : Json → Json :=
  Kept.record [("components", Kept.list Kept.component),
    ("externalLinks", Kept.list Kept.externalLink), ("links", Kept.list Kept.link),
    ("metadata", Kept.metadata), ("version", id)]

namespace Kept

variable {known : Known} {given : List (String × Json)} {key : String} {keep : Json → Json}

theorem memberOf?_members (known : Known) (given : List (String × Json)) (key : String) :
    memberOf? (members known given) key =
      (known.lookup key).bind fun keep => (memberOf? given key).map keep := by
  induction given with
  | nil => cases known.lookup key <;> rfl
  | cons m rest ih =>
    rcases m with ⟨k, v⟩
    rw [memberOf?, memberOf?] at ih
    rw [members, List.filterMap_cons, memberOf?, memberOf?, Keyed.lookup_cons]
    by_cases same : key = k
    · subst same
      cases found : known.lookup key with
      | none =>
        show (members known rest).lookup key = _
        rw [ih, found]
        rfl
      | some keep => simp
    · rw [if_neg same, ← ih]
      cases known.lookup k with
      | none => rfl
      | some keep =>
        show ((k, keep v) :: members known rest).lookup key = _
        rw [Keyed.lookup_cons, if_neg same]

theorem memberOf?_of_known (knows : known.lookup key = some keep) :
    memberOf? (members known given) key = (memberOf? given key).map keep := by
  rw [memberOf?_members, knows]
  rfl

theorem get?_record (knows : known.lookup key = some keep) (v : Json) :
    (record known v).get? key = (v.get? key).map keep := by
  cases v with
  | object given => exact memberOf?_of_known knows
  | _ => rfl

theorem ascending_members (known : Known) (h : Keyed.Ascending given) :
    Keyed.Ascending (members known given) := by
  refine List.Pairwise.sublist ?_ h
  induction given with
  | nil => exact .slnil
  | cons m rest ih =>
    rw [members, List.filterMap_cons]
    cases known.lookup m.1 with
    | none => exact (ih (List.Pairwise.of_cons h)).cons _
    | some keep => exact (ih (List.Pairwise.of_cons h)).cons_cons _

/-! ## The schema sees what is known -/

section Schema

open Schema

variable {place : Pointer}

theorem required_members {check : Check} (knows : known.lookup key = some keep)
    (same : ∀ place v, check place (keep v) = check place v) :
    required key check place (members known given) = required key check place given := by
  rw [required, required, memberOf?_of_known knows]
  cases memberOf? given key with
  | none => rfl
  | some v => exact same _ v

theorem optional_members {check : Check} (knows : known.lookup key = some keep)
    (same : ∀ place v, check place (keep v) = check place v) :
    Schema.optional key check place (members known given) =
      Schema.optional key check place given := by
  rw [Schema.optional, Schema.optional, memberOf?_of_known knows]
  cases memberOf? given key with
  | none => rfl
  | some v => exact same _ v

theorem flatMap_members {checks : List MemberCheck}
    (same : ∀ check ∈ checks, check place (members known given) = check place given) :
    (checks.flatMap fun check => check place (members known given)) =
      checks.flatMap fun check => check place given := by
  rw [List.flatMap_def, List.flatMap_def, List.map_congr_left same]

theorem each_kept {check : Check} (same : ∀ place v, check place (keep v) = check place v)
    (v : Json) : Schema.each check place (each keep v) = Schema.each check place v := by
  cases v with
  | object given =>
    rw [each, Schema.each, Schema.each, List.flatMap_map]
    simp only [same]
  | _ => rfl

theorem checkItems_map {check : List Json → Check}
    (same : ∀ before place v, check (before.map keep) place (keep v) = check before place v)
    (before items : List Json) :
    checkItems check place (before.map keep) (items.map keep) =
      checkItems check place before items := by
  induction items generalizing before with
  | nil => rfl
  | cons v rest ih =>
    rw [List.map_cons, checkItems, checkItems, same, List.length_map, ← ih (before ++ [v]),
      List.map_append]
    rfl

theorem list_kept {check : List Json → Check}
    (same : ∀ before place v, check (before.map keep) place (keep v) = check before place v)
    (v : Json) : Schema.list check place (list keep v) = Schema.list check place v := by
  cases v with
  | array items => exact checkItems_map same [] items
  | _ => rfl

theorem textOf?_record (knows : known.lookup key = some id) (v : Json) :
    textOf? (record known v) key = textOf? v key := by
  rw [textOf?, textOf?, get?_record knows, Option.map_id]
  rfl

theorem idOf?_component (v : Json) : idOf? (component v) = idOf? v := by
  rw [idOf?, idOf?, component, textOf?_record rfl]

theorem domain_kept (place : Pointer) (v : Json) :
    Schema.domain place (domain v) = Schema.domain place v := by
  cases v with
  | object given =>
    refine flatMap_members ?_
    simp only [List.forall_mem_cons]
    exact ⟨required_members rfl fun _ _ => rfl, required_members rfl fun _ _ => rfl, by simp⟩
  | _ => rfl

theorem metadata_kept (place : Pointer) (v : Json) :
    Schema.metadata place (metadata v) = Schema.metadata place v := by
  cases v with
  | object given =>
    refine flatMap_members ?_
    simp only [List.forall_mem_cons]
    exact ⟨optional_members rfl fun _ _ => rfl, optional_members rfl fun _ _ => rfl,
      required_members rfl fun _ => each_kept domain_kept, by simp⟩
  | _ => rfl

theorem sourceLocation_kept (place : Pointer) (v : Json) :
    Schema.sourceLocation place (sourceLocation v) = Schema.sourceLocation place v := by
  cases v with
  | object given =>
    refine flatMap_members ?_
    simp only [List.forall_mem_cons]
    exact ⟨required_members rfl fun _ _ => rfl, required_members rfl fun _ _ => rfl,
      optional_members rfl fun _ _ => rfl, by simp⟩
  | _ => rfl

theorem knownOf_of_type {v : Json} {type : ComponentType} (h : typeOf? v = some type) :
    knownOf v = common ++ detailsOf type := by
  rw [knownOf, h]
  rfl

theorem details_members :
    details place (members (knownOf (.object given)) given) = details place given := by
  have same : textOf? (.object (members (knownOf (.object given)) given)) "type" =
      textOf? (.object given) "type" := textOf?_record rfl (.object given)
  rw [details, details, same]
  cases found : (textOf? (.object given) "type").bind ComponentType.ofName? with
  | none => rfl
  | some type =>
    rw [knownOf_of_type found]
    refine flatMap_members ?_
    cases type <;> simp only [Schema.detailsOf, List.forall_mem_cons, List.not_mem_nil,
      false_implies, implies_true, and_true]
    case ui => exact required_members rfl fun _ _ => rfl
    case api =>
      exact ⟨required_members rfl fun _ _ => rfl, optional_members rfl fun _ _ => rfl,
        optional_members rfl fun _ _ => rfl⟩
    case domainOp =>
      exact ⟨required_members rfl fun _ _ => rfl, optional_members rfl fun _ _ => rfl⟩
    case event => exact required_members rfl fun _ _ => rfl
    case eventHandler => exact required_members rfl fun _ _ => rfl
    case custom => exact required_members rfl fun _ _ => rfl

theorem unlike_members (before : List Json) :
    unlike (before.map component) place (members (knownOf (.object given)) given) =
      unlike before place given := by
  have same : idOf? (.object (members (knownOf (.object given)) given)) = idOf? (.object given) :=
    idOf?_component (.object given)
  rw [unlike, unlike, same]
  simp only [List.any_map, Function.comp_def, idOf?_component]

theorem declared_members (domains : Option (List String)) :
    declared domains place (members (knownOf (.object given)) given) =
      declared domains place given := by
  have same : textOf? (.object (members (knownOf (.object given)) given)) "domain" =
      textOf? (.object given) "domain" := textOf?_record rfl (.object given)
  unfold declared
  rw [same]

theorem component_kept (domains : Option (List String)) (before : List Json) (place : Pointer)
    (v : Json) :
    Schema.component domains (before.map component) place (component v) =
      Schema.component domains before place v := by
  cases v with
  | object given =>
    show List.flatMap _ _ = List.flatMap _ _
    simp only [List.flatMap_cons, List.flatMap_nil]
    rw [required_members rfl fun _ _ => rfl, required_members rfl fun _ _ => rfl,
      required_members rfl fun _ _ => rfl, required_members rfl fun _ _ => rfl,
      optional_members rfl fun _ _ => rfl, required_members rfl sourceLocation_kept,
      required_members rfl fun _ _ => rfl, details_members, unlike_members, declared_members]
  | _ => rfl

theorem link_kept (ids : List String) (place : Pointer) (v : Json) :
    Schema.link ids place (link v) = Schema.link ids place v := by
  cases v with
  | object given =>
    refine flatMap_members ?_
    simp only [List.forall_mem_cons]
    exact ⟨optional_members rfl fun _ _ => rfl, optional_members rfl fun _ _ => rfl,
      required_members rfl fun _ _ => rfl, required_members rfl fun _ _ => rfl, by simp⟩
  | _ => rfl

theorem externalTarget_kept (place : Pointer) (v : Json) :
    Schema.externalTarget place (externalTarget v) = Schema.externalTarget place v := by
  cases v with
  | object given =>
    refine flatMap_members ?_
    simp only [List.forall_mem_cons]
    exact ⟨required_members rfl fun _ _ => rfl, optional_members rfl fun _ _ => rfl,
      optional_members rfl fun _ _ => rfl, by simp⟩
  | _ => rfl

theorem externalLink_kept (ids : List String) (place : Pointer) (v : Json) :
    Schema.externalLink ids place (externalLink v) = Schema.externalLink ids place v := by
  cases v with
  | object given =>
    refine flatMap_members ?_
    simp only [List.forall_mem_cons]
    exact ⟨optional_members rfl fun _ _ => rfl, required_members rfl fun _ _ => rfl,
      required_members rfl externalTarget_kept, by simp⟩
  | _ => rfl

theorem identifiers_kept (v : Json) : identifiers (kept v) = identifiers v := by
  rw [identifiers, identifiers, kept, get?_record rfl]
  cases v.get? "components" with
  | none => rfl
  | some components =>
    cases components with
    | array items =>
      show (items.map component).filterMap idOf? = items.filterMap idOf?
      rw [List.filterMap_map]
      exact congrArg (items.filterMap ·) (funext idOf?_component)
    | _ => rfl

theorem domainsOf_kept (v : Json) :
    ((kept v).get? "metadata").bind (·.get? "domains") =
      ((v.get? "metadata").bind (·.get? "domains")).map (each domain) := by
  rw [kept, get?_record rfl]
  cases v.get? "metadata" with
  | none => rfl
  | some inner => exact get?_record rfl inner

theorem domainNames?_kept (v : Json) : domainNames? (kept v) = domainNames? v := by
  rw [domainNames?, domainNames?, domainsOf_kept]
  cases (v.get? "metadata").bind (·.get? "domains") with
  | none => rfl
  | some domains =>
    cases domains with
    | object given =>
      show some ((given.map fun m => (m.1, domain m.2)).map Prod.fst) = some (given.map Prod.fst)
      rw [List.map_map]
      rfl
    | _ => rfl

end Schema

end Kept

open Kept in
/-- The violations of a document are about what graphs know. -/
theorem check_kept (document : Json) : check (kept document) = check document := by
  rw [check, check, identifiers_kept, domainNames?_kept]
  cases document with
  | object given =>
    refine flatMap_members ?_
    simp only [List.forall_mem_cons]
    exact ⟨required_members rfl fun _ _ => rfl, required_members rfl metadata_kept,
      required_members rfl fun _ => list_kept (component_kept _),
      required_members rfl fun _ => list_kept fun _ => link_kept _,
      optional_members rfl fun _ => list_kept fun _ => externalLink_kept _, by simp⟩
  | _ => rfl

/-! ## The decoding sees what is known -/

namespace Kept

variable {α : Type} {decode : Json → Decoded α} {known : Known} {given : List (String × Json)}
  {key : String} {keep : Json → Json}

theorem decodeMember_members (knows : known.lookup key = some keep)
    (same : ∀ v, decode (keep v) = decode v) :
    decodeMember decode (members known given) key = decodeMember decode given key := by
  rw [decodeMember, decodeMember, memberOf?_of_known knows]
  cases memberOf? given key with
  | none => rfl
  | some v => exact congrArg (Except.map some) (same v)

theorem decodeRequired_members (knows : known.lookup key = some keep)
    (same : ∀ v, decode (keep v) = decode v) :
    decodeRequired decode (members known given) key = decodeRequired decode given key := by
  rw [decodeRequired, decodeRequired, decodeMember_members knows same]

theorem decodeOptional_members (knows : known.lookup key = some keep)
    (same : ∀ v, decodeOption decode (keep v) = decodeOption decode v) :
    decodeOptional decode (members known given) key = decodeOptional decode given key := by
  rw [decodeOptional, decodeOptional, decodeMember_members knows same]

theorem decodeItems_map (same : ∀ v, decode (keep v) = decode v) (items : List Json) :
    decodeItems decode (items.map keep) = decodeItems decode items := by
  induction items with
  | nil => rfl
  | cons v rest ih => rw [List.map_cons, decodeItems, decodeItems, same, ih]

theorem decodeList_kept (same : ∀ v, decode (keep v) = decode v) (v : Json) :
    decodeList decode (list keep v) = decodeList decode v := by
  cases v with
  | array items => exact decodeItems_map same items
  | _ => rfl

theorem decodeEach_map (same : ∀ v, decode (keep v) = decode v) (given : List (String × Json)) :
    decodeEach decode (given.map fun m => (m.1, keep m.2)) = decodeEach decode given := by
  induction given with
  | nil => rfl
  | cons m rest ih => rw [List.map_cons, decodeEach, decodeEach, same, ih]

theorem decode_domain (v : Json) : Domain.decode (domain v) = Domain.decode v := by
  cases v with
  | object given =>
    show Domain.decode (.object (members _ given)) = _
    simp only [Domain.decode, decodeObject, ok_bind]
    rw [decodeRequired_members rfl fun _ => rfl, decodeRequired_members rfl fun _ => rfl]
  | _ => rfl

theorem decodeDomains_each (v : Json) : decodeDomains (each domain v) = decodeDomains v := by
  cases v with
  | object given =>
    simp only [each, decodeDomains, decodeObject, ok_bind, decodeEach_map decode_domain]
  | _ => rfl

theorem decode_metadata (v : Json) : Metadata.decode (metadata v) = Metadata.decode v := by
  cases v with
  | object given =>
    show Metadata.decode (.object (members _ given)) = _
    simp only [Metadata.decode, decodeObject, ok_bind]
    rw [decodeOptional_members rfl fun _ => rfl, decodeOptional_members rfl fun _ => rfl,
      decodeRequired_members rfl decodeDomains_each]
  | _ => rfl

theorem decode_sourceLocation (v : Json) :
    SourceLocation.decode (sourceLocation v) = SourceLocation.decode v := by
  cases v with
  | object given =>
    show SourceLocation.decode (.object (members _ given)) = _
    simp only [SourceLocation.decode, decodeObject, ok_bind]
    rw [decodeRequired_members rfl fun _ => rfl, decodeRequired_members rfl fun _ => rfl,
      decodeOptional_members rfl fun _ => rfl]
  | _ => rfl

theorem decode_details (type : ComponentType) :
    Details.decode (members (common ++ detailsOf type) given) type = Details.decode given type := by
  cases type with
  | ui | event | custom =>
    simp only [Details.decode]
    rw [decodeRequired_members rfl fun _ => rfl]
  | eventHandler =>
    simp only [Details.decode]
    rw [decodeRequired_members rfl fun _ => rfl]
  | useCase => rfl
  | domainOp =>
    simp only [Details.decode]
    rw [decodeRequired_members rfl fun _ => rfl, decodeOptional_members rfl fun _ => rfl]
  | api =>
    simp only [Details.decode]
    rw [decodeRequired_members rfl fun _ => rfl, decodeOptional_members rfl fun _ => rfl,
      decodeOptional_members rfl fun _ => rfl]

/-- A component is decoded with the type that it gives. -/
theorem typeOf?_of_decoded {type : ComponentType}
    (read : decodeRequired decodeType given "type" = .ok type) :
    typeOf? (.object given) = some type := by
  rw [typeOf?, Schema.textOf?, get?]
  rw [decodeRequired, decodeMember] at read
  cases found : memberOf? given "type" with
  | none =>
    rw [found] at read
    cases read
  | some v =>
    rw [found] at read
    cases v with
    | string name =>
      cases known : ComponentType.ofName? name with
      | none => simp [decodeType, known, Except.map, bind, Except.bind] at read
      | some other =>
        simp only [decodeType, known, Except.map, bind, Except.bind, require] at read
        cases read
        exact known
    | _ => cases read

theorem decode_component (v : Json) : Component.decode (component v) = Component.decode v := by
  cases v with
  | object given =>
    show Component.decode (.object (members (knownOf (.object given)) given)) = _
    have sameType : decodeRequired decodeType (members (knownOf (.object given)) given) "type" =
        decodeRequired decodeType given "type" := decodeRequired_members rfl fun _ => rfl
    simp only [Component.decode, decodeObject, ok_bind]
    rw [sameType]
    cases read : decodeRequired decodeType given "type" with
    | error e => rfl
    | ok type =>
      -- the type is decoded first, and decides what is known of the rest
      rw [knownOf_of_type (typeOf?_of_decoded read)]
      simp only [ok_bind]
      rw [decodeRequired_members rfl fun _ => rfl, decodeRequired_members rfl fun _ => rfl,
        decodeRequired_members rfl fun _ => rfl, decodeRequired_members rfl fun _ => rfl,
        decodeRequired_members rfl decode_sourceLocation, decodeOptional_members rfl fun _ => rfl,
        decode_details]
  | _ => rfl

theorem decode_link (v : Json) : Link.decode (link v) = Link.decode v := by
  cases v with
  | object given =>
    show Link.decode (.object (members _ given)) = _
    simp only [Link.decode, decodeObject, ok_bind]
    rw [decodeOptional_members rfl fun _ => rfl, decodeRequired_members rfl fun _ => rfl,
      decodeRequired_members rfl fun _ => rfl, decodeOptional_members rfl fun _ => rfl]
  | _ => rfl

theorem decode_externalTarget (v : Json) :
    ExternalTarget.decode (externalTarget v) = ExternalTarget.decode v := by
  cases v with
  | object given =>
    show ExternalTarget.decode (.object (members _ given)) = _
    simp only [ExternalTarget.decode, decodeObject, ok_bind]
    rw [decodeRequired_members rfl fun _ => rfl, decodeOptional_members rfl fun _ => rfl,
      decodeOptional_members rfl fun _ => rfl]
  | _ => rfl

theorem decode_externalLink (v : Json) :
    ExternalLink.decode (externalLink v) = ExternalLink.decode v := by
  cases v with
  | object given =>
    show ExternalLink.decode (.object (members _ given)) = _
    simp only [ExternalLink.decode, decodeObject, ok_bind]
    rw [decodeRequired_members rfl fun _ => rfl, decodeRequired_members rfl decode_externalTarget,
      decodeOptional_members rfl fun _ => rfl]
  | _ => rfl

theorem decodeOption_list {decode : Json → Decoded α} {keep : Json → Json}
    (same : ∀ v, decode (keep v) = decode v) (v : Json) :
    decodeOption (decodeList decode) (list keep v) = decodeOption (decodeList decode) v := by
  cases v with
  | array items => exact congrArg (Except.map some) (decodeList_kept same (.array items))
  | _ => rfl

end Kept

open Kept in
/-- What is decoded from a document is what graphs know. -/
theorem decode_kept (document : Json) : Graph.decode (kept document) = Graph.decode document := by
  cases document with
  | object given =>
    show Graph.decode (.object (members _ given)) = _
    simp only [Graph.decode, decodeObject, ok_bind]
    rw [decodeRequired_members rfl fun _ => rfl, decodeRequired_members rfl decode_metadata,
      decodeRequired_members rfl (decodeList_kept decode_component),
      decodeRequired_members rfl (decodeList_kept decode_link),
      decodeOptional_members rfl (decodeOption_list decode_externalLink)]
  | _ => rfl

/-- A document is admitted as what is kept of it is. -/
theorem ofJson_kept (document : Json) : ofJson (kept document) = ofJson document := by
  rw [ofJson, ofJson, check_kept, decode_kept]

end ComponentAtlas.Graph
