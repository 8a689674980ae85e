import Mathlib.Data.List.Forall2
import Mathlib.Data.List.Pairwise
import ComponentAtlas.Proofs.Graph.Reports
import ComponentAtlas.Proofs.Json.Reading
import ComponentAtlas.Proofs.Json.Remarks

/-! # What violations say, and of what

A violation is at a place of the document, and what it says is so of the value there. No two
violations have both the place and the message in common. There is one lemma for each way in which
checks are put together: a check that is put together from such checks is one, if those of its parts
that look at one object look at different members. -/

namespace ComponentAtlas.Graph

open Json

/-! ## Causes and messages -/

namespace Cause

/-- What a cause says of the value at its place. -/
def Fits : Cause → Json → Prop
  | notObject, v => v.object? = none
  | notArray, v => v.array? = none
  | notString, v => v.string? = none
  | notInteger, v => ∀ n : Int, v ≠ .int n
  | missing key, v => ∃ members, v = .object members ∧ memberOf? members key = none
  | notVersion, v => ∃ s, v = .string s ∧ Schema.isVersion s = false
  | notAllowed, v => ∃ s, v = .string s
  | notIdentifier, v => ∃ s, v = .string s ∧ ComponentId.ofText? s = none
  | belowOne, v => ∃ n : Int, v = .int n ∧ n < 1
  | aboveLimit, v => ∃ n : Int, v = .int n ∧ lineLimit < n
  | repeatedId text, v | undeclaredDomain text, v | unknownComponent text, v => v = .string text

/-- The cause with nothing quoted in it. -/
def bare : Cause → Cause
  | missing _ => missing ""
  | repeatedId _ => repeatedId ""
  | undeclaredDomain _ => undeclaredDomain ""
  | unknownComponent _ => unknownComponent ""
  | c => c

/-- The causes with nothing quoted in them. -/
def bareCauses : List Cause :=
  [notObject, notArray, notString, notInteger, missing "", notVersion, notAllowed, notIdentifier,
    belowOne, aboveLimit, repeatedId "", undeclaredDomain "", unknownComponent ""]

theorem bare_mem (c : Cause) : c.bare ∈ bareCauses := by
  cases c <;> simp [bare, bareCauses]

theorem opening_bare (c : Cause) : c.bare.opening = c.opening := by
  cases c <;> rfl

-- The openings are compared as lists of characters, which are known before the comparison.
/-- No opening goes on with what another begins with. -/
theorem pairwise_openings : bareCauses.Pairwise fun c d => ¬ Agree c.opening d.opening := by
  obtain ⟨texts, same, apart⟩ : ∃ texts : List (List Char),
      bareCauses.map opening = texts.map String.ofList ∧
        texts.Pairwise fun s t => ¬ (s <+: t ∨ t <+: s) :=
    ⟨[_, _, _, _, _, _, _, _, _, _, _, _, _], rfl, by decide⟩
  have openings : (texts.map String.ofList).Pairwise fun a b => ¬ Agree a b :=
    List.pairwise_map.2 (apart.imp (not_agree rfl rfl))
  rw [← same] at openings
  exact List.pairwise_map.1 openings

theorem eq_of_agree {c d : Cause} (first : c ∈ bareCauses) (second : d ∈ bareCauses)
    (agree : Agree c.opening d.opening) : c = d := by
  have symm : Std.Symm fun c d : Cause => ¬ Agree c.opening d.opening :=
    ⟨fun _ _ apart agree => apart agree.symm⟩
  exact Classical.byContradiction fun ne => pairwise_openings.forall first second ne agree

/-- Messages differ if causes do. -/
theorem message_inj {c d : Cause} (same : c.message = d.message) : c = d := by
  have kinds : c.bare = d.bare := by
    refine eq_of_agree c.bare_mem d.bare_mem ?_
    obtain ⟨rest, first⟩ := c.exists_message_eq
    obtain ⟨more, second⟩ := d.exists_message_eq
    rw [first, second] at same
    rw [opening_bare, opening_bare]
    exact agree_of_append_eq same
  cases c <;> cases d <;> first
    | cases kinds; done
    | rfl
    | exact congrArg _ (quoted_inj same)

end Cause

instance : Remark Violation where
  place x := x.place
  message x := x.cause.message
  Fits x := x.cause.Fits
  Passes _ _ := True

namespace Schema

open Remark (ExactFor ExactIn)

variable {place : Pointer} {v : Json} {given : List (String × Json)} {key : String}
  {keys more : List String} {check : Check} {checks : List MemberCheck}

/-! ## Checks that tell what is so -/

/-- What the check finds in a value is so, and it is found once. -/
def Exact (check : Check) : Prop :=
  ∀ place v, v.Ordered → Remark.Exact place v (check place v)

/-- What the check finds is so, it is about the members with these keys, and it is found once. -/
def ExactOf (keys : List String) (check : MemberCheck) : Prop :=
  ∀ place given, (Json.object given).Ordered → ExactFor place given keys (check place given)

/-! ### Texts and numbers -/

theorem exact_textWith {fault? : String → Option Cause}
    (fits : ∀ s cause, fault? s = some cause → cause.Fits (.string s)) :
    Exact (textWith fault?) := by
  intro place v _
  cases v with
  | string s =>
    rw [textWith]
    cases faulty : fault? s with
    | none => exact .nil
    | some cause => exact .single rfl (fits s cause faulty)
  | _ => exact .single rfl rfl

theorem exact_text : Exact text := exact_textWith fun _ _ faulty => nomatch faulty

/-- A test of texts with one complaint about all that fail it. -/
theorem exact_tested {test : String → Bool} {complaint : String → Cause}
    (fits : ∀ s, test s = false → (complaint s).Fits (.string s)) :
    Exact (textWith fun s => if test s then none else some (complaint s)) := by
  refine exact_textWith ?_
  intro s cause faulty
  split at faulty
  · cases faulty
  · next fails =>
    cases faulty
    exact fits s (Bool.eq_false_iff.2 fails)

theorem exact_oneOf (allowed : List String) : Exact (oneOf allowed) :=
  exact_tested fun s _ => ⟨s, rfl⟩

theorem exact_version : Exact Schema.version := exact_tested fun s fails => ⟨s, rfl, fails⟩

theorem exact_identifier : Exact identifier :=
  exact_tested fun s fails => ⟨s, rfl, Option.not_isSome_iff_eq_none.1 (Bool.eq_false_iff.1 fails)⟩

theorem exact_reference (known : List String) : Exact (reference known) :=
  exact_tested fun _ _ => rfl

theorem exact_lineNumber : Exact lineNumber := by
  intro place v _
  unfold lineNumber
  split
  · next n _ =>
    split
    · next low => exact .single rfl ⟨n, rfl, low⟩
    · split
      · next high => exact .single rfl ⟨n, rfl, high⟩
      · exact .nil
  · next other => exact .single rfl fun n => other n

/-! ### Members and objects -/

/-- What is found in a member is found in the object. -/
theorem Exact.member {w : Json} (h : Exact check) (ordered : (Json.object given).Ordered)
    (present : memberOf? given key = some w) :
    ExactFor place given [key] (check (place.member key) w) :=
  .member present (fun _ _ => trivial) (h _ w (ordered.member present))

theorem exact_required (key : String) (h : Exact check) : ExactOf [key] (required key check) := by
  intro place given ordered
  unfold required
  split
  · next w present => exact h.member ordered present
  · next missing => exact .missing rfl rfl ⟨given, rfl, missing⟩

theorem exact_optional (key : String) (h : Exact check) :
    ExactOf [key] (Schema.optional key check) := by
  intro place given ordered
  unfold Schema.optional
  split
  · next w present => exact h.member ordered present
  · exact .nil

/-- Checks of members, one after another. -/
def inTurn (checks : List MemberCheck) : MemberCheck := fun place given =>
  checks.flatMap fun check => check place given

/-- Checks that look at different members may be made one after another. -/
theorem exact_inTurn {parts : List (List String)} (each : List.Forall₂ ExactOf parts checks)
    (apart : parts.flatten.Nodup) : ExactOf parts.flatten (inTurn checks) := by
  intro place given ordered
  induction each with
  | nil => exact .nil
  | @cons keys check parts checks first _ ih =>
    rw [List.flatten_cons, List.nodup_append'] at apart
    obtain ⟨-, later, disjoint⟩ := apart
    rw [inTurn, List.flatMap_cons]
    exact (first place given ordered).append (ih later) fun _ one another => disjoint one another

theorem ExactOf.mono {check : MemberCheck} (h : ExactOf keys check)
    (sub : ∀ key ∈ keys, key ∈ more) : ExactOf more check :=
  fun place given ordered => (h place given ordered).mono sub

theorem exact_record {parts : List (List String)} (each : List.Forall₂ ExactOf parts checks)
    (apart : parts.flatten.Nodup) : Exact (record checks) := by
  intro place v ordered
  cases v with
  | object given => exact (exact_inTurn each apart place given ordered).toExact
  | _ => exact .single rfl rfl

/-- What is found in some members of an object with keys of their own. -/
theorem exactFor_members (h : Exact check) (ordered : (Json.object given).Ordered)
    {entries : List (String × Json)} (present : ∀ m ∈ entries, memberOf? given m.1 = some m.2)
    (distinct : (entries.map (·.1)).Nodup) :
    ExactFor place given (entries.map (·.1))
      (entries.flatMap fun m => check (place.member m.1) m.2) := by
  induction entries with
  | nil => exact .nil
  | cons m rest ih =>
    rw [List.forall_mem_cons] at present
    rw [List.map_cons, List.nodup_cons] at distinct
    rw [List.flatMap_cons]
    refine (h.member ordered present.1).append (ih present.2 distinct.2) ?_
    rw [List.forall_mem_singleton]
    exact distinct.1

/-- The keys of an object differ, and so its values are all checked under keys of their own. -/
theorem exact_each (h : Exact check) : Exact (each check) := by
  intro place v ordered
  cases v with
  | object given =>
    have distinct := ordered.ascending.nodup
    exact (exactFor_members h ordered (fun _ => Keyed.lookup_of_mem distinct) distinct).toExact
  | _ => exact .single rfl rfl

/-! ### Lists -/

section Items

variable {check : List Json → Check}

theorem exactIn_checkItems (h : ∀ before, Exact (check before)) (before : List Json)
    {items : List Json} (ordered : ∀ v ∈ before ++ items, v.Ordered) :
    ExactIn place (before ++ items) before.length (checkItems check place before items) := by
  induction items generalizing before with
  | nil => exact .nil
  | cons v rest ih =>
    have present : (before ++ v :: rest)[before.length]? = some v := by simp
    have own : v.Ordered := ordered v (by simp)
    rw [List.append_cons] at ordered
    have later := ih (before ++ [v]) ordered
    rw [List.length_append, List.length_singleton, ← List.append_cons] at later
    rw [checkItems]
    exact .cons present (h before _ v own) later

theorem exact_list (h : ∀ before, Exact (check before)) : Exact (Schema.list check) := by
  intro place v ordered
  cases v with
  | array items => exact (exactIn_checkItems h [] ordered.items).toExact
  | _ => exact .single rfl rfl

end Items

/-! ## The schema -/

theorem exact_domain : Exact Schema.domain :=
  exact_record (.cons (exact_required _ exact_text)
    (.cons (exact_required _ (exact_oneOf _)) .nil)) (by decide)

theorem exact_metadata : Exact Schema.metadata :=
  exact_record (.cons (exact_optional _ exact_text)
    (.cons (exact_optional _ exact_text)
      (.cons (exact_required _ (exact_each exact_domain)) .nil))) (by decide)

theorem exact_sourceLocation : Exact Schema.sourceLocation :=
  exact_record (.cons (exact_required _ exact_text)
    (.cons (exact_required _ exact_text)
      (.cons (exact_optional _ exact_lineNumber) .nil))) (by decide)

theorem exact_externalTarget : Exact Schema.externalTarget :=
  exact_record (.cons (exact_required _ exact_text)
    (.cons (exact_optional _ exact_text)
      (.cons (exact_optional _ exact_text) .nil))) (by decide)

theorem exact_link (known : List String) : Exact (Schema.link known) :=
  exact_record (.cons (exact_optional _ exact_text)
    (.cons (exact_optional _ (exact_oneOf _))
      (.cons (exact_required _ (exact_reference known))
        (.cons (exact_required _ (exact_reference known)) .nil)))) (by decide)

theorem exact_externalLink (known : List String) : Exact (Schema.externalLink known) :=
  exact_record (.cons (exact_optional _ (exact_oneOf _))
    (.cons (exact_required _ (exact_reference known))
      (.cons (exact_required _ exact_externalTarget) .nil))) (by decide)

/-! ### Components -/

/-- The keys of the members that some type of component has besides the common ones. -/
def detailKeys : List String :=
  ["route", "apiType", "httpMethod", "path", "operationName", "entity", "eventName",
    "subscribedEvents", "customTypeName"]

theorem exact_detailsOf (type : ComponentType) :
    ExactOf detailKeys (inTurn (detailsOf type)) := by
  have one {key : String} {check : Check} (h : Exact check) (listed : key ∈ detailKeys) :
      ExactOf detailKeys (inTurn [required key check]) := by
    refine (exact_inTurn (.cons (exact_required key h) .nil) (List.nodup_singleton _)).mono ?_
    exact List.forall_mem_singleton.2 listed
  cases type with
  | ui => exact one exact_text (by decide)
  | api =>
    exact (exact_inTurn (.cons (exact_required _ (exact_oneOf _))
      (.cons (exact_optional _ (exact_oneOf _))
        (.cons (exact_optional _ exact_text) .nil))) (by decide)).mono (by decide)
  | useCase => exact (exact_inTurn .nil List.nodup_nil).mono (List.forall_mem_nil _)
  | domainOp =>
    exact (exact_inTurn (.cons (exact_required _ exact_text)
      (.cons (exact_optional _ exact_text) .nil)) (by decide)).mono (by decide)
  | event => exact one exact_text (by decide)
  | eventHandler => exact one (exact_list fun _ => exact_text) (by decide)
  | custom => exact one exact_text (by decide)

theorem exact_details : ExactOf detailKeys details := by
  intro place given ordered
  unfold details
  split
  · next type _ => exact exact_detailsOf type place given ordered
  · exact .nil

/-- The checks of a component that look at nothing but the component. -/
def ownChecks : List MemberCheck :=
  [required "id" identifier, required "name" text, required "domain" text,
    required "module" text, Schema.optional "description" text,
    required "sourceLocation" Schema.sourceLocation,
    required "type" (oneOf (ComponentType.all.map (·.name))), details]

theorem exact_ownChecks :
    ∃ keys, ExactOf keys (inTurn ownChecks) :=
  ⟨_, exact_inTurn (.cons (exact_required _ exact_identifier)
    (.cons (exact_required _ exact_text) (.cons (exact_required _ exact_text)
      (.cons (exact_required _ exact_text) (.cons (exact_optional _ exact_text)
        (.cons (exact_required _ exact_sourceLocation)
          (.cons (exact_required _ (exact_oneOf _)) (.cons exact_details .nil))))))))
    (by decide)⟩

/-- The checks of a component alone find no references. -/
theorem not_isReference_of_ownChecks {x : Violation} (found : x ∈ inTurn ownChecks place given) :
    x.cause.isReference = false := by
  have silent : Silent (record ownChecks) := by
    refine silent_record ?_
    simp only [ownChecks, List.forall_mem_cons]
    exact ⟨silent_required _ silent_identifier, silent_required _ silent_text,
      silent_required _ silent_text, silent_required _ silent_text, silent_optional _ silent_text,
      silent_required _ silent_sourceLocation, silent_required _ (silent_oneOf _), silent_details,
      List.forall_mem_nil _⟩
  exact Bool.eq_false_iff.2 (List.filter_eq_nil_iff.1 (silent place (.object given)) x found)

theorem component_object (domains : Option (List String)) (before : List Json) (place : Pointer)
    (given : List (String × Json)) :
    Schema.component domains before place (.object given) =
      inTurn ownChecks place given ++
        (repeated before place (.object given) ++ undeclared domains place (.object given)) := by
  show (ownChecks ++ [unlike before, declared domains]).flatMap (fun check => check place given) = _
  rw [List.flatMap_append, List.flatMap_cons, List.flatMap_cons, List.flatMap_nil, List.append_nil]
  rfl

/-- The checks of references of a component have found a repeated identifier or a domain that is not
declared. -/
theorem exact_references (domains : Option (List String)) (before : List Json) :
    Remark.Exact place (.object given) (repeated before place (.object given) ++
      undeclared domains place (.object given)) where
  isTrue x found := by
    rcases List.mem_append.1 found with again | elsewhere
    · obtain ⟨id, ⟨gives, -⟩, -, rfl⟩ := mem_repeated_iff.1 again
      exact .member trivial gives (.here rfl)
    · obtain ⟨name, names, gives, -, -, rfl⟩ := mem_undeclared_iff.1 elsewhere
      exact .member trivial gives (.here rfl)
  nodup := by
    have spread := (isSpread_component domains).apart before place (.object given)
    rw [references_component] at spread
    exact List.pairwise_map.2 (spread.imp fun ne same => ne (Prod.mk.inj same).1)

theorem exact_component (domains : Option (List String)) (before : List Json) :
    Exact (Schema.component domains before) := by
  intro place v ordered
  cases v with
  | object given =>
    obtain ⟨keys, own⟩ := exact_ownChecks
    rw [component_object]
    refine (own place given ordered).toExact.append (exact_references domains before) ?_
    -- a message tells its cause, and so whether it is about a reference
    intro x found y refers same
    have isPlain := not_isReference_of_ownChecks found
    rw [Cause.message_inj (Prod.mk.inj same).2] at isPlain
    rcases List.mem_append.1 refers with again | elsewhere
    · obtain ⟨_, -, -, rfl⟩ := mem_repeated_iff.1 again
      cases isPlain
    · obtain ⟨_, _, -, -, -, rfl⟩ := mem_undeclared_iff.1 elsewhere
      cases isPlain
  | _ => exact .single rfl rfl

end Schema

/-! ## Documents -/

open Schema in
/-- The check of a document tells what is so of the values in it, and tells it once. -/
theorem exact_check {document : Json} (ordered : document.Ordered) :
    Remark.Exact [] document (check document) := by
  have exact (known : List String) (domains : Option (List String)) :
      Exact (record [required "version" Schema.version, required "metadata" Schema.metadata,
        required "components" (list (component domains)),
        required "links" (list fun _ => link known),
        Schema.optional "externalLinks" (list fun _ => externalLink known)]) :=
    exact_record (.cons (exact_required _ exact_version)
      (.cons (exact_required _ exact_metadata)
        (.cons (exact_required _ (exact_list (exact_component domains)))
          (.cons (exact_required _ (exact_list fun _ => exact_link known))
            (.cons (exact_optional _ (exact_list fun _ => exact_externalLink known)) .nil)))))
      (by decide)
  exact exact _ _ [] document ordered

/-- The place of a domain. -/
def domainPlace (name : String) : Pointer := [.key "metadata", .key "domains", .key name]

/-- What is wrong in a declared domain is wrong in the document. -/
theorem mem_check_of_domain {document : Json} {domains : List (String × Json)}
    (declares : DeclaresDomains document domains) {name : String} {v : Json}
    (among : (name, v) ∈ domains) {x : Violation}
    (found : x ∈ Schema.domain (domainPlace name) v) : x ∈ check document := by
  obtain ⟨metadata, described, declared⟩ := declares
  cases document with
  | object members =>
    cases metadata with
    | object given =>
      have inDomains : x ∈ Schema.each Schema.domain [.key "metadata", .key "domains"]
          (.object domains) := List.mem_flatMap.2 ⟨(name, v), among, found⟩
      have inMetadata : x ∈ Schema.metadata [.key "metadata"] (.object given) := by
        refine List.mem_flatMap.2 ⟨Schema.required "domains" (Schema.each Schema.domain), ?_, ?_⟩
        · simp
        · rw [get?] at declared
          rw [Schema.required, declared]
          exact inDomains
      refine List.mem_flatMap.2 ⟨Schema.required "metadata" Schema.metadata, ?_, ?_⟩
      · simp
      · rw [get?] at described
        rw [Schema.required, described]
        exact inMetadata
    | _ => cases declared
  | _ => cases described

theorem part?_of_get? {v w : Json} {key : String} (given : v.get? key = some w) :
    Pointer.part? key v = some w := by
  cases v with
  | object members => exact given
  | _ => cases given

theorem ordered_of_get? {v w : Json} {key : String} (ordered : v.Ordered)
    (given : v.get? key = some w) : w.Ordered := by
  cases v with
  | object members => exact ordered.member given
  | _ => cases given

theorem ordered_of_declares {document : Json} {domains : List (String × Json)}
    (ordered : document.Ordered) (declares : DeclaresDomains document domains) :
    (Json.object domains).Ordered := by
  obtain ⟨metadata, described, declared⟩ := declares
  exact ordered_of_get? (ordered_of_get? ordered described) declared

/-- The key of a domain is read off the text of every place in it, whatever characters it has. -/
theorem locate?_in_domain {document : Json} {domains : List (String × Json)}
    (declares : DeclaresDomains document domains) {name : String} {v : Json}
    (present : memberOf? domains name = some v) (inner : Pointer) :
    ∃ rest, Pointer.tokens? (domainPlace name ++ inner).text =
        some ("metadata" :: "domains" :: name :: rest) ∧
      Pointer.locate? (domainPlace name ++ inner).text document = Pointer.follow? rest v := by
  obtain ⟨metadata, described, declared⟩ := declares
  have tokens := Pointer.tokens?_text (domainPlace name ++ inner)
  have own : Pointer.part? name (.object domains) = some v := present
  refine ⟨inner.map Step.token, tokens, ?_⟩
  rw [Pointer.locate?, tokens, Option.bind_some]
  show Pointer.follow? ("metadata" :: "domains" :: name :: inner.map Step.token) document = _
  simp only [Pointer.follow?, part?_of_get? described, part?_of_get? declared, own,
    Option.bind_some]

/-- Reports point at what they are about. The path of a report is the text of a pointer to a value
in the document. A report of a missing member is about an object without that member, and a report
of a value that should be an object, an array or a text is about one that is not. What is wrong in a
domain is reported at paths in which the key of the domain is read as it is, and which lead into
that domain. No report is made twice. -/
theorem reports_point_at_values (document : Json) (ordered : document.Ordered) :
    (∀ r ∈ reports document, ∃ node, Pointer.locate? r.1 document = some node ∧
      (∀ key, r.2 = "must have required property '" ++ key ++ "'" →
        ∃ members, node = .object members ∧ memberOf? members key = none) ∧
      (r.2 = "must be object" → node.object? = none) ∧
      (r.2 = "must be array" → node.array? = none) ∧
      (r.2 = "must be string" → node.string? = none)) ∧
    (∀ domains, DeclaresDomains document domains → ∀ name v, (name, v) ∈ domains →
      ∀ x ∈ Schema.domain (domainPlace name) v,
        (x.place.text, x.cause.message) ∈ reports document ∧
          ∃ rest, Pointer.tokens? x.place.text = some ("metadata" :: "domains" :: name :: rest) ∧
            Pointer.locate? x.place.text document = Pointer.follow? rest v) ∧
    (reports document).Nodup := by
  have exact := exact_check ordered
  refine ⟨?_, ?_, exact.nodup_shown⟩
  · intro r reported
    obtain ⟨x, found, rfl⟩ := List.mem_map.1 reported
    obtain ⟨-, node, -, leads, fitting⟩ := (exact.isTrue x found).of_root
    -- the message tells the cause, and the cause is so of the value
    have told (cause : Cause) (same : x.cause.message = cause.message) : cause.Fits node :=
      Cause.message_inj same ▸ fitting
    exact ⟨node, leads, fun key => told (.missing key), told .notObject, told .notArray,
      told .notString⟩
  · intro domains declares name v among x found
    refine ⟨List.mem_map.2 ⟨x, mem_check_of_domain declares among found, rfl⟩, ?_⟩
    have own := ordered_of_declares ordered declares
    have present := Keyed.lookup_of_mem own.ascending.nodup among
    have inside := Schema.exact_domain (domainPlace name) v (own.member present)
    obtain ⟨inner, -, at_inner, -, -, -⟩ := inside.isTrue x found
    rw [show x.place = domainPlace name ++ inner from at_inner]
    exact locate?_in_domain declares present inner

/-- Domains whose keys are empty or need to be escaped. -/
def oddDomains : List (String × Json) := [("", .null), ("a/~1", .object [])]

def oddDocument : Json := .object [("metadata", .object [("domains", .object oddDomains)])]

theorem reports_point_at_values_odd :
    oddDocument.Ordered ∧ DeclaresDomains oddDocument oddDomains ∧
      ("/metadata/domains/", "must be object") ∈ reports oddDocument ∧
      Pointer.locate? "/metadata/domains/" oddDocument = some .null ∧
      ("/metadata/domains/a~1~01", "must have required property 'description'") ∈
        reports oddDocument ∧
      Pointer.locate? "/metadata/domains/a~1~01" oddDocument = some (.object []) ∧
      (reports oddDocument).Nodup := by
  have ordered : oddDocument.Ordered := by decide
  have declares : DeclaresDomains oddDocument oddDomains := ⟨_, rfl, rfl⟩
  obtain ⟨-, inDomains, nodup⟩ := reports_point_at_values oddDocument ordered
  obtain ⟨unnamed, _, tokens, leads⟩ := inDomains oddDomains declares "" .null
    (List.mem_cons_self ..) ⟨domainPlace "", .notObject⟩ (List.mem_singleton_self _)
  obtain ⟨escaped, _, tokens', leads'⟩ := inDomains oddDomains declares "a/~1" (.object [])
    (List.mem_cons_of_mem _ (List.mem_singleton_self _))
    ⟨domainPlace "a/~1", .missing "description"⟩ (List.mem_cons_self ..)
  have text : (domainPlace "").text = "/metadata/domains/" := by decide
  have text' : (domainPlace "a/~1").text = "/metadata/domains/a~1~01" := by decide
  rw [Pointer.tokens?_text] at tokens tokens'
  cases tokens
  cases tokens'
  exact ⟨ordered, declares, text ▸ unnamed, text ▸ leads, text' ▸ escaped, text' ▸ leads', nodup⟩

end ComponentAtlas.Graph
