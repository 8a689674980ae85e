import ComponentAtlas.Config.Loading
import ComponentAtlas.Proofs.Config.Reading
import ComponentAtlas.Proofs.Extraction.Routing

/-! # The gate of configurations

A document passes the gate when it has no violations and its schema can be held. What passes is
kept as it is, apart from root members that configurations do not know and a schema that is null;
it passes again when it is written, and an extractor can be made of it. -/

namespace ComponentAtlas.Config

open Json

/-- The schema of a document is absent, null or a text. -/
def HasReadableSchema (v : Json) : Prop :=
  v.get? "$schema" = none ∨ v.get? "$schema" = some .null ∨
    ∃ s, v.get? "$schema" = some (.string s)

/-- Configurations keep the modules of a document, and its schema unless that is null. -/
def isKept : String × Json → Bool
  | ("modules", _) => true
  | ("$schema", .null) => false
  | ("$schema", _) => true
  | _ => false

/-- A document without the root members that configurations do not keep. -/
def kept : Json → Json
  | .object members => .object (members.filter isKept)
  | v => v

/-! ## What is kept -/

theorem kept_ordered {members : List (String × Json)} (ordered : (Json.object members).Ordered) :
    (Json.object (members.filter isKept)).Ordered := by
  cases ordered with
  | object ascending each =>
    exact .object (Keyed.ascending_filter ascending isKept) fun m member =>
      each m (List.mem_filter.1 member).1

theorem isKept_known {m : String × Json} (h : isKept m = true) : m.1 ∈ ["$schema", "modules"] := by
  unfold isKept at h
  split at h <;> simp at h ⊢

theorem memberOf?_kept {members : List (String × Json)} (ordered : (Json.object members).Ordered)
    (key : String) :
    memberOf? (members.filter isKept) key =
      (memberOf? members key).filter fun v => isKept (key, v) :=
  Keyed.lookup_filter ordered.ascending.nodup isKept key

/-- The members that are kept are the schema, if it is kept, and the modules. -/
theorem kept_eq_select {members : List (String × Json)} (ordered : (Json.object members).Ordered) :
    members.filter isKept = Keyed.select ["$schema", "modules"] (members.filter isKept) :=
  (kept_ordered ordered).eq_select (by decide) fun _ member =>
    isKept_known (List.mem_filter.1 member).2

/-! ## Passing the gate -/

/-- What a document of the grammar with a readable schema is read as: its document is what is kept,
and what is kept is read as the same configuration. -/
theorem IsConfig.reads {v : Json} (h : IsConfig v) (ordered : v.Ordered)
    (readable : HasReadableSchema v) :
    ∃ c, Config.decode v = .ok c ∧ c.encode = kept v ∧ Config.decode (kept v) = .ok c := by
  cases h with
  | @mk members modules listed each distinct =>
    obtain ⟨list, readModules, written⟩ :=
      modules_read each (ordered.member listed).items
    have stays : memberOf? (members.filter isKept) "modules" = some (.array modules) := by
      rw [memberOf?_kept ordered, listed]
      rfl
    -- what is kept depends on whether the schema is absent, null or a text
    have whole := kept_eq_select ordered
    rw [HasReadableSchema, get?] at readable
    rcases readable with absent | null | ⟨s, text⟩
    · have gone : memberOf? (members.filter isKept) "$schema" = none := by
        rw [memberOf?_kept ordered, absent]
        rfl
      refine ⟨⟨none, list⟩, decode_of_parts listed readModules (decodeMember_of_none absent), ?_,
        decode_of_parts stays readModules (decodeMember_of_none gone)⟩
      rw [kept, whole, select_missing gone, select_found stays, ← written]
      rfl
    · have gone : memberOf? (members.filter isKept) "$schema" = none := by
        rw [memberOf?_kept ordered, null]
        rfl
      refine ⟨⟨none, list⟩, decode_of_parts listed readModules (decodeMember_of_some null rfl), ?_,
        decode_of_parts stays readModules (decodeMember_of_none gone)⟩
      rw [kept, whole, select_missing gone, select_found stays, ← written]
      rfl
    · have there : memberOf? (members.filter isKept) "$schema" = some (.string s) := by
        rw [memberOf?_kept ordered, text]
        rfl
      refine ⟨⟨some s, list⟩, decode_of_parts listed readModules (decodeMember_of_some text rfl),
        ?_, decode_of_parts stays readModules (decodeMember_of_some there rfl)⟩
      rw [kept, whole, select_found there, select_found stays, ← written]
      rfl

/-- What is kept of a document of the grammar belongs to it. -/
theorem IsConfig.kept {v : Json} (h : IsConfig v) (ordered : v.Ordered) : IsConfig (kept v) := by
  cases h with
  | @mk members modules listed each distinct =>
    refine .mk ?_ each distinct
    rw [memberOf?_kept ordered, listed]
    rfl

/-- A schema that is no text and not null cannot be held. -/
theorem decode_of_unreadable {v : Json} (h : IsConfig v) (unreadable : ¬ HasReadableSchema v) :
    ∃ e, Config.decode v = .error e := by
  cases h with
  | @mk members modules listed each distinct =>
    rw [HasReadableSchema, get?] at unreadable
    cases found : memberOf? members "$schema" with
    | none => exact absurd (.inl found) unreadable
    | some schema =>
      have refused : ∃ e, decodeOption decodeString schema = .error e := by
        cases schema with
        | null => exact absurd (.inr (.inl found)) unreadable
        | string s => exact absurd (.inr (.inr ⟨s, found⟩)) unreadable
        | _ => exact ⟨_, rfl⟩
      obtain ⟨e, refused⟩ := refused
      refine ⟨e, ?_⟩
      have member : decodeMember (decodeOption decodeString) members "$schema" = .error e := by
        rw [decodeMember, found]
        show (decodeOption decodeString schema).map some = _
        rw [refused]
        rfl
      simp only [Config.decode, member]
      rfl

theorem ofJson_of_valid {v : Json} (h : check v = []) :
    ofJson v = (Config.decode v).mapError .undecodable := by
  rw [ofJson, h]

theorem ofJson_of_invalid {v : Json} (h : check v ≠ []) :
    ofJson v = .error (.invalid (check v)) := by
  unfold ofJson
  split
  · next valid => exact absurd valid h
  · rfl

/-- A document of the grammar with a readable schema passes. -/
theorem exists_ofJson_of_isConfig {v : Json} (h : IsConfig v) (ordered : v.Ordered)
    (readable : HasReadableSchema v) : ∃ c, ofJson v = .ok c := by
  obtain ⟨c, read, -⟩ := h.reads ordered readable
  refine ⟨c, ?_⟩
  rw [ofJson_of_valid (check_of_isConfig h), read]
  rfl

/-- A configuration comes from a document without violations and with a readable schema. -/
theorem ofJson_eq_ok {v : Json} {c : Config} (h : ofJson v = .ok c) :
    check v = [] ∧ Config.decode v = .ok c ∧ HasReadableSchema v := by
  by_cases valid : check v = []
  · rw [ofJson_of_valid valid] at h
    cases read : Config.decode v with
    | error e =>
      rw [read] at h
      cases h
    | ok d =>
      rw [read] at h
      cases h
      refine ⟨valid, rfl, Classical.byContradiction fun unreadable => ?_⟩
      obtain ⟨e, refused⟩ := decode_of_unreadable (isConfig_of_check valid) unreadable
      rw [read] at refused
      cases refused
  · rw [ofJson_of_invalid valid] at h
    cases h

/-- What passes the gate is kept, and passes again when it is written. -/
theorem encode_of_ofJson {v : Json} {c : Config} (ordered : v.Ordered) (h : ofJson v = .ok c) :
    c.encode = kept v ∧ ofJson c.encode = .ok c ∧ c.violations = [] := by
  obtain ⟨valid, read, readable⟩ := ofJson_eq_ok h
  have isConfig := isConfig_of_check valid
  obtain ⟨d, again, written, readKept⟩ := isConfig.reads ordered readable
  rw [read] at again
  cases again
  have keptValid : check (kept v) = [] := check_of_isConfig (isConfig.kept ordered)
  refine ⟨written, ?_, ?_⟩
  · rw [written, ofJson_of_valid keptValid, readKept]
    rfl
  · rw [violations, written, keptValid]

/-- The gate is exact. The violations are those of the check; a document without any is a
configuration if and only if its schema is readable, and nothing else can go wrong. A configuration
has the document that is kept, comes back from it, has no violations itself and has an extractor. -/
theorem ofJson_exact (v : Json) (ordered : v.Ordered) :
    (∀ errors, ofJson v = .error (.invalid errors) ↔ check v = errors ∧ errors ≠ []) ∧
    (check v = [] → ((∃ c, ofJson v = .ok c) ↔ HasReadableSchema v)) ∧
    ((∃ e, ofJson v = .error (.undecodable e)) ↔ check v = [] ∧ ¬ HasReadableSchema v) ∧
    (∀ f, ofJson v = .error f → (∃ errors, f = .invalid errors) ∨ ∃ e, f = .undecodable e) ∧
    ∀ c, ofJson v = .ok c →
      c.encode = kept v ∧ ofJson c.encode = .ok c ∧ c.violations = [] ∧
        ∃ e, Extractor.ofConfig c = .ok e := by
  refine ⟨fun errors => ?_, fun valid => ?_, ?_, fun f failed => ?_, fun c passed => ?_⟩
  · by_cases valid : check v = []
    · rw [ofJson_of_valid valid, valid]
      constructor
      · intro h
        cases read : Config.decode v <;> rw [read] at h <;> cases h
      · rintro ⟨rfl, nonempty⟩
        exact absurd rfl nonempty
    · rw [ofJson_of_invalid valid]
      constructor
      · intro h
        cases h
        exact ⟨rfl, valid⟩
      · rintro ⟨rfl, -⟩
        rfl
  · constructor
    · rintro ⟨c, passed⟩
      exact (ofJson_eq_ok passed).2.2
    · exact exists_ofJson_of_isConfig (isConfig_of_check valid) ordered
  · constructor
    · rintro ⟨e, failed⟩
      have valid : check v = [] := Classical.byContradiction fun invalid => by
        rw [ofJson_of_invalid invalid] at failed
        cases failed
      refine ⟨valid, fun readable => ?_⟩
      obtain ⟨c, passed⟩ := exists_ofJson_of_isConfig (isConfig_of_check valid) ordered readable
      rw [passed] at failed
      cases failed
    · rintro ⟨valid, unreadable⟩
      obtain ⟨e, refused⟩ := decode_of_unreadable (isConfig_of_check valid) unreadable
      exact ⟨e, by rw [ofJson_of_valid valid, refused]; rfl⟩
  · by_cases valid : check v = []
    · rw [ofJson_of_valid valid] at failed
      cases read : Config.decode v with
      | error e =>
        rw [read] at failed
        cases failed
        exact .inr ⟨e, rfl⟩
      | ok c =>
        rw [read] at failed
        cases failed
    · rw [ofJson_of_invalid valid] at failed
      cases failed
      exact .inl ⟨_, rfl⟩
  · obtain ⟨written, again, faultless⟩ := encode_of_ofJson ordered passed
    obtain ⟨r, -, made⟩ := Extractor.ofConfig_of_valid faultless
    exact ⟨written, again, faultless, _, made⟩

/-- The rule for classes with a decorator from a certain source and a name with a certain ending. -/
def orderRule : Json :=
  .object
    [("find", .string "classes"),
     ("where", single "and" (.array
       [single "hasDecorator" (.object [("from", .string "kit"),
          ("name", .array [.string "UseCase", .string "Handler"])]),
        single "or" (.array [single "nameEndsWith" (single "suffix" (.string "Order"))])]))]

/-- A document with one module. Its schema is null and it has a member that configurations do not
know. -/
def ordersDocument : Json :=
  let unused : Json := single "notUsed" (.bool true)
  .object
    [("$schema", .null),
     ("modules", .array
       [.object [("api", unused), ("domainOp", unused), ("event", unused),
          ("eventHandler", unused), ("name", .string "Orders"), ("path", .string "orders/**"),
          ("ui", unused), ("useCase", orderRule)]]),
     ("notes", .bool true)]

theorem ordersDocument_ordered : ordersDocument.Ordered := by decide

theorem hasKeys_of_perm {keys : List String} {members : List (String × Json)}
    (same : (members.map (·.1)).Perm keys) : HasKeys keys members :=
  fun _ => same.mem_iff

theorem orderRule_isRule : IsRule orderRule := by
  have isText (s : String) (nonempty : s ≠ "") : IsText (.string s) := ⟨s, rfl, nonempty⟩
  have decorated : IsPredicate (single "hasDecorator" (.object [("from", .string "kit"),
      ("name", .array [.string "UseCase", .string "Handler"])])) := by
    refine .hasDecorator (by simp) rfl (.anyOf (List.cons_ne_nil _ _) ?_) ?_
    · simp [isText]
    · rintro v ⟨⟩
      exact isText "kit" (by decide)
  have named : IsPredicate (single "nameEndsWith" (single "suffix" (.string "Order"))) :=
    .nameEndsWith ⟨_, _, rfl, hasKeys_of_perm (by decide), rfl, isText "Order" (by decide)⟩
  refine .detect (hasKeys_of_perm (by decide)) rfl (by decide) rfl ?_
  refine .all (List.cons_ne_nil _ _) ?_
  rw [List.forall_mem_cons, List.forall_mem_singleton]
  exact ⟨decorated, .any (List.cons_ne_nil _ _) (List.forall_mem_singleton.2 named)⟩

theorem ordersDocument_isConfig : IsConfig ordersDocument := by
  have visible (c : Char) {s : String} (member : c ∈ s.toList) (h : Charset.isBlank c = false) :
      NotBlank s := ⟨c, member, h⟩
  have unused : IsRule (single "notUsed" (.bool true)) := .notUsed
  refine .mk rfl (List.forall_mem_singleton.2 ?_) (List.pairwise_singleton _ _)
  refine .mk (hasKeys_of_perm (by decide)) rfl (visible 'O' (by decide) (by decide +kernel))
    (by decide) rfl (visible 'o' (by decide) (by decide +kernel)) rfl ?_
  simp only [slotKeys, List.forall_mem_cons]
  exact ⟨⟨_, rfl, unused⟩, ⟨_, rfl, orderRule_isRule⟩, ⟨_, rfl, unused⟩, ⟨_, rfl, unused⟩,
    ⟨_, rfl, unused⟩, ⟨_, rfl, unused⟩, List.forall_mem_nil _⟩

/-- The document passes the gate without its schema and without the member that is not known. -/
theorem ofJson_exact_orders :
    ordersDocument.Ordered ∧ ∃ c, ofJson ordersDocument = .ok c ∧ c.encode = kept ordersDocument ∧
      ofJson c.encode = .ok c ∧ c.violations = [] ∧ ∃ e, Extractor.ofConfig c = .ok e := by
  have exact := ofJson_exact ordersDocument ordersDocument_ordered
  have valid := check_of_isConfig ordersDocument_isConfig
  obtain ⟨c, passed⟩ := (exact.2.1 valid).2 (.inr (.inl rfl))
  exact ⟨ordersDocument_ordered, c, passed, exact.2.2.2.2 c passed⟩

end ComponentAtlas.Config
