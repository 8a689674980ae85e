import ComponentAtlas.Proofs.Graph.Reading

/-! # The gate of graphs

The schema alone decides which documents are graphs: where it finds nothing, the decoding cannot
fail. A graph has the document that is kept and comes back from it. -/

namespace ComponentAtlas.Graph

open Json Schema

theorem identifiers_proper (document : Json) :
    ∀ s ∈ identifiers document, (ComponentId.ofText? s).isSome := by
  intro s member
  rw [identifiers] at member
  split at member
  · obtain ⟨component, -, found⟩ := List.mem_filterMap.1 member
    exact (Option.filter_eq_some_iff.1 found).2
  · cases member

/-- A document in which the schema finds nothing is decoded as a graph with the document that is
kept. -/
theorem reads_of_check {document : Json} (h : check document = []) (ordered : document.Ordered) :
    ReadsAs Graph.decode Graph.encode document (kept document) := by
  have proper := identifiers_proper document
  obtain ⟨given, rfl, passes⟩ := record_eq_nil_iff.1 h
  simp only [List.forall_mem_cons] at passes
  obtain ⟨passVersion, passMetadata, passComponents, passLinks, passExternal, -⟩ := passes
  obtain ⟨version, readVersion, keptVersion⟩ := required_reads passVersion fun _ _ => version_reads
  obtain ⟨metadata, readMetadata, keptMetadata⟩ := required_reads passMetadata
    fun _ found passed => metadata_reads passed (ordered.member found)
  obtain ⟨components, readComponents, keptComponents⟩ := required_reads passComponents
    fun _ found passed => list_reads passed (ordered.member found) fun _ _ _ => component_reads
  obtain ⟨links, readLinks, keptLinks⟩ := required_reads passLinks
    fun _ found passed => list_reads passed (ordered.member found) fun _ _ _ => link_reads proper
  obtain ⟨external, readExternal, keptExternal⟩ := optional_reads passExternal
    (fun _ => List.cons_ne_nil _ _) fun _ found passed =>
      list_reads passed (ordered.member found) fun _ _ _ => externalLink_reads proper
  refine ⟨⟨version, metadata, components, links, external⟩, ?_, ?_⟩
  · simp only [Graph.decode, decodeObject, ok_bind, readVersion, readMetadata, readComponents,
      readLinks, readExternal]
    rfl
  · rw [kept, Kept.record, ← Kept.parts_eq_members (by decide) ordered.ascending]
    simp only [Kept.parts, List.flatMap_cons, keptVersion, keptMetadata, keptComponents, keptLinks,
      keptExternal]
    simp only [Graph.encode, List.cons_append, List.flatMap_nil, List.nil_append]

theorem ofJson_of_valid {document : Json} (h : check document = []) :
    ofJson document = (Graph.decode document).mapError .undecodable := by
  rw [ofJson, h]

theorem ofJson_of_invalid {document : Json} (h : check document ≠ []) :
    ofJson document = .error (.invalid (check document)) := by
  unfold ofJson
  split
  · next valid => exact absurd valid h
  · rfl

/-- A document in which the schema finds nothing is a graph. -/
theorem ofJson_of_check {document : Json} (h : check document = []) (ordered : document.Ordered) :
    ∃ g, Graph.decode document = .ok g ∧ ofJson document = .ok g ∧ g.encode = kept document := by
  obtain ⟨g, read, written⟩ := reads_of_check h ordered
  refine ⟨g, read, ?_, written⟩
  rw [ofJson_of_valid h, read]
  rfl

theorem check_of_ofJson {document : Json} {g : Graph} (h : ofJson document = .ok g) :
    check document = [] := by
  refine Classical.byContradiction fun invalid => ?_
  rw [ofJson_of_invalid invalid] at h
  cases h

/-- The gate has one way to fail and loses nothing that graphs know. Where the schema finds nothing
the decoding succeeds, so a document is a graph if and only if the schema finds nothing in it. The
graph has the document that is kept, and that document is admitted as the same graph. -/
theorem ofJson_decided_by_check (document : Json) (ordered : document.Ordered) :
    (check document = [] → ∃ g, Graph.decode document = .ok g ∧ ofJson document = .ok g) ∧
    (∀ e, ofJson document ≠ .error (.undecodable e)) ∧
    (isGraph document = true ↔ check document = []) ∧
    ∀ g, ofJson document = .ok g → g.encode = kept document ∧ ofJson g.encode = .ok g := by
  refine ⟨fun valid => ?_, fun e failed => ?_, ?_, fun g passed => ?_⟩
  · obtain ⟨g, read, passed, -⟩ := ofJson_of_check valid ordered
    exact ⟨g, read, passed⟩
  · by_cases valid : check document = []
    · obtain ⟨g, -, passed, -⟩ := ofJson_of_check valid ordered
      rw [passed] at failed
      cases failed
    · rw [ofJson_of_invalid valid] at failed
      cases failed
  · constructor
    · intro passed
      refine Classical.byContradiction fun invalid => ?_
      rw [isGraph, ofJson_of_invalid invalid] at passed
      cases passed
    · intro valid
      obtain ⟨g, -, passed, -⟩ := ofJson_of_check valid ordered
      rw [isGraph, passed]
      rfl
  -- what is kept has no members that are not known, and is admitted as the document is
  · obtain ⟨other, -, again, written⟩ := ofJson_of_check (check_of_ofJson passed) ordered
    rw [passed] at again
    cases again
    refine ⟨written, ?_⟩
    rw [written, ofJson_kept]
    exact passed

/-- A document with one component, which uses itself. It has a member that graphs do not know, and
the component a route, which belongs to components of another type. -/
def shopDocument : Json :=
  let place : Json := .string "orders:checkout:api:place"
  .object
    [("components", .array
       [.object [("apiType", .string "REST"), ("domain", .string "orders"), ("id", place),
          ("module", .string "checkout"), ("name", .string "place"), ("route", .string "/orders"),
          ("sourceLocation", .object [("filePath", .string "api.ts"), ("lineNumber", .int 12),
            ("repository", .string "shop")]),
          ("type", .string "API")]]),
     ("links", .array [.object [("source", place), ("target", place), ("type", .string "sync")]]),
     ("metadata", .object [("domains", .object [("orders", .object
       [("description", .string "Orders"), ("systemType", .string "domain")])])]),
     ("notes", .null),
     ("version", .string "1.0")]

theorem shopDocument_ordered : shopDocument.Ordered := by decide

theorem check_shopDocument : check shopDocument = [] := by
  rw [check, record_eq_nil_iff]
  refine ⟨_, rfl, ?_⟩
  rw [List.forall_mem_cons]
  refine ⟨required_eq_nil_iff.2 ⟨_, rfl, version_eq_nil_iff.2 ⟨_, rfl, isVersion_one_zero⟩⟩, ?_⟩
  simp only [List.forall_mem_cons]
  exact ⟨by decide +kernel, by decide +kernel, by decide +kernel, rfl,
    List.forall_mem_nil _⟩

/-- The document is admitted without its notes and without the route of its component. -/
theorem ofJson_decided_by_check_shop :
    shopDocument.Ordered ∧ isGraph shopDocument = true ∧
      ∃ g, ofJson shopDocument = .ok g ∧ g.encode = kept shopDocument ∧ ofJson g.encode = .ok g := by
  obtain ⟨decodes, -, decided, exact⟩ := ofJson_decided_by_check shopDocument shopDocument_ordered
  obtain ⟨g, -, passed⟩ := decodes check_shopDocument
  exact ⟨shopDocument_ordered, decided.2 check_shopDocument, g, passed, exact g passed⟩

end ComponentAtlas.Graph
