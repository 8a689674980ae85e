import ComponentAtlas.Proofs.Tree.CommentedScan
import ComponentAtlas.Proofs.Tree.Siblings

/-! # What belongs to a declaration

Decorators and doc comments stand outside a declaration as often as inside. A decorator belongs to
the node that it stands in, to what its exporting statement exports, or to the member that it stands
in front of, decorators and comments apart. A doc comment belongs to the declaration or exporting
statement that it stands in front of, decorators apart. In a tree whose exporting statements declare
one thing each, nothing belongs to two declarations. -/

namespace ComponentAtlas.Tree

open ComponentAtlas.Source

/-- The decorator belongs to the node: it stands in it, in its exporting statement, or in front of
it in a class body. -/
inductive Place.Decorates (x p : Place) : Prop
  | own (kind : x.node.kind = .decorator) (inside : x.parent? = some p)
  | exported {e : Place} (kind : x.node.kind = .decorator) (exporting : p.parent? = some e)
      (statement : e.node.kind = .exportStatement) (inside : x.parent? = some e)
  | member {body : Place} {between : List Node} (kind : x.node.kind = .decorator)
      (standsIn : p.parent? = some body) (classBody : body.node.kind = .classBody)
      (ahead : Ahead between x p) (only : ∀ n ∈ between, n.kind = .decorator ∨ n.kind = .comment)

/-- Where a doc comment is looked for: in front of the exporting statement, or else of the node. -/
def Place.anchor : Place → Place
  | .root n => .root n
  | .child q before n => if q.node.kind = .exportStatement then q else .child q before n

/-- Behind any blanks the text begins like a doc comment. -/
def OpensDoc (text : String) : Prop :=
  ∃ blanks rest, (∀ c ∈ blanks, Charset.isBlank c = true) ∧
    text.toList = blanks ++ '/' :: '*' :: '*' :: rest

/-- The comment is the doc comment of the node. -/
structure Place.Documents (c p : Place) : Prop where
  kind : c.node.kind = .comment
  opens : OpensDoc c.node.text
  ahead : ∃ between, Ahead between c p.anchor ∧ ∀ n ∈ between, n.kind = .decorator

/-- Every exporting statement declares one thing at most, behind its decorators. -/
structure ExportsInOrder (root : Node) : Prop where
  one {p q e : Place} {k l : DeclarationKind} : p.In root → q.In root → p.Declares k →
    q.Declares l → p.parent? = some e → q.parent? = some e → e.node.kind = .exportStatement → p = q
  inFront {p x e : Place} {k : DeclarationKind} : p.In root → x.In root → p.Declares k →
    p.parent? = some e → x.parent? = some e → e.node.kind = .exportStatement →
    x.node.kind = .decorator → ∃ between, Place.Ahead between x p

variable {root : Node} {p q x c : Place} {between : List Node}

theorem isDecorator_iff {n : Node} : n.isDecorator = true ↔ n.kind = .decorator := beq_iff_eq

theorem isComment_iff {n : Node} : n.isComment = true ↔ n.kind = .comment := beq_iff_eq

theorem kind_of_declares {k : DeclarationKind} (h : p.Declares k) :
    p.node.kind ≠ .exportStatement ∧ p.node.kind ≠ .classBody ∧ p.node.kind ≠ .decorator ∧
      p.node.kind ≠ .comment := by
  cases h with
  | exportedClass kind _ => simp [kind]
  | ofClass kind | ofMethod kind | ofFunction kind | exportedFunction kind =>
    rcases kind with kind | kind <;> simp [kind]

/-! ## Decorators -/

theorem Place.Decorates.kind (h : x.Decorates p) : x.node.kind = .decorator := by
  cases h with
  | own kind | exported kind | member kind => exact kind

theorem Place.Decorates.outer (h : x.Decorates p) (notOwn : x.parent? ≠ some p) :
    ∃ r, p.parent? = some r ∧ x.parent? = some r ∧
      (r.node.kind = .exportStatement ∨ r.node.kind = .classBody) := by
  cases h with
  | own _ own => exact absurd own notOwn
  | exported _ exporting statement inside => exact ⟨_, exporting, inside, .inl statement⟩
  | member _ standsIn classBody ahead _ =>
    exact ⟨_, standsIn, ahead.parent?_eq.trans standsIn, .inr classBody⟩

theorem Place.Decorates.ahead {body : Place} (h : x.Decorates p) (notOwn : x.parent? ≠ some p)
    (standsIn : p.parent? = some body) (classBody : body.node.kind = .classBody) :
    ∃ between, Ahead between x p ∧ ∀ n ∈ between, n.kind = .decorator ∨ n.kind = .comment := by
  cases h with
  | own _ own => exact absurd own notOwn
  | exported _ exporting statement _ =>
    obtain rfl := Option.some.inj (standsIn.symm.trans exporting)
    cases classBody.symm.trans statement
  | member _ _ _ ahead only => exact ⟨_, ahead, only⟩

/-- No decorator belongs to two declarations. -/
theorem eq_of_decorates (ordered : ExportsInOrder root) {k l : DeclarationKind}
    (placed : p.In root) (placed' : q.In root) (declares : p.Declares k) (declares' : q.Declares l)
    (h : x.Decorates p) (h' : x.Decorates q) : p = q := by
  obtain ⟨noExport, noBody, noDecorator, noComment⟩ := kind_of_declares declares
  obtain ⟨noExport', noBody', noDecorator', noComment'⟩ := kind_of_declares declares'
  -- the node around the decorator tells which way it belongs to either of the two
  by_cases own : x.parent? = some p
  · by_cases own' : x.parent? = some q
    · exact Option.some.inj (own.symm.trans own')
    · obtain ⟨r, -, inside, kind⟩ := h'.outer own'
      obtain rfl := Option.some.inj (own.symm.trans inside)
      exact (kind.elim noExport noBody).elim
  · obtain ⟨r, above, inside, kind⟩ := h.outer own
    by_cases own' : x.parent? = some q
    · obtain rfl := Option.some.inj (own'.symm.trans inside)
      exact (kind.elim noExport' noBody').elim
    · obtain ⟨r', above', inside', -⟩ := h'.outer own'
      obtain rfl := Option.some.inj (inside.symm.trans inside')
      rcases kind with statement | classBody
      · exact ordered.one placed placed' declares declares' above above' statement
      · obtain ⟨between, ahead, only⟩ := h.ahead own above classBody
        obtain ⟨between', ahead', only'⟩ := h'.ahead own' above' classBody
        refine eq_of_ahead placed placed' ahead ahead' (fun member => ?_) fun member => ?_
        · exact (only' _ member).elim noDecorator noComment
        · exact (only _ member).elim noDecorator' noComment'

/-- Of the decorators in a class body those belong to a listed method that stand in front of it with
nothing but decorators and comments between. -/
theorem decorates_method_iff {body : Place} (declares : p.Declares .methods)
    (standsIn : p.parent? = some body) (inside : x.parent? = some body)
    (kind : x.node.kind = .decorator) :
    x.Decorates p ↔ ∃ between, Place.Ahead between x p ∧
      ∀ n ∈ between, n.kind = .decorator ∨ n.kind = .comment := by
  obtain ⟨-, noBody, -, -⟩ := kind_of_declares declares
  have classBody : body.node.kind = .classBody := by
    cases declares with
    | ofMethod _ member _ =>
      obtain ⟨_, parent, classBody⟩ := member
      rwa [Option.some.inj (standsIn.symm.trans parent)]
  constructor
  · intro belongs
    refine belongs.ahead (fun own => ?_) standsIn classBody
    obtain rfl := Option.some.inj (inside.symm.trans own)
    exact noBody classBody
  · rintro ⟨between, ahead, only⟩
    exact .member kind standsIn classBody ahead only

/-- The decorators in front of a member belong to it. -/
theorem precedingDecorators_atPlaces (p : Place) :
    AtPlaces (fun x => x.node.kind = .decorator ∧ ∃ between, Place.Ahead between x p ∧
      ∀ n ∈ between, n.kind = .decorator ∨ n.kind = .comment) p.precedingDecorators := by
  cases p with
  | root n =>
    refine .nil ?_
    rintro x ⟨-, between, ahead, -⟩
    cases ahead
  | child q before n =>
    let test (m : Node) : Bool := m.isDecorator || m.isComment
    have passes {m : Node} : test m = true ↔ m.kind = .decorator ∨ m.kind = .comment := by
      simp only [test, Bool.or_eq_true, isDecorator_iff, isComment_iff]
    let run := ((siblingPlaces q before).takeWhile (test ∘ Place.node)).filter
      (Node.isDecorator ∘ Place.node)
    refine ⟨run.reverse, ?_, ?_, fun x => ?_⟩
    · rw [List.map_reverse, ← List.filter_map, ← List.takeWhile_map, map_siblingPlaces]
      rfl
    · rw [List.pairwise_reverse]
      exact (((siblingPlaces_pairwise q before).sublist (List.takeWhile_sublist _)).filter _)
    · rw [List.mem_reverse, List.mem_filter, mem_takeWhile_siblingPlaces]
      constructor
      · rintro ⟨⟨between, m, rest, rfl, rfl, -, all⟩, decorator⟩
        exact ⟨isDecorator_iff.1 decorator, between, .siblings, fun k member =>
          passes.1 (all k member)⟩
      · rintro ⟨decorator, between, ahead, only⟩
        obtain ⟨m, rest, rfl, rfl⟩ := ahead_child_iff.1 ahead
        exact ⟨⟨between, m, rest, rfl, rfl, passes.2 (.inl decorator), fun k member =>
          passes.2 (only k member)⟩, isDecorator_iff.2 decorator⟩

/-- The decorators that stand in a node. -/
theorem childrenOf_atPlaces (placed : p.In root) :
    AtPlaces (fun x => (x.In root ∧ x.parent? = some p) ∧ x.node.kind = .decorator)
      (p.node.childrenOf .decorator) := by
  refine ⟨(siblingPlaces p p.node.children.reverse).reverse.filter
    (Node.isDecorator ∘ Place.node), ?_, ?_, fun x => ?_⟩
  · rw [← List.filter_map, List.map_reverse, map_siblingPlaces, List.reverse_reverse]
    rfl
  · exact (List.pairwise_reverse.2 (siblingPlaces_pairwise p _)).filter _
  · rw [List.mem_filter, List.mem_reverse, mem_siblingPlaces_reverse_iff placed]
    exact and_congr_right fun _ => isDecorator_iff

/-- The decorators that stand outside a declaration but belong to it. -/
theorem outerDecorators_atPlaces {k : DeclarationKind} (placed : p.In root)
    (declares : p.Declares k) :
    AtPlaces (fun x => x.In root ∧ x.Decorates p ∧ x.parent? ≠ some p) p.outerDecorators := by
  obtain ⟨noExport, noBody, -, -⟩ := kind_of_declares declares
  rw [Place.outerDecorators]
  split
  · next q parent =>
    split
    · next statement =>
      refine (childrenOf_atPlaces (in_of_parent? placed parent)).congr fun x => ?_
      constructor
      · rintro ⟨⟨inside, beside⟩, kind⟩
        refine ⟨inside, .exported kind parent statement beside, fun own => ?_⟩
        obtain rfl := Option.some.inj (beside.symm.trans own)
        exact noExport statement
      · rintro ⟨inside, belongs, notOwn⟩
        obtain ⟨r, above, beside, -⟩ := belongs.outer notOwn
        obtain rfl := Option.some.inj (parent.symm.trans above)
        exact ⟨⟨inside, beside⟩, belongs.kind⟩
    · next classBody =>
      refine (precedingDecorators_atPlaces p).congr fun x => ?_
      constructor
      · rintro ⟨kind, between, ahead, only⟩
        refine ⟨ahead.in placed, .member kind parent classBody ahead only, fun own => ?_⟩
        rw [ahead.parent?_eq, parent] at own
        obtain rfl := Option.some.inj own
        exact noBody classBody
      · rintro ⟨-, belongs, notOwn⟩
        exact ⟨belongs.kind, belongs.ahead notOwn parent classBody⟩
    · next noStatement noClassBody =>
      refine .nil ?_
      rintro x ⟨-, belongs, notOwn⟩
      obtain ⟨r, above, -, kind⟩ := belongs.outer notOwn
      obtain rfl := Option.some.inj (parent.symm.trans above)
      exact kind.elim noStatement noClassBody
  · next alone =>
    refine .nil ?_
    rintro x ⟨-, belongs, notOwn⟩
    obtain ⟨r, above, -⟩ := belongs.outer notOwn
    cases alone.symm.trans above

/-- The decorators of a declaration are those that belong to it, in source order. -/
theorem decoratorNodes_atPlaces (ordered : ExportsInOrder root) {k : DeclarationKind}
    (placed : p.In root) (declares : p.Declares k) :
    AtPlaces (fun x => x.In root ∧ x.Decorates p) p.decoratorNodes := by
  have outer := outerDecorators_atPlaces placed declares
  refine (outer.append (childrenOf_atPlaces placed) fun x y outside inside => ?_).congr fun x => ?_
  · -- what stands outside comes before the declaration, and what stands in it behind
    obtain ⟨inTree, belongs, notOwn⟩ := outside
    refine List.lt_trans ?_ (address_lt_of_parent? inside.1.2)
    cases belongs with
    | own _ own => exact absurd own notOwn
    | exported kind exporting statement beside =>
      obtain ⟨between, ahead⟩ :=
        ordered.inFront placed inTree declares exporting beside statement kind
      exact ahead.address_lt
    | member _ _ _ ahead _ => exact ahead.address_lt
  · constructor
    · rintro (⟨inside, belongs, -⟩ | ⟨⟨inside, own⟩, kind⟩)
      · exact ⟨inside, belongs⟩
      · exact ⟨inside, .own kind own⟩
    · rintro ⟨inside, belongs⟩
      by_cases own : x.parent? = some p
      · exact .inr ⟨⟨inside, own⟩, belongs.kind⟩
      · exact .inl ⟨inside, belongs, own⟩

/-! ## Doc comments -/

theorem anchor_in (placed : p.In root) : p.anchor.In root := by
  cases placed with
  | root => exact .root
  | child above split =>
    rw [Place.anchor]
    split
    · exact above
    · exact .child above split

/-- What an anchor is: an exporting statement around the node, or the node. -/
theorem anchor_cases (p : Place) :
    (∃ e, p.parent? = some e ∧ e.node.kind = .exportStatement ∧ p.anchor = e) ∨ p.anchor = p := by
  cases p with
  | root n => exact .inr rfl
  | child q before n =>
    rw [Place.anchor]
    split
    · next statement => exact .inl ⟨q, rfl, statement, rfl⟩
    · exact .inr rfl

theorem docSiblings_eq (p : Place) : p.docSiblings = p.anchor.before := by
  cases p with
  | root n => rfl
  | child q before n =>
    simp only [Place.docSiblings, Place.parent?, Place.anchor, beq_iff_eq]
    split <;> rfl

theorem isDocText_iff {text : String} : Place.isDocText text = true ↔ OpensDoc text := by
  have slash : ¬ Charset.isBlank '/' = true := by decide +kernel
  rw [Place.isDocText, List.isPrefixOf_iff_prefix]
  constructor
  · rintro ⟨rest, behind⟩
    refine ⟨text.toList.takeWhile Charset.isBlank, rest, fun c member => ?_, ?_⟩
    · exact List.mem_takeWhile_imp member
    · have cut := List.takeWhile_append_dropWhile (p := Charset.isBlank) (l := text.toList)
      rw [← behind] at cut
      exact cut.symm
  · rintro ⟨blanks, rest, blank, whole⟩
    rw [whole, List.dropWhile_append_of_pos blank, List.dropWhile_cons_of_neg slash]
    exact ⟨rest, rfl⟩

/-- Without blanks in front a doc comment begins at once. -/
theorem opensDoc_iff {text : String} (plain : ∀ c ∈ text.toList.head?, Charset.isBlank c = false) :
    OpensDoc text ↔ ['/', '*', '*'] <+: text.toList := by
  constructor
  · rintro ⟨blanks, rest, blank, whole⟩
    cases blanks with
    | nil => exact ⟨rest, whole.symm⟩
    | cons first others =>
      have isBlank := blank first List.mem_cons_self
      rw [plain first (by rw [whole]; rfl)] at isBlank
      cases isBlank
  · rintro ⟨rest, whole⟩
    exact ⟨[], rest, List.forall_mem_nil _, whole.symm⟩

theorem not_mem_of_decorators {n : Node} (only : ∀ m ∈ between, m.kind = .decorator)
    (other : n.kind ≠ .decorator) : n ∉ between := fun member => other (only n member)

/-- The text of a doc comment is that of a comment that documents the node. -/
theorem docComment?_eq_some_iff (placed : p.In root) {text : String} :
    p.docComment? = some text ↔
      ∃ c : Place, c.In root ∧ c.Documents p ∧ c.node.text = text := by
  have above := anchor_in placed
  rw [Place.docComment?, docSiblings_eq]
  constructor
  · intro found
    split at found
    · next n rest behind =>
      simp only [Option.ite_none_right_eq_some, Bool.and_eq_true, isComment_iff,
        isDocText_iff, Option.some.injEq] at found
      obtain ⟨⟨kind, opens⟩, same⟩ := found
      have cut := List.takeWhile_append_dropWhile (p := Node.isDecorator) (l := p.anchor.before)
      rw [behind] at cut
      have only : ∀ m ∈ p.anchor.before.takeWhile Node.isDecorator, m.kind = .decorator :=
        fun m member => isDecorator_iff.1 (List.mem_takeWhile_imp member)
      generalize p.anchor.before.takeWhile Node.isDecorator = between at cut only
      obtain ⟨c, rfl, ahead⟩ := exists_ahead cut.symm
      exact ⟨c, ahead.in above, ⟨kind, opens, between, ahead, only⟩, same⟩
    · cases found
  · rintro ⟨c, -, ⟨kind, opens, between, ahead, only⟩, rfl⟩
    have decorators : ∀ m ∈ between, m.isDecorator = true :=
      fun m member => isDecorator_iff.2 (only m member)
    have stop : ¬ c.node.isDecorator = true := by simp [isDecorator_iff, kind]
    rw [ahead.before_eq, List.dropWhile_append_of_pos decorators,
      List.dropWhile_cons_of_neg stop]
    simp only [isComment_iff.2 kind, isDocText_iff.2 opens, Bool.and_self, if_pos]

/-- A declaration has the doc tags of the comment that documents it, and none without one. -/
theorem docTags_eq (placed : p.In root) :
    (∀ c : Place, c.In root → c.Documents p → p.docTags = DocComment.tags c.node.text) ∧
      ((∀ c : Place, c.In root → ¬ c.Documents p) → p.docTags = []) := by
  constructor
  · intro c inside documents
    rw [Place.docTags, (docComment?_eq_some_iff placed).2 ⟨c, inside, documents, rfl⟩]
    rfl
  · intro alone
    rw [Place.docTags]
    cases found : p.docComment? with
    | none => rfl
    | some text =>
      obtain ⟨c, inside, documents, -⟩ := (docComment?_eq_some_iff placed).1 found
      exact absurd documents (alone c inside)

theorem anchor_kind_ne {k : DeclarationKind} (declares : p.Declares k) :
    p.anchor.node.kind ≠ .decorator := by
  rcases anchor_cases p with ⟨e, -, statement, same⟩ | same
  · simp [same, statement]
  · rw [same]
    exact (kind_of_declares declares).2.2.1

/-- Declarations have anchors of their own. -/
theorem eq_of_anchor (ordered : ExportsInOrder root) {k l : DeclarationKind} (placed : p.In root)
    (placed' : q.In root) (declares : p.Declares k) (declares' : q.Declares l)
    (anchors : p.anchor = q.anchor) : p = q := by
  rcases anchor_cases p with ⟨e, exporting, statement, same⟩ | same
  · rcases anchor_cases q with ⟨e', exporting', -, same'⟩ | same'
    · obtain rfl : e = e' := same.symm.trans (anchors.trans same')
      exact ordered.one placed placed' declares declares' exporting exporting' statement
    · obtain rfl : e = q := same.symm.trans (anchors.trans same')
      exact absurd statement (kind_of_declares declares').1
  · rcases anchor_cases q with ⟨e, -, statement, same'⟩ | same'
    · obtain rfl : p = e := same.symm.trans (anchors.trans same')
      exact absurd statement (kind_of_declares declares).1
    · exact same.symm.trans (anchors.trans same')

/-- No comment documents two declarations. -/
theorem eq_of_documents (ordered : ExportsInOrder root) {k l : DeclarationKind}
    (placed : p.In root) (placed' : q.In root) (declares : p.Declares k) (declares' : q.Declares l)
    (h : c.Documents p) (h' : c.Documents q) : p = q := by
  obtain ⟨between, ahead, only⟩ := h.ahead
  obtain ⟨between', ahead', only'⟩ := h'.ahead
  -- no anchor is a decorator, so none stands between
  have anchors : p.anchor = q.anchor :=
    eq_of_ahead (anchor_in placed) (anchor_in placed') ahead ahead'
      (not_mem_of_decorators only' (anchor_kind_ne declares))
      (not_mem_of_decorators only (anchor_kind_ne declares'))
  exact eq_of_anchor ordered placed placed' declares declares' anchors

/-- No node is documented by two comments. -/
theorem eq_of_documents_of {c' : Place} (h : c.Documents p) (h' : c'.Documents p) : c = c' := by
  obtain ⟨between, ahead, only⟩ := h.ahead
  obtain ⟨between', ahead', only'⟩ := h'.ahead
  exact eq_of_ahead_of ahead ahead' (not_mem_of_decorators only' (by simp [h.kind]))
    (not_mem_of_decorators only (by simp [h'.kind]))

/-! ## Trees in order -/

/-- Whether a tree is in order can be computed. -/
theorem exportsInOrder_iff :
    ExportsInOrder root ↔ ∀ q ∈ places root, q.isExported →
      q.declares?.isSome ∨ q.node.isDecorator → ∀ p ∈ q.siblings, p.declares? = none := by
  simp only [mem_places_iff, mem_siblings_iff, Place.isExported, isIn_iff,
    Option.isSome_iff_exists, declares?_eq_some_iff, isDecorator_iff,
    Option.eq_none_iff_forall_ne_some, ne_eq]
  constructor
  · rintro ordered q placed ⟨e, exporting, statement⟩ either p ⟨between, ahead⟩ k declares
    have above := ahead.in placed
    have exporting' := ahead.parent?_eq.trans exporting
    rcases either with ⟨l, declares'⟩ | kind
    · have same := ordered.one above placed declares declares' exporting' exporting statement
      exact absurd ahead.address_lt (same ▸ List.lt_irrefl _)
    · obtain ⟨_, behind⟩ :=
        ordered.inFront above placed declares exporting' exporting statement kind
      exact absurd (List.lt_trans ahead.address_lt behind.address_lt) (List.lt_irrefl _)
  · intro each
    constructor
    · intro p q e k l placed placed' declares declares' exporting exporting' statement
      rcases eq_or_ahead placed placed' exporting exporting' with same | ahead | ahead
      · exact same
      · exact absurd declares (each q placed' ⟨e, exporting', statement⟩ (.inl ⟨l, declares'⟩) p
          ahead k)
      · exact absurd declares' (each p placed ⟨e, exporting, statement⟩ (.inl ⟨k, declares⟩) q
          ahead l)
    · intro p x e k placed placed' declares exporting beside statement kind
      rcases eq_or_ahead placed placed' exporting beside with same | ahead | ahead
      · exact absurd kind (same ▸ (kind_of_declares declares).2.2.1)
      · exact absurd declares (each x placed' ⟨e, beside, statement⟩ (.inr kind) p ahead k)
      · exact ahead

instance : Decidable (ExportsInOrder root) := decidable_of_iff _ exportsInOrder_iff.symm

/-! ## The scan -/

theorem declaration_docTags (p : Place) (enclosing : Option Nat) (k : DeclarationKind) :
    (p.declaration enclosing k).docTags = p.docTags := by
  cases k <;> rfl

theorem readDecorators_eq {k : DeclarationKind} (declares : p.Declares k) :
    p.readDecorators = if k = .functions then [] else p.decoratorNodes := by
  rw [Place.readDecorators, declares?_eq_some_iff.2 declares]
  cases k <;> rfl

/-- The declaration has the decorators and the doc tags of what belongs to its place. -/
structure Supplied (root : Node) (p : Place) (d : Declaration) : Prop where
  kind : p.Declares d.kind
  decorators : d.kind ≠ .functions → ∃ nodes,
    AtPlaces (fun x => x.In root ∧ x.Decorates p) nodes ∧
      d.decorators = nodes.filterMap Node.decorator?
  undecorated : d.kind = .functions → d.decorators = []
  docTags {c : Place} : c.In root → c.Documents p → d.docTags = DocComment.tags c.node.text
  untagged : (∀ c : Place, c.In root → ¬ c.Documents p) → d.docTags = []

theorem supplied_of_entry (ordered : ExportsInOrder root) {listed : List Place} {d : Declaration}
    (placed : p.In root) (entry : Entry listed p d) : Supplied root p d := by
  obtain ⟨k, enclosing, declares, -, rfl⟩ := entry
  obtain ⟨tagged, untagged⟩ := docTags_eq placed
  have kind := declaration_kind p enclosing k
  have tags := declaration_docTags p enclosing k
  have decorators := declaration_decorators declares enclosing
  rw [readDecorators_eq declares] at decorators
  refine ⟨by rwa [kind], fun other => ?_, fun function => ?_, fun {c} inside documents =>
    tags.trans (tagged c inside documents), fun alone => tags.trans (untagged alone)⟩
  · rw [if_neg (kind ▸ other)] at decorators
    exact ⟨_, decoratorNodes_atPlaces ordered placed declares, decorators⟩
  · rw [decorators, if_pos (kind.symm.trans function)]
    rfl

/-- Decorators and doc comments belong to one declaration each. In a tree whose exporting statements
declare one thing at most, behind their decorators, each class and method has the decorators that
belong to it, in source order, and each declaration has the tags of the comment that documents it.
Among the decorators of a class body those belong to a method that stand in front of it with nothing
but decorators and comments between. No decorator belongs to two declarations, no comment documents
two, and none is documented by two. -/
theorem attachment_exact (ordered : ExportsInOrder root) :
    ∃ listed : List Place,
      (∀ p, p ∈ listed ↔ p.In root ∧ ∃ k, p.Declares k) ∧
      (listed.Pairwise fun a b => a.address < b.address) ∧
      listed.length = (declarations root).length ∧
      (∀ (i : Nat) p d, listed[i]? = some p → (declarations root)[i]? = some d →
        Supplied root p d) ∧
      (∀ m ∈ listed, ∀ body x : Place, m.Declares .methods → m.parent? = some body →
        x.In root → x.parent? = some body → x.node.kind = .decorator →
        (x.Decorates m ↔ ∃ between, Place.Ahead between x m ∧
          ∀ n ∈ between, n.kind = .decorator ∨ n.kind = .comment)) ∧
      (∀ p ∈ listed, ∀ q ∈ listed, ∀ x : Place, x.Decorates p → x.Decorates q → p = q) ∧
      (∀ p ∈ listed, ∀ c : Place, c.In root → c.node.kind = .comment →
        (∀ first ∈ c.node.text.toList.head?, Charset.isBlank first = false) →
        (c.Documents p ↔ ['/', '*', '*'] <+: c.node.text.toList ∧
          ∃ between, Place.Ahead between c p.anchor ∧ ∀ n ∈ between, n.kind = .decorator)) ∧
      (∀ p ∈ listed, ∀ q ∈ listed, ∀ c : Place, c.Documents p → c.Documents q → p = q) ∧
      ∀ p ∈ listed, ∀ c c' : Place, c.Documents p → c'.Documents p → c = c' := by
  have inTree {p : Place} (member : p ∈ declaring (places root)) :
      p.In root ∧ ∃ k, p.Declares k := by
    rwa [mem_declaring_iff, mem_places_iff] at member
  refine ⟨declaring (places root), fun p => ?_, declaring_pairwise root,
    (declarations_entries root).length_eq, fun i p d atI found => ?_, ?_,
    fun p member q member' x h h' => ?_, fun p _ c _ kind plain => ?_,
    fun p member q member' c h h' => ?_, fun p _ c c' h h' => eq_of_documents_of h h'⟩
  · rw [mem_declaring_iff, mem_places_iff]
  · obtain ⟨other, atI', entry⟩ := exists_entry found
    obtain rfl := Option.some.inj (atI.symm.trans atI')
    exact supplied_of_entry ordered (inTree (List.mem_of_getElem? atI)).1 entry
  · intro m _ body x declares standsIn _ inside kind
    exact decorates_method_iff declares standsIn inside kind
  · obtain ⟨placed, k, declares⟩ := inTree member
    obtain ⟨placed', l, declares'⟩ := inTree member'
    exact eq_of_decorates ordered placed placed' declares declares' h h'
  · constructor
    · intro h
      exact ⟨(opensDoc_iff plain).1 h.opens, h.ahead⟩
    · rintro ⟨opens, ahead⟩
      exact ⟨kind, (opensDoc_iff plain).2 opens, ahead⟩
  · obtain ⟨placed, k, declares⟩ := inTree member
    obtain ⟨placed', l, declares'⟩ := inTree member'
    exact eq_of_documents ordered placed placed' declares declares' h h'

/-- An exported class with decorators and a doc comment, inside and outside. -/
def shopTree : Node :=
  Script.read .typescript "@A export class Shop { /** @b */ @B buy() {} @C /* c */ @D sell() {} }"

/-- Each of the decorators of the tree, and its doc comment, belongs to one declaration. -/
theorem attachment_exact_shop :
    ExportsInOrder shopTree ∧
      (declarations shopTree).map (fun d => d.decorators.map (·.name)) =
        [["A"], ["B"], ["C", "D"]] ∧
      (declaring (places shopTree)).map Place.docComment? = [none, some "/** @b */", none] ∧
      ∃ listed : List Place, listed.length = 3 ∧
        (∀ p ∈ listed, ∀ q ∈ listed, ∀ x : Place, x.Decorates p → x.Decorates q → p = q) ∧
        ∀ p ∈ listed, ∀ q ∈ listed, ∀ c : Place, c.Documents p → c.Documents q → p = q := by
  have ordered : ExportsInOrder shopTree := by decide +kernel
  obtain ⟨listed, -, -, length, -, -, decorators, -, comments, -⟩ := attachment_exact ordered
  exact ⟨ordered, by decide +kernel, by decide +kernel, listed, length.trans (by decide +kernel),
    decorators, comments⟩

end ComponentAtlas.Tree
