import ComponentAtlas.Proofs.Related
import ComponentAtlas.Tree.Declarations
import ComponentAtlas.Tree.Imports

/-! # Comments between nodes

A comment may stand between any two children of a node. A scan that asks for children of a kind, or
for the child that plays a part, cannot meet one, and where it goes through named children it skips
comments. One access does not: what a decorator names is looked for in its first named child, and
behind parentheses in the first named child again, so that a comment in front hides it. -/

namespace ComponentAtlas.Tree

open ComponentAtlas.Source

/-! ## Trees with comments put in -/

/-- A scan may read the text of such a child: of one that plays a part, of an identifier, of an
implemented type and of an expression that is extended. -/
def Kind.reads (parent : Kind) (child : Node) : Bool :=
  child.field.isSome || child.kind == .identifier || parent == .implementsClause ||
    parent == .classHeritage && child.kind != .extendsClause && child.kind != .implementsClause

/-- A comment, which plays no part in its parent. -/
def Node.ofComment (text : String) (row : Nat) : Node := .node .comment none text row []

mutual

/-- The second tree is the first one with comments put in. Rows may change with them, and texts that
no scan reads. -/
inductive Commented : Node → Node → Prop where
  | node {kind : Kind} {field : Option Field} {text text' : String} {row row' : Nat}
      {children children' : List Node} (inside : CommentedIn kind children children') :
      Commented (.node kind field text row children) (.node kind field text' row' children')

/-- Children of a node of some kind with comments put in between them. -/
inductive CommentedIn : Kind → List Node → List Node → Prop where
  | nil {parent : Kind} : CommentedIn parent [] []
  | keep {parent : Kind} {c c' : Node} {rest rest' : List Node} (same : Commented c c')
      (text : parent.reads c = true → c.text = c'.text) (later : CommentedIn parent rest rest') :
      CommentedIn parent (c :: rest) (c' :: rest')
  | put {parent : Kind} {text : String} {row : Nat} {rest rest' : List Node}
      (later : CommentedIn parent rest rest') :
      CommentedIn parent rest (Node.ofComment text row :: rest')

end

/-- The node is a comment of the kind that is put in. -/
def Node.isPlainComment : Node → Bool
  | .node .comment none _ _ [] => true
  | _ => false

mutual

/-- Decides whether the second tree is the first one with comments put in. -/
def addsComments : Node → Node → Bool
  | .node kind field _ _ children, .node kind' field' _ _ children' =>
    kind == kind' && field == field' && addsCommentsIn kind children children'

def addsCommentsIn (parent : Kind) : List Node → List Node → Bool
  | cs, [] => cs.isEmpty
  | cs, c' :: rest' =>
    (c'.isPlainComment && addsCommentsIn parent cs rest') ||
      match cs with
      | [] => false
      | c :: rest => addsComments c c' && (!parent.reads c || c.text == c'.text) &&
          addsCommentsIn parent rest rest'

end

mutual

theorem commented_of_adds {n n' : Node} (adds : addsComments n n' = true) : Commented n n' := by
  cases n' with
  | node kind' field' text' row' children' =>
    cases n with
    | node kind field text row children =>
      simp only [addsComments, Bool.and_eq_true, beq_iff_eq] at adds
      obtain ⟨⟨rfl, rfl⟩, inside⟩ := adds
      exact .node (commentedIn_of_adds inside)

theorem commentedIn_of_adds {parent : Kind} {cs cs' : List Node}
    (adds : addsCommentsIn parent cs cs' = true) : CommentedIn parent cs cs' := by
  cases cs' with
  | nil =>
    rw [addsCommentsIn, List.isEmpty_iff] at adds
    rw [adds]
    exact .nil
  | cons c' rest' =>
    simp only [addsCommentsIn, Bool.or_eq_true, Bool.and_eq_true] at adds
    rcases adds with ⟨plain, later⟩ | keeps
    · rw [Node.isPlainComment.eq_def] at plain
      split at plain
      · exact .put (commentedIn_of_adds later)
      · cases plain
    · cases cs with
      | nil => cases keeps
      | cons c rest =>
        simp only [Bool.and_eq_true, Bool.or_eq_true] at keeps
        obtain ⟨⟨same, text⟩, later⟩ := keeps
        refine .keep (commented_of_adds same) (fun read => ?_) (commentedIn_of_adds later)
        simpa [read] using text

end

mutual

theorem adds_of_commented {n n' : Node} (h : Commented n n') : addsComments n n' = true := by
  match h with
  | .node inside => simpa [addsComments] using adds_of_commentedIn inside

theorem adds_of_commentedIn {parent : Kind} {cs cs' : List Node}
    (h : CommentedIn parent cs cs') : addsCommentsIn parent cs cs' = true := by
  match h with
  | .nil => rfl
  | .keep same text later =>
    simp only [addsCommentsIn, adds_of_commented same, adds_of_commentedIn later, Bool.or_eq_true]
    refine .inr ?_
    simpa [imp_iff_not_or] using text
  | .put later =>
    simp only [addsCommentsIn, adds_of_commentedIn later, Bool.or_eq_true]
    exact .inl rfl

end

instance (n n' : Node) : Decidable (Commented n n') :=
  decidable_of_iff _ ⟨commented_of_adds, adds_of_commented⟩

/-! ## Children that a scan asks for -/

/-- A child of a node of some kind and the one that stands for it. -/
structure Kept (parent : Kind) (c c' : Node) : Prop where
  same : Commented c c'
  text : parent.reads c = true → c.text = c'.text

/-- A test that cannot tell children apart that stand for each other, and fails on comments. -/
structure Blind (p : Node → Bool) : Prop where
  told : ∀ c c', Commented c c' → p c = p c'
  skips : ∀ text row, p (Node.ofComment text row) = false

/-- Such a test picks the same children. -/
theorem CommentedIn.filter {parent : Kind} {cs cs' : List Node} {p : Node → Bool} (blind : Blind p)
    (h : CommentedIn parent cs cs') :
    List.Forall₂ (fun c c' => Kept parent c c' ∧ p c = true) (cs.filter p) (cs'.filter p) := by
  match h with
  | .nil => exact .nil
  | .keep same text later =>
    have ih := CommentedIn.filter blind later
    rw [List.filter_cons, List.filter_cons, ← blind.told _ _ same]
    split
    · next passes => exact .cons ⟨⟨same, text⟩, passes⟩ ih
    · exact ih
  | .put later =>
    rw [List.filter_cons_of_neg (by simp [blind.skips])]
    exact CommentedIn.filter blind later

/-- A run of children that goes on over comments, and breaks off for a child as for the one that
stands for it, stays the same run up to comments. -/
theorem CommentedIn.takeWhile {parent : Kind} {cs cs' : List Node} {p : Node → Bool}
    (told : ∀ c c', Commented c c' → p c = p c')
    (goesOn : ∀ text row, p (Node.ofComment text row) = true) (h : CommentedIn parent cs cs') :
    CommentedIn parent (cs.takeWhile p) (cs'.takeWhile p) := by
  match h with
  | .nil => exact .nil
  | .keep same text later =>
    rw [List.takeWhile_cons, List.takeWhile_cons, ← told _ _ same]
    split
    · exact .keep same text (CommentedIn.takeWhile told goesOn later)
    · exact .nil
  | .put later =>
    rw [List.takeWhile_cons_of_pos (goesOn _ _)]
    exact .put (CommentedIn.takeWhile told goesOn later)

variable {parent : Kind} {n n' : Node} {cs cs' : List Node}

theorem CommentedIn.find? {p : Node → Bool} (blind : Blind p) (h : CommentedIn parent cs cs') :
    Option.Rel (fun c c' => Kept parent c c' ∧ p c = true) (cs.find? p) (cs'.find? p) := by
  rw [← List.head?_filter, ← List.head?_filter, List.head?_eq_getElem?, List.head?_eq_getElem?]
  exact rel_getElem?_of_forall₂ (h.filter blind) 0

namespace Commented

theorem kind (h : Commented n n') : n.kind = n'.kind := by
  cases h with
  | node _ => rfl

theorem field (h : Commented n n') : n.field = n'.field := by
  cases h with
  | node _ => rfl

theorem isNamed (h : Commented n n') : n.isNamed = n'.isNamed := congrArg Kind.isNamed h.kind

theorem isDecorator (h : Commented n n') : n.isDecorator = n'.isDecorator :=
  congrArg (· == Kind.decorator) h.kind

theorem isComment (h : Commented n n') : n.isComment = n'.isComment :=
  congrArg (· == Kind.comment) h.kind

theorem children (h : Commented n n') : CommentedIn n.kind n.children n'.children := by
  cases h with
  | node inside => exact inside

/-- The children of a kind, when it is not that of comments. -/
theorem childrenOf (h : Commented n n') {k : Kind} (other : k ≠ .comment) :
    List.Forall₂ (fun c c' => Kept n.kind c c' ∧ (c.kind == k) = true)
      (n.childrenOf k) (n'.childrenOf k) :=
  h.children.filter ⟨fun _ _ same => congrArg (· == k) same.kind,
    fun _ _ => beq_false_of_ne other.symm⟩

theorem childOf? (h : Commented n n') {k : Kind} (other : k ≠ .comment) :
    Option.Rel (fun c c' => Kept n.kind c c' ∧ (c.kind == k) = true)
      (n.childOf? k) (n'.childOf? k) :=
  h.children.find? ⟨fun _ _ same => congrArg (· == k) same.kind,
    fun _ _ => beq_false_of_ne other.symm⟩

theorem child? (h : Commented n n') (f : Field) :
    Option.Rel (fun c c' => Kept n.kind c c' ∧ (c.field == some f) = true)
      (n.child? f) (n'.child? f) :=
  h.children.find? ⟨fun _ _ same => congrArg (· == some f) same.field, fun _ _ => rfl⟩

/-- The child that plays a part has the text that it had. -/
theorem textOf? (h : Commented n n') (f : Field) : n.textOf? f = n'.textOf? f := by
  rw [Node.textOf?, Node.textOf?]
  generalize n.child? f = x, n'.child? f = x', h.child? f = found
  cases found with
  | none => rfl
  | @some c c' kept =>
    have read : n.kind.reads c = true := by
      rw [Kind.reads, eq_of_beq kept.2]
      rfl
    exact congrArg Option.some (kept.1.text read)

/-- The named children that are no comments. -/
theorem namedOthers (h : Commented n n') :
    List.Forall₂ (Kept n.kind) (n.namedChildren.filter (!·.isComment))
      (n'.namedChildren.filter (!·.isComment)) := by
  rw [Node.namedChildren, Node.namedChildren, List.filter_filter, List.filter_filter]
  refine (h.children.filter ⟨fun c c' same => ?_, fun _ _ => rfl⟩).imp fun _ _ kept => kept.1
  rw [same.isComment, same.isNamed]

end Commented

/-! ## Heritage -/

theorem foldl_extendedOf (found : Option String) (parts : List Node) :
    (parts.filter (!·.isComment)).foldl Node.extendedOf found =
      parts.foldl Node.extendedOf found := by
  induction parts generalizing found with
  | nil => rfl
  | cons part rest ih =>
    rw [List.filter_cons]
    split
    · exact ih _
    · next comment =>
      have kind : part.kind = .comment := by simpa [Node.isComment] using comment
      have same : Node.extendedOf found part = found := by rw [Node.extendedOf, kind]
      rw [List.foldl_cons, same]
      exact ih found

theorem extendedOf_eq {c c' : Node} (kept : Kept .classHeritage c c') (found : Option String) :
    Node.extendedOf found c = Node.extendedOf found c' := by
  have value := kept.same.textOf? .value
  rw [Node.extendedOf, Node.extendedOf, ← kept.same.kind]
  split
  · rw [value]
  · rfl
  · rfl
  · next noExtends noImplements _ =>
    have other : c.kind ≠ .extendsClause ∧ c.kind ≠ .implementsClause :=
      ⟨noExtends, noImplements⟩
    rw [kept.text (by simp [Kind.reads, other])]

namespace Commented

theorem extended? (h : Commented n n') : n.extended? = n'.extended? := by
  rw [Node.extended?, Node.extended?]
  generalize n.childOf? .classHeritage = x, n'.childOf? .classHeritage = x',
    h.childOf? (k := .classHeritage) (by decide) = found
  cases found with
  | none => rfl
  | @some heritage heritage' kept =>
    have kind : heritage.kind = .classHeritage := eq_of_beq kept.2
    have parts := kept.1.same.namedOthers
    rw [kind] at parts
    show heritage.namedChildren.foldl Node.extendedOf none =
      heritage'.namedChildren.foldl Node.extendedOf none
    rw [← foldl_extendedOf none heritage.namedChildren,
      ← foldl_extendedOf none heritage'.namedChildren]
    refine List.rel_foldl (P := Eq) ?_ rfl parts
    rintro found _ rfl c c' kept
    exact extendedOf_eq kept found

theorem implemented (h : Commented n n') : n.implemented = n'.implemented := by
  rw [Node.implemented, Node.implemented]
  generalize n.childOf? .classHeritage = x, n'.childOf? .classHeritage = x',
    h.childOf? (k := .classHeritage) (by decide) = found
  cases found with
  | none => rfl
  | @some heritage heritage' kept =>
    have clauses := kept.1.same.childrenOf (k := .implementsClause) (by decide)
    refine flatMap_eq_of_forall₂ (clauses.imp fun part part' listed => ?_)
    have kind : part.kind = .implementsClause := eq_of_beq listed.2
    refine map_eq_iff_forall₂.2 (listed.1.same.namedOthers.imp fun c c' type => ?_)
    rw [type.text (by simp [Kind.reads, kind])]

end Commented

/-! ## Imports -/

theorem flatMap_partBindings (source : String) (parts : List Node) :
    (parts.filter (!·.isComment)).flatMap (Node.partBindings source) =
      parts.flatMap (Node.partBindings source) := by
  induction parts with
  | nil => rfl
  | cons part rest ih =>
    rw [List.filter_cons, List.flatMap_cons]
    split
    · rw [List.flatMap_cons, ih]
    · next comment =>
      have kind : part.kind = .comment := by simpa [Node.isComment] using comment
      have nothing : Node.partBindings source part = [] := by rw [Node.partBindings, kind]
      rw [nothing, ih, List.nil_append]

theorem specifierBinding?_eq (h : Commented n n') (source : String) :
    Node.specifierBinding? source n = Node.specifierBinding? source n' := by
  rw [Node.specifierBinding?, Node.specifierBinding?, h.textOf?, h.textOf?]

theorem partBindings_eq {c c' : Node} (kept : Kept parent c c') (source : String) :
    Node.partBindings source c = Node.partBindings source c' := by
  have names := kept.same.childOf? (k := .identifier) (by decide)
  have specifiers := kept.same.childrenOf (k := .importSpecifier) (by decide)
  rw [Node.partBindings, Node.partBindings, ← kept.same.kind]
  split
  · next kind => rw [kept.text (by simp [Kind.reads, kind])]
  · generalize c.childOf? .identifier = x, c'.childOf? .identifier = x' at names
    cases names with
    | none => rfl
    | some name =>
      have read := name.1.text (by simp [Kind.reads, eq_of_beq name.2])
      simp [read]
  · exact filterMap_eq_of_forall₂ (specifiers.imp fun _ _ listed =>
      specifierBinding?_eq listed.1.same source)
  · rfl

theorem importedNames_eq (h : Commented n n') : n.importedNames = n'.importedNames := by
  have clauses := h.childOf? (k := .importClause) (by decide)
  rw [Node.importedNames, Node.importedNames, ← h.textOf?]
  generalize n.childOf? .importClause = x, n'.childOf? .importClause = x' at clauses
  cases n.textOf? .source with
  | none => rfl
  | some source =>
    cases clauses with
    | none => rfl
    | @some clause clause' same =>
      show clause.namedChildren.flatMap _ = clause'.namedChildren.flatMap _
      rw [← flatMap_partBindings, ← flatMap_partBindings _ clause'.namedChildren]
      exact flatMap_eq_of_forall₂ (same.1.same.namedOthers.imp fun _ _ kept =>
        partBindings_eq kept _)

/-- Comments do not change the import table, wherever they are put in. -/
theorem imports_eq (h : Commented n n') : imports n = imports n' := by
  have statements := h.childrenOf (k := .importStatement) (by decide)
  have names : (n.childrenOf .importStatement).flatMap Node.importedNames =
      (n'.childrenOf .importStatement).flatMap Node.importedNames :=
    flatMap_eq_of_forall₂ (statements.imp fun _ _ listed => importedNames_eq listed.1.same)
  rw [imports, imports, names]

/-! ## Decorators -/

namespace Node

/-- A scan that looks for what the expression names as a decorator meets a comment: the expression is
one, or one is the first named part in its parentheses. -/
def meetsComment : Node → Bool
  | .node .comment _ _ _ _ => true
  | .node .callExpression _ _ _ children => inFunction children
  | .node .parenthesizedExpression _ _ _ children => inNamed children
  | _ => false
where
  /-- The scan meets it in the called part. -/
  inFunction : List Node → Bool
    | [] => false
    | c :: rest => if c.field == some .function then meetsComment c else inFunction rest
  /-- The scan meets it in the first named part. -/
  inNamed : List Node → Bool
    | [] => false
    | c :: rest => if c.isNamed then meetsComment c else inNamed rest

/-- A comment hides what the decorator names. -/
def isHidden (n : Node) : Bool := meetsComment.inNamed n.children

end Node

mutual

theorem decoratorOf?_of_meets {n : Node} (meets : n.meetsComment = true) :
    n.decoratorOf? = none := by
  cases n with
  | node kind field text row children =>
    cases kind with
    | comment => rfl
    | callExpression =>
      rw [Node.decoratorOf?]
      exact ofFunction_of_meets meets
    | parenthesizedExpression =>
      rw [Node.decoratorOf?]
      exact ofNamed_of_meets meets
    | _ => cases meets

theorem ofFunction_of_meets {cs : List Node} (meets : Node.meetsComment.inFunction cs = true) :
    Node.decoratorOf?.ofFunction cs = none := by
  cases cs with
  | nil => rfl
  | cons c rest =>
    rw [Node.meetsComment.inFunction] at meets
    rw [Node.decoratorOf?.ofFunction]
    split at meets
    · next called => rw [if_pos called, decoratorOf?_of_meets meets]
    · next other => rw [if_neg other, ofFunction_of_meets meets]

theorem ofNamed_of_meets {cs : List Node} (meets : Node.meetsComment.inNamed cs = true) :
    Node.decoratorOf?.ofNamed cs = none := by
  cases cs with
  | nil => rfl
  | cons c rest =>
    rw [Node.meetsComment.inNamed] at meets
    rw [Node.decoratorOf?.ofNamed]
    split at meets
    · next named => rw [if_pos named, decoratorOf?_of_meets meets]
    · next unnamed => rw [if_neg unnamed, ofNamed_of_meets meets]

end

mutual

/-- An expression names the decorator that it named before unless the scan meets a comment. -/
theorem decoratorOf?_eq {n n' : Node} (h : Commented n n')
    (text : n.kind = .identifier → n.text = n'.text) (clear : n'.meetsComment = false) :
    n'.decoratorOf? = n.decoratorOf? := by
  cases n' with
  | node kind field text' row' children' =>
    have object := h.textOf? .object
    have property := h.textOf? .property
    cases h with
    | @node _ _ written _ _ _ _ _ inside =>
      cases kind with
      | identifier =>
        have read : written = text' := text rfl
        rw [Node.decoratorOf?, Node.decoratorOf?, read]
      | callExpression =>
        rw [Node.decoratorOf?, Node.decoratorOf?]
        exact ofFunction_eq inside clear
      | memberExpression => rw [Node.decoratorOf?, Node.decoratorOf?, object, property]
      | parenthesizedExpression =>
        rw [Node.decoratorOf?, Node.decoratorOf?]
        exact ofNamed_eq inside clear
      | _ => rfl

theorem ofFunction_eq {parent : Kind} {cs cs' : List Node} (h : CommentedIn parent cs cs')
    (clear : Node.meetsComment.inFunction cs' = false) :
    Node.decoratorOf?.ofFunction cs' = Node.decoratorOf?.ofFunction cs := by
  cases cs' with
  | nil =>
    cases h with
    | nil => rfl
  | cons c' rest' =>
    cases h with
    | @keep _ c _ _ _ same text later =>
      rw [Node.meetsComment.inFunction, ← same.field] at clear
      rw [Node.decoratorOf?.ofFunction, Node.decoratorOf?.ofFunction, ← same.field]
      split at clear
      · next called =>
        rw [if_pos called, if_pos called]
        exact decoratorOf?_eq same (fun kind => text (by simp [Kind.reads, kind])) clear
      · next other =>
        rw [if_neg other, if_neg other]
        exact ofFunction_eq later clear
    | @put _ _ _ _ rest' later =>
      show Node.decoratorOf?.ofFunction rest' = _
      exact ofFunction_eq later clear

theorem ofNamed_eq {parent : Kind} {cs cs' : List Node} (h : CommentedIn parent cs cs')
    (clear : Node.meetsComment.inNamed cs' = false) :
    Node.decoratorOf?.ofNamed cs' = Node.decoratorOf?.ofNamed cs := by
  cases cs' with
  | nil =>
    cases h with
    | nil => rfl
  | cons c' rest' =>
    cases h with
    | @keep _ c _ _ _ same text later =>
      rw [Node.meetsComment.inNamed, ← same.isNamed] at clear
      rw [Node.decoratorOf?.ofNamed, Node.decoratorOf?.ofNamed, ← same.isNamed]
      split at clear
      · next named =>
        rw [if_pos named, if_pos named]
        exact decoratorOf?_eq same (fun kind => text (by simp [Kind.reads, kind])) clear
      · next unnamed =>
        rw [if_neg unnamed, if_neg unnamed]
        exact ofNamed_eq later clear
    -- the comment that is put in is named, so the scan meets it
    | put _ => cases clear

end

theorem decorator?_eq (n : Node) : n.decorator? = Node.decoratorOf?.ofNamed n.children := by
  rw [Node.decorator?, Node.namedChildren]
  induction n.children with
  | nil => rfl
  | cons c rest ih =>
    rw [List.filter_cons, Node.decoratorOf?.ofNamed]
    split
    · rfl
    · exact ih

/-- A hidden decorator names nothing, and any other names what it named before. -/
theorem decorator?_of_commented (h : Commented n n') :
    n'.decorator? = if n'.isHidden then none else n.decorator? := by
  rw [decorator?_eq, decorator?_eq]
  split
  · next hidden => exact ofNamed_of_meets hidden
  · next clear => exact ofNamed_eq h.children (Bool.eq_false_iff.2 clear)

/-- The decorators of some nodes, with comments put in, are still there, except for hidden ones. -/
theorem sublist_filterMap {ds ds' : List Node} (each : List.Forall₂ Commented ds ds') :
    (ds'.filterMap Node.decorator?).Sublist (ds.filterMap Node.decorator?) := by
  induction each with
  | nil => exact .refl _
  | @cons d d' _ _ same _ ih =>
    rw [List.filterMap_cons, List.filterMap_cons, decorator?_of_commented same]
    cases d.decorator? with
    | none => simpa using ih
    | some x =>
      cases d'.isHidden with
      | false => exact ih.cons_cons x
      | true => exact ih.cons x

/-- No comment hides a decorator that named something without comments. -/
def AllShown (ds ds' : List Node) : Prop :=
  List.Forall₂ (fun d d' => d'.isHidden = true → d.decorator? = none) ds ds'

theorem filterMap_eq_iff {ds ds' : List Node} (each : List.Forall₂ Commented ds ds') :
    ds.filterMap Node.decorator? = ds'.filterMap Node.decorator? ↔ AllShown ds ds' := by
  induction each with
  | nil => exact ⟨fun _ => .nil, fun _ => rfl⟩
  | @cons d d' rest rest' same later ih =>
    rw [AllShown, List.forall₂_cons, ← AllShown, ← ih, List.filterMap_cons, List.filterMap_cons,
      decorator?_of_commented same]
    cases hidden : d'.isHidden with
    | false => cases d.decorator? <;> simp
    | true =>
      cases d.decorator? with
      | none => simp
      | some x =>
        -- the list without the hidden decorator is too short
        have short := (sublist_filterMap later).length_le
        have differ : x :: rest.filterMap Node.decorator? ≠ rest'.filterMap Node.decorator? := by
          intro same
          rw [← same, List.length_cons] at short
          omega
        simpa using differ

end ComponentAtlas.Tree
