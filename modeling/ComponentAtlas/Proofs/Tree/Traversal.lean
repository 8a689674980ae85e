import Mathlib.Data.List.Forall2
import ComponentAtlas.Proofs.Tree.Places
import ComponentAtlas.Source.File

/-! # Which nodes are declarations, and of which class

The declarations of a tree are those of its declaring places, in pre-order and one for each. A
method or function belongs to the nearest class around it. A class that is listed is known by its
index, which is lower than that of everything in it; a class expression that is not listed hides the
classes around it. -/

namespace ComponentAtlas.Tree

open ComponentAtlas.Source

/-! ## Declaring places -/

/-- The parent of the node is of that kind. -/
def Place.StandsIn (p : Place) (k : Kind) : Prop := ∃ q, p.parent? = some q ∧ q.node.kind = k

/-- The node is a declaration of that sort. -/
inductive Place.Declares (p : Place) : DeclarationKind → Prop
  | ofClass (kind : p.node.kind = .classDeclaration ∨ p.node.kind = .abstractClassDeclaration) :
      Declares p .classes
  | exportedClass (kind : p.node.kind = .classExpression)
      (exported : p.StandsIn .exportStatement) : Declares p .classes
  | ofMethod (kind : p.node.kind = .methodDefinition ∨ p.node.kind = .abstractMethodSignature)
      (member : p.StandsIn .classBody) (named : p.node.textOf? .name ≠ some "constructor") :
      Declares p .methods
  | ofFunction
      (kind : p.node.kind = .functionDeclaration ∨ p.node.kind = .generatorFunctionDeclaration) :
      Declares p .functions
  | exportedFunction
      (kind : p.node.kind = .functionExpression ∨ p.node.kind = .generatorFunction)
      (exported : p.StandsIn .exportStatement) : Declares p .functions

theorem isIn_iff {p : Place} {k : Kind} : p.isIn k = true ↔ p.StandsIn k := by
  rw [Place.isIn, Place.StandsIn, Option.any_eq_true_iff_get]
  cases p.parent? <;> simp

theorem declares?_eq_some_iff {p : Place} {k : DeclarationKind} :
    p.declares? = some k ↔ p.Declares k := by
  unfold Place.declares? Place.isExported
  constructor
  · intro h
    split at h
    · next kind =>
      cases h
      exact .ofClass (.inl kind)
    · next kind =>
      cases h
      exact .ofClass (.inr kind)
    · next kind =>
      obtain ⟨exported, rfl⟩ := by simpa [Option.ite_none_right_eq_some] using h
      exact .exportedClass kind (isIn_iff.1 exported)
    · next kind =>
      obtain ⟨⟨member, named⟩, rfl⟩ := by simpa [Option.ite_none_right_eq_some] using h
      exact .ofMethod (.inl kind) (isIn_iff.1 member) named
    · next kind =>
      obtain ⟨⟨member, named⟩, rfl⟩ := by simpa [Option.ite_none_right_eq_some] using h
      exact .ofMethod (.inr kind) (isIn_iff.1 member) named
    · next kind =>
      cases h
      exact .ofFunction (.inl kind)
    · next kind =>
      cases h
      exact .ofFunction (.inr kind)
    · next kind =>
      obtain ⟨exported, rfl⟩ := by simpa [Option.ite_none_right_eq_some] using h
      exact .exportedFunction (.inl kind) (isIn_iff.1 exported)
    · next kind =>
      obtain ⟨exported, rfl⟩ := by simpa [Option.ite_none_right_eq_some] using h
      exact .exportedFunction (.inr kind) (isIn_iff.1 exported)
    · cases h
  · intro h
    cases h with
    | ofClass kind => rcases kind with kind | kind <;> simp [kind]
    | exportedClass kind exported => simp [kind, isIn_iff.2 exported]
    | ofMethod kind member named =>
      rcases kind with kind | kind <;> simp [kind, isIn_iff.2 member, named]
    | ofFunction kind => rcases kind with kind | kind <;> simp [kind]
    | exportedFunction kind exported =>
      rcases kind with kind | kind <;> simp [kind, isIn_iff.2 exported]

/-- The declaring places of a list. -/
def declaring (ps : List Place) : List Place := ps.filter fun p => p.declares?.isSome

theorem declaring_append (ps qs : List Place) :
    declaring (ps ++ qs) = declaring ps ++ declaring qs :=
  List.filter_append _ _

theorem mem_declaring_iff {ps : List Place} {p : Place} :
    p ∈ declaring ps ↔ p ∈ ps ∧ ∃ k, p.Declares k := by
  simp only [declaring, List.mem_filter, Option.isSome_iff_exists, declares?_eq_some_iff]

/-! ## Enclosing classes -/

/-- A class, declared or in expression position. -/
def Kind.isClass : Kind → Bool
  | .classDeclaration | .abstractClassDeclaration | .classExpression => true
  | _ => false

/-- The nearest class around the node. -/
def Place.nearestClass? (p : Place) : Option Place := p.ancestors.find? (·.node.kind.isClass)

/-- What a member of a class has for its enclosing class: the index of the nearest class around it
in the list, nothing if there is none or it is a class expression that is not listed. -/
inductive EnclosedBy (listed : List Place) (p : Place) : Option Nat → Prop
  | nothing (outside : p.nearestClass? = none) : EnclosedBy listed p none
  | unlisted {c : Place} (nearest : p.nearestClass? = some c)
      (kind : c.node.kind = .classExpression) (unlisted : ∀ k, ¬ c.Declares k) :
      EnclosedBy listed p none
  | listed {c : Place} {j : Nat} (nearest : p.nearestClass? = some c)
      (index : listed[j]? = some c) : EnclosedBy listed p (some j)

variable {listed : List Place}

theorem isClass_iff {k : Kind} :
    k.isClass = true ↔
      k = .classDeclaration ∨ k = .abstractClassDeclaration ∨ k = .classExpression := by
  cases k <;> simp [Kind.isClass]

theorem isClass_of_declares {p : Place} (h : p.Declares .classes) : p.node.kind.isClass = true := by
  rw [isClass_iff, ← or_assoc]
  cases h with
  | ofClass kind => exact .inl kind
  | exportedClass kind _ => exact .inr kind

/-- A class can be a declaration of classes only. -/
theorem eq_classes_of_isClass {p : Place} {k : DeclarationKind}
    (isClass : p.node.kind.isClass = true) (h : p.Declares k) : k = .classes := by
  cases h with
  | ofClass | exportedClass => rfl
  | ofMethod kind | ofFunction kind | exportedFunction kind =>
    rcases kind with kind | kind <;> simp [kind, Kind.isClass] at isClass

theorem nearestClass?_child_of_isClass {p : Place} {before : List Node} {c : Node}
    (h : p.node.kind.isClass = true) : (Place.child p before c).nearestClass? = some p :=
  List.find?_cons_of_pos h

theorem nearestClass?_child {p : Place} {before : List Node} {c : Node}
    (h : ¬ p.node.kind.isClass = true) :
    (Place.child p before c).nearestClass? = p.nearestClass? :=
  List.find?_cons_of_neg h

/-- The scan hands the enclosing class down: a listed class is that of what stands in it, a class
expression that is not listed leaves nothing, and any other node changes nothing. -/
theorem enclosedBy_classForChildren {p : Place} {enclosing : Option Nat} {next : Nat}
    (index : p.Declares .classes → listed[next]? = some p) (h : EnclosedBy listed p enclosing)
    (before : List Node) (c : Node) :
    EnclosedBy listed (.child p before c) (Node.classForChildren p enclosing next) := by
  unfold Node.classForChildren
  split
  · next declares =>
    have isDeclared := declares?_eq_some_iff.1 declares
    exact .listed (nearestClass?_child_of_isClass (isClass_of_declares isDeclared))
      (index isDeclared)
  · next kind undeclared =>
    have isClass : p.node.kind.isClass = true := by rw [kind]; rfl
    refine .unlisted (nearestClass?_child_of_isClass isClass) kind fun k declares => ?_
    obtain rfl := eq_classes_of_isClass isClass declares
    exact undeclared (declares?_eq_some_iff.2 declares)
  · next other undeclared =>
    have noClass : ¬ p.node.kind.isClass = true := by
      -- a class that is no expression is always listed
      rw [isClass_iff, ← or_assoc]
      rintro (kind | kind)
      · exact undeclared (declares?_eq_some_iff.2 (.ofClass kind))
      · exact other kind
    cases h with
    | nothing outside => exact .nothing ((nearestClass?_child noClass).trans outside)
    | unlisted nearest kind unlisted =>
      exact .unlisted ((nearestClass?_child noClass).trans nearest) kind unlisted
    | listed nearest index => exact .listed ((nearestClass?_child noClass).trans nearest) index

/-! ## The scan -/

/-- The declaration is that of a declaring place, with its enclosing class. -/
def Entry (listed : List Place) (p : Place) (d : Declaration) : Prop :=
  ∃ k enclosing, p.Declares k ∧ EnclosedBy listed p enclosing ∧ d = p.declaration enclosing k

theorem ownDeclarations_entries {p : Place} {enclosing : Option Nat}
    (enclosed : EnclosedBy listed p enclosing) :
    List.Forall₂ (Entry listed) (declaring [p]) (p.ownDeclarations enclosing) := by
  rw [declaring, Place.ownDeclarations]
  cases found : p.declares? with
  | none =>
    rw [List.filter_cons_of_neg (by simp [found])]
    exact .nil
  | some k =>
    rw [List.filter_cons_of_pos (by simp [found])]
    exact .cons ⟨k, enclosing, declares?_eq_some_iff.1 found, enclosed, rfl⟩ .nil

mutual

/-- The declarations of a node and of everything in it, one for each declaring place, when the list
goes on with those places behind as many as are listed before. -/
theorem declarationsAt_entries {front back : List Place} {p : Place} {enclosing : Option Nat}
    {next : Nat} {node : Node} (stands : p.node = node)
    (whole : listed = front ++ declaring (placesAt p node) ++ back) (counted : front.length = next)
    (enclosed : EnclosedBy listed p enclosing) :
    List.Forall₂ (Entry listed) (declaring (placesAt p node))
      (declarationsAt p enclosing next node) := by
  cases node with
  | node kind field text row children =>
    have own := ownDeclarations_entries enclosed
    rw [placesAt, ← List.singleton_append, declaring_append] at whole ⊢
    rw [declarationsAt]
    -- a class is listed where its members have it for their enclosing class
    have index (declares : p.Declares .classes) : listed[next]? = some p := by
      have alone : declaring [p] = [p] :=
        List.filter_cons_of_pos (by simp [declares?_eq_some_iff.2 declares])
      rw [whole, alone, ← counted]
      simp
    have inside : listed = (front ++ declaring [p]) ++ declaring (placesIn p [] children) ++ back :=
      whole.trans (by simp only [List.append_assoc])
    refine List.rel_append own (declarationsIn_entries inside ?_
      (enclosedBy_classForChildren index enclosed))
    rw [List.length_append, counted, own.length_eq]

theorem declarationsIn_entries {front back : List Place} {p : Place} {enclosing : Option Nat}
    {next : Nat} {before children : List Node}
    (whole : listed = front ++ declaring (placesIn p before children) ++ back)
    (counted : front.length = next)
    (enclosed : ∀ before c, EnclosedBy listed (.child p before c) enclosing) :
    List.Forall₂ (Entry listed) (declaring (placesIn p before children))
      (declarationsIn p enclosing before next children) := by
  cases children with
  | nil => exact .nil
  | cons c rest =>
    rw [placesIn, declaring_append] at whole ⊢
    rw [declarationsIn]
    have here : listed = front ++ declaring (placesAt (.child p before c) c) ++
        (declaring (placesIn p (c :: before) rest) ++ back) :=
      whole.trans (by simp only [List.append_assoc])
    have first : List.Forall₂ (Entry listed) (declaring (placesAt (.child p before c) c))
        (declarationsAt (.child p before c) enclosing next c) :=
      declarationsAt_entries rfl here counted (enclosed before c)
    have later : listed = (front ++ declaring (placesAt (.child p before c) c)) ++
        declaring (placesIn p (c :: before) rest) ++ back :=
      whole.trans (by simp only [List.append_assoc])
    refine List.rel_append first (declarationsIn_entries later ?_ enclosed)
    rw [List.length_append, counted, first.length_eq]

end

theorem declarations_entries (root : Node) :
    List.Forall₂ (Entry (declaring (places root))) (declaring (places root))
      (declarations root) := by
  have whole : declaring (places root) =
      [] ++ declaring (placesAt (.root root) root) ++ [] := (List.append_nil _).symm
  exact declarationsAt_entries rfl whole rfl (.nothing rfl)

/-! ## The list of declarations -/

theorem declaration_kind (p : Place) (enclosing : Option Nat) (k : DeclarationKind) :
    (p.declaration enclosing k).kind = k := by
  cases k <;> rfl

theorem declaration_enclosing (p : Place) (enclosing : Option Nat) {k : DeclarationKind}
    (member : k ≠ .classes) : (p.declaration enclosing k).enclosing = enclosing := by
  cases k with
  | classes => exact absurd rfl member
  | methods | functions => rfl

theorem declaring_pairwise (root : Node) :
    (declaring (places root)).Pairwise fun a b => a.address < b.address :=
  (places_pairwise root).filter _

/-- In a list in the order of addresses an ancestor has a lower index. -/
theorem index_lt_of_mem_ancestors {i j : Nat} {p q : Place}
    (ordered : listed.Pairwise fun a b => a.address < b.address) (atI : listed[i]? = some p)
    (atJ : listed[j]? = some q) (around : q ∈ p.ancestors) : j < i := by
  obtain ⟨boundI, rfl⟩ := List.getElem?_eq_some_iff.1 atI
  obtain ⟨boundJ, rfl⟩ := List.getElem?_eq_some_iff.1 atJ
  have less := address_lt_of_mem_ancestors around
  rcases Nat.lt_trichotomy i j with lower | same | higher
  · have greater := List.pairwise_iff_getElem.1 ordered i j boundI boundJ lower
    exact absurd (List.lt_trans less greater) (List.lt_irrefl _)
  · subst same
    exact absurd less (List.lt_irrefl _)
  · exact higher

theorem exists_entry {root : Node} {i : Nat} {d : Declaration}
    (found : (declarations root)[i]? = some d) :
    ∃ p, (declaring (places root))[i]? = some p ∧ Entry (declaring (places root)) p d := by
  obtain ⟨bound, rfl⟩ := List.getElem?_eq_some_iff.1 found
  obtain ⟨same, each⟩ := List.forall₂_iff_get.1 (declarations_entries root)
  exact ⟨_, List.getElem?_eq_getElem (same ▸ bound), each i (same ▸ bound) bound⟩

theorem exists_declaration {root : Node} {i : Nat} {p : Place}
    (atI : (declaring (places root))[i]? = some p) :
    ∃ d, (declarations root)[i]? = some d ∧ Entry (declaring (places root)) p d := by
  obtain ⟨bound, rfl⟩ := List.getElem?_eq_some_iff.1 atI
  obtain ⟨same, each⟩ := List.forall₂_iff_get.1 (declarations_entries root)
  exact ⟨_, List.getElem?_eq_getElem (same ▸ bound), each i bound (same ▸ bound)⟩

/-- An entry of the list has the enclosing class of its place, unless it is a class, which has
none. -/
theorem enclosing_of_entry {p : Place} {d : Declaration} (h : Entry listed p d) :
    ∃ k, p.Declares k ∧ d = p.declaration d.enclosing k ∧ d.kind = k ∧
      (k = .classes → d.enclosing = none) ∧ (k ≠ .classes → EnclosedBy listed p d.enclosing) := by
  obtain ⟨k, enclosing, declares, enclosed, rfl⟩ := h
  refine ⟨k, declares, ?_, declaration_kind p enclosing k, ?_, fun member => ?_⟩
  · cases k <;> rfl
  · rintro rfl
    rfl
  · rw [declaration_enclosing p enclosing member]
    exact enclosed

theorem enclosedBy_of_entry {p : Place} {d : Declaration} {j : Nat} (h : Entry listed p d)
    (index : d.enclosing = some j) : EnclosedBy listed p (some j) := by
  obtain ⟨k, -, -, -, ofClass, ofMember⟩ := enclosing_of_entry h
  have member : k ≠ .classes := by
    intro isClass
    rw [ofClass isClass] at index
    cases index
  rw [← index]
  exact ofMember member

/-- The index of an enclosing class is that of a class in front. -/
theorem class_of_enclosing {root : Node} {i j : Nat} {d : Declaration}
    (found : (declarations root)[i]? = some d) (index : d.enclosing = some j) :
    j < i ∧ ∃ c, (declarations root)[j]? = some c ∧ c.kind = .classes := by
  obtain ⟨p, atI, entry⟩ := exists_entry found
  cases enclosedBy_of_entry entry index with
  | @listed q _ nearest atJ =>
    have around : q ∈ p.ancestors := List.mem_of_find?_eq_some nearest
    have isClass : q.node.kind.isClass = true :=
      List.find?_some (p := fun r : Place => r.node.kind.isClass) nearest
    obtain ⟨c, foundC, k, enclosing, declares, -, rfl⟩ := exists_declaration atJ
    refine ⟨index_lt_of_mem_ancestors (declaring_pairwise root) atI atJ around, _, foundC, ?_⟩
    rw [declaration_kind, eq_classes_of_isClass isClass declares]

/-! ## Files -/

theorem declarations_of_parse {path content : String} {file : SourceFile}
    (read : SourceFile.parse path content = .ok file) :
    ∃ root, file.declarations = declarations root := by
  rw [SourceFile.parse] at read
  split at read
  · next language _ =>
    cases read
    exact ⟨Script.read language content, rfl⟩
  · cases read

/-- In a file that is read the index of an enclosing class leads to a class; classes have no such
index. -/
theorem enclosing?_of_parse {path content : String} {file : SourceFile}
    (read : SourceFile.parse path content = .ok file) {d : Declaration}
    (declared : d ∈ file.declarations) :
    (d.kind = .classes → file.enclosing? d = none) ∧
      ∀ j, d.enclosing = some j → ∃ c, file.enclosing? d = some c ∧ c.kind = .classes := by
  obtain ⟨root, all⟩ := declarations_of_parse read
  rw [all] at declared
  obtain ⟨i, found⟩ := List.getElem?_of_mem declared
  obtain ⟨p, -, entry⟩ := exists_entry found
  rw [SourceFile.enclosing?, all]
  constructor
  · intro isClass
    obtain ⟨k, -, -, kind, ofClass, -⟩ := enclosing_of_entry entry
    rw [ofClass (kind.symm.trans isClass)]
    rfl
  · intro j index
    obtain ⟨-, c, atJ, kind⟩ := class_of_enclosing found index
    rw [index]
    exact ⟨c, atJ, kind⟩

/-- The list of declarations is exact. It has one entry for each declaring place of the tree, in
pre-order. A class has no enclosing class. The enclosing class of a method or function is decided by
the nearest class around it, and its index is that of a class in front. In a file that is read the
index of an enclosing class always leads to a class. -/
theorem declarations_exact :
    (∀ root : Node, ∃ listed : List Place,
      (∀ p, p ∈ listed ↔ p.In root ∧ ∃ k, p.Declares k) ∧
      (listed.Pairwise fun a b => a.address < b.address) ∧
      listed.length = (declarations root).length ∧
      ∀ i p d, listed[i]? = some p → (declarations root)[i]? = some d →
        (∃ k, p.Declares k ∧ d = p.declaration d.enclosing k ∧ d.kind = k ∧
          (k = .classes → d.enclosing = none) ∧
          (k ≠ .classes → EnclosedBy listed p d.enclosing)) ∧
        ∀ j, d.enclosing = some j →
          j < i ∧ ∃ c, (declarations root)[j]? = some c ∧ c.kind = .classes) ∧
    ∀ path content file, SourceFile.parse path content = .ok file → ∀ d ∈ file.declarations,
      (d.kind = .classes → file.enclosing? d = none) ∧
      ∀ j, d.enclosing = some j → ∃ c, file.enclosing? d = some c ∧ c.kind = .classes := by
  constructor
  · intro root
    refine ⟨declaring (places root), fun p => ?_, declaring_pairwise root,
      (declarations_entries root).length_eq, fun i p d atI found => ⟨?_, fun j index => ?_⟩⟩
    · rw [mem_declaring_iff, mem_places_iff]
    · obtain ⟨other, atI', entry⟩ := exists_entry found
      obtain rfl := Option.some.inj (atI.symm.trans atI')
      exact enclosing_of_entry entry
    · exact class_of_enclosing found index
  · intro path content file read d declared
    exact enclosing?_of_parse read declared

/-- Another class stands around the class expression, but not for what is in it. -/
example :
    (declarations (Script.read .typescript "class A { m() { return class { n() {} }; } }")).map
        (fun d => (d.name, d.enclosing)) =
      [(some "A", none), (some "m", some 0), (some "n", none)] := by decide +kernel

end ComponentAtlas.Tree
