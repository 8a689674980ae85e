import ComponentAtlas.Tree.Place

/-! # The places of a tree

Every node of a tree stands at one place. The places are listed in pre-order: a node before its
children, and a child with everything in it before the next one. The address of a place tells the
way to it from the root, and pre-order is the order of addresses as words. -/

namespace ComponentAtlas.Tree

/-- The place belongs to the tree: it is the root, or a child of a place of the tree behind the
children that stand in front of it. -/
inductive Place.In (root : Node) : Place → Prop
  | root : In root (.root root)
  | child {p : Place} {before rest : List Node} {c : Node} (parent : In root p)
      (split : p.node.children = before.reverse ++ c :: rest) : In root (.child p before c)

/-- The indices of children on the way from the root. -/
def Place.address : Place → List Nat
  | .root _ => []
  | .child p before _ => p.address ++ [before.length]

mutual

/-- The place of a node and those of everything in it, in pre-order. -/
def placesAt (p : Place) : Node → List Place
  | .node _ _ _ _ children => p :: placesIn p [] children

/-- The places of the children that remain, behind those in `before`, and of everything in them. -/
def placesIn (p : Place) (before : List Node) : List Node → List Place
  | [] => []
  | c :: rest => placesAt (.child p before c) c ++ placesIn p (c :: before) rest

end

/-- The places of a tree in pre-order. -/
def places (root : Node) : List Place := placesAt (.root root) root

/-! ## Every place is listed -/

theorem self_mem_placesAt (p : Place) (node : Node) : p ∈ placesAt p node := by
  cases node
  exact List.mem_cons_self

mutual

theorem in_of_mem_placesAt {root : Node} {p q : Place} {node : Node} (h : p.In root)
    (stands : p.node = node) (member : q ∈ placesAt p node) : q.In root := by
  cases node with
  | node kind field text row children =>
    rw [placesAt] at member
    rcases List.mem_cons.1 member with rfl | inside
    · exact h
    · exact in_of_mem_placesIn h (congrArg Node.children stands) inside

theorem in_of_mem_placesIn {root : Node} {p q : Place} {before children : List Node}
    (h : p.In root) (split : p.node.children = before.reverse ++ children)
    (member : q ∈ placesIn p before children) : q.In root := by
  cases children with
  | nil => cases member
  | cons c rest =>
    rw [placesIn] at member
    rcases List.mem_append.1 member with here | later
    · exact in_of_mem_placesAt (.child h split) rfl here
    · exact in_of_mem_placesIn h (split.trans (by simp)) later

end

theorem child_mem_placesIn {p : Place} {c : Node} {rest : List Node} (front before : List Node) :
    .child p (front.reverse ++ before) c ∈ placesIn p before (front ++ c :: rest) := by
  induction front generalizing before with
  | nil =>
    rw [List.nil_append, placesIn]
    exact List.mem_append_left _ (self_mem_placesAt _ c)
  | cons first more ih =>
    rw [List.cons_append, placesIn, List.reverse_cons, List.append_assoc]
    exact List.mem_append_right _ (ih (first :: before))

mutual

/-- With a place its children are listed. -/
theorem child_mem_placesAt {p q : Place} {before rest : List Node} {node c : Node}
    (stands : p.node = node) (member : q ∈ placesAt p node)
    (split : q.node.children = before.reverse ++ c :: rest) :
    .child q before c ∈ placesAt p node := by
  cases node with
  | node kind field text row children =>
    rw [placesAt] at member ⊢
    refine List.mem_cons_of_mem _ ?_
    rcases List.mem_cons.1 member with rfl | inside
    · have all : children = before.reverse ++ c :: rest :=
        (congrArg Node.children stands).symm.trans split
      have listed : .child q (before.reverse.reverse ++ []) c ∈
          placesIn q [] (before.reverse ++ c :: rest) := child_mem_placesIn _ _
      rw [List.reverse_reverse, List.append_nil] at listed
      rw [all]
      exact listed
    · exact child_mem_placesIn_of_mem inside split

theorem child_mem_placesIn_of_mem {p q : Place} {before rest others children : List Node}
    {c : Node} (member : q ∈ placesIn p others children)
    (split : q.node.children = before.reverse ++ c :: rest) :
    .child q before c ∈ placesIn p others children := by
  cases children with
  | nil => cases member
  | cons first more =>
    rw [placesIn] at member ⊢
    rcases List.mem_append.1 member with here | later
    · exact List.mem_append_left _ (child_mem_placesAt rfl here split)
    · exact List.mem_append_right _ (child_mem_placesIn_of_mem later split)

end

/-- The list has exactly the places of the tree. -/
theorem mem_places_iff {root : Node} {p : Place} : p ∈ places root ↔ p.In root := by
  constructor
  · exact in_of_mem_placesAt .root rfl
  · intro h
    induction h with
    | root => exact self_mem_placesAt _ root
    | child _ split ih => exact child_mem_placesAt rfl ih split

/-! ## In the order of addresses -/

theorem lt_append_cons (a : List Nat) (i : Nat) (t : List Nat) : a < a ++ i :: t := by
  have less : a ++ [] < a ++ i :: t := List.append_left_lt (List.nil_lt_cons i t)
  rwa [List.append_nil] at less

mutual

/-- What stands in a node has an address that goes on from that of the node. -/
theorem address_of_mem_placesAt {p q : Place} {node : Node} (member : q ∈ placesAt p node) :
    ∃ t, q.address = p.address ++ t := by
  cases node with
  | node kind field text row children =>
    rw [placesAt] at member
    rcases List.mem_cons.1 member with rfl | inside
    · exact ⟨[], (List.append_nil _).symm⟩
    · obtain ⟨i, t, -, address⟩ := address_of_mem_placesIn inside
      exact ⟨_, address⟩

theorem address_of_mem_placesIn {p q : Place} {before children : List Node}
    (member : q ∈ placesIn p before children) :
    ∃ i t, before.length ≤ i ∧ q.address = p.address ++ i :: t := by
  cases children with
  | nil => cases member
  | cons c rest =>
    rw [placesIn] at member
    rcases List.mem_append.1 member with here | later
    · obtain ⟨t, address⟩ := address_of_mem_placesAt here
      refine ⟨before.length, t, Nat.le_refl _, ?_⟩
      rw [address, Place.address, List.append_assoc, List.singleton_append]
    · obtain ⟨i, t, behind, address⟩ := address_of_mem_placesIn later
      exact ⟨i, t, Nat.le_of_succ_le behind, address⟩

end

mutual

theorem placesAt_pairwise (p : Place) (node : Node) :
    (placesAt p node).Pairwise fun a b => a.address < b.address := by
  cases node with
  | node kind field text row children =>
    rw [placesAt, List.pairwise_cons]
    refine ⟨fun q inside => ?_, placesIn_pairwise p [] children⟩
    obtain ⟨i, t, -, address⟩ := address_of_mem_placesIn inside
    rw [address]
    exact lt_append_cons _ i t

theorem placesIn_pairwise (p : Place) (before children : List Node) :
    (placesIn p before children).Pairwise fun a b => a.address < b.address := by
  cases children with
  | nil => exact .nil
  | cons c rest =>
    rw [placesIn, List.pairwise_append]
    refine ⟨placesAt_pairwise _ c, placesIn_pairwise p (c :: before) rest, fun a here b later => ?_⟩
    -- the addresses part at the index of the child
    obtain ⟨t, addressA⟩ := address_of_mem_placesAt here
    obtain ⟨i, u, behind, addressB⟩ := address_of_mem_placesIn later
    rw [addressA, addressB, Place.address, List.append_assoc, List.singleton_append]
    exact List.append_left_lt (List.cons_lt_cons_iff.2 (.inl behind))

end

/-- The places are listed in the strict order of their addresses. -/
theorem places_pairwise (root : Node) :
    (places root).Pairwise fun a b => a.address < b.address :=
  placesAt_pairwise _ root

/-! ## Ancestors -/

/-- The places of the nodes around a node, the nearest one first. -/
def Place.ancestors : Place → List Place
  | .root _ => []
  | .child p _ _ => p :: p.ancestors

/-- An ancestor comes first. -/
theorem address_lt_of_mem_ancestors {p q : Place} (around : q ∈ p.ancestors) :
    q.address < p.address := by
  induction p with
  | root => cases around
  | child parent before node ih =>
    have step : parent.address < (Place.child parent before node).address := lt_append_cons _ _ []
    rcases List.mem_cons.1 around with rfl | further
    · exact step
    · exact List.lt_trans (ih further) step

end ComponentAtlas.Tree
