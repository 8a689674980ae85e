import ComponentAtlas.Proofs.Related
import ComponentAtlas.Proofs.Tree.Places
import Mathlib.Data.List.TakeWhile

/-! # Siblings

Which place of a tree stands in front of which, and what stands between. The siblings in front of a
node are listed with the nearest one first, and so is a run of them. Lists of nodes are told by the
places that the nodes stand at. -/

namespace ComponentAtlas.Tree

/-- The first place is that of a sibling in front of the second one, and `between` are the nodes
between the two, from the second one backwards. -/
inductive Place.Ahead (between : List Node) : Place → Place → Prop
  | siblings {parent : Place} {before : List Node} {x n : Node} :
      Ahead between (.child parent before x) (.child parent (between ++ x :: before) n)

variable {root : Node} {p q x y : Place} {between : List Node}

/-! ## Parents -/

theorem child_in_iff {before : List Node} {n : Node} :
    (Place.child q before n).In root ↔
      q.In root ∧ ∃ rest, q.node.children = before.reverse ++ n :: rest := by
  constructor
  · rintro ⟨⟩
    next parent split => exact ⟨parent, _, split⟩
  · rintro ⟨parent, rest, split⟩
    exact .child parent split

theorem in_of_parent? (placed : p.In root) (parent : p.parent? = some q) : q.In root := by
  cases placed with
  | root => cases parent
  | child above _ =>
    cases parent
    exact above

theorem address_lt_of_parent? (inside : x.parent? = some p) : p.address < x.address := by
  cases x with
  | root n => cases inside
  | child q before n =>
    cases inside
    exact lt_append_cons _ _ []

/-! ## One ahead of another -/

theorem ahead_child_iff {before : List Node} {n : Node} :
    Place.Ahead between x (.child q before n) ↔
      ∃ m rest, x = .child q rest m ∧ before = between ++ m :: rest := by
  constructor
  · generalize stands : Place.child q before n = p
    rintro ⟨⟩
    cases stands
    exact ⟨_, _, rfl, rfl⟩
  · rintro ⟨m, rest, rfl, rfl⟩
    exact .siblings

theorem Place.Ahead.parent?_eq (h : Ahead between x p) : x.parent? = p.parent? := by
  cases h
  rfl

theorem Place.Ahead.before_eq (h : Ahead between x p) :
    p.before = between ++ x.node :: x.before := by
  cases h
  rfl

theorem exists_ahead {n : Node} {rest : List Node} (front : p.before = between ++ n :: rest) :
    ∃ x, x.node = n ∧ Place.Ahead between x p := by
  cases p with
  | root m => exact absurd front.symm (by simp [Place.before])
  | child q before m => exact ⟨.child q rest n, rfl, ahead_child_iff.2 ⟨n, rest, rfl, front⟩⟩

theorem Place.Ahead.in (h : Ahead between x p) (placed : p.In root) : x.In root := by
  cases h
  obtain ⟨parent, rest, split⟩ := child_in_iff.1 placed
  rw [List.reverse_append, List.reverse_cons, List.append_assoc, List.append_assoc] at split
  exact .child parent split

theorem Place.Ahead.address_lt (h : Ahead between x p) : x.address < p.address := by
  cases h
  refine List.append_left_lt (List.cons_lt_cons_iff.2 (.inl ?_))
  simp only [List.length_append, List.length_cons]
  omega

/-- A place is ahead of one sibling only that does not stand between it and another one. -/
theorem eq_of_ahead {between' : List Node} (placed : p.In root) (placed' : q.In root)
    (ahead : Place.Ahead between x p) (ahead' : Place.Ahead between' x q)
    (outside : p.node ∉ between') (outside' : q.node ∉ between) : p = q := by
  cases ahead with
  | @siblings _ _ _ n =>
    cases ahead' with
    | @siblings _ _ _ m =>
      obtain ⟨-, rest, split⟩ := child_in_iff.1 placed
      obtain ⟨-, rest', split'⟩ := child_in_iff.1 placed'
      rw [List.reverse_append, List.append_assoc] at split split'
      have cut := List.append_cancel_left (split.symm.trans split')
      have free : n ∉ between'.reverse := fun member => outside (List.mem_reverse.1 member)
      have free' : m ∉ between.reverse := fun member => outside' (List.mem_reverse.1 member)
      obtain ⟨betweens, nodes, -⟩ := append_cons_inj_of_free free free' cut
      rw [List.reverse_inj.1 betweens, nodes]

/-- One place only is ahead of a place that does not stand between another one and it. -/
theorem eq_of_ahead_of {between' : List Node} (ahead : Place.Ahead between x p)
    (ahead' : Place.Ahead between' y p) (outside : x.node ∉ between')
    (outside' : y.node ∉ between) : x = y := by
  generalize same : p = q at ahead'
  cases ahead with
  | @siblings parent before n =>
    cases ahead' with
    | @siblings parent' before' m =>
      injection same with parents befores _
      have free : n ∉ between' := outside
      have free' : m ∉ between := outside'
      obtain ⟨-, nodes, rests⟩ := append_cons_inj_of_free free free' befores
      rw [parents, nodes, rests]

theorem eq_or_ahead_of_append {e : Place} {before before' more rest rest' : List Node} {n m : Node}
    (fronts : before'.reverse = before.reverse ++ more) (backs : n :: rest = more ++ m :: rest') :
    Place.child e before n = .child e before' m ∨
      ∃ between, Place.Ahead between (.child e before n) (.child e before' m) := by
  cases more with
  | nil =>
    rw [List.append_nil] at fronts
    exact .inl (by rw [List.reverse_inj.1 fronts, (List.cons.inj backs).1])
  | cons first others =>
    obtain ⟨rfl, -⟩ := List.cons.inj backs
    refine .inr ⟨others.reverse, ahead_child_iff.2 ⟨n, before, rfl, ?_⟩⟩
    rw [← List.reverse_reverse before', fronts]
    simp

/-- Two children of a node are the same, or one of them is ahead of the other. -/
theorem eq_or_ahead {e : Place} (placed : p.In root) (placed' : q.In root)
    (inside : p.parent? = some e) (inside' : q.parent? = some e) :
    p = q ∨ (∃ between, Place.Ahead between p q) ∨ ∃ between, Place.Ahead between q p := by
  cases p with
  | root n => cases inside
  | child _ before n =>
    cases q with
    | root m => cases inside'
    | child _ before' m =>
      cases inside
      cases inside'
      obtain ⟨-, rest, split⟩ := child_in_iff.1 placed
      obtain ⟨-, rest', split'⟩ := child_in_iff.1 placed'
      rcases List.append_eq_append_iff.1 (split.symm.trans split') with
        ⟨more, fronts, backs⟩ | ⟨more, fronts, backs⟩
      · exact (eq_or_ahead_of_append fronts backs).imp_right .inl
      · exact (eq_or_ahead_of_append fronts backs).imp Eq.symm .inr

/-! ## Siblings in front -/

/-- The places of the siblings in front, nearest first. -/
def siblingPlaces (parent : Place) : List Node → List Place
  | [] => []
  | n :: before => .child parent before n :: siblingPlaces parent before

theorem map_siblingPlaces (parent : Place) (before : List Node) :
    (siblingPlaces parent before).map Place.node = before := by
  induction before with
  | nil => rfl
  | cons n rest ih => exact congrArg (n :: ·) ih

/-- The places in a run of siblings, counted from the nearest one. -/
theorem mem_takeWhile_siblingPlaces {parent : Place} {test : Node → Bool} {before : List Node} :
    x ∈ (siblingPlaces parent before).takeWhile (test ∘ Place.node) ↔
      ∃ between n rest, x = .child parent rest n ∧ before = between ++ n :: rest ∧
        test n = true ∧ ∀ m ∈ between, test m = true := by
  induction before with
  | nil => simp [siblingPlaces]
  | cons first others ih =>
    rw [siblingPlaces, List.takeWhile_cons]
    show x ∈ (if test first = true then _ else _) ↔ _
    constructor
    · intro member
      split at member
      · next passes =>
        rcases List.mem_cons.1 member with rfl | further
        · exact ⟨[], first, others, rfl, rfl, passes, List.forall_mem_nil _⟩
        · obtain ⟨between, n, rest, same, rfl, passesN, all⟩ := ih.1 further
          refine ⟨first :: between, n, rest, same, rfl, passesN, ?_⟩
          exact List.forall_mem_cons.2 ⟨passes, all⟩
      · cases member
    · rintro ⟨between, n, rest, rfl, split, passes, all⟩
      cases between with
      | nil =>
        cases split
        rw [if_pos passes]
        exact List.mem_cons_self
      | cons second more =>
        obtain ⟨rfl, behind⟩ := List.cons.inj split
        rw [List.forall_mem_cons] at all
        rw [if_pos all.1]
        exact List.mem_cons_of_mem _ (ih.2 ⟨more, n, rest, rfl, behind, passes, all.2⟩)

theorem mem_siblingPlaces_iff {parent : Place} {before : List Node} :
    x ∈ siblingPlaces parent before ↔
      ∃ between n rest, x = .child parent rest n ∧ before = between ++ n :: rest := by
  have all : siblingPlaces parent before =
      (siblingPlaces parent before).takeWhile ((fun _ => true) ∘ Place.node) :=
    (List.takeWhile_eq_self_iff.2 fun _ _ => rfl).symm
  rw [all, mem_takeWhile_siblingPlaces]
  simp

theorem mem_siblingPlaces_reverse_iff (placed : p.In root) :
    x ∈ siblingPlaces p p.node.children.reverse ↔ x.In root ∧ x.parent? = some p := by
  rw [mem_siblingPlaces_iff]
  constructor
  · rintro ⟨between, n, rest, rfl, split⟩
    refine ⟨child_in_iff.2 ⟨placed, between.reverse, ?_⟩, rfl⟩
    rw [← List.reverse_reverse p.node.children, split]
    simp
  · rintro ⟨inside, parent⟩
    cases x with
    | root n => cases parent
    | child q rest n =>
      cases parent
      obtain ⟨-, behind, split⟩ := child_in_iff.1 inside
      exact ⟨behind.reverse, n, rest, rfl, by simp [split]⟩

theorem address_of_mem_siblingPlaces {parent : Place} {before : List Node}
    (member : x ∈ siblingPlaces parent before) :
    ∃ i < before.length, x.address = parent.address ++ [i] := by
  induction before with
  | nil => cases member
  | cons first others ih =>
    rcases List.mem_cons.1 member with rfl | further
    · exact ⟨_, Nat.lt_succ_self _, rfl⟩
    · obtain ⟨i, inside, address⟩ := ih further
      exact ⟨i, Nat.lt_succ_of_lt inside, address⟩

theorem siblingPlaces_pairwise (parent : Place) (before : List Node) :
    (siblingPlaces parent before).Pairwise fun a b => b.address < a.address := by
  induction before with
  | nil => exact .nil
  | cons first others ih =>
    refine .cons (fun x member => ?_) ih
    obtain ⟨i, inside, address⟩ := address_of_mem_siblingPlaces member
    rw [address]
    exact List.append_left_lt (List.cons_lt_cons_iff.2 (.inl inside))

/-- The siblings in front of the node, nearest first. -/
def Place.siblings : Place → List Place
  | .root _ => []
  | .child q before _ => siblingPlaces q before

theorem mem_siblings_iff : x ∈ p.siblings ↔ ∃ between, Place.Ahead between x p := by
  cases p with
  | root n => exact iff_of_false List.not_mem_nil fun ⟨_, ahead⟩ => nomatch ahead
  | child q before n =>
    simp only [Place.siblings, mem_siblingPlaces_iff, ahead_child_iff]

/-! ## Nodes by their places -/

/-- The nodes are those at the places with the property, in the order of addresses. -/
def AtPlaces (belongs : Place → Prop) (nodes : List Node) : Prop :=
  ∃ xs : List Place, xs.map Place.node = nodes ∧
    (xs.Pairwise fun a b => a.address < b.address) ∧ ∀ x, x ∈ xs ↔ belongs x

theorem AtPlaces.nil {belongs : Place → Prop} (none : ∀ x, ¬ belongs x) : AtPlaces belongs [] :=
  ⟨[], rfl, .nil, fun x => iff_of_false List.not_mem_nil (none x)⟩

theorem AtPlaces.congr {belongs belongs' : Place → Prop} {nodes : List Node}
    (h : AtPlaces belongs nodes) (same : ∀ x, belongs x ↔ belongs' x) :
    AtPlaces belongs' nodes := by
  rwa [← funext fun x => propext (same x)]

theorem AtPlaces.append {belongs belongs' : Place → Prop} {nodes nodes' : List Node}
    (h : AtPlaces belongs nodes) (h' : AtPlaces belongs' nodes')
    (apart : ∀ x y, belongs x → belongs' y → x.address < y.address) :
    AtPlaces (fun x => belongs x ∨ belongs' x) (nodes ++ nodes') := by
  obtain ⟨xs, rfl, ordered, all⟩ := h
  obtain ⟨ys, rfl, ordered', all'⟩ := h'
  refine ⟨xs ++ ys, List.map_append, List.pairwise_append.2 ⟨ordered, ordered', ?_⟩, fun x => ?_⟩
  · exact fun x first y second => apart x y ((all x).1 first) ((all' y).1 second)
  · rw [List.mem_append, all, all']

end ComponentAtlas.Tree
