import ComponentAtlas.Proofs.Tree.Lines
import ComponentAtlas.Script.Fragment

/-! # Rows of cursors and fragments

A cursor never gets behind the last row of its source, so no node does that is made where a cursor
stands. -/

namespace ComponentAtlas.Script

open ComponentAtlas.Tree

variable {last : Nat}

/-! ## Cursors -/

/-- The row of the cursor and the line feeds that are left to read lead to the last row at most. -/
def Cursor.Within (last : Nat) (c : Cursor) : Prop := c.row + c.rest.count '\n' ≤ last

namespace Cursor.Within

variable {c : Cursor}

theorem row_le (h : c.Within last) : c.row ≤ last := Nat.le_of_add_right_le h

theorem next (h : c.Within last) : c.next.Within last := by
  unfold Within at h
  unfold Within Cursor.next
  split
  · exact h
  · next a rest remains =>
    rw [remains, List.count_cons] at h
    -- a line feed is a row more and one less to read
    by_cases feed : a = '\n'
    · simp only [feed, beq_self_eq_true, if_true] at h
      simp only [feed, if_true]
      omega
    · simp only [beq_iff_eq, if_neg feed] at h
      simp only [if_neg feed]
      exact h

theorem advance (h : c.Within last) (count : Nat) : (c.advance count).Within last := by
  induction count generalizing c with
  | zero => exact h
  | succ count ih => exact ih h.next

theorem skipBlanks (h : c.Within last) : c.skipBlanks.Within last := h.advance _

theorem comment {after : Cursor} {node : Node} (h : c.Within last)
    (found : c.comment? = some (node, after)) : node.Within last ∧ after.Within last := by
  rw [Cursor.comment?] at found
  obtain ⟨length, -, same⟩ := Option.map_eq_some_iff.1 found
  cases same
  exact ⟨.node h.skipBlanks.row_le (List.forall_mem_nil _),
    h.skipBlanks.advance length⟩

theorem takeComments (h : c.Within last) (count : Nat) :
    (∀ node ∈ (Cursor.takeComments count c).1, node.Within last) ∧
      (Cursor.takeComments count c).2.Within last := by
  induction count generalizing c with
  | zero => exact ⟨List.forall_mem_nil _, h.skipBlanks⟩
  | succ count ih =>
    rw [Cursor.takeComments]
    split
    · exact ⟨List.forall_mem_nil _, h.skipBlanks⟩
    · next node after found =>
      obtain ⟨here, behind⟩ := h.comment found
      obtain ⟨more, token⟩ := ih behind
      exact ⟨List.forall_mem_cons.2 ⟨here, more⟩, token⟩

theorem toToken (h : c.Within last) :
    (∀ node ∈ c.toToken.1, node.Within last) ∧ c.toToken.2.Within last :=
  h.takeComments _

end Cursor.Within

/-! ## Fragments -/

/-- Every node of the fragment and its first token begin on a row up to the last. -/
structure Fragment.Within (last : Nat) (f : Fragment) : Prop where
  lead : ∀ node ∈ f.lead, node.Within last
  nodes : ∀ node ∈ f.nodes, node.Within last
  span : ∀ start stop, f.span = some (start, stop) → start.row ≤ last

namespace Fragment.Within

variable {f g : Fragment}

theorem empty : Fragment.empty.Within last where
  lead := List.forall_mem_nil _
  nodes := List.forall_mem_nil _
  span _ _ spanned := nomatch spanned

theorem append (hf : f.Within last) (hg : g.Within last) : (f ++ g).Within last := by
  show (Fragment.append f g).Within last
  unfold Fragment.append
  split
  · exact hg
  · exact hf
  · next start _ _ stop first _ =>
    refine ⟨hf.lead, fun node member => ?_, fun _ _ same => ?_⟩
    · rw [List.mem_append, List.mem_append] at member
      -- the lead of the second fragment comes to stand between the nodes of both
      rcases member with (member | member) | member
      · exact hf.nodes node member
      · exact hg.lead node member
      · exact hg.nodes node member
    · cases same
      exact hf.span _ _ first

theorem token {lead : List Node} {start : Cursor} (before : ∀ node ∈ lead, node.Within last)
    (here : start.row ≤ last) (kind : Kind) (stop : Nat) :
    (Fragment.token lead kind start stop).Within last where
  lead := before
  nodes := List.forall_mem_singleton.2 (.node here (List.forall_mem_nil _))
  span _ _ same := by
    cases same
    exact here

theorem mark {place : Cursor} (here : place.row ≤ last) : (Fragment.mark [] place).Within last where
  lead := List.forall_mem_nil _
  nodes := List.forall_mem_nil _
  span _ _ same := by
    cases same
    exact here

theorem close (h : f.Within last) (kind : Kind) : (f.close kind).Within last := by
  unfold Fragment.close
  split
  · exact h
  · next start stop spanned =>
    refine ⟨h.lead, List.forall_mem_singleton.2 (.node (h.span _ _ spanned) h.nodes),
      fun _ _ same => ?_⟩
    exact h.span _ _ same

theorem withField (h : f.Within last) (field : Field) : (f.withField field).Within last where
  lead := h.lead
  nodes node member := by
    obtain ⟨inner, listed, rfl⟩ := List.mem_map.1 member
    exact (h.nodes inner listed).withField field
  span := h.span

end Fragment.Within

end ComponentAtlas.Script
