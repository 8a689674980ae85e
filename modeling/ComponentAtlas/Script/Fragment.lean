import ComponentAtlas.Script.Cursor

/-! # Fragments

A fragment is a run of finished nodes together with the comments in front of it. Joining two
fragments puts the comments of the second between their nodes; closing a fragment into one node
leaves the comments in front outside. So a comment ends up in the innermost node that has tokens
on both sides of it. -/

namespace ComponentAtlas.Script

open ComponentAtlas.Tree

/-- A run of nodes. `span` is where its first token begins and the offset where its last token
ends; it is absent when the run holds no token. -/
structure Fragment where
  lead : List Node := []
  nodes : List Node := []
  span : Option (Cursor × Nat) := none
deriving Repr

namespace Fragment

def empty : Fragment := {}

/-- One run after another. -/
def append (a b : Fragment) : Fragment :=
  match a.span, b.span with
  | none, _ => b
  | _, none => a
  | some (start, _), some (_, stop) =>
    { lead := a.lead, nodes := a.nodes ++ b.lead ++ b.nodes, span := some (start, stop) }

instance : Append Fragment := ⟨append⟩

/-- A single token. -/
def token (lead : List Node) (kind : Kind) (start : Cursor) (stop : Nat) : Fragment :=
  { lead, nodes := [.node kind none (start.textTo stop) start.row []], span := some (start, stop) }

/-- A token without text behind some comments. -/
def mark (lead : List Node) (place : Cursor) : Fragment :=
  { lead, span := some (place, place.offset) }

/-- Closes the run into one node. -/
def close (kind : Kind) (f : Fragment) : Fragment :=
  match f.span with
  | none => f
  | some (start, stop) =>
    { f with nodes := [.node kind none (start.textTo stop) start.row f.nodes] }

/-- Gives the nodes of the run their part in the node that will hold them. -/
def withField (field : Field) (f : Fragment) : Fragment :=
  { f with nodes := f.nodes.map (·.withField field) }

end Fragment

end ComponentAtlas.Script
