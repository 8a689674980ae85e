import ComponentAtlas.Tree.Node

/-! # Places in a tree

A place is a node together with the way to it from the root: its parent and the siblings in front
of it, nearest first. -/

namespace ComponentAtlas.Tree

inductive Place where
  | root (node : Node)
  | child (parent : Place) (before : List Node) (node : Node)

namespace Place

def node : Place → Node
  | root n => n
  | child _ _ n => n

def parent? : Place → Option Place
  | root _ => none
  | child p _ _ => some p

/-- The siblings in front of the node, nearest first. -/
def before : Place → List Node
  | root _ => []
  | child _ b _ => b

/-- The node stands in a node of that kind. -/
def isIn (p : Place) (k : Kind) : Bool := p.parent?.any (·.node.kind == k)

end Place

end ComponentAtlas.Tree
