import ComponentAtlas.Tree.Declarations

/-! # Lines of declarations

A declaration stands on a line of its file: lines count from one, and the last is one more than the
last row of the tree. -/

namespace ComponentAtlas.Tree

open ComponentAtlas.Source

/-- The node and everything in it begins on a row up to the last. -/
inductive Node.Within (last : Nat) : Node → Prop where
  | node {kind : Kind} {field : Option Field} {text : String} {row : Nat} {children : List Node}
      (here : row ≤ last) (each : ∀ c ∈ children, Within last c) :
      Within last (.node kind field text row children)

variable {last : Nat}

theorem Node.Within.row_le {node : Node} (h : node.Within last) : node.row ≤ last := by
  cases h with
  | node here _ => exact here

theorem Node.Within.children {node : Node} (h : node.Within last) :
    ∀ c ∈ node.children, c.Within last := by
  cases h with
  | node _ each => exact each

theorem Node.Within.withField {node : Node} (h : node.Within last) (field : Field) :
    (node.withField field).Within last := by
  cases h with
  | node here each => exact .node here each

/-- The declaration stands on a line, and that is at most the one behind the last row. -/
def HasLine (last : Nat) (d : Declaration) : Prop := 1 ≤ d.line ∧ d.line ≤ last + 1

theorem declarationLine_le {p : Place} (h : p.node.Within last) : p.declarationLine ≤ last + 1 := by
  rw [Place.declarationLine]
  -- the line is that of the first child behind decorators and comments, if there is one
  cases found : p.node.children.find? fun c => !c.isDecorator && !c.isComment with
  | none => exact Nat.succ_le_succ h.row_le
  | some c => exact Nat.succ_le_succ (h.children c (List.mem_of_find?_eq_some found)).row_le

theorem declaration_line (p : Place) (enclosing : Option Nat) (kind : DeclarationKind) :
    (p.declaration enclosing kind).line = p.declarationLine := by
  cases kind <;> rfl

theorem ownDeclarations_hasLine {p : Place} {enclosing : Option Nat} (h : p.node.Within last) :
    ∀ d ∈ p.ownDeclarations enclosing, HasLine last d := by
  intro d member
  rw [Place.ownDeclarations] at member
  split at member
  · rw [List.mem_singleton] at member
    subst member
    rw [HasLine, declaration_line]
    exact ⟨Nat.le_add_left 1 _, declarationLine_le h⟩
  · cases member

mutual

theorem declarationsAt_hasLine {p : Place} {enclosing : Option Nat} {next : Nat} {node : Node}
    (place : p.node.Within last) (h : node.Within last) :
    ∀ d ∈ declarationsAt p enclosing next node, HasLine last d := by
  cases node with
  | node kind field text row children =>
    intro d member
    rw [declarationsAt] at member
    rcases List.mem_append.1 member with own | inside
    · exact ownDeclarations_hasLine place d own
    · exact declarationsIn_hasLine h.children d inside

theorem declarationsIn_hasLine {p : Place} {enclosing : Option Nat} {before : List Node}
    {next : Nat} {children : List Node} (h : ∀ c ∈ children, c.Within last) :
    ∀ d ∈ declarationsIn p enclosing before next children, HasLine last d := by
  cases children with
  | nil =>
    intro d member
    cases member
  | cons c rest =>
    intro d member
    rw [List.forall_mem_cons] at h
    rw [declarationsIn] at member
    rcases List.mem_append.1 member with first | others
    · exact declarationsAt_hasLine (p := .child p before c) h.1 h.1 d first
    · exact declarationsIn_hasLine h.2 d others

end

/-- Every declaration of a tree stands on a line of it. -/
theorem declarations_hasLine {root : Node} (h : root.Within last) :
    ∀ d ∈ declarations root, HasLine last d :=
  declarationsAt_hasLine h h

end ComponentAtlas.Tree
