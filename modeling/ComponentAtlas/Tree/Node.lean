/-! # Concrete trees

A source text read as a tree. Every node has a kind, the text it covers, the row its first
character stands on and its children in source order. Punctuation and keywords are nodes too, and
so are comments: a comment is a child of the innermost node that begins before it and ends after
it. Only the kinds that a declaration scan tells apart have a constructor of their own. -/

namespace ComponentAtlas.Tree

/-- What a node is. -/
inductive Kind where
  | program
  | comment
  | decorator
  | identifier
  | callExpression
  | memberExpression
  | parenthesizedExpression
  | classDeclaration
  | abstractClassDeclaration
  /-- A class in expression position, named or not. -/
  | classExpression
  | classBody
  | classHeritage
  | extendsClause
  | implementsClause
  | methodDefinition
  | abstractMethodSignature
  | functionDeclaration
  | generatorFunctionDeclaration
  /-- A function in expression position, named or not. -/
  | functionExpression
  | generatorFunction
  | exportStatement
  | importStatement
  | importClause
  | namespaceImport
  | namedImports
  | importSpecifier
  /-- Any other named node, with a label that says what it is. -/
  | other (label : String)
  /-- A keyword or a punctuation mark: it has no name, only its text. -/
  | token (text : String)
deriving DecidableEq, Repr

/-- Everything but keywords and punctuation counts as named. -/
def Kind.isNamed : Kind → Bool
  | .token _ => false
  | _ => true

/-- The part a child plays in its parent, where a scan asks for it. -/
inductive Field where
  | name
  | alias
  | source
  | value
  | function
  | object
  | property
deriving DecidableEq, Repr

/-- A node of a concrete tree. `row` counts line feeds before the node, from zero. -/
inductive Node where
  | node (kind : Kind) (field : Option Field) (text : String) (row : Nat) (children : List Node)
deriving Repr

namespace Node

def kind : Node → Kind
  | node k _ _ _ _ => k

def field : Node → Option Field
  | node _ f _ _ _ => f

def text : Node → String
  | node _ _ t _ _ => t

def row : Node → Nat
  | node _ _ _ r _ => r

def children : Node → List Node
  | node _ _ _ _ cs => cs

/-- The node in another part of its parent. -/
def withField (f : Field) : Node → Node
  | node k _ t r cs => node k (some f) t r cs

def isNamed (n : Node) : Bool := n.kind.isNamed

def isComment (n : Node) : Bool := n.kind == .comment

def isDecorator (n : Node) : Bool := n.kind == .decorator

def namedChildren (n : Node) : List Node := n.children.filter isNamed

/-- The children of one kind, in order. -/
def childrenOf (n : Node) (k : Kind) : List Node := n.children.filter (·.kind == k)

/-- The first child of a kind. -/
def childOf? (n : Node) (k : Kind) : Option Node := n.children.find? (·.kind == k)

/-- The first child that plays a part. -/
def child? (n : Node) (f : Field) : Option Node := n.children.find? (·.field == some f)

/-- The text of the first child that plays a part. -/
def textOf? (n : Node) (f : Field) : Option String := (n.child? f).map text

end Node

end ComponentAtlas.Tree
