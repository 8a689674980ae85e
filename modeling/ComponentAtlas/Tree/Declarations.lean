import ComponentAtlas.Source.Declaration
import ComponentAtlas.Source.DocComment
import ComponentAtlas.Tree.Place

/-! # Declarations of a tree

Lists the classes, methods and functions of a tree in source order. A class or function in
expression position counts when it is directly exported. A method counts when it stands in a class
body and is not the constructor. -/

namespace ComponentAtlas.Tree

open ComponentAtlas.Source

/-- A piece of source text without its type arguments and the blanks around it. -/
def bareTypeName (text : String) : String :=
  let chars := (text.toList.takeWhile (· != '<')).dropWhile Charset.isBlank
  String.ofList (chars.reverse.dropWhile Charset.isBlank).reverse

namespace Place

/-- The node is itself exported. -/
def isExported (p : Place) : Bool := p.isIn .exportStatement

/-- What sort of declaration the node is, if it is one. -/
def declares? (p : Place) : Option DeclarationKind :=
  match p.node.kind with
  | .classDeclaration | .abstractClassDeclaration => some .classes
  | .classExpression => if p.isExported then some .classes else none
  | .methodDefinition | .abstractMethodSignature =>
    if p.isIn .classBody && p.node.textOf? .name != some "constructor" then some .methods else none
  | .functionDeclaration | .generatorFunctionDeclaration => some .functions
  | .functionExpression | .generatorFunction => if p.isExported then some .functions else none
  | _ => none

/-- The line of the first child that is neither a decorator nor a comment, from one. -/
def declarationLine (p : Place) : Nat :=
  ((p.node.children.find? fun c => !c.isDecorator && !c.isComment).getD p.node).row + 1

/-- The siblings among which a doc comment is looked for: those in front of the exporting
statement, or else of the node. -/
def docSiblings (p : Place) : List Node :=
  match p.parent? with
  | some q => if q.node.kind == .exportStatement then q.before else p.before
  | none => p.before

/-- The text is a doc comment. -/
def isDocText (text : String) : Bool :=
  "/**".toList.isPrefixOf (text.toList.dropWhile Charset.isBlank)

/-- The doc comment of the node: the nearest comment behind which only decorators stand. -/
def docComment? (p : Place) : Option String :=
  match p.docSiblings.dropWhile Node.isDecorator with
  | n :: _ => if n.isComment && isDocText n.text then some n.text else none
  | [] => none

def docTags (p : Place) : List String := (p.docComment?.map DocComment.tags).getD []

/-- The decorators in front of the node, in source order; comments may stand between them. -/
def precedingDecorators (p : Place) : List Node :=
  ((p.before.takeWhile fun n => n.isDecorator || n.isComment).filter Node.isDecorator).reverse

/-- The decorators that stand outside the node but belong to it. -/
def outerDecorators (p : Place) : List Node :=
  match p.parent? with
  | some q =>
    match q.node.kind with
    | .exportStatement => q.node.childrenOf .decorator
    | .classBody => p.precedingDecorators
    | _ => []
  | none => []

/-- All decorators of the node, in source order. -/
def decoratorNodes (p : Place) : List Node :=
  p.outerDecorators ++ p.node.childrenOf .decorator

end Place

namespace Node

/-- The decorator that an expression names: an identifier or a member access, called or not, in
parentheses or not. -/
def decoratorOf? : Node → Option Decorator
  | .node .identifier _ text _ _ => some { name := text }
  | .node .callExpression _ _ _ children => ofFunction children
  | .node .memberExpression f text row children => do
    let n := Node.node .memberExpression f text row children
    let object ← n.textOf? .object
    let property ← n.textOf? .property
    return { name := property, qualifier := some object }
  | .node .parenthesizedExpression _ _ _ children => ofNamed children
  | _ => none
where
  /-- The decorator that the called part names. -/
  ofFunction : List Node → Option Decorator
    | [] => none
    | c :: rest => if c.field == some .function then decoratorOf? c else ofFunction rest
  /-- The decorator that the first named part names. -/
  ofNamed : List Node → Option Decorator
    | [] => none
    | c :: rest => if c.isNamed then decoratorOf? c else ofNamed rest

/-- The decorator that a decorator node names. -/
def decorator? (n : Node) : Option Decorator := n.namedChildren.head?.bind decoratorOf?

/-- What a heritage node says is extended. Without types the extended expression stands in it
directly; the first one counts. -/
def extendedOf (found : Option String) (part : Node) : Option String :=
  match part.kind with
  | .extendsClause => (part.textOf? .value).map bareTypeName
  | .implementsClause | .comment => found
  | _ => found.orElse fun _ => some (bareTypeName part.text)

/-- What the class extends. -/
def extended? (n : Node) : Option String :=
  (n.childOf? .classHeritage).bind fun h => h.namedChildren.foldl extendedOf none

/-- What the class implements. -/
def implemented (n : Node) : List String :=
  match n.childOf? .classHeritage with
  | none => []
  | some h => (h.childrenOf .implementsClause).flatMap fun part =>
      (part.namedChildren.filter (!·.isComment)).map fun t => bareTypeName t.text

/-- What the children of the node have for their enclosing class, when the node is reached with
`next` declarations listed before it. -/
def classForChildren (p : Place) (enclosing : Option Nat) (next : Nat) : Option Nat :=
  match p.node.kind, p.declares? with
  | _, some .classes => some next
  | .classExpression, _ => none
  | _, _ => enclosing

end Node

/-- The declaration that a node is. Only methods and functions have an enclosing class; only
classes and methods have decorators; only classes have heritage. -/
def Place.declaration (p : Place) (enclosing : Option Nat) : DeclarationKind → Declaration
  | .classes =>
    { kind := .classes, name := p.node.textOf? .name, line := p.declarationLine,
      decorators := p.decoratorNodes.filterMap Node.decorator?, docTags := p.docTags,
      extended := p.node.extended?, implemented := p.node.implemented }
  | .methods =>
    { kind := .methods, name := p.node.textOf? .name, line := p.declarationLine,
      decorators := p.decoratorNodes.filterMap Node.decorator?, docTags := p.docTags, enclosing }
  | .functions =>
    { kind := .functions, name := p.node.textOf? .name, line := p.declarationLine,
      docTags := p.docTags, enclosing }

/-- The declaration of a node by itself, as a list. -/
def Place.ownDeclarations (p : Place) (enclosing : Option Nat) : List Declaration :=
  match p.declares? with
  | some kind => [p.declaration enclosing kind]
  | none => []

mutual

/-- The declarations of a node and of everything in it, when `next` declarations are listed before
and `enclosing` is the place of the class around it. -/
def declarationsAt (p : Place) (enclosing : Option Nat) (next : Nat) : Node → List Declaration
  | .node _ _ _ _ children =>
    let own := p.ownDeclarations enclosing
    own ++ declarationsIn p (Node.classForChildren p enclosing next) [] (next + own.length) children

/-- The declarations of the children that remain, behind those in `before`. -/
def declarationsIn (p : Place) (enclosing : Option Nat) (before : List Node) (next : Nat) :
    List Node → List Declaration
  | [] => []
  | c :: rest =>
    let first := declarationsAt (.child p before c) enclosing next c
    first ++ declarationsIn p enclosing (c :: before) (next + first.length) rest

end

/-- The declarations of a tree in source order. -/
def declarations (root : Node) : List Declaration := declarationsAt (.root root) none 0 root

end ComponentAtlas.Tree
