import ComponentAtlas.Script.Expressions

/-! # Classes

The rules for classes: what they extend and implement, and their members. In the dialects with
types a decorator of a member stands beside it in the class body; in the dialect without types it
is part of the member. -/

namespace ComponentAtlas.Script

open ComponentAtlas.Tree

namespace Reader

/-- The operand that a class extends, without the type arguments behind it. -/
def extended : Reader Fragment := nonterminal (.operand {})

/-- What a class extends and implements. -/
def heritage : Reader Fragment := do
  if (← read).language.hasTypes then
    let parent := sequence
      [field .value (choice
        [do
          let value ← extended
          ahead fun s => s.head?.any (fun c => c ∈ ['\x7b', '<', ',']) ||
            beginsWithWord "implements" s
          return value,
         innerAssignment]),
       optional callTypeArguments]
    let extending := node .extendsClause [keyword "extends", separated (mark ",") parent]
    let implementing := node .implementsClause [keyword "implements", separated (mark ",") type]
    node .classHeritage [choice [sequence [extending, optional implementing], implementing]]
  else node .classHeritage [keyword "extends", innerAssignment]

/-- The next character takes the word before it for a name and not for a modifier. -/
def endsMemberName (s : List Char) : Bool :=
  s.head?.all fun c => c ∈ ['(', '<', '=', ';', '\x7d', ':', '?', '!', ',']

/-- The words that may modify a member. -/
def modifierWords (l : Language) : List String :=
  if l.hasTypes then
    ["public", "private", "protected", "static", "override", "readonly", "abstract", "declare",
     "async", "accessor", "get", "set"]
  else ["static", "async", "get", "set"]

/-- Where a member may end, and no binary operator can follow. -/
def memberSite : SemicolonSite := { operators := false }

/-- The words `static get` with a line end behind them, which one token takes together. -/
def staticGetLength? (s : List Char) : Option Nat :=
  if beginsWithWord "static" s then
    let s := s.drop 6
    let gap := (s.takeWhile isPlainBlank).length
    let s := s.drop gap
    if "get".toList.isPrefixOf s then
      let blanks := (s.drop 3).takeWhile isPlainBlank
      let upToLineEnd := (blanks.reverse.dropWhile (· != '\n')).length
      if upToLineEnd = 0 then none else some (9 + gap + upToLineEnd)
    else none
  else none

/-- A word or star that modifies a member. A word that a line end or the rest of a member follows
is the member's name. -/
def modifier : Reader Fragment := do
  let l := (← read).language
  let word : Reader Fragment := do
    let word ← choice ((modifierWords l).map fun w => keyword w)
    if (← semicolonIsImplied memberSite) then failure
    ahead (!endsMemberName ·)
    return word
  let pair := if l.hasTypes then failure else lexeme (.token "static get") staticGetLength?
  choice [pair, word, mark "*"]

/-- A block that runs when the class is made. -/
def staticBlock : Reader Fragment :=
  other "class_static_block" [keyword "static", block]

/-- The end of a member of a class with types. -/
def memberEnd (site : SemicolonSite) : Reader Fragment :=
  choice [impliedSemicolon site, mark ";", mark ","]

/-- An access by a name that is only known by its type. -/
def indexSignature : Reader Fragment :=
  other "index_signature"
    [many modifier, mark "[", anyWord .identifier,
     choice [sequence [mark ":", type], sequence [keyword "in", type]], mark "]",
     optional annotation]

/-- A member of a class with types, after its decorators. -/
def typedMember : Reader Fragment := do
  let modifiers ← many modifier
  let isAbstract := modifiers.nodes.any (·.kind == .token "abstract")
  let name ← field .name propertyName
  let head := modifiers ++ name ++ (← optional (choice [mark "?", mark "!"]))
  let asMethod : Reader Fragment := do
    let head := head ++ (← signature)
    let withBody : Reader Fragment := do
      let method := (head ++ (← block)).close .methodDefinition
      return method ++ (← optional (semicolon memberSite))
    let withoutBody : Reader Fragment := do
      let kind := if isAbstract then .abstractMethodSignature else .other "method_signature"
      return head.close kind ++
        (← memberEnd { operators := false, signature := !isAbstract })
    withBody <|> withoutBody
  let asField : Reader Fragment := do
    let value ← sequence [optional annotation, optional (initializerIn { line := true })]
    return (head ++ value).close (.other "public_field_definition") ++ (← memberEnd memberSite)
  asMethod <|> asField

/-- A member of a class without types, its decorators included. -/
def plainMember : Reader Fragment := do
  let head ← sequence [many decorator, many modifier, field .name propertyName]
  let asMethod : Reader Fragment := do
    let method := (head ++ (← sequence [parameters, block])).close .methodDefinition
    return method ++ (← optional (mark ";"))
  let asField : Reader Fragment := do
    let value ← optional (initializerIn { line := true })
    return (head ++ value).close (.other "field_definition") ++ (← semicolon memberSite)
  asMethod <|> asField

/-- A token that no rule explains. -/
def stray : Reader Fragment := lexeme (.other "ERROR") fun s =>
  match s with
  | [] => none
  | _ => some (((wordLength? s).orElse fun _ => stringLength? s).getD 1)

/-- A token that no rule explains, unless it closes the braces around it. -/
def strayInside : Reader Fragment := do
  ahead (·.head?.any (· != '\x7d'))
  stray

def classBody : Reader Fragment := do
  let members :=
    if (← read).language.hasTypes then
      choice [mark ";", decorator, staticBlock, do
        return (← indexSignature) ++ (← memberEnd memberSite), typedMember, strayInside]
    else choice [mark ";", staticBlock, plainMember, strayInside]
  node .classBody [openBrace, many members, closeBrace]

/-- The name of a class. -/
def className : Reader Fragment := do
  let l := (← read).language
  ahead fun s => !(l.hasTypes && beginsWithWord "implements" s)
  field .name identifier

/-- A class in expression position. -/
def classExpression : Reader Fragment :=
  node .classExpression
    [many decorator, keyword "class", optional className, optional typeParameters,
     optional heritage, classBody]

/-- A declared class; its name is required. -/
def classDeclaration : Reader Fragment :=
  node .classDeclaration
    [many decorator, keyword "class", className, optional typeParameters, optional heritage,
     classBody, optional (impliedSemicolon memberSite)]

/-- A declared class whose members may lack bodies. -/
def abstractClassDeclaration : Reader Fragment :=
  typed (node .abstractClassDeclaration
    [many decorator, keyword "abstract", keyword "class", className, optional typeParameters,
     optional heritage, classBody])

/-- What `new` is applied to: an operand without calls. -/
def constructed (primary : Reader Fragment) : Reader Fragment := do
  let first ← primary
  let access (callee : Fragment) : Reader Fragment := do
    let rest ← choice
      [sequence [markBefore "." ['.'], field .property
        (choice [privateName, anyWord (.other "property_identifier")])],
       sequence [mark "[", inner, mark "]"],
       typed (markBefore "!" ['='])]
    return (callee.withField .object ++ rest).close .memberExpression
  withSuffixes access ((← get).rest.length + 1) first

/-- An operand without operators or suffixes. -/
def primary (mode : Mode) : Nat → Reader Fragment
  | 0 => failure
  | n + 1 => do
    let l := (← read).language
    let newTarget := sequence [keyword "new", mark ".", anyWord .identifier]
    let instance' := do
      let start ← keyword "new"
      let callee ← constructed (primary mode n)
      let last : Reader Fragment := do
        goesOn mode
        sequence [optional callTypeArguments, argumentList]
      return (start ++ callee ++ (← optional last)).close (.other "new_expression")
    let importWord := other "import"
      [keyword "import", optional (sequence [mark ".", anyWord .identifier])]
    let markup := if l.hasElements then nonterminal .element else failure
    choice
      [parenthesized, array, object, template "template_string" inner, string, regex, number,
       markup, privateName, newTarget, instance', functionExpression, classExpression, importWord,
       identifier]

end Reader

end ComponentAtlas.Script
