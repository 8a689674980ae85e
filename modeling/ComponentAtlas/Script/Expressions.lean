import ComponentAtlas.Script.Types

/-! # Expressions

The rules for expressions, functions and elements. A chain of binary operators is kept as one node
in the order written: no scan asks how its operands group. -/

namespace ComponentAtlas.Script

open ComponentAtlas.Tree

/-- The text begins with a mark. -/
def beginsWith (mark : String) (s : List Char) : Bool := mark.toList.isPrefixOf s

/-- Binary operators; where one lengthens another it comes first. -/
def binaryMarks : List String :=
  [">>>", "===", "!==", "**", "&&", "||", "??", "==", "!=", "<=", ">=", "<<", ">>",
   "+", "-", "*", "/", "%", "<", ">", "&", "|", "^"]

/-- Operators that assign. -/
def assignmentMarks : List String :=
  [">>>=", "**=", "&&=", "||=", "??=", "<<=", ">>=", "+=", "-=", "*=", "/=", "%=", "&=", "|=",
   "^="]

/-- The length of the binary operator that the text begins with. -/
def binaryLength? (s : List Char) : Option Nat :=
  if assignmentMarks.any (beginsWith · s) || beginsWith "=>" s || beginsWith "++" s ||
      beginsWith "--" s then none
  else (binaryMarks.find? (beginsWith · s)).map String.length

/-- The length of the assigning operator that the text begins with. -/
def assignmentLength? (s : List Char) : Option Nat :=
  match assignmentMarks.find? (beginsWith · s) with
  | some m => some m.length
  | none => if beginsWith "=" s && !beginsWith "==" s && !beginsWith "=>" s then some 1 else none

namespace Reader

/-- The operators between two operands. -/
def binaryOperator (mode : Mode) : Reader Fragment :=
  choice
    [lexeme (.token "operator") binaryLength?,
     keyword "instanceof",
     if mode.noIn then failure else keyword "in"]

/-- What may follow an operand and speaks of its type. -/
def typeTest : Reader Fragment :=
  typed (choice
    [sequence [keyword "as", type], sequence [keyword "satisfies", type]])

/-- The body of a function written with an arrow. -/
def arrowBody (mode : Mode) : Reader Fragment :=
  sequence [mark "=>", block <|> nonterminal (.assignment mode)]

/-- A function written with an arrow. -/
def arrowFunction (mode : Mode) : Reader Fragment :=
  let async : Reader Fragment := do
    let word ← keyword "async"
    sameLine
    return word
  let bare : Reader Fragment := do
    let name ← identifier
    ahead (beginsWith "=>")
    return name
  other "arrow_function"
    [choice
      [bare,
       sequence [async, bare],
       sequence
        [optional async, optional typeParameters, parameters,
         if mode.noColon then nothing else optional (typed returnType)]],
     arrowBody mode]

/-- A function in expression position. -/
def functionExpression : Reader Fragment :=
  let start := sequence [optional (keyword "async"), keyword "function"]
  let rest := sequence [optional (field .name identifier), signature, block]
  choice
    [node .generatorFunction [start, mark "*", rest],
     node .functionExpression [start, rest]]

/-- A modifier of a method written in an object. -/
def memberWord : Reader Fragment := do
  let word ← choice (["async", "get", "set", "static"].map fun w => keyword w)
  ahead fun s => !(s.head?.any fun c => c ∈ ['(', '<', ',', ':', '=', '\x7d', ';', '?', '!'])
  return word

/-- An object written out. -/
def object : Reader Fragment :=
  let spread := other "spread_element" [mark "...", innerAssignment]
  let method := node .methodDefinition
    [many memberWord, optional (mark "*"), field .name propertyName, optional (typed (mark "?")),
     signature, block]
  let pair := other "pair" [propertyName, mark ":", innerAssignment]
  let short := sequence [anyWord .identifier, optional (initializerIn {})]
  other "object" [openBrace, commaList (choice [spread, pair, method, short]), closeBrace]

/-- An array written out; places may be left empty. -/
def array : Reader Fragment :=
  let item := choice [other "spread_element" [mark "...", innerAssignment], innerAssignment]
  other "array" [mark "[", many (choice [mark ",", item]), mark "]"]

/-- An expression in parentheses, with a type where types may be written. -/
def parenthesized : Reader Fragment :=
  node .parenthesizedExpression [mark "(", inner, optional (typed annotation), mark ")"]

/-- The name of an element: words and hyphens, joined by colons or points. -/
def elementName : Reader Fragment :=
  let part := lexeme .identifier fun s =>
    match wordLength? s with
    | none => none
    | some _ => some (s.takeWhile fun c => !isWordBreak c || c = '-').length
  sequence [part, many (sequence [choice [mark ":", mark "."], part])]

/-- The text of an element up to its next tag or inserted expression. -/
def elementText : Reader Fragment := rawText (.other "jsx_text") fun s =>
  match (s.takeWhile fun c => c != '<' && c != '\x7b').length with
  | 0 => none
  | n => some n

/-- An expression put into an element. -/
def insertion : Reader Fragment :=
  let spread := other "spread_element" [mark "...", innerAssignment]
  other "jsx_expression" [openBrace, optional (spread <|> inner), closeBrace]

/-- An attribute of an element. -/
def elementAttribute : Reader Fragment :=
  let quoted := lexeme (.other "string") fun
    | c :: rest =>
      if (c = '\x22' || c = '\x27') && rest.contains c then
        some (2 + (rest.takeWhile (· != c)).length)
      else none
    | [] => none
  choice
    [insertion,
     other "jsx_attribute"
      [elementName,
       optional (sequence [mark "=", choice [quoted, insertion, nonterminal .element]])]]

/-- An element with its attributes and what is inside it. -/
def elementRule : Reader Fragment :=
  let child : Reader Fragment := choice
    [elementText, insertion, nonterminal .element]
  let closing := other "jsx_closing_element"
    [mark "<", mark "/", optional elementName, mark ">"]
  let content := sequence [mark ">", many child, closing]
  let tag := sequence [elementName, optional typeArguments, many elementAttribute]
  other "jsx_element"
    [mark "<",
     choice [content, sequence [tag, choice [sequence [mark "/", mark ">"], content]]]]

/-- What a call, an access or a template adds to an operand, and the kind of the result. -/
def callSuffix (mode : Mode) (callee : Fragment) : Reader Fragment := do
  goesOn mode
  let asNode (kind : Kind) (field : Field) (rest : Reader Fragment) : Reader Fragment :=
    return (callee.withField field ++ (← rest)).close kind
  let template := template "template_string" inner
  let propertyAfter (dot : Reader Fragment) := sequence
    [dot, field .property (choice [privateName, anyWord (.other "property_identifier")])]
  let chain := markBefore "?." ['0', '1', '2', '3', '4', '5', '6', '7', '8', '9']
  let subscript := sequence [mark "[", inner, mark "]"]
  choice
    [asNode .memberExpression .object (propertyAfter (markBefore "." ['.'])),
     asNode .callExpression .function argumentList,
     asNode (.other "subscript_expression") .object subscript,
     asNode .callExpression .function template,
     asNode .callExpression .function
      (sequence [chain, optional callTypeArguments, argumentList]),
     asNode (.other "subscript_expression") .object (sequence [chain, subscript]),
     asNode .memberExpression .object (propertyAfter chain),
     asNode .callExpression .function
      (sequence [callTypeArguments, argumentList <|> template]),
     asNode (.other "non_null_expression") .value (typed (markBefore "!" ['='])),
     asNode (.other "instantiation_expression") .function do
      let arguments ← callTypeArguments
      ahead fun s => !(wordLength? s).isSome && !(s.head?.any fun c =>
        c.isDigit || c ∈ ['(', '[', '\x7b', '\x60', '\x22', '\x27', '-', '+', '!', '~', '#'])
      return arguments]

/-- Applies suffixes to an operand as long as one follows; the first argument bounds them. -/
def withSuffixes (suffix : Fragment → Reader Fragment) : Nat → Fragment → Reader Fragment
  | 0, operand => pure operand
  | n + 1, operand => do
    match ← (some <$> suffix operand <|> pure none) with
    | none => pure operand
    | some longer => withSuffixes suffix n longer

end Reader

end ComponentAtlas.Script
