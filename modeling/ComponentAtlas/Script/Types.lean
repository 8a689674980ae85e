import ComponentAtlas.Script.Lexeme

/-! # Types, patterns and signatures

The rules for types, for the patterns that bind names, and for what a function says of its
parameters and its result. -/

namespace ComponentAtlas.Script

open ComponentAtlas.Tree

namespace Reader

def type : Reader Fragment := nonterminal .type

/-- An expression that no line end and no loop header cuts short. -/
def inner : Reader Fragment := nonterminal (.expression {})

def innerAssignment : Reader Fragment := nonterminal (.assignment {})

def block : Reader Fragment := nonterminal .block

/-- A colon and a type. -/
def annotation : Reader Fragment := other "type_annotation" [mark ":", type]

/-- What a signature may promise about its argument, or else a type. -/
def promise : Reader Fragment :=
  choice
    [other "asserts"
      [keyword "asserts", anyWord .identifier, optional (sequence [keyword "is", type])],
     other "type_predicate" [anyWord .identifier, keyword "is", type],
     type]

/-- A colon and what a signature returns. -/
def returnType : Reader Fragment := other "type_annotation" [mark ":", promise]

/-- Types between angle brackets. -/
def bracketedTypes (opening : Reader Fragment) : Reader Fragment :=
  typed (other "type_arguments" [opening, separated (mark ",") type, mark ">"])

/-- The types given to a generic type. -/
def typeArguments : Reader Fragment := bracketedTypes (mark "<")

/-- The types given to a generic function or class. The bracket could also begin an operator, which
goes first. -/
def callTypeArguments : Reader Fragment := bracketedTypes (markBefore "<" ['<', '='])

/-- A word that modifies the name after it: it is itself the name when the name is missing. -/
def variance : Reader Fragment := do
  let word ← choice [keyword "const", keyword "in", keyword "out"]
  ahead fun s => (wordLength? s).isSome && !beginsWithWord "extends" s
  return word

/-- Names between angle brackets that make a declaration generic. -/
def typeParameters : Reader Fragment :=
  let parameter := other "type_parameter"
    [many variance, field .name (anyWord .identifier),
     optional (other "constraint" [keyword "extends", type]),
     optional (other "default_type" [mark "=", type])]
  typed (other "type_parameters" [mark "<", separated (mark ",") parameter, mark ">"])

/-- An equals sign and a value. -/
def initializerIn (mode : Mode) : Reader Fragment :=
  sequence [markBefore "=" ['=', '>'], field .value (nonterminal (.assignment mode))]

/-- A name in brackets that is computed. -/
def computedName : Reader Fragment :=
  other "computed_property_name" [mark "[", innerAssignment, mark "]"]

/-- The name of a property or method. -/
def propertyName : Reader Fragment :=
  choice
    [anyWord (.other "property_identifier"), privateName, string, number, computedName]

/-- The call of a decorator with its arguments, or the plain decorator. -/
def argumentList : Reader Fragment :=
  let spread := other "spread_element" [mark "...", innerAssignment]
  other "arguments" [mark "(", commaList (spread <|> innerAssignment), mark ")"]

/-- Names joined by points, as nested member accesses. -/
def memberPath : Reader Fragment := do
  let first ← anyWord .identifier
  let rec extend : Nat → Fragment → Reader Fragment
    | 0, path => pure path
    | n + 1, path => do
      match ← (some <$> sequence
          [mark ".", field .property (anyWord (.other "property_identifier"))] <|> pure none) with
      | none => pure path
      | some step => extend n ((path.withField .object ++ step).close .memberExpression)
  extend (← get).rest.length first

/-- What a decorator names, with or without arguments. -/
def decoratorTarget : Reader Fragment := do
  let path ← memberPath
  let call := sequence [optional typeArguments, argumentList]
  (do return (path.withField .function ++ (← call)).close .callExpression) <|> pure path

def decorator : Reader Fragment :=
  let grouped := node .parenthesizedExpression [mark "(", decoratorTarget, mark ")"]
  let general := node .parenthesizedExpression [mark "(", inner, mark ")"]
  node .decorator [mark "@", choice [decoratorTarget, grouped, general]]

/-- The modifiers that a parameter may have. -/
def parameterModifier : Reader Fragment := do
  let word ← choice
    (["public", "private", "protected", "readonly", "override"].map fun w => keyword w)
  ahead fun s => (wordLength? s).isSome || s.head? = some '[' || s.head? = some '\x7b'
  return word

/-- A parameter of a function. -/
def parameter : Reader Fragment :=
  other "parameter"
    [many decorator, many (typed parameterModifier), optional (mark "..."),
     nonterminal .pattern, optional (typed (mark "?")), optional (typed annotation),
     optional (initializerIn {})]

def parameters : Reader Fragment :=
  other "formal_parameters" [mark "(", commaList parameter, mark ")"]

/-- Everything of a function between its name and its body. -/
def signature : Reader Fragment :=
  sequence [optional typeParameters, parameters, optional (typed returnType)]

/-- The words that a pattern cannot bind. -/
def bindingName : Reader Fragment := lexeme .identifier fun s =>
  if beginsWithWord "this" s then some 4 else identifierLength? s

/-- A pattern that binds names, or a place that an assignment can fill. -/
def patternRule : Reader Fragment :=
  let pattern := nonterminal .pattern
  let withDefault := sequence [pattern, optional (initializerIn {})]
  let rest := other "rest_pattern" [mark "...", pattern]
  let pair := other "pair_pattern" [propertyName, mark ":", withDefault]
  let short := sequence [bindingName, optional (initializerIn {})]
  let object := other "object_pattern"
    [openBrace, commaList (choice [rest, pair, short]), closeBrace]
  let holes := many (mark ",")
  let array := other "array_pattern"
    [mark "[", holes, many (sequence [choice [rest, withDefault], holes]), mark "]"]
  choice [object, array, bindingName]

/-- The name of a type, with what it is applied to. -/
def namedType : Reader Fragment :=
  other "type_name"
    [anyWord .identifier, many (sequence [mark ".", anyWord .identifier]), optional typeArguments]

/-- A word in front of a type, when a type does follow. -/
def typeWord (w : String) : Reader Fragment := do
  let word ← keyword w
  ahead fun s =>
    (wordLength? s).isSome && !beginsWithWord "extends" s && !beginsWithWord "is" s ||
      s.head?.any fun c => c.isDigit || c ∈ ['(', '[', '\x7b', '\x60', '\x22', '\x27', '-']
  return word

/-- A plus or minus before an optional modifier of a mapped type. -/
def sign : Reader Fragment := choice [mark "+", mark "-"]

/-- A member of an object type. -/
def typeMember : Reader Fragment :=
  let call := other "call_signature" [signature]
  let construct := other "construct_signature"
    [optional (keyword "abstract"), keyword "new", signature]
  let modifier : Reader Fragment := do
    let word ← choice
      (["readonly", "get", "set", "static", "public", "private", "protected"].map
        fun w => keyword w)
    ahead fun s => (wordLength? s).isSome ||
      s.head?.any fun c => c.isDigit || c ∈ ['[', '#', '\x22', '\x27']
    return word
  let readonly := sequence [optional sign, keyword "readonly"]
  let optionality := sequence [optional sign, mark "?"]
  let indexed := other "index_signature"
    [optional readonly, mark "[", anyWord .identifier,
     choice
      [sequence [mark ":", type],
       sequence [keyword "in", type, optional (sequence [keyword "as", type])]],
     mark "]", optional optionality, optional annotation]
  let method := other "method_signature"
    [many modifier, propertyName, optional (mark "?"), signature]
  let property := other "property_signature"
    [many modifier, propertyName, optional (mark "?"), optional annotation]
  choice [construct, indexed, method, call, property]

/-- A type in braces. -/
def objectType : Reader Fragment :=
  other "object_type"
    [openBrace, many (choice [mark ",", mark ";", typeMember]), closeBrace]

/-- A member of a tuple type. -/
def tupleMember : Reader Fragment :=
  choice
    [other "tuple_parameter" [optional (mark "..."), anyWord .identifier, optional (mark "?"),
      mark ":", type],
     other "rest_type" [mark "...", type],
     sequence [type, optional (mark "?")]]

/-- A type without operators. -/
def primaryType : Reader Fragment :=
  let query := other "type_query"
    [keyword "typeof",
     choice
      [other "import_type" [keyword "import", mark "(", type, mark ")"], anyWord .identifier],
     many (sequence [mark ".", choice [privateName, anyWord (.other "property_identifier")]]),
     optional typeArguments]
  let imported := other "import_type"
    [keyword "import", mark "(", type, mark ")", many (sequence [mark ".", anyWord .identifier]),
     optional typeArguments]
  choice
    [other "parenthesized_type" [mark "(", type, mark ")"],
     other "tuple_type" [mark "[", commaList tupleMember, mark "]"],
     objectType, string, number,
     other "unary_expression" [mark "-", number],
     template "template_literal_type" type,
     query, imported, namedType, mark "*"]

/-- The next token stands on the same line as the last one. -/
def sameLine : Reader Unit := do
  let cursor ← get
  if ((cursor.rest.takeWhile isSeparator).contains '\n') then failure

/-- A type and the operators in front of it or behind it. -/
def typeOperandRule : Reader Fragment :=
  let operand := nonterminal .typeOperand
  let inferred := other "infer_type"
    [keyword "infer", anyWord .identifier,
     optional (sequence [keyword "extends", operand, do
       ahead (·.head? != some '?')
       nothing])]
  let operators := choice (["keyof", "unique", "readonly"].map fun w =>
    other "type_operator" [typeWord w, operand])
  let index := sequence [do
    sameLine
    mark "[", optional type, mark "]"]
  choice [inferred, operators, sequence [primaryType, many index]]

/-- A type. -/
def typeRule : Reader Fragment :=
  let operand := nonterminal .typeOperand
  let function := other "function_type"
    [optional typeParameters, parameters, mark "=>", promise]
  let constructor := other "constructor_type"
    [optional (keyword "abstract"), keyword "new", optional typeParameters, parameters,
     mark "=>", type]
  let joiner := choice [markBefore "|" ['|'], markBefore "&" ['&']]
  let joined := sequence
    [optional joiner, operand, many (sequence [joiner, choice [function, operand]])]
  let branches := sequence [keyword "extends", type, mark "?", type, mark ":", type]
  let union : Reader Fragment := do
    let first ← joined
    (do return (first ++ (← branches)).close (.other "conditional_type")) <|> pure first
  choice [function, constructor, union]

end Reader

end ComponentAtlas.Script
