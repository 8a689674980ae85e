import ComponentAtlas.Script.Operators

/-! # Statements

The rules for statements and declarations, for what a file imports and exports, and for the file
as a whole. -/

namespace ComponentAtlas.Script

open ComponentAtlas.Tree

namespace Reader

def statement : Reader Fragment := nonterminal .statement

/-- An expression that the end of a line may end. -/
def lineExpression : Reader Fragment := nonterminal (.expression { line := true })

/-- Statements in braces. A line end behind the closing brace belongs to the block, with the
comments that come before it. -/
def blockRule : Reader Fragment :=
  other "statement_block"
    [openBrace, many (choice [statement, strayInside]), closeBrace,
     optional (impliedSemicolon memberSite)]

/-- Comments between the arrows that hide a script from old pages. -/
def pageComment : Reader Fragment := lexeme (.other "html_comment") fun s =>
  if beginsWith "<!--" s || beginsWith "-->" s then
    some (s.takeWhile fun c => c != '\n' && c != '\u2028' && c != '\u2029').length
  else none

/-- Names with values, after the word that declares them. -/
def declarators (mode : Mode) : Reader Fragment :=
  separated (mark ",") (other "variable_declarator"
    [field .name (nonterminal .pattern), optional (typed (mark "!")), optional (typed annotation),
     optional (initializerIn mode)])

/-- The word that declares names, where a name or pattern does follow. -/
def declaringWord : Reader Fragment :=
  let followed (word : Reader Fragment) : Reader Fragment := do
    let word ← word
    ahead fun s => (identifierLength? s).isSome || s.head? = some '[' || s.head? = some '\x7b'
    return word
  let using' : Reader Fragment := do
    let word ← sequence [optional (keyword "await"), keyword "using"]
    sameLine
    ahead fun s => (identifierLength? s).isSome && !beginsWithWord "of" s && !beginsWithWord "in" s
    return word
  choice [keyword "const", keyword "var", followed (keyword "let"), using']

def variableDeclaration : Reader Fragment := do
  let word ← declaringWord
  let names ← declarators { line := true }
  let last ← semicolon
  let kind := if word.nodes.any (·.kind == .token "var") then "variable_declaration"
    else "lexical_declaration"
  return (word ++ names ++ last).close (.other kind)

/-- A function that is declared with its body, or announced by its signature. -/
def functionDeclaration : Reader Fragment := do
  let start ← sequence [optional (do
    let word ← keyword "async"
    sameLine
    return word), keyword "function"]
  let star ← optional (mark "*")
  let head := start ++ star ++ (← sequence [field .name identifier, signature])
  let kind : Kind :=
    if star.span.isSome then .generatorFunctionDeclaration else .functionDeclaration
  let withBody : Reader Fragment := do
    return (head ++ (← sequence [block, optional (impliedSemicolon memberSite)])).close kind
  let withoutBody : Reader Fragment := do
    return (head ++ (← semicolon { operators := false, signature := true })).close
      (.other "function_signature")
  withBody <|> typed withoutBody

def interfaceDeclaration : Reader Fragment :=
  typed (other "interface_declaration"
    [keyword "interface", field .name identifier, optional typeParameters,
     optional (sequence [keyword "extends", separated (mark ",") type]), objectType])

def typeAlias : Reader Fragment :=
  typed (other "type_alias_declaration"
    [keyword "type", field .name identifier, optional typeParameters, mark "=", type,
     semicolon memberSite])

def enumDeclaration : Reader Fragment :=
  let member := other "enum_assignment" [propertyName, optional (initializerIn {})]
  typed (other "enum_declaration"
    [optional (keyword "const"), keyword "enum", field .name identifier,
     other "enum_body" [openBrace, commaList member, closeBrace]])

/-- A named group of declarations. -/
def namespaceDeclaration : Reader Fragment :=
  let path := sequence [identifier, many (sequence [mark ".", anyWord .identifier])]
  let bodyOrEnd := block <|> semicolon memberSite
  typed (choice
    [other "internal_module" [keyword "namespace", path, bodyOrEnd],
     other "module" [keyword "module", string <|> path, bodyOrEnd]])

/-- A second name for something that another name reaches. -/
def importAlias : Reader Fragment :=
  typed (other "import_alias"
    [keyword "import", optional (do
      let word ← keyword "type"
      ahead fun s => (wordLength? s).isSome
      return word), identifier, mark "=",
     sequence [identifier, many (sequence [mark ".", anyWord .identifier])], semicolon])

/-- What a file or a block can declare, apart from what it announces only. -/
def plainDeclaration : Reader Fragment :=
  choice
    [functionDeclaration, classDeclaration, abstractClassDeclaration, interfaceDeclaration,
     enumDeclaration, typeAlias, namespaceDeclaration, importAlias, variableDeclaration]

/-- Something that is declared elsewhere. -/
def ambientDeclaration : Reader Fragment := do
  typed (other "ambient_declaration"
    [do
      let word ← keyword "declare"
      sameLine
      return word,
     choice
      [plainDeclaration,
       sequence [keyword "global", block],
       sequence [keyword "module", mark ".", anyWord .identifier, mark ":", type,
         semicolon memberSite]]])

def declaration : Reader Fragment := choice [plainDeclaration, ambientDeclaration]

/-- The text that names the file a name comes from. -/
def source : Reader Fragment := field .source string

/-- What an import says about the kind of file. -/
def importAttributes : Reader Fragment :=
  other "import_attribute" [keyword "with" <|> keyword "assert", object]

def fromSource : Reader Fragment :=
  sequence [keyword "from", source, optional importAttributes]

/-- A name that a module gives or takes: a word or a string. -/
def moduleName : Reader Fragment := anyWord .identifier <|> string

/-- One name in braces with the name it gets, and whether it is a type. -/
def specifier (kind : Kind) : Reader Fragment :=
  let renamed := sequence
    [field .name moduleName, keyword "as", field .alias moduleName]
  let plain := field .name moduleName
  let ends (r : Reader Fragment) : Reader Fragment := do
    let names ← r
    ahead fun s => s.head?.any fun c => c = ',' || c = '\x7d'
    return names
  let onlyType := typed (keyword "type" <|> keyword "typeof")
  node kind
    [choice
      [ends renamed, ends plain, ends (sequence [onlyType, renamed]),
       ends (sequence [onlyType, plain])]]

/-- The names that an import statement brings. -/
def importClause : Reader Fragment :=
  let whole := node .namespaceImport [mark "*", keyword "as", identifier]
  let named := node .namedImports
    [openBrace, commaList (specifier .importSpecifier), closeBrace]
  node .importClause
    [choice
      [whole, named,
       sequence [identifier, optional (sequence [mark ",", whole <|> named])]]]

def importStatement : Reader Fragment :=
  let onlyType : Reader Fragment := do
    let word ← typed (keyword "type" <|> keyword "typeof")
    ahead fun s =>
      s.head?.any (fun c => c = '\x7b' || c = '*') ||
        (identifierLength? s).isSome && (!beginsWithWord "from" s ||
          beginsWithWord "from" (commentless (afterWord s)))
    return word
  let required := other "import_require_clause"
    [identifier, mark "=", keyword "require", mark "(", source, mark ")"]
  node .importStatement
    [keyword "import",
     choice
      [sequence
        [optional onlyType,
         choice [sequence [importClause, fromSource], typed required]],
       sequence [source, optional importAttributes]],
     semicolon]
where
  /-- What follows the blanks. -/
  commentless (s : List Char) : List Char := s.dropWhile isSeparator

/-- What a file gives to others. -/
def exportStatement : Reader Fragment :=
  let names := other "export_clause"
    [openBrace, commaList (specifier (.other "export_specifier")), closeBrace]
  let all := sequence
    [mark "*", optional (other "namespace_export" [keyword "as", moduleName])]
  let default' := sequence
    [keyword "default",
     choice
      [functionDeclaration, classDeclaration, abstractClassDeclaration, interfaceDeclaration,
       sequence [field .value lineExpression, semicolon]]]
  let assigned := sequence [markBefore "=" ['=', '>'], lineExpression, semicolon]
  let asNamespace := sequence [keyword "as", keyword "namespace", identifier, semicolon]
  node .exportStatement
    [many decorator, keyword "export",
     choice
      [default', typed assigned, typed asNamespace,
       sequence
        [optional (typed (keyword "type")), choice [all, names], optional fromSource, semicolon],
       declaration]]

def condition : Reader Fragment := node .parenthesizedExpression [mark "(", inner, mark ")"]

def ifStatement : Reader Fragment :=
  other "if_statement"
    [keyword "if", condition, statement,
     optional (other "else_clause" [keyword "else", statement])]

def forStatement : Reader Fragment :=
  let mode : Mode := { noIn := true }
  let left := choice
    [sequence
      [declaringWord, nonterminal .pattern, optional (typed annotation),
       optional (initializerIn mode)],
     nonterminal (.operand mode)]
  let each := sequence
    [left, keyword "in" <|> keyword "of", inner]
  let start := choice
    [sequence [declaringWord, declarators mode], nonterminal (.expression mode), nothing]
  let counted := sequence
    [start, mark ";", optional inner, mark ";", optional inner]
  other "for_statement"
    [keyword "for", optional (keyword "await"), mark "(",
     choice [sequence [each, mark ")"], sequence [counted, mark ")"]], statement]

def whileStatement : Reader Fragment :=
  other "while_statement" [keyword "while", condition, statement]

def doStatement : Reader Fragment :=
  other "do_statement"
    [keyword "do", statement, keyword "while", condition, optional (semicolon memberSite)]

def switchStatement : Reader Fragment :=
  let inCase : Reader Fragment := do
    ahead fun s => !beginsWithWord "case" s &&
      !(beginsWithWord "default" s && (colonFollows s))
    choice [statement, strayInside]
  let case := other "switch_case" [keyword "case", inner, mark ":", many inCase]
  let otherwise := other "switch_default" [keyword "default", mark ":", many inCase]
  other "switch_statement"
    [keyword "switch", condition,
     other "switch_body" [openBrace, many (choice [case, otherwise]), closeBrace]]
where
  /-- A colon follows the first word. -/
  colonFollows (s : List Char) : Bool := ((afterWord s).dropWhile isSeparator).head? = some ':'

def tryStatement : Reader Fragment :=
  other "try_statement"
    [keyword "try", block,
     optional (other "catch_clause"
      [keyword "catch",
       optional (sequence [mark "(", nonterminal .pattern, optional (typed annotation), mark ")"]),
       block]),
     optional (other "finally_clause" [keyword "finally", block])]

/-- A jump, with the label it goes to. -/
def jumpStatement : Reader Fragment :=
  let label : Reader Fragment := do
    if (← semicolonIsImplied memberSite) then failure
    identifier
  other "jump_statement"
    [keyword "break" <|> keyword "continue", optional label, semicolon memberSite]

/-- A statement that hands a value out; the value may be missing. -/
def returnStatement : Reader Fragment :=
  let value : Reader Fragment := do
    if (← semicolonIsImplied memberSite) then failure
    lineExpression
  other "return_statement"
    [keyword "return" <|> keyword "throw", optional value, semicolon]

def labeledStatement : Reader Fragment :=
  other "labeled_statement" [identifier, mark ":", statement]

def expressionStatement : Reader Fragment :=
  other "expression_statement" [lineExpression, semicolon]

def statementRule : Reader Fragment :=
  let importOrCall : Reader Fragment := do
    ahead fun s =>
      !(((afterWord s).dropWhile isSeparator).head?.any fun c => c = '(' || c = '.')
    importStatement
  choice
    [block, other "empty_statement" [mark ";"], pageComment, importOrCall, exportStatement,
     declaration, ifStatement, forStatement, whileStatement, doStatement, switchStatement,
     tryStatement, jumpStatement, returnStatement,
     other "debugger_statement" [keyword "debugger", semicolon memberSite],
     other "with_statement" [keyword "with", condition, statement],
     labeledStatement, expressionStatement]

/-- The first line of a script that names its interpreter. -/
def interpreterLine : Reader Fragment := lexeme (.other "hash_bang_line") fun
  | '#' :: '!' :: rest => some (2 + (rest.takeWhile (· != '\n')).length)
  | _ => none

/-- The statements of a whole source. -/
def statements : Reader Fragment :=
  sequence [optional interpreterLine, many (choice [statement, stray])]

/-- How each nonterminal is read. -/
def rule : Nonterminal → Reader Fragment
  | .statement => statementRule
  | .block => blockRule
  | .expression mode => expressionRule mode
  | .assignment mode => assignmentRule mode
  | .operand mode => operandRule mode
  | .type => typeRule
  | .typeOperand => typeOperandRule
  | .pattern => patternRule
  | .element => elementRule

end Reader

/-- Reads a nonterminal with rules nested at most that deep. -/
def derive (l : Language) : Nat → Nonterminal → Cursor → Option (Fragment × Cursor)
  | 0, _, _ => none
  | depth + 1, n, cursor => Reader.rule n { language := l, derive := derive l depth } cursor

/-- The tree of a source text. Every text has one: what no rule explains stands in it as stray
tokens. Rules nest at most a few deep between two characters, which bounds their depth by the
length of the text. -/
def read (l : Language) (source : String) : Node :=
  let chars := source.toList
  let start := Cursor.ofList chars
  let env : Env := { language := l, derive := derive l (8 * chars.length + 8) }
  match Reader.statements env start with
  | none => .node .program none source 0 []
  | some (body, after) =>
    .node .program none source 0 (body.lead ++ body.nodes ++ after.toToken.1)

end ComponentAtlas.Script
