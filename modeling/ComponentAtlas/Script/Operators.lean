import ComponentAtlas.Script.Classes

/-! # Operators

The rules that put operands together: operators in front of an operand and behind it, chains of
binary operators, conditions, assignments and commas. -/

namespace ComponentAtlas.Script

open ComponentAtlas.Tree

namespace Reader

/-- An operator in front of an operand. -/
def leadingOperator : Reader Fragment :=
  choice
    [mark "++", mark "--", mark "!", mark "~", mark "+", mark "-", keyword "typeof",
     keyword "void", keyword "delete", keyword "await"]

/-- An operand with the operators in front of it and behind it. -/
def operandRule (mode : Mode) : Reader Fragment := do
  let l := (← read).language
  let led := other "unary_expression" [leadingOperator, nonterminal (.operand mode)]
  let asserted :=
    if l.hasTypes && !l.hasElements then
      other "type_assertion" [typeArguments, nonterminal (.operand mode)]
    else failure
  let plain : Reader Fragment := do
    let length := (← get).rest.length + 1
    let first ← primary mode length
    let operand ← withSuffixes (callSuffix mode) length first
    let stepped : Reader Fragment := do
      goesOn mode
      sameLine
      return (operand ++ (← choice [mark "++", mark "--"])).close (.other "update_expression")
    stepped <|> pure operand
  choice [led, asserted, plain]

/-- Operands with binary operators between them. -/
def chain (mode : Mode) : Reader Fragment := do
  let operand := nonterminal (.operand mode)
  let first ← operand
  let step : Reader Fragment := do
    goesOn mode
    choice [typeTest, sequence [binaryOperator mode, operand]]
  let rest ← many step
  if rest.span.isNone then return first
  else return (first ++ rest).close (.other "binary_expression")

/-- The operand of `yield` may be missing. -/
def yieldExpression (mode : Mode) : Reader Fragment :=
  let operand : Reader Fragment := do
    goesOn mode
    ahead fun s => !(s.head?.all fun c => c ∈ [')', ']', '\x7d', ',', ';', ':', '=', '.'])
    nonterminal (.assignment mode)
  other "yield_expression"
    [keyword "yield", choice [sequence [mark "*", operand], optional operand]]

/-- What follows the test of a condition. A parameter list in the first branch takes a result type,
unless the colon of the condition would then be missing. -/
def branches (mode : Mode) : Reader Fragment :=
  let inBranch (first : Mode) : Reader Fragment := sequence
    [markBefore "?" ['.', '?'] <|> markBefore "?" ['?'],
     nonterminal (.assignment first), mark ":", nonterminal (.assignment mode)]
  choice [inBranch {}, typed (inBranch { noColon := true })]

/-- One expression without a comma at its top. -/
def assignmentRule (mode : Mode) : Reader Fragment := do
  let binary : Reader Fragment := do
    let left ← chain mode
    let condition : Reader Fragment := do
      goesOn mode
      return (left ++ (← branches mode)).close (.other "ternary_expression")
    let assigned : Reader Fragment := do
      goesOn mode
      let operator ← lexeme (.token "=") assignmentLength?
      let right ← nonterminal (.assignment mode)
      return (left ++ operator ++ right).close (.other "assignment_expression")
    choice [assigned, condition, pure left]
  choice [yieldExpression mode, arrowFunction mode, binary]

/-- Expressions joined by commas. -/
def expressionRule (mode : Mode) : Reader Fragment := do
  let first ← nonterminal (.assignment mode)
  let rest ← many (sequence [mark ",", nonterminal (.assignment mode)])
  if rest.span.isNone then return first
  else return (first ++ rest).close (.other "sequence_expression")

end Reader

end ComponentAtlas.Script
