import PermissionNames.Source.Grammar.Operator
import PermissionNames.Source.Statement

/-! Statements that take part of a line. -/

namespace PermissionNames.Source.Grammar

open Source.Parser

/-- Takes a value that is assigned. -/
def assignedValue (inner : Grammar) : Parser Expression := do
  if ← sees (.keyword "yield") then inner.yieldExpression else inner.starExpressions

/-- Takes further values between equality signs; all but the last are targets too. -/
def chain (inner : Grammar) (targets : List Expression) : Nat → Parser Statement
  | 0 => failure
  | limit + 1 => do
    let value ← inner.assignedValue
    if ← accepts (.sign "=") then
      ensure value.isStarTarget
      chain inner (targets ++ [value]) limit
    else return .assignment targets value

/-- Signs that combine a place with a value. -/
def combiningSigns : List String :=
  ["+=", "-=", "*=", "@=", "/=", "%=", "&=", "|=", "^=", "<<=", ">>=", "**=", "//="]

/-- Takes what follows the expression that a statement starts with. -/
def afterExpression (inner : Grammar) (first : Expression) : Parser Statement := do
  if ← accepts (.sign ":") then
    ensure first.isPlace
    let type ← inner.read .expression
    if ← accepts (.sign "=") then return .declaration first type (some (← inner.assignedValue))
    else return .declaration first type none
  else if ← accepts (.sign "=") then
    ensure first.isStarTarget
    inner.chain [first] inner.limit
  else
    match ← ifAny (oneOf (combiningSigns.map (·, ()))) with
    | some () =>
      ensure first.isPlace
      let _ ← inner.assignedValue
      return .other
    | none => return .other

/-- Takes names between commas, without one at the end. -/
def names (inner : Grammar) : Parser Unit := do
  let _ ← identifier
  let _ ← many (do sign ","; identifier) inner.limit

/-- Takes a dotted name. -/
def dottedName (inner : Grammar) : Parser Unit := do
  let _ ← identifier
  let _ ← many (do sign "."; identifier) inner.limit

/-- Takes another name for what is imported, if there is one. -/
def importedAs : Parser Unit := do
  if ← accepts (.keyword "as") then
    let _ ← identifier

/-- Takes the modules of an import. -/
def importModules (inner : Grammar) : Parser Unit := do
  let one : Parser Unit := do
    inner.dottedName
    importedAs
  one
  let _ ← many (do sign ","; one) inner.limit

/-- Takes the names that are imported from a module. -/
def importNames (inner : Grammar) : Parser Unit := do
  let one : Parser Unit := do
    let _ ← identifier
    importedAs
  if ← accepts (.sign "*") then return ()
  else if ← accepts (.sign "(") then
    let _ ← commaList one inner.limit
    sign ")"
  else
    one
    let _ ← many (do sign ","; one) inner.limit

/-- Takes the module and the names of an import from a module. -/
def importFrom (inner : Grammar) : Parser Unit := do
  let climbs ← many (sign "." <|> sign "...") inner.limit
  if climbs.isEmpty then inner.dottedName
  else
    let _ ← ifAny inner.dottedName
  keyword "import"
  inner.importNames

/-- Takes what is deleted. -/
def deletion (inner : Grammar) : Parser Unit := do
  let (found, _) ← commaList (inner.read .primary) inner.limit
  ensure (Expression.areDeletable found)

/-- Takes the exception that is raised and its cause. -/
def raised (inner : Grammar) : Parser Unit := do
  if (← ifAny (inner.read .expression)).isSome then
    if ← accepts (.keyword "from") then
      let _ ← inner.read .expression

/-- Takes a condition and its message. -/
def assertion (inner : Grammar) : Parser Unit := do
  let _ ← inner.read .expression
  if ← accepts (.sign ",") then
    let _ ← inner.read .expression

/-- Takes the rest of a statement that starts with a keyword of its own. -/
def keywordStatement (inner : Grammar) : String → Parser Unit
  | "pass" | "break" | "continue" => return ()
  | "return" => do
    let _ ← ifAny inner.starExpressions
  | "import" => inner.importModules
  | "from" => inner.importFrom
  | "raise" => inner.raised
  | "del" => inner.deletion
  | "assert" => inner.assertion
  | "global" | "nonlocal" => inner.names
  | _ => failure

/-- Keywords that statements in a line start with. -/
def statementKeywords : List String :=
  ["pass", "break", "continue", "return", "import", "from", "raise", "del", "assert", "global",
    "nonlocal"]

/-- Takes one statement of a line. -/
def simpleStatement (inner : Grammar) : Parser Statement := do
  if ← sees (.keyword "yield") then
    let _ ← inner.yieldExpression
    return .other
  else
    match (← get).head? with
    | some (.keyword word) =>
      if statementKeywords.contains word then
        let _ ← next
        inner.keywordStatement word
        return .other
      else inner.afterExpression (← inner.starExpressions)
    | _ => inner.afterExpression (← inner.starExpressions)

/-- Takes the statements of a line with its end. -/
def simpleStatements (inner : Grammar) : Parser (List Statement) := do
  let first ← inner.simpleStatement
  let rest ← many (do sign ";"; inner.simpleStatement) inner.limit
  let _ ← accepts (.sign ";")
  expect .newline
  return first :: rest

end PermissionNames.Source.Grammar
