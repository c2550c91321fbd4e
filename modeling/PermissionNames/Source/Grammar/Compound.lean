import PermissionNames.Source.Grammar.Pattern
import PermissionNames.Source.Grammar.Simple

/-! Statements with blocks of their own, and whole texts. -/

namespace PermissionNames.Source

/-- Takes the block behind a colon. -/
abbrev BlockParser := Parser (List Statement)

namespace Grammar

open Source.Parser

/-- Takes a colon and the block behind it, which is not kept. -/
def suite (block : BlockParser) : Parser Unit := do
  sign ":"
  let _ ← block

/-- Takes an alternative block, if there is one. -/
def elseSuite (block : BlockParser) : Parser Unit := do
  if ← accepts (.keyword "else") then suite block

/-- Takes a condition and its block. -/
def conditionalSuite (inner : Grammar) (block : BlockParser) : Parser Unit := do
  let _ ← inner.namedExpression
  suite block

/-- Takes what follows the keyword of a conditional statement. -/
def ifStatement (inner : Grammar) (block : BlockParser) : Parser Unit := do
  inner.conditionalSuite block
  let _ ← many (do keyword "elif"; inner.conditionalSuite block) inner.limit
  elseSuite block

/-- Takes what follows the keyword of a loop with a condition. -/
def whileStatement (inner : Grammar) (block : BlockParser) : Parser Unit := do
  inner.conditionalSuite block
  elseSuite block

/-- Takes what follows the keyword of a loop over values. -/
def forStatement (inner : Grammar) (block : BlockParser) : Parser Unit := do
  let _ ← inner.starTargets
  keyword "in"
  let _ ← inner.starExpressions
  suite block
  elseSuite block

/-- Takes a resource with the target that it is assigned to; after a target, no other expression follows. -/
def withItem (inner : Grammar) : Parser Unit := do
  let _ ← inner.read .expression
  if ← accepts (.keyword "as") then
    let _ ← inner.starTarget

/-- Takes the resources of a block, with the colon behind them; parentheses may enclose all of them. -/
def withItems (inner : Grammar) : Parser Unit := do
  let enclosed : Parser Unit := do
    sign "("
    let _ ← commaList inner.withItem inner.limit
    sign ")"
    sign ":"
  let plain : Parser Unit := do
    inner.withItem
    let _ ← many (do sign ","; inner.withItem) inner.limit
    sign ":"
  enclosed <|> plain

/-- Takes what follows the keyword of a block with resources. -/
def withStatement (inner : Grammar) (block : BlockParser) : Parser Unit := do
  inner.withItems
  let _ ← block

/-- Takes a handler of exceptions; the flag asks for one of exception groups. -/
def handler (inner : Grammar) (block : BlockParser) (grouped : Bool) : Parser Unit := do
  keyword "except"
  if grouped then sign "*"
  match ← ifAny (inner.read .expression) with
  | some _ => importedAs
  | none => ensure !grouped
  suite block

/-- Takes the block that is always left through, if there is one. -/
def finallySuite (block : BlockParser) : Parser Bool := do
  if ← accepts (.keyword "finally") then
    suite block
    return true
  else return false

/-- Takes what follows the keyword of a block with handlers. -/
def tryStatement (inner : Grammar) (block : BlockParser) : Parser Unit := do
  suite block
  if ← finallySuite block then return ()
  else
    let _ ← some1 (inner.handler block false) inner.limit <|>
      some1 (inner.handler block true) inner.limit
    elseSuite block
    let _ ← finallySuite block

/-- Takes what follows the keyword of a function. -/
def functionDefinition (inner : Grammar) (block : BlockParser) : Parser Unit := do
  let _ ← identifier
  sign "("
  let _ ← inner.parameters true ")"
  if ← accepts (.sign "->") then
    let _ ← inner.read .expression
  suite block

/-- Takes what follows the keyword of a class. -/
def classDefinition (inner : Grammar) (block : BlockParser) (decorators : List Expression) :
    Parser Statement := do
  let name ← Parser.name
  let found ← if ← accepts (.sign "(") then inner.arguments else pure []
  sign ":"
  return .classDefinition decorators name (positionalArguments found) (← block)

/-- Takes decorators, each on a line of its own. -/
def decorators (inner : Grammar) : Parser (List Expression) :=
  let one : Parser Expression := do
    sign "@"
    let value ← inner.namedExpression
    expect .newline
    return value
  many one inner.limit

/-- Takes a statement that starts with decorators, a class or a function. -/
def definition (inner : Grammar) (block : BlockParser) : Parser Statement := do
  let decorators ← inner.decorators
  match ← next with
  | .keyword "class" => inner.classDefinition block decorators
  | .keyword "def" =>
    inner.functionDefinition block
    return .other
  | .keyword "async" =>
    keyword "def"
    inner.functionDefinition block
    return .other
  | _ => failure

/-- Takes a case with its block. -/
def caseBlock (inner : Grammar) (block : BlockParser) : Parser Unit := do
  word "case"
  inner.casePatterns
  if ← accepts (.keyword "if") then
    let _ ← inner.namedExpression
  suite block

/-- Takes the first line of a case distinction, which starts with no keyword and can turn out to be an expression. -/
def matchHeader (inner : Grammar) : Parser Unit := do
  word "match"
  let (found, hasComma) ← commaList inner.starNamedExpression inner.limit
  ensure (hasComma || !found.any isStarred)
  sign ":"
  expect .newline

/-- Takes the cases of a case distinction. -/
def cases (inner : Grammar) (block : BlockParser) : Parser Unit := do
  expect .indent
  let _ ← some1 (inner.caseBlock block) inner.limit
  expect .dedent

/-- Takes a statement that starts with a keyword of its own and has blocks. -/
def blockStatement (inner : Grammar) (block : BlockParser) : String → Parser Unit
  | "if" => inner.ifStatement block
  | "while" => inner.whileStatement block
  | "for" => inner.forStatement block
  | "with" => inner.withStatement block
  | "try" => inner.tryStatement block
  | "async" => do
    if ← accepts (.keyword "for") then inner.forStatement block
    else
      keyword "with"
      inner.withStatement block
  | _ => failure

/-- Keywords that statements with blocks start with. -/
def blockKeywords : List String :=
  ["if", "while", "for", "with", "try", "async"]

/-- Takes a statement or the statements of a line. -/
def statement (inner : Grammar) (block : BlockParser) : Parser (List Statement) := do
  match (← get) with
  | .sign "@" :: _ | .keyword "class" :: _ | .keyword "def" :: _
  | .keyword "async" :: .keyword "def" :: _ => return [← inner.definition block]
  | .keyword first :: _ =>
    if blockKeywords.contains first then
      let _ ← next
      inner.blockStatement block first
      return [.other]
    else inner.simpleStatements
  | _ =>
    match ← ifAny inner.matchHeader with
    | some () =>
      inner.cases block
      return [.other]
    | none => inner.simpleStatements

/-- Takes a block with at most `limit` blocks inside each other: lines of their own, or the rest of the line. -/
def blockWithin (inner : Grammar) : Nat → BlockParser
  | 0 => failure
  | limit + 1 => do
    if ← accepts .newline then
      expect .indent
      let found ← some1 (inner.statement (blockWithin inner limit)) inner.limit
      expect .dedent
      return found.flatten
    else inner.simpleStatements

/-- Takes all statements of a text. -/
def statements (inner : Grammar) : Parser (List Statement) := do
  let block := inner.blockWithin (Layout.blockLimit + 1)
  let found ← many (inner.statement block) inner.limit
  ensure (← atEnd)
  return found.flatten

/-- Takes an expression that makes up a whole text. -/
def wholeExpression (inner : Grammar) : Parser Expression := do
  let value ← asTuple <$> commaList (inner.read .expression) inner.limit
  let _ ← many (expect .newline) inner.limit
  ensure (← atEnd)
  return value

end Grammar

end PermissionNames.Source
