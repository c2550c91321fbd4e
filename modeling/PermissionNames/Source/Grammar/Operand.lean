import PermissionNames.Source.Grammar.Target
import PermissionNames.Source.Grammar.Template
import PermissionNames.Source.Layout

/-! Operands: names, constants, literals, brackets, and what may follow them. -/

namespace PermissionNames.Source.Grammar

open Source.Parser

/-- Takes a loop of a comprehension with its conditions. -/
def clause (inner : Grammar) : Parser Clause := do
  let isAsync ← accepts (.keyword "async")
  keyword "for"
  let target ← inner.starTargets
  keyword "in"
  let source ← inner.read .disjunction
  let conditions ← many (do keyword "if"; inner.read .disjunction) inner.limit
  return .loop isAsync target source conditions

/-- Takes the loops of a comprehension. -/
def clauses (inner : Grammar) : Parser (List Clause) :=
  some1 inner.clause inner.limit

/-- Whether a loop of a comprehension comes next. -/
def seesClause : Parser Bool := do
  return (← sees (.keyword "for")) || (← sees (.keyword "async"))

/-- Whether an expression is behind a star. -/
def isStarred : Expression → Bool
  | .starred _ => true
  | _ => false

/-- Takes what follows an opening parenthesis: a tuple, a generator, or an expression. -/
def parenthesized (inner : Grammar) : Parser Expression := do
  if ← accepts (.sign ")") then return .tuple []
  else if ← sees (.keyword "yield") then
    let value ← inner.yieldExpression
    sign ")"
    return value
  else
    let first ← inner.starNamedExpression
    if ← accepts (.sign ",") then
      let rest ← ifAny (commaList inner.starNamedExpression inner.limit)
      sign ")"
      return .tuple (first :: (rest.map (·.1)).getD [])
    else
      ensure !(isStarred first)
      let loops ← if ← seesClause then inner.clauses else pure []
      sign ")"
      return if loops.isEmpty then first else .comprehension .generator first loops

/-- Takes what follows an opening square bracket. -/
def bracketed (inner : Grammar) : Parser Expression := do
  if ← accepts (.sign "]") then return .list []
  else
    let first ← inner.starNamedExpression
    if ← seesClause then
      ensure !(isStarred first)
      let loops ← inner.clauses
      sign "]"
      return .comprehension .list first loops
    else
      let rest ← many (do sign ","; inner.starNamedExpression) inner.limit
      let _ ← accepts (.sign ",")
      sign "]"
      return .list (first :: rest)

/-- Takes an entry of a mapping. -/
def entry (inner : Grammar) : Parser (Option Expression × Expression) := do
  if ← accepts (.sign "**") then return (none, ← inner.read .bitOr)
  else
    let key ← inner.read .expression
    sign ":"
    return (some key, ← inner.read .expression)

/-- Takes the rest of a mapping after its first entry. -/
def moreEntries (inner : Grammar) (first : Option Expression × Expression) :
    Parser Expression := do
  let rest ← many (do sign ","; inner.entry) inner.limit
  let _ ← accepts (.sign ",")
  sign "\x7d"
  return .dictionary (first :: rest)

/-- Takes what follows an opening brace: a mapping or a set. -/
def braced (inner : Grammar) : Parser Expression := do
  if ← accepts (.sign "\x7d") then return .dictionary []
  else if ← sees (.sign "**") then inner.moreEntries (← inner.entry)
  else
    let isNamed ← seesNamed ":="
    let first ← inner.starNamedExpression
    if ← accepts (.sign ":") then
      ensure (!isNamed && !isStarred first)
      let value ← inner.read .expression
      if ← seesClause then
        let loops ← inner.clauses
        sign "\x7d"
        return .dictionaryComprehension first value loops
      else inner.moreEntries (some first, value)
    else if ← seesClause then
      ensure !(isStarred first)
      let loops ← inner.clauses
      sign "\x7d"
      return .comprehension .set first loops
    else
      let rest ← many (do sign ","; inner.starNamedExpression) inner.limit
      let _ ← accepts (.sign ",")
      sign "\x7d"
      return .set (first :: rest)

/-- Reads the expression of a field, as if it stood in parentheses. -/
def readField (inner : Grammar) (text : List Char) : Option Expression := do
  let lexemes ← lexemes? ('(' :: text ++ [')', '\n'])
  let (value, _) ← inner.starExpressions lexemes
  return value

/-- The parts of a literal among other parts. -/
def literalParts (inner : Grammar) : Quotation → Option (List TemplatePart)
  | .text value _ => some (Template.prepend value.points [])
  | .bytes _ => none
  | .template raw body => Template.parts? inner.readField raw body

/-- Whether a literal is a template. -/
def isTemplate : Quotation → Bool
  | .template .. => true
  | _ => false

/-- The texts of literals, if all are plain. -/
def plainTexts : List Quotation → Option (List LiteralText)
  | [] => some []
  | .text value _ :: rest => (plainTexts rest).map (value :: ·)
  | _ :: _ => none

/-- The bytes of literals, if all are bytes. -/
def plainBytes : List Quotation → Option (List UInt8)
  | [] => some []
  | .bytes value :: rest => (plainBytes rest).map (value ++ ·)
  | _ :: _ => none

/-- The parts of a template, in which text stands next to no other text. -/
def joinParts : List TemplatePart → List TemplatePart
  | [] => []
  | .text value :: rest => Template.prepend value (joinParts rest)
  | part :: rest => part :: joinParts rest

/-- Whether text is marked. -/
def isMarked : Quotation → Bool
  | .text _ marked => marked
  | _ => false

/-- The value of literals that follow each other. -/
def joinLiterals (inner : Grammar) (literals : List Quotation) : Option Expression :=
  if literals.any isTemplate then do
    let parts ← literals.mapM inner.literalParts
    return .template (joinParts parts.flatten)
  else
    match plainBytes literals, plainTexts literals with
    | some bytes, _ => some (.constant (.bytes bytes))
    | none, some texts =>
      some (.constant (.text (.join texts) ((literals.head?.map isMarked).getD false)))
    | none, none => none

/-- Takes a literal. -/
def quotation : Parser Quotation := do
  match ← next with
  | .quotation value => return value
  | _ => failure

/-- Takes literals that follow each other. -/
def literals (inner : Grammar) : Parser Expression := do
  let found ← some1 quotation inner.limit
  match inner.joinLiterals found with
  | some value => return value
  | none => failure

/-- Takes a name, a constant or a bracketed expression. -/
def atom (inner : Grammar) : Parser Expression := do
  if (← get).head?.any (fun | .quotation _ => true | _ => false) then inner.literals
  else
    match ← next with
    | .name spelling => return .name spelling.normalize
    | .keyword "True" => return .constant (.truth true)
    | .keyword "False" => return .constant (.truth false)
    | .keyword "None" => return .constant .nothing
    | .number value => return .constant (.number value)
    | .sign "..." => return .constant .ellipsis
    | .sign "(" => inner.parenthesized
    | .sign "[" => inner.bracketed
    | .sign "\x7b" => inner.braced
    | _ => failure

/-- Takes an index: a slice, or an expression that may be given a name. -/
def sliceOrIndex (inner : Grammar) : Parser Expression := do
  if ← seesNamed ":=" then inner.namedExpression
  else
    let lower ← ifAny (inner.read .expression)
    if ← accepts (.sign ":") then
      let upper ← ifAny (inner.read .expression)
      let step ← if ← accepts (.sign ":") then ifAny (inner.read .expression) else pure none
      return .slice lower upper step
    else
      match lower with
      | some value => return value
      | none => failure

/-- Takes an index that may be behind a star. -/
def indexItem (inner : Grammar) : Parser Expression := do
  if ← accepts (.sign "*") then return .starred (← inner.read .expression)
  else inner.sliceOrIndex

/-- Takes the inside of an index; anything behind a star makes it a tuple. -/
def index (inner : Grammar) : Parser Expression := do
  let (items, hasComma) ← commaList inner.indexItem inner.limit
  return asTuple (items, hasComma || items.any isStarred)

/-- An argument of a call. -/
inductive Argument
  | positional (value : Expression)
  | named (name : String) (value : Expression)
  | mapping (value : Expression)

/-- Takes an argument of a call. -/
def argument (inner : Grammar) : Parser Argument := do
  if ← accepts (.sign "*") then return .positional (.starred (← inner.read .expression))
  else if ← accepts (.sign "**") then return .mapping (← inner.read .expression)
  else if ← seesNamed "=" then
    let name ← identifier
    sign "="
    return .named name (← inner.read .expression)
  else return .positional (← inner.namedExpression)

/-- How far the arguments of a call have come: after a name only starred and named ones follow, and after a mapping only named ones and mappings. -/
inductive ArgumentPhase
  | positional
  | named
  | mapping
  deriving DecidableEq, Repr

/-- Whether arguments may follow each other in a phase. -/
def areOrdered : ArgumentPhase → List Argument → Bool
  | _, [] => true
  | phase, .positional value :: rest =>
    (phase == .positional || (phase == .named && isStarred value)) && areOrdered phase rest
  | phase, .named .. :: rest =>
    areOrdered (if phase = .positional then .named else phase) rest
  | _, .mapping _ :: rest => areOrdered .mapping rest

/-- The positional arguments among others. -/
def positionalArguments (arguments : List Argument) : List Expression :=
  arguments.filterMap fun
    | .positional value => some value
    | _ => none

/-- The named arguments among others. -/
def namedArguments (arguments : List Argument) : List (Option String × Expression) :=
  arguments.filterMap fun
    | .positional _ => none
    | .named name value => some (some name, value)
    | .mapping value => some (none, value)

/-- Takes more arguments and the closing parenthesis behind them. -/
def moreArguments (inner : Grammar) (first : Argument) : Parser (List Argument) := do
  let rest ← many (do sign ","; inner.argument) inner.limit
  let _ ← accepts (.sign ",")
  sign ")"
  ensure (areOrdered .positional (first :: rest))
  return first :: rest

/-- Takes arguments and the closing parenthesis behind them. -/
def arguments (inner : Grammar) : Parser (List Argument) := do
  if ← accepts (.sign ")") then return []
  else inner.moreArguments (← inner.argument)

/-- Takes what follows the opening parenthesis of a call; a single generator needs no parentheses of its own. -/
def call (inner : Grammar) (function : Expression) : Parser Expression := do
  if ← accepts (.sign ")") then return .call function [] []
  else
    let first ← inner.argument
    match first, ← seesClause with
    | .positional element, true =>
      ensure !(isStarred element)
      let loops ← inner.clauses
      sign ")"
      return .call function [.comprehension .generator element loops] []
    | first, _ =>
      let found ← inner.moreArguments first
      return .call function (positionalArguments found) (namedArguments found)

/-- Takes what may follow an operand once. -/
def trailer (inner : Grammar) (operand : Expression) : Parser Expression := do
  match ← next with
  | .sign "." => return .attribute operand (← identifier)
  | .sign "(" => inner.call operand
  | .sign "[" =>
    let value ← inner.index
    sign "]"
    return .subscript operand value
  | _ => failure

/-- Takes all that follows an operand. -/
def trailers (inner : Grammar) : Nat → Expression → Parser Expression
  | 0, operand => return operand
  | limit + 1, operand => fun lexemes =>
    match inner.trailer operand lexemes with
    | none => some (operand, lexemes)
    | some (longer, lexemes) => trailers inner limit longer lexemes

/-- Takes an operand with all that follows it. -/
def primary (inner : Grammar) : Parser Expression := do
  inner.trailers inner.limit (← inner.atom)

end PermissionNames.Source.Grammar
