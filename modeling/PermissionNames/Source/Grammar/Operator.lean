import PermissionNames.Source.Grammar.Operand
import PermissionNames.Source.Grammar.Parameters

/-! Operators by their precedence, up to whole expressions. -/

namespace PermissionNames.Source.Grammar

open Source.Parser

/-- Takes an operand and, behind operators, more of them; operators group to the left. -/
def leftGrouped (inner : Grammar) (operators : List (String × BinaryOperator))
    (operand : Parser Expression) : Parser Expression := do
  let first ← operand
  let step : Parser (BinaryOperator × Expression) := do
    let operator ← oneOf operators
    return (operator, ← operand)
  let rest ← many step inner.limit
  return rest.foldl (fun left (operator, right) => .binary operator left right) first

/-- Takes an operand or what it waits for. -/
def awaited (inner : Grammar) : Parser Expression := do
  if ← accepts (.keyword "await") then return .await (← inner.primary)
  else inner.primary

/-- Takes an operand, perhaps raised to a power. -/
def power (inner : Grammar) : Parser Expression := do
  let base ← inner.awaited
  if ← accepts (.sign "**") then return .binary .power base (← inner.read .factor)
  else return base

/-- Takes an operand with signs in front. -/
def factor (inner : Grammar) : Parser Expression := do
  if ← accepts (.sign "+") then return .unary .plus (← inner.read .factor)
  else if ← accepts (.sign "-") then return .unary .minus (← inner.read .factor)
  else if ← accepts (.sign "~") then return .unary .invert (← inner.read .factor)
  else inner.power

/-- Takes a product. -/
def product (inner : Grammar) : Parser Expression :=
  inner.leftGrouped
    [("*", .multiply), ("/", .divide), ("//", .floorDivide), ("%", .remainder),
      ("@", .matrixMultiply)]
    inner.factor

/-- Takes a sum. -/
def sum (inner : Grammar) : Parser Expression :=
  inner.leftGrouped [("+", .add), ("-", .subtract)] inner.product

/-- Takes a shift. -/
def shift (inner : Grammar) : Parser Expression :=
  inner.leftGrouped [("<<", .shiftLeft), (">>", .shiftRight)] inner.sum

/-- Takes a conjunction of bits. -/
def bitAnd (inner : Grammar) : Parser Expression :=
  inner.leftGrouped [("&", .bitAnd)] inner.shift

/-- Takes an exclusive disjunction of bits. -/
def bitXor (inner : Grammar) : Parser Expression :=
  inner.leftGrouped [("^", .bitXor)] inner.bitAnd

/-- Takes a disjunction of bits. -/
def bitOr (inner : Grammar) : Parser Expression :=
  inner.leftGrouped [("|", .bitOr)] inner.bitXor

/-- Takes a relation. -/
def relation : Parser Relation := do
  match ← next with
  | .sign "==" => return .equal
  | .sign "!=" => return .notEqual
  | .sign "<=" => return .lessOrEqual
  | .sign "<" => return .less
  | .sign ">=" => return .greaterOrEqual
  | .sign ">" => return .greater
  | .keyword "in" => return .isIn
  | .keyword "not" =>
    keyword "in"
    return .isNotIn
  | .keyword "is" => return if ← accepts (.keyword "not") then .isNotSame else .isSame
  | _ => failure

/-- Takes a chain of relations. -/
def comparison (inner : Grammar) : Parser Expression := do
  let first ← inner.bitOr
  let step : Parser (Relation × Expression) := do
    let relation ← relation
    return (relation, ← inner.bitOr)
  let rest ← many step inner.limit
  return if rest.isEmpty then first else .comparison first rest

/-- Takes a chain of relations, perhaps denied. -/
def inversion (inner : Grammar) : Parser Expression := do
  if ← accepts (.keyword "not") then return .unary .not (← inner.read .inversion)
  else inner.comparison

/-- Takes operands between a keyword. -/
def logicalChain (inner : Grammar) (operator : LogicalOperator) (word : String)
    (operand : Parser Expression) : Parser Expression := do
  let first ← operand
  let rest ← many (do keyword word; operand) inner.limit
  return if rest.isEmpty then first else .logical operator (first :: rest)

/-- Takes a conjunction. -/
def conjunction (inner : Grammar) : Parser Expression :=
  inner.logicalChain .and "and" inner.inversion

/-- Takes a disjunction. -/
def disjunction (inner : Grammar) : Parser Expression :=
  inner.logicalChain .or "or" inner.conjunction

/-- Takes a function without a name, after its keyword. -/
def lambda (inner : Grammar) : Parser Expression := do
  let parameters ← inner.parameters false ":"
  return .lambda parameters (← inner.read .expression)

/-- Takes the condition and the alternative of a conditional expression. -/
def condition (inner : Grammar) : Parser (Expression × Expression) := do
  keyword "if"
  let condition ← inner.disjunction
  keyword "else"
  return (condition, ← inner.read .expression)

/-- Takes an expression. -/
def expression (inner : Grammar) : Parser Expression := do
  if ← accepts (.keyword "lambda") then inner.lambda
  else
    let first ← inner.disjunction
    match ← ifAny inner.condition with
    | some (condition, alternative) => return .conditional condition first alternative
    | none => return first

/-- Takes an expression by a rule, with a grammar for the expressions inside. -/
def byRule (inner : Grammar) : Rule → Parser Expression
  | .expression => inner.expression
  | .disjunction => inner.disjunction
  | .inversion => inner.inversion
  | .bitOr => inner.bitOr
  | .factor => inner.factor
  | .primary => inner.primary

/-- Takes an expression by a rule, with at most `limit` expressions inside each other. -/
def readWithin : Nat → Rule → Parser Expression
  | 0, _ => failure
  | limit + 1, rule => byRule ⟨limit, readWithin limit⟩ rule

/-- The grammar of texts of a given length; the room is for expressions that start with others. -/
def ofLength (length : Nat) : Grammar :=
  ⟨length + 8, readWithin (length + 8)⟩

end PermissionNames.Source.Grammar
