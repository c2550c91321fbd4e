import PermissionNames.Source.Expression
import PermissionNames.Source.Parser

/-! The rules that expressions inside expressions are read by. -/

namespace PermissionNames.Source

/-- The rules of expressions that other rules come back to. -/
inductive Rule
  | expression
  | disjunction
  | inversion
  | bitOr
  | factor
  | primary
  deriving DecidableEq, Repr

/-- What a rule may use for the expressions inside its own. -/
structure Grammar where
  /-- There are no more lexemes than this. -/
  limit : Nat
  /-- Takes an expression by a rule. -/
  read : Rule → Parser Expression

namespace Grammar

open Source.Parser

/-- Takes an expression or one behind a star. -/
def starExpression (inner : Grammar) : Parser Expression := do
  if ← accepts (.sign "*") then return .starred (← inner.read .bitOr)
  else inner.read .expression

/-- One element without a comma stands for itself, all else is a tuple. -/
def asTuple : List Expression × Bool → Expression
  | ([single], false) => single
  | (elements, _) => .tuple elements

/-- Takes expressions between commas, each of which may be behind a star. -/
def starExpressions (inner : Grammar) : Parser Expression :=
  asTuple <$> commaList inner.starExpression inner.limit

/-- Takes an expression that may be given a name. -/
def namedExpression (inner : Grammar) : Parser Expression := do
  if ← seesNamed ":=" then
    let target ← identifier
    sign ":="
    return .assignment target (← inner.read .expression)
  else inner.read .expression

/-- Takes an expression that may be given a name or be behind a star. -/
def starNamedExpression (inner : Grammar) : Parser Expression := do
  if ← accepts (.sign "*") then return .starred (← inner.read .bitOr)
  else inner.namedExpression

/-- Takes a value that is handed out. -/
def yieldExpression (inner : Grammar) : Parser Expression := do
  keyword "yield"
  if ← accepts (.keyword "from") then return .yieldFrom (← inner.read .expression)
  else return .yield (← ifAny inner.starExpressions)

end Grammar

end PermissionNames.Source
