import PermissionNames.Source.Numeral
import PermissionNames.Text.CodePoint
import PermissionNames.Text.Identifier.Word

/-! Expressions of source text, as far as their parts can be told apart again. -/

namespace PermissionNames.Source

/-- A value that is written out. -/
inductive Constant
  | nothing
  | truth (value : Bool)
  | ellipsis
  | number (value : Numeral)
  /-- Text; `marked` says whether a letter in front asks for text. -/
  | text (value : LiteralText) (marked : Bool)
  | bytes (value : List UInt8)
  deriving DecidableEq, Repr

/-- An operator in front of its operand. -/
inductive UnaryOperator
  | not
  | plus
  | minus
  | invert
  deriving DecidableEq, Repr

/-- An operator between two operands. -/
inductive BinaryOperator
  | bitOr
  | bitXor
  | bitAnd
  | shiftLeft
  | shiftRight
  | add
  | subtract
  | multiply
  | divide
  | floorDivide
  | remainder
  | matrixMultiply
  | power
  deriving DecidableEq, Repr

/-- An operator that decides whether its later operands are looked at. -/
inductive LogicalOperator
  | and
  | or
  deriving DecidableEq, Repr

/-- A relation between neighbours of a chain. -/
inductive Relation
  | equal
  | notEqual
  | less
  | lessOrEqual
  | greater
  | greaterOrEqual
  | isSame
  | isNotSame
  | isIn
  | isNotIn
  deriving DecidableEq, Repr

/-- The brackets of a comprehension, which say what it builds. -/
inductive ComprehensionKind
  | generator
  | list
  | set
  deriving DecidableEq, Repr

mutual

/-- An expression. -/
inductive Expression
  | name (identifier : Identifier.Word)
  | constant (value : Constant)
  | attribute (owner : Expression) (name : String)
  | subscript (owner index : Expression)
  /-- A call; an argument without a name is a mapping of names. -/
  | call (function : Expression) (arguments : List Expression)
      (named : List (Option String × Expression))
  | unary (operator : UnaryOperator) (operand : Expression)
  | binary (operator : BinaryOperator) (left right : Expression)
  | logical (operator : LogicalOperator) (operands : List Expression)
  | comparison (first : Expression) (others : List (Relation × Expression))
  | conditional (condition consequence alternative : Expression)
  | lambda (parameters : List Parameter) (body : Expression)
  | tuple (elements : List Expression)
  | list (elements : List Expression)
  | set (elements : List Expression)
  /-- A mapping; an entry without a key is a mapping that is merged. -/
  | dictionary (entries : List (Option Expression × Expression))
  | comprehension (kind : ComprehensionKind) (element : Expression) (clauses : List Clause)
  | dictionaryComprehension (key value : Expression) (clauses : List Clause)
  | starred (value : Expression)
  | assignment (target : String) (value : Expression)
  | slice (lower upper step : Option Expression)
  | await (value : Expression)
  | yield (value : Option Expression)
  | yieldFrom (value : Expression)
  | template (parts : List TemplatePart)

/-- A parameter of a function, or a mark between parameters. -/
inductive Parameter
  | plain (name : String) (fallback : Option Expression)
  /-- Parameters before this are given by position only. -/
  | positionalEnd
  /-- Parameters after this are given by name only. -/
  | namedStart
  | rest (name : String)
  | namedRest (name : String)

/-- A loop of a comprehension with its conditions. -/
inductive Clause
  | loop (isAsync : Bool) (target source : Expression) (conditions : List Expression)

/-- A part of a template. -/
inductive TemplatePart
  | text (value : List CodePoint)
  | field (value : Expression) (conversion : Option Char) (format : Option (List TemplatePart))

end

namespace Expression

/-- The last component of a name or of an attribute. -/
def lastName? : Expression → Option String
  | .name identifier => some identifier.text
  | .attribute _ last => some last
  | _ => none

/-- The value of a text constant. -/
def text? : Expression → Option LiteralText
  | .constant (.text value _) => some value
  | _ => none

end Expression

end PermissionNames.Source
