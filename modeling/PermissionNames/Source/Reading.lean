import PermissionNames.Source.Grammar.Compound
import PermissionNames.Text.Utf8

/-! Source text read as a whole: statements of a module, or a single expression. -/

namespace PermissionNames.Source

/-- Why source text cannot be read. -/
inductive ReadingError
  /-- The text holds a null character. -/
  | nullCharacter
  /-- The text breaks the rules of the language. -/
  | malformed
  deriving DecidableEq, Repr

/-- Reads all lexemes of a text by a rule for whole texts. -/
def readWhole {α : Type} (rule : Grammar → Parser α) (text : List Char) :
    Except ReadingError α :=
  if text.contains '\x00' then .error .nullCharacter
  else
    match (lexemes? text).bind fun lexemes => (rule (.ofLength text.length)).run lexemes with
    | some (value, _) => .ok value
    | none => .error .malformed

/-- Whether the last line of a text is ended by one character, so that no newline has to be added. -/
def isEnded (text : List Char) : Bool :=
  match text.reverse with
  | '\n' :: '\r' :: _ => false
  | '\n' :: _ => true
  | '\r' :: _ => true
  | _ => false

/-- The text of a module with newlines alone, and with one at its end. -/
def moduleText (text : List Char) : List Char :=
  unifyNewlines text ++ if isEnded text then [] else ['\n']

/-- The statements of a module. -/
def readModule (text : String) : Except ReadingError (List Statement) :=
  readWhole Grammar.statements (moduleText text.toList)

/-- The expression that a text consists of. -/
def readExpression (text : String) : Except ReadingError Expression :=
  readWhole Grammar.wholeExpression (unifyNewlines text.toList)

end PermissionNames.Source
