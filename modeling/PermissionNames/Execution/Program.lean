import PermissionNames.Source.Reading

/-! Modules of one class as programs: imports, and a class of annotated values and decorated functions. -/

namespace PermissionNames.Execution

/-- What names are looked up for: one value, or one with another in brackets behind it. -/
inductive Reference
  | name (name : String)
  | index (owner argument : String)
  deriving DecidableEq, Repr

/-- A line of a function. -/
inductive Step
  /-- Gives a text back. -/
  | gives (literal : String)
  /-- Hands a text out. -/
  | handsOut (literal : String)
  | handsOutNothing
  deriving DecidableEq, Repr

/-- A decorated function with at most one parameter. -/
structure Function where
  decorator : String
  name : String
  parameter : Option String
  /-- The type of what the function gives. -/
  result : Reference
  body : List Step
  deriving DecidableEq, Repr

/-- A statement of a class body. -/
inductive Member
  /-- A name that is declared with a type and a text. -/
  | declared (name : String) (type : Reference) (literal : String)
  | function (function : Function)
  | pass
  deriving DecidableEq, Repr

/-- A name that is imported from a module. -/
structure Import where
  /-- The path of the module. -/
  origin : List String
  name : String
  deriving DecidableEq, Repr

/-- A module of one class. -/
structure Program where
  imports : List Import
  className : String
  body : List Member
  deriving DecidableEq, Repr

open Source Source.Parser

/-- Takes a text literal. -/
def literalText : Parser LiteralText := do
  match ← next with
  | .quotation (.text value _) => return value
  | _ => failure

/-- Takes the value of a text literal without surrogates. -/
def literal : Parser String := do
  match ← literalText with
  | .plain value => return value
  | .broken .. => failure

/-- Takes a name, or a name with another one in brackets behind it. -/
def reference : Parser Reference := do
  let owner ← identifier
  if ← accepts (.sign "[") then
    let argument ← identifier
    sign "]"
    return .index owner argument
  else return .name owner

/-- Takes a line of a function. -/
def step : Parser Step := do
  match ← next with
  | .keyword "return" =>
    let value ← literal
    expect .newline
    return .gives value
  | .keyword "yield" =>
    if ← accepts (.keyword "from") then
      sign "("
      sign ")"
      expect .newline
      return .handsOutNothing
    else
      let value ← literal
      expect .newline
      return .handsOut value
  | _ => failure

/-- Takes a decorated function with at most `limit` lines behind its first one. -/
def function (limit : Nat) : Parser Function := do
  sign "@"
  let decorator ← identifier
  expect .newline
  keyword "def"
  let name ← identifier
  sign "("
  let parameter ← ifAny identifier
  sign ")"
  sign "->"
  let result ← reference
  sign ":"
  expect .newline
  expect .indent
  let body ← some1 step limit
  expect .dedent
  return ⟨decorator, name, parameter, result, body⟩

/-- Takes a name that is declared with a type and a text. -/
def declared : Parser Member := do
  let name ← identifier
  sign ":"
  let type ← reference
  sign "="
  let value ← literal
  expect .newline
  return .declared name type value

/-- Takes a statement of a class body. -/
def member (limit : Nat) : Parser Member :=
  let pass : Parser Member := do
    keyword "pass"
    expect .newline
    return .pass
  -- A name, a decorator and a keyword begin different statements, so at most one of them is taken.
  declared <|> (Member.function <$> function limit) <|> pass

/-- Takes a name that is imported from a module. -/
def imported (limit : Nat) : Parser Import := do
  keyword "from"
  let first ← identifier
  let others ← many (do sign "."; identifier) limit
  keyword "import"
  let name ← identifier
  expect .newline
  return ⟨first :: others, name⟩

/-- Takes a module of one class, behind a text that tells its purpose. -/
def program (limit : Nat) : Parser Program := do
  let _ ← literalText
  expect .newline
  let imports ← many (imported limit) limit
  keyword "class"
  let className ← identifier
  sign ":"
  expect .newline
  expect .indent
  let body ← some1 (member limit) limit
  expect .dedent
  ensure (← atEnd)
  return ⟨imports, className, body⟩

/-- The program that a text is. -/
def readProgram (text : String) : Except ReadingError Program :=
  readWhole (fun grammar => program grammar.limit) (moduleText text.toList)

end PermissionNames.Execution
