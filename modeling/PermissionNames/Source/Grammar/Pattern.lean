import PermissionNames.Source.Grammar.Operator

/-! Patterns of case distinctions, which are recognized and not kept. -/

namespace PermissionNames.Source.Grammar

open Source.Parser

/-- Takes a name that a pattern gives to what it matches. -/
def captureName : Parser Unit := do
  match ← next with
  | .name spelling => ensure (spelling.text != "_")
  | _ => failure

/-- Takes the name or the placeholder behind a star. -/
def starName : Parser Unit := do
  let _ ← identifier

/-- Takes further components of a dotted name. -/
def dotted (inner : Grammar) : Parser (List String) :=
  many (do sign "."; identifier) inner.limit

/-- Takes the number of a pattern; an imaginary one only where it is asked for. -/
def patternNumber (imaginary : Bool) : Parser Unit := do
  match ← next with
  | .number (.imaginary ..) => ensure imaginary
  | .number _ => ensure !imaginary
  | _ => failure

/-- Takes a number with a sign, or a sum of a real and an imaginary one. -/
def complexNumber : Parser Unit := do
  let _ ← accepts (.sign "-")
  match ← next with
  | .number (.imaginary ..) => return ()
  | .number _ =>
    if (← accepts (.sign "+")) || (← accepts (.sign "-")) then patternNumber true
  | _ => failure

/-- Takes a literal of a pattern. -/
def literalPattern (inner : Grammar) : Parser Unit := do
  let constant : Parser Unit := do
    match ← next with
    | .keyword "None" => return ()
    | .keyword "True" => return ()
    | .keyword "False" => return ()
    | _ => failure
  let text : Parser Unit := do
    let _ ← inner.literals
  constant <|> complexNumber <|> text

/-- Takes a key of a mapping pattern. -/
def patternKey (inner : Grammar) : Parser Unit := do
  let constant : Parser Unit := do
    let _ ← identifier
    let rest ← inner.dotted
    ensure !rest.isEmpty
  inner.literalPattern <|> constant

/-- Takes the arguments of a class pattern up to its closing parenthesis; after a named one all are named. -/
def classArguments (inner : Grammar) (pattern : Parser Unit) : Parser Unit := do
  if ← accepts (.sign ")") then return ()
  else
    let argument : Parser Bool := do
      if ← seesNamed "=" then
        let _ ← identifier
        sign "="
        pattern
        return true
      else
        pattern
        return false
    let (found, _) ← commaList argument inner.limit
    ensure ((found.dropWhile (· == false)).all (· == true))
    sign ")"

/-- Takes an entry of a mapping pattern, and says whether it takes all other entries. -/
def mappingEntry (inner : Grammar) (pattern : Parser Unit) : Parser Bool := do
  if ← accepts (.sign "**") then
    captureName
    return true
  else
    inner.patternKey
    sign ":"
    pattern
    return false

/-- Takes the entries of a mapping pattern up to its closing brace. -/
def mappingEntries (inner : Grammar) (pattern : Parser Unit) : Parser Unit := do
  if ← accepts (.sign "\x7d") then return ()
  else
    let (found, _) ← commaList (inner.mappingEntry pattern) inner.limit
    ensure (found.dropLast.all (· == false))
    sign "\x7d"

/-- Takes a pattern that may be behind a star, and says whether it is. -/
def starPattern (pattern : Parser Unit) : Parser Bool := do
  if ← accepts (.sign "*") then
    starName
    return true
  else
    pattern
    return false

/-- Takes a pattern that starts with a name; the placeholder stands by itself. -/
def namePattern (inner : Grammar) (pattern : Parser Unit) : Parser Unit := do
  match ← next with
  | .name spelling =>
    if spelling.text = "_" then return ()
    else
      let _ ← inner.dotted
      if ← accepts (.sign "(") then inner.classArguments pattern
  | _ => failure

/-- Takes a pattern in parentheses, or a sequence. -/
def groupPattern (inner : Grammar) (pattern : Parser Unit) : Parser Unit := do
  if ← accepts (.sign ")") then return ()
  else
    let (found, hasComma) ← commaList (starPattern pattern) inner.limit
    ensure (hasComma || found == [false])
    sign ")"

/-- Takes a sequence in square brackets. -/
def listPattern (inner : Grammar) (pattern : Parser Unit) : Parser Unit := do
  if ← accepts (.sign "]") then return ()
  else
    let _ ← commaList (starPattern pattern) inner.limit
    sign "]"

/-- Takes a pattern without alternatives, with `pattern` for the patterns inside. -/
def closedPattern (inner : Grammar) (pattern : Parser Unit) : Parser Unit := do
  if ← accepts (.sign "(") then inner.groupPattern pattern
  else if ← accepts (.sign "[") then inner.listPattern pattern
  else if ← accepts (.sign "\x7b") then inner.mappingEntries pattern
  else inner.literalPattern <|> inner.namePattern pattern

/-- Takes a pattern with at most `limit` patterns inside each other. -/
def patternWithin (inner : Grammar) : Nat → Parser Unit
  | 0 => failure
  | limit + 1 => do
    let part := inner.closedPattern (patternWithin inner limit)
    part
    let _ ← many (do sign "|"; part) inner.limit
    if ← accepts (.keyword "as") then captureName

/-- Takes the patterns of a case. -/
def casePatterns (inner : Grammar) : Parser Unit := do
  let (found, hasComma) ← commaList (starPattern (inner.patternWithin inner.limit)) inner.limit
  ensure (hasComma || found == [false])

end PermissionNames.Source.Grammar
