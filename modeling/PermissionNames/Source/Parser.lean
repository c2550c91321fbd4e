import PermissionNames.Source.Lexeme

/-! Readers of lexemes: they take lexemes from the front or refuse, and a refusal gives all back. -/

namespace PermissionNames.Source

/-- Takes a value from the front of lexemes, if they start with one. -/
abbrev Parser (α : Type) := StateT (List Lexeme) Option α

namespace Parser

/-- Takes any lexeme. -/
def next : Parser Lexeme := fun lexemes =>
  match lexemes with
  | [] => none
  | first :: rest => some (first, rest)

/-- Takes a lexeme, and says whether it was there. -/
def accepts (wanted : Lexeme) : Parser Bool := fun lexemes =>
  match lexemes with
  | [] => some (false, [])
  | first :: rest => if first = wanted then some (true, rest) else some (false, first :: rest)

/-- Takes a lexeme that has to be there. -/
def expect (wanted : Lexeme) : Parser Unit := fun lexemes =>
  match lexemes with
  | [] => none
  | first :: rest => if first = wanted then some ((), rest) else none

/-- Takes a sign that has to be there. -/
def sign (text : String) : Parser Unit := expect (.sign text)

/-- Takes a keyword that has to be there. -/
def keyword (word : String) : Parser Unit := expect (.keyword word)

/-- Whether a lexeme comes next. -/
def sees (wanted : Lexeme) : Parser Bool := fun lexemes =>
  some (lexemes.head? == some wanted, lexemes)

/-- Whether a name and a sign come next. -/
def seesNamed (text : String) : Parser Bool := fun lexemes =>
  match lexemes with
  | .name _ :: second :: _ => some (second == .sign text, lexemes)
  | _ => some (false, lexemes)

/-- Whether no lexeme is left. -/
def atEnd : Parser Bool := fun lexemes => some (lexemes.isEmpty, lexemes)

/-- Goes on only if a condition holds. -/
def ensure (condition : Bool) : Parser Unit :=
  if condition then pure () else failure

/-- Takes a name, in its normal form. -/
def name : Parser Identifier.Word := do
  match ← next with
  | .name spelling => return spelling.normalize
  | _ => failure

/-- Takes the text of a name, in its normal form. -/
def identifier : Parser String := do
  return (← name).text

/-- Takes a name with a given spelling, which only its place makes a keyword. -/
def word (spelling : String) : Parser Unit := do
  match ← next with
  | .name found => ensure (found.text == spelling)
  | _ => failure

/-- Takes a value, or nothing if there is none. -/
def ifAny {α : Type} (item : Parser α) : Parser (Option α) :=
  (some <$> item) <|> pure none

/-- Takes values as long as there are any, at most `limit` of them. -/
def many {α : Type} (item : Parser α) : Nat → Parser (List α)
  | 0 => pure []
  | limit + 1 => fun lexemes =>
    match item lexemes with
    | none => some ([], lexemes)
    | some (first, lexemes) => (many item limit lexemes).map fun (rest, lexemes) =>
      (first :: rest, lexemes)

/-- Takes at least one value and at most one more than `limit`. -/
def some1 {α : Type} (item : Parser α) (limit : Nat) : Parser (List α) := do
  let first ← item
  return first :: (← many item limit)

/-- Takes values between commas, and says whether there was a comma; one may stand at the end. -/
def commaList {α : Type} (item : Parser α) (limit : Nat) : Parser (List α × Bool) := do
  let first ← item
  let rest ← many (do sign ","; item) limit
  let isClosed ← accepts (.sign ",")
  return (first :: rest, isClosed || !rest.isEmpty)

/-- Takes the meaning of a sign from a list. -/
def oneOf {α : Type} (meanings : List (String × α)) : Parser α := do
  match ← next with
  | .sign text =>
    match meanings.lookup text with
    | some meaning => return meaning
    | none => failure
  | _ => failure

end Parser

end PermissionNames.Source
