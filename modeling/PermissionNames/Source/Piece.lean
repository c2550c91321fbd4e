import PermissionNames.Source.Lexeme

/-! Source text cut into pieces, before brackets and indentation are looked at. -/

namespace PermissionNames.Source

/-- The indentation of a line, with tabs counted up to multiples of eight and counted as one. -/
structure Column where
  wide : Nat := 0
  narrow : Nat := 0
  deriving DecidableEq, Repr

/-- A piece of source text. -/
inductive Piece
  | lexeme (value : Lexeme)
  | comment
  /-- The start of a line. -/
  | line (start : Column)
  deriving DecidableEq, Repr

namespace Piece

/-- The number of blanks that a wide tab reaches a multiple of. -/
def tabWidth : Nat := 8

/-- Measures the indentation at the start of a line, which may be continued by backslashes; then the first part that is not empty counts. -/
def takeColumn (column : Column) (kept : Nat) : List Char → Option (Column × List Char)
  | ' ' :: rest => takeColumn ⟨column.wide + 1, column.narrow + 1⟩ kept rest
  | '\t' :: rest =>
    takeColumn ⟨(column.wide / tabWidth + 1) * tabWidth, column.narrow + 1⟩ kept rest
  | '\x0C' :: rest => takeColumn ⟨0, 0⟩ kept rest
  | '\\' :: rest =>
    match rest with
    | '\n' :: rest =>
      if rest = [] then none
      else takeColumn column (if kept = 0 then column.wide else kept) rest
    | _ => none
  | rest => some (if kept = 0 then column else ⟨kept, kept⟩, rest)

/-- Takes the start of a line. -/
def takeLine (text : List Char) : Option (Piece × List Char) :=
  (takeColumn ⟨0, 0⟩ 0 text).map fun (column, rest) => (line column, rest)

/-- Takes a word, or the literal that it introduces. -/
def takeWord (text : List Char) : Option (Piece × List Char) := do
  let word := Identifier.Word.leading text
  let rest := text.dropWhile Identifier.continuesWord
  match rest with
  | c :: later =>
    if (c = '"' ∨ c = '\'') ∧ Quotation.isMark word.text.toList then
      let (quotation, rest) ← Quotation.take word.text.toList c later
      return (lexeme (.quotation quotation), rest)
    else return (lexeme (← Lexeme.ofWord? word), rest)
  | [] => return (lexeme (← Lexeme.ofWord? word), [])

/-- Takes a sign. -/
def takeSign (text : List Char) : Option (Piece × List Char) :=
  (Lexeme.signs.find? (·.isPrefixOf text)).map fun sign =>
    (lexeme (.sign (String.ofList sign)), text.drop sign.length)

/-- Whether a number starts with two characters. -/
def startsNumber (c : Char) (rest : List Char) : Bool :=
  Identifier.isDigit c || (c == '.' && (rest.head?.map Identifier.isDigit).getD false)

/-- Takes the next piece of a line, if it is not a blank. -/
def take (c : Char) (rest : List Char) : Option (Piece × List Char) :=
  if c = '\n' then takeLine rest
  else if c = '#' then some (comment, rest.dropWhile (· ≠ '\n'))
  else if Identifier.startsWord c then takeWord (c :: rest)
  else if startsNumber c rest then
    (Numeral.take (c :: rest)).map fun (value, rest) => (lexeme (.number value), rest)
  else if c = '"' ∨ c = '\'' then
    (Quotation.take [] c rest).map fun (value, rest) => (lexeme (.quotation value), rest)
  else takeSign (c :: rest)

/-- The pieces of a text that does not start a line, at most `limit` of them and of the blanks between them. -/
def within : Nat → List Char → Option (List Piece)
  | _, [] => some []
  | 0, _ :: _ => none
  | limit + 1, c :: rest =>
    if c = ' ' ∨ c = '\t' ∨ c = '\x0C' then within limit rest
    else if c = '\\' then
      match rest with
      | '\n' :: next :: later => within limit (next :: later)
      | _ => none
    else do
      let (piece, rest) ← take c rest
      return piece :: (← within limit rest)

/-- The pieces of a text. -/
def ofText? (text : List Char) : Option (List Piece) := do
  let (first, rest) ← takeLine text
  return first :: (← within rest.length rest)

end Piece

end PermissionNames.Source
