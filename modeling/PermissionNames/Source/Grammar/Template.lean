import PermissionNames.Source.Expression
import PermissionNames.Source.Quotation

/-! Templates: text with fields in braces, each with an expression and perhaps a format of its own. -/

namespace PermissionNames.Source.Template

/-- Fields stand in fields only this deep. -/
def fieldLimit : Nat := 2

/-- There are no more open brackets in a field than this. -/
def bracketLimit : Nat := 200

/-- Takes the text before a field, before the end of a format, or through a doubled brace, which the flag tells. -/
def takeText (raw isTop inName : Bool) : List Char → Option (List Char × Bool × List Char)
  | [] => some ([], false, [])
  | c :: rest =>
    let keep := fun (later : Option (List Char × Bool × List Char)) =>
      later.map fun (text, doubled, rest) => (c :: text, doubled, rest)
    if inName then keep (takeText raw isTop (c ≠ '}') rest)
    else if !raw && c == '\\' then
      match rest with
      | [] => some (['\\'], false, [])
      | d :: later =>
        if d = '{' ∨ d = '}' then keep (takeText raw isTop false (d :: later))
        else
          let escaped := takeText raw isTop (d == 'N' && later.head? == some '{') later
          keep (escaped.map fun (text, doubled, rest) => (d :: text, doubled, rest))
    else if c = '{' ∨ c = '}' then
      if isTop && rest.head? == some c then some ([c], true, rest.drop 1)
      else if isTop && c == '}' then none
      else some ([], false, c :: rest)
    else keep (takeText raw isTop false rest)

/-- The brackets that can be open in a field, with those that close them. -/
def bracketPairs : List (Char × Char) := [('(', ')'), ('[', ']'), ('{', '}')]

/-- Takes the expression of a field up to the sign that ends it.
Of the text, `passed` characters are taken unseen, and `quote` is the quote of an open literal with whether it is a long one. -/
def takeExpression (passed : Nat) (quote : Option (Char × Bool)) (brackets : List Char) :
    List Char → Option (List Char × List Char)
  | [] => none
  | c :: rest =>
    let keep := fun (later : Option (List Char × List Char)) =>
      later.map fun (text, rest) => (c :: text, rest)
    match passed with
    | passed + 1 => keep (takeExpression passed quote brackets rest)
    | 0 =>
      if c = '\\' then none
      else
        match quote with
        | some (mark, true) =>
          if c = mark ∧ rest.take 2 = [mark, mark] then keep (takeExpression 2 none brackets rest)
          else keep (takeExpression 0 quote brackets rest)
        | some (mark, false) =>
          keep (takeExpression 0 (if c = mark then none else quote) brackets rest)
        | none =>
          if c = '"' ∨ c = '\'' then
            if rest.take 2 = [c, c] then keep (takeExpression 2 (some (c, true)) brackets rest)
            else keep (takeExpression 0 (some (c, false)) brackets rest)
          else if (bracketPairs.lookup c).isSome then
            if brackets.length < bracketLimit then
              keep (takeExpression 0 none (c :: brackets) rest)
            else none
          else if c = '#' then none
          else if brackets = [] ∧ ['!', ':', '}', '=', '<', '>'].contains c then
            if ['!', '=', '<', '>'].contains c ∧ rest.head? = some '=' then
              keep (takeExpression 1 none brackets rest)
            else if c = '<' ∨ c = '>' then keep (takeExpression 0 none brackets rest)
            else some ([], c :: rest)
          else if bracketPairs.any (·.2 == c) then
            match brackets with
            | [] => none
            | innermost :: outer =>
              if bracketPairs.lookup innermost = some c then
                keep (takeExpression 0 none outer rest)
              else none
          else keep (takeExpression 0 none brackets rest)

/-- Blanks that an expression ignores. -/
def isIgnored (c : Char) : Bool :=
  [' ', '\t', '\n', '\x0C'].contains c

/-- Blanks that may follow the sign that shows an expression together with its value. -/
def isSpace (c : Char) : Bool :=
  [' ', '\t', '\n', '\x0B', '\x0C', '\r'].contains c

/-- Puts text in front of parts, joined with text that they start with. -/
def prepend (text : List CodePoint) : List TemplatePart → List TemplatePart
  | .text later :: rest => .text (text ++ later) :: rest
  | parts => if text = [] then parts else .text text :: parts

/-- Takes the sign after an expression that shows it together with its value. -/
def takeLabel (expression rest : List Char) : Option (List Char) × List Char :=
  match rest with
  | '=' :: later =>
    let blanks := later.takeWhile isSpace
    (some (expression ++ '=' :: blanks), later.drop blanks.length)
  | rest => (none, rest)

/-- Takes the letter that says how a value is converted to text. -/
def takeConversion : List Char → Option (Option Char × List Char)
  | '!' :: c :: rest => if ['s', 'r', 'a'].contains c then some (some c, rest) else none
  | '!' :: [] => none
  | rest => some (none, rest)

/-- Takes parts up to the end or, inside a field, up to its closing brace; `read` reads an expression. -/
def takeParts (read : List Char → Option Expression) (raw : Bool) :
    Nat → Nat → List Char → Option (List TemplatePart × List Char)
  | 0, _, _ => none
  | limit + 1, depth, text => do
    let (written, doubled, rest) ← takeText raw (depth == 0) false text
    let value ← if raw then some (written.map .character) else Escape.decodeFrom 0 written
    if doubled then
      let (parts, rest) ← takeParts read raw limit depth rest
      return (prepend value parts, rest)
    else
      match rest with
      | '{' :: inside =>
        if fieldLimit ≤ depth then none
        else
          let (expression, rest) ← takeExpression 0 none [] inside
          if expression.all isIgnored then none
          else
            let result ← read expression
            let (label, rest) := takeLabel expression rest
            let (conversion, rest) ← takeConversion rest
            let (format, rest) ← match rest with
              | ':' :: rest =>
                (takeParts read raw limit (depth + 1) rest).map fun (parts, rest) =>
                  (some parts, rest)
              | rest => some (none, rest)
            match rest with
            | '}' :: rest =>
              let shown := if label.isSome ∧ conversion = none ∧ format.isNone then some 'r'
                else conversion
              let (parts, rest) ← takeParts read raw limit depth rest
              let value := value ++ (label.getD []).map .character
              return (prepend value (.field result shown format :: parts), rest)
            | _ => none
      | rest => return (prepend value [], rest)

/-- Reads the parts of a template. -/
def parts? (read : List Char → Option Expression) (raw : Bool) (body : List Char) :
    Option (List TemplatePart) := do
  let (parts, rest) ← takeParts read raw (body.length + 1) 0 body
  if rest = [] then some parts else none

end PermissionNames.Source.Template
