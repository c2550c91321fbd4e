import PermissionNames.Source.Escape

/-! Quoted literals of source text: plain text, bytes, and templates with fields. -/

namespace PermissionNames.Source

/-- A quoted literal without its quotes. -/
inductive Quotation
  /-- Text; `marked` says whether it carries a small letter that asks for text. -/
  | text (value : LiteralText) (marked : Bool)
  | bytes (value : List UInt8)
  /-- A template, whose fields are read together with the expressions in them. -/
  | template (raw : Bool) (body : List Char)
  deriving DecidableEq, Repr

namespace Quotation

/-- The small forms of the letters that may stand before a quote. -/
def marks : List (List Char) :=
  ["", "b", "f", "r", "u", "br", "rb", "fr", "rf"].map String.toList

/-- The small form of a basic Latin letter. -/
def small (c : Char) : Char :=
  if 'A' ≤ c && c ≤ 'Z' then Char.ofNat (c.toNat + 32) else c

/-- Whether a word turns a quote behind it into a literal of its kind. -/
def isMark (word : List Char) : Bool :=
  marks.contains (word.map small)

/-- Takes a text up to a single closing quote, which has to stand in the same line. -/
def takeShort (quote : Char) : List Char → Option (List Char × List Char)
  | [] => none
  | '\\' :: rest =>
    match rest with
    | [] => none
    | c :: rest => (takeShort quote rest).map fun (body, rest) => ('\\' :: c :: body, rest)
  | c :: rest =>
    if c = quote then some ([], rest)
    else if c = '\n' then none
    else (takeShort quote rest).map fun (body, rest) => (c :: body, rest)

/-- Takes a text up to three closing quotes. -/
def takeLong (quote : Char) : List Char → Option (List Char × List Char)
  | [] => none
  | '\\' :: rest =>
    match rest with
    | [] => none
    | c :: rest => (takeLong quote rest).map fun (body, rest) => ('\\' :: c :: body, rest)
  | c :: rest =>
    if c = quote ∧ rest.take 2 = [quote, quote] then some ([], rest.drop 2)
    else (takeLong quote rest).map fun (body, rest) => (c :: body, rest)

/-- Takes the inside of a literal after its first quote. -/
def takeBody (quote : Char) (text : List Char) : Option (List Char × List Char) :=
  match text with
  | b :: c :: rest =>
    if b = quote ∧ c = quote then takeLong quote rest else takeShort quote text
  | _ => takeShort quote text

/-- Reads the inside of a literal under the letters before its quote. -/
def ofBody? (letters body : List Char) : Option Quotation :=
  let kinds := letters.map small
  let raw := kinds.contains 'r'
  if kinds.contains 'f' then some (template raw body)
  else if kinds.contains 'b' then
    if body.all (·.toNat < 0x80) then
      (if raw then some (Escape.toBytes (body.map .character))
        else Escape.decodeBytes body).map bytes
    else none
  else
    (if raw then some (.plain (String.ofList body)) else Escape.decode body).map fun value =>
      text value (letters == ['u'])

/-- Takes a literal after its letters and its first quote. -/
def take (letters : List Char) (quote : Char) (text : List Char) :
    Option (Quotation × List Char) := do
  let (body, rest) ← takeBody quote text
  return (← ofBody? letters body, rest)

end Quotation

end PermissionNames.Source
