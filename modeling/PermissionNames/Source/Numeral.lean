import PermissionNames.Text.Hexadecimal
import PermissionNames.Text.Identifier

/-! Numbers as they are written in source text. -/

namespace PermissionNames.Source

/-- The value of a number, where a decimal is a coefficient times a power of ten. -/
inductive Numeral
  | integer (value : Nat)
  | decimal (coefficient : Nat) (exponent : Int)
  /-- A decimal multiple of the imaginary unit. -/
  | imaginary (coefficient : Nat) (exponent : Int)
  deriving DecidableEq, Repr

namespace Numeral

/-- A decimal integer may not have more digits than this. -/
def longestInteger : Nat := 4300

/-- The value of a digit in a base up to sixteen. -/
def digitValue? (base : Nat) (c : Char) : Option Nat :=
  (hexValue? c).filter (· < base)

/-- The number that digits write in a base. -/
def valueIn (base : Nat) (digits : List Char) : Nat :=
  digits.foldl (fun value c => value * base + (digitValue? base c).getD 0) 0

/-- Takes the digits at the start of a text; an underscore has to stand before a digit and is dropped. -/
def takeDigits (base : Nat) : List Char → Option (List Char × List Char)
  | [] => some ([], [])
  | '_' :: rest =>
    match rest with
    | [] => none
    | c :: rest =>
      if (digitValue? base c).isSome then
        (takeDigits base rest).map fun (digits, rest) => (c :: digits, rest)
      else none
  | c :: rest =>
    if (digitValue? base c).isSome then
      (takeDigits base rest).map fun (digits, rest) => (c :: digits, rest)
    else some ([], c :: rest)

/-- Words that may follow a number without a gap. -/
def followers : List (List Char) :=
  ["and", "else", "for", "if", "in", "is", "not", "or"].map String.toList

/-- Whether a number may end before a text. -/
def endsBefore (text : List Char) : Bool :=
  match text with
  | [] => true
  | c :: _ => !Identifier.continuesWord c || followers.any (·.isPrefixOf text)

/-- Keeps a value whose number may end before the rest. -/
def closed {α : Type} (value : α) (rest : List Char) : Option (α × List Char) :=
  if endsBefore rest then some (value, rest) else none

/-- Takes a number in a base with a mark of its own; it has at least one digit. -/
def takeBased (base : Nat) (text : List Char) : Option (Numeral × List Char) := do
  let (digits, rest) ← takeDigits base text
  if digits = [] then none else closed (integer (valueIn base digits)) rest

/-- Takes digits unless the text starts with none, not even behind an underscore. -/
def takeFraction (text : List Char) : Option (List Char × List Char) :=
  match text with
  | c :: _ => if Identifier.isDigit c then takeDigits 10 text else some ([], text)
  | [] => some ([], [])

/-- Takes an exponent after its letter, or nothing if no digit and no sign follows. -/
def takeExponent (text : List Char) : Option (Option Int × List Char) :=
  match text with
  | letter :: rest =>
    if letter = 'e' ∨ letter = 'E' then
      match rest with
      | [] => some (none, text)
      | c :: later =>
        if c = '+' ∨ c = '-' then
          match later with
          | [] => none
          | d :: _ =>
            if Identifier.isDigit d then do
              let (digits, rest) ← takeDigits 10 later
              let size : Int := valueIn 10 digits
              return (some (if c = '-' then -size else size), rest)
            else none
        else if Identifier.isDigit c then do
          let (digits, rest) ← takeDigits 10 rest
          return (some (valueIn 10 digits), rest)
        else some (none, text)
    else some (none, text)
  | [] => some (none, [])

/-- The integer that decimal digits write; only zero may start with a zero. -/
def ofDigits? (digits : List Char) : Option Numeral :=
  let value := valueIn 10 digits
  if value = 0 then some (integer 0)
  else if digits.head? = some '0' ∨ longestInteger < digits.length then none
  else some (integer value)

/-- Takes a decimal number. -/
def takeDecimal (text : List Char) : Option (Numeral × List Char) := do
  let (whole, rest) ← takeFraction text
  let (hasPoint, fraction, rest) ← match rest with
    | '.' :: rest => (takeFraction rest).map fun (fraction, rest) => (true, fraction, rest)
    | rest => some (false, [], rest)
  let (power?, rest) ← takeExponent rest
  let coefficient := valueIn 10 (whole ++ fraction)
  let exponent := power?.getD 0 - fraction.length
  match rest with
  | 'j' :: rest => closed (imaginary coefficient exponent) rest
  | 'J' :: rest => closed (imaginary coefficient exponent) rest
  | rest =>
    if hasPoint || power?.isSome then closed (decimal coefficient exponent) rest
    else do closed (← ofDigits? whole) rest

/-- Takes the number at the start of a text. -/
def take : List Char → Option (Numeral × List Char)
  | '0' :: mark :: rest =>
    if mark = 'x' ∨ mark = 'X' then takeBased 16 rest
    else if mark = 'o' ∨ mark = 'O' then takeBased 8 rest
    else if mark = 'b' ∨ mark = 'B' then takeBased 2 rest
    else takeDecimal ('0' :: mark :: rest)
  | text => takeDecimal text

end Numeral

end PermissionNames.Source
