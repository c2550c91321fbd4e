import PermissionNames.Source.Escape

/-! Regular literals of partial classes: one line of characters and escapes between quotes, which stands for code units of sixteen bits. -/

namespace PermissionNames.RegularLiteral

/-- The line ends beyond the controls below the blank. -/
def wideEnds : List Char :=
  ['\u0085', '\u2028', '\u2029']

/-- Whether a character ends a line. -/
def endsLine (c : Char) : Bool :=
  c = '\n' || c = '\r' || c ∈ wideEnds

/-- The lines of a text without their ends; a carriage return with a newline is one end. -/
def lexicalLines : List Char → List (List Char)
  | [] => [[]]
  | '\r' :: '\n' :: rest => [] :: lexicalLines rest
  | c :: rest =>
    if endsLine c then [] :: lexicalLines rest else (lexicalLines rest).modifyHead (c :: ·)

/-- The code units of a character: two surrogates for one beyond the sixteen bits. -/
def units (c : Char) : List Nat :=
  if c.toNat < 0x10000 then [c.toNat]
  else [0xD800 + (c.toNat - 0x10000) / 0x400, 0xDC00 + (c.toNat - 0x10000) % 0x400]

/-- The code units of a text. -/
def unitsOf (value : String) : List Nat :=
  value.toList.flatMap units

/-- The code unit that a mark behind a backslash stands for. -/
def simple? : Char → Option Nat
  | '0' => some 0
  | mark => (Source.Escape.simple? mark).map Char.toNat

/-- Code units in front of those of what a literal goes on with. -/
def ahead (front : List Nat) (found : List Nat × List Char) : List Nat × List Char :=
  (front ++ found.1, found.2)

/-- The code units up to the next quote that is not escaped, and what stands behind that quote. -/
def takeBody : List Char → Option (List Nat × List Char)
  | [] => none
  | '"' :: rest => some ([], rest)
  | '\\' :: 'u' :: first :: second :: third :: fourth :: rest => do
    let unit ← Source.Escape.hexadecimal? 4 [first, second, third, fourth]
    return ahead [unit] (← takeBody rest)
  | '\\' :: mark :: rest => do
    let unit ← simple? mark
    return ahead [unit] (← takeBody rest)
  | c :: rest =>
    if c = '\\' || endsLine c then none else (takeBody rest).map (ahead (units c))

/-- The code units of the literal that a text begins with, and what stands behind it. -/
def take : List Char → Option (List Nat × List Char)
  | '"' :: rest => takeBody rest
  | _ => none

end PermissionNames.RegularLiteral
