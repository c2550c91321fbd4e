import PermissionNames.Text.CharacterName
import PermissionNames.Text.CodePoint

/-! Escape sequences of text and byte literals, and what they stand for. -/

namespace PermissionNames.Source.Escape

/-- What an escape sequence stands for, with the characters of it that follow the backslash. -/
structure Sequence where
  value : List CodePoint
  consumed : Nat

/-- The character that a letter or mark after a backslash stands for. -/
def simple? : Char → Option Char
  | '\\' => some '\\'
  | '\'' => some '\''
  | '"' => some '"'
  | 'a' => some '\x07'
  | 'b' => some '\x08'
  | 'f' => some '\x0C'
  | 'n' => some '\n'
  | 'r' => some '\r'
  | 't' => some '\t'
  | 'v' => some '\x0B'
  | _ => none

/-- Whether the character is a digit below eight. -/
def isOctal (c : Char) : Bool :=
  '0' ≤ c && c ≤ '7'

/-- The number that the first digits of a text write in base sixteen, exactly `width` of them. -/
def hexadecimal? (width : Nat) (text : List Char) : Option Nat :=
  let digits := text.take width
  if digits.length < width then none
  else digits.foldl (fun number c => do return (← number) * 16 + (← hexValue? c)) (some 0)

/-- The sequence for a code point by its number, which has a fixed count of digits. -/
def numbered? (width : Nat) (text : List Char) : Option Sequence := do
  let number ← hexadecimal? width text
  if number < 0x110000 then some ⟨[.ofNumber number], width + 1⟩ else none

/-- The sequence for a character by its number of one to three digits below eight. -/
def octal (text : List Char) : Sequence :=
  let digits := (text.take 3).takeWhile isOctal
  let number := digits.foldl (fun number c => number * 8 + (c.toNat - 48)) 0
  ⟨[.ofNumber number], digits.length⟩

/-- The sequence for a character by its name in braces. -/
def named? (text : List Char) : Option Sequence :=
  let name := text.takeWhile (· != '}')
  match text.dropWhile (· != '}') with
  | [] => none
  | _ :: _ => (CharacterName.lookUp? name).map fun c => ⟨[.character c], name.length + 3⟩

/-- Reads the sequence after a backslash; one that is not known stands for itself. -/
def ofText? : List Char → Option Sequence
  | [] => some ⟨[.character '\\'], 0⟩
  | '\n' :: _ => some ⟨[], 1⟩
  | 'x' :: rest => numbered? 2 rest
  | 'u' :: rest => numbered? 4 rest
  | 'U' :: rest => numbered? 8 rest
  | 'N' :: '{' :: rest => named? rest
  | 'N' :: _ => none
  | c :: rest =>
    if isOctal c then some (octal (c :: rest))
    else
      match simple? c with
      | some meant => some ⟨[.character meant], 1⟩
      | none => some ⟨[.character '\\', .character c], 1⟩

/-- Replaces escape sequences in a text, after skipping characters that belong to the last one. -/
def decodeFrom : Nat → List Char → Option (List CodePoint)
  | _, [] => some []
  | skipped + 1, _ :: rest => decodeFrom skipped rest
  | 0, c :: rest =>
    if c = '\\' then do
      let found ← ofText? rest
      return found.value ++ (← decodeFrom found.consumed rest)
    else (decodeFrom 0 rest).map (.character c :: ·)

/-- The text that the inside of a literal stands for. -/
def decode (body : List Char) : Option LiteralText :=
  (decodeFrom 0 body).map .ofPoints

/-- Reads the sequence after a backslash in a byte literal, where characters have no other numbers than bytes. -/
def ofBytes? : List Char → Option Sequence
  | 'x' :: rest => numbered? 2 rest
  | c :: rest =>
    if c = 'u' ∨ c = 'U' ∨ c = 'N' then some ⟨[.character '\\', .character c], 1⟩
    else ofText? (c :: rest)
  | [] => ofText? []

/-- Replaces escape sequences in a byte literal, after skipping characters of the last one. -/
def decodeBytesFrom : Nat → List Char → Option (List CodePoint)
  | _, [] => some []
  | skipped + 1, _ :: rest => decodeBytesFrom skipped rest
  | 0, c :: rest =>
    if c = '\\' then do
      let found ← ofBytes? rest
      return found.value ++ (← decodeBytesFrom found.consumed rest)
    else (decodeBytesFrom 0 rest).map (.character c :: ·)

/-- The bytes that code points stand for, each for the last eight bits of its number. -/
def toBytes (points : List CodePoint) : List UInt8 :=
  points.map fun point => UInt8.ofNat point.number

/-- The bytes that the inside of a byte literal stands for. -/
def decodeBytes (body : List Char) : Option (List UInt8) :=
  (decodeBytesFrom 0 body).map toBytes

end PermissionNames.Source.Escape
