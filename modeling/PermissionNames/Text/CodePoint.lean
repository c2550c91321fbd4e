/-! Code points: characters, and surrogates, which an escape can name although no string holds them. -/

namespace PermissionNames

/-- A surrogate, by its number. -/
structure Surrogate where
  number : Nat
  least : 0xD800 ≤ number
  most : number ≤ 0xDFFF
  deriving DecidableEq, Repr

/-- A character or a surrogate. -/
inductive CodePoint
  | character (c : Char)
  | surrogate (half : Surrogate)
  deriving DecidableEq, Repr

namespace CodePoint

/-- The code point with a number. -/
def ofNumber (number : Nat) : CodePoint :=
  if half : 0xD800 ≤ number ∧ number ≤ 0xDFFF then .surrogate ⟨number, half.1, half.2⟩
  else .character (Char.ofNat number)

/-- The number of a code point. -/
def number : CodePoint → Nat
  | character c => c.toNat
  | surrogate half => half.number

/-- The character that shows a code point; a surrogate is shown by the replacement character. -/
def shown : CodePoint → Char
  | character c => c
  | surrogate _ => '\uFFFD'

/-- The characters that code points are, unless a surrogate is among them. -/
def characters? : List CodePoint → Option (List Char)
  | [] => some []
  | character c :: rest => (characters? rest).map (c :: ·)
  | surrogate _ :: _ => none

end CodePoint

/-- The text of a literal: a string, unless a surrogate stands in it. -/
inductive LiteralText
  | plain (text : String)
  /-- A text with a surrogate, which cannot be encoded. -/
  | broken (points : List CodePoint) (isBroken : CodePoint.characters? points = none)
  deriving DecidableEq, Repr

namespace LiteralText

instance : Coe String LiteralText := ⟨plain⟩

/-- The text that code points make up. -/
def ofPoints (points : List CodePoint) : LiteralText :=
  match read : CodePoint.characters? points with
  | some text => plain (String.ofList text)
  | none => broken points read

/-- The code points of a text. -/
def points : LiteralText → List CodePoint
  | plain text => text.toList.map .character
  | broken points _ => points

/-- The number of code points in a text. -/
def length : LiteralText → Nat
  | plain text => text.length
  | broken points _ => points.length

/-- The text of all texts one after the other. -/
def join (texts : List LiteralText) : LiteralText :=
  ofPoints (texts.flatMap points)

/-- Whether a text has an encoding, as every string has. -/
def isEncodable : LiteralText → Bool
  | plain _ => true
  | broken .. => false

/-- The string that shows a text. -/
def shown : LiteralText → String
  | plain text => text
  | broken points _ => String.ofList (points.map CodePoint.shown)

end LiteralText

end PermissionNames
