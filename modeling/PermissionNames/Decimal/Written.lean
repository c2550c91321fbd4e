import PermissionNames.Decimal.Shortest

/-! The written form of decimal numbers that are held in double precision. -/

namespace PermissionNames.Decimal

/-- Numbers with more digits before the point are written with an exponent. -/
def longestWhole : Int := 16

/-- Numbers with at least this many zeros behind the point are written with an exponent. -/
def fractionZeros : Int := 4

/-- A number larger than all that are held is written as this one. -/
def overflowText : String := "1e309"

/-- Zeros. -/
def zeros (count : Nat) : String :=
  String.ofList (List.replicate count '0')

/-- An exponent with its sign and at least two digits. -/
def exponentText (exponent : Int) : String :=
  let digits := Nat.repr exponent.natAbs
  (if exponent < 0 then "e-" else "e+") ++ (if exponent.natAbs < 10 then "0" ++ digits else digits)

/-- The text of digits; `pointed` asks for a fraction even of whole numbers. -/
def textOf (digits : Digits) (pointed : Bool) : String :=
  let text := Nat.repr digits.coefficient
  let count : Int := text.length
  if digits.point ≤ -fractionZeros ∨ longestWhole < digits.point then
    let tail := String.ofList (text.toList.drop 1)
    String.ofList (text.toList.take 1) ++ (if tail = "" then "" else "." ++ tail) ++
      exponentText (digits.point - 1)
  else if digits.point ≤ 0 then "0." ++ zeros (-digits.point).toNat ++ text
  else if count ≤ digits.point then
    text ++ zeros (digits.point - count).toNat ++ (if pointed then ".0" else "")
  else
    String.ofList (text.toList.take digits.point.toNat) ++ "." ++
      String.ofList (text.toList.drop digits.point.toNat)

/-- The text of a coefficient times a power of ten. -/
def write (coefficient : Nat) (exponent : Int) (pointed : Bool) : String :=
  match round coefficient exponent with
  | .infinite => overflowText
  | .finite 0 _ => if pointed then "0.0" else "0"
  | .finite significand power => textOf (shortest significand power) pointed

end PermissionNames.Decimal
