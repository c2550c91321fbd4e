import PermissionNames.Decimal.Rounded

/-! The fewest decimal digits from which a binary number can be read back. -/

namespace PermissionNames.Decimal

/-- A number written as a coefficient and the count of its digits before the point, which may be negative. -/
structure Digits where
  coefficient : Nat
  point : Int
  deriving DecidableEq, Repr

/-- A number with the bounds between which every number is rounded to it, over one denominator. -/
structure Interval where
  lower : Nat
  value : Nat
  upper : Nat
  denominator : Nat
  /-- Whether the bounds themselves are rounded to the number. -/
  closed : Bool

/-- The numbers that are rounded to a significand times a power of two. -/
def intervalOf (significand : Nat) (power : Int) : Interval :=
  let (up, down) := powerFraction 2 (power - 2)
  let below := if significand = Nat.pow 2 52 ∧ leastPower < power then 1 else 2
  { lower := (4 * significand - below) * up
    value := 4 * significand * up
    upper := (4 * significand + 2) * up
    denominator := down
    closed := significand % 2 = 0 }

/-- Whether a coefficient times a fraction lies in an interval. -/
def Interval.contains (interval : Interval) (coefficient up down : Nat) : Bool :=
  let point := coefficient * up * interval.denominator
  let lower := interval.lower * down
  let upper := interval.upper * down
  if interval.closed then lower ≤ point && point ≤ upper else lower < point && point < upper

/-- The count of digits before the point, found by trying counts from `candidate` on. -/
def pointFrom (interval : Interval) (candidate : Int) : Nat → Int
  | 0 => candidate
  | tries + 1 =>
    let (up, down) := powerFraction 10 candidate
    if interval.value * down < up * interval.denominator then candidate
    else pointFrom interval (candidate + 1) tries

/-- The number of `count` digits that is rounded to the number and nearest to it, if there is one. -/
def ofCount? (interval : Interval) (point : Int) (count : Nat) : Option Digits :=
  let scale := point - count
  let (up, down) := powerFraction 10 scale
  let numerator := interval.value * down
  let denominator := interval.denominator * up
  let floor := numerator / denominator
  match interval.contains floor up down, interval.contains (floor + 1) up down with
  | true, true => some ⟨nearest numerator denominator, scale⟩
  | true, false => some ⟨floor, scale⟩
  | false, true => some ⟨floor + 1, scale⟩
  | false, false => none

/-- Drops the zeros at the end of a coefficient. -/
def dropZeros : Nat → Digits → Digits
  | 0, digits => digits
  | tries + 1, digits =>
    if digits.coefficient % 10 = 0 then
      dropZeros tries ⟨digits.coefficient / 10, digits.point + 1⟩
    else digits

/-- The fewest digits that are rounded to a significand times a power of two; seventeen always suffice. -/
def shortest (significand : Nat) (power : Int) : Digits :=
  let interval := intervalOf significand power
  let (up, down) := powerFraction 2 power
  let guess : Int := (digitCount (significand * up) : Int) - digitCount down
  let point := pointFrom interval (guess - 1) 4
  let found := (List.range 17).findSome? fun shorter => ofCount? interval point (shorter + 1)
  let raw := dropZeros 20 (found.getD ⟨0, 0⟩)
  -- So far the point counts from the end of the coefficient.
  ⟨raw.coefficient, raw.point + digitCount raw.coefficient⟩

end PermissionNames.Decimal
