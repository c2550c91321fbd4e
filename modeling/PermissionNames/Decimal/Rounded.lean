/-! Decimal numbers rounded to the nearest binary number of double precision. -/

namespace PermissionNames.Decimal

/-- A binary number: a significand below `2 ^ 53` times a power of two, or one that is too large. -/
inductive Rounded
  | finite (significand : Nat) (power : Int)
  | infinite
  deriving DecidableEq, Repr

/-- A power of a base as a fraction. -/
def powerFraction (base : Nat) (exponent : Int) : Nat × Nat :=
  if 0 ≤ exponent then (Nat.pow base exponent.toNat, 1) else (1, Nat.pow base (-exponent).toNat)

/-- The smallest power of two that a significand is multiplied by. -/
def leastPower : Int := -1074

/-- The greatest power of two that a significand is multiplied by. -/
def greatestPower : Int := 971

/-- The power of two by which a fraction has a significand of 53 bits, or the smallest power. -/
def powerFor (numerator denominator : Nat) : Int :=
  let estimate : Int := (numerator.log2 : Int) - denominator.log2 - 52
  -- The estimate is at most one too large.
  let (up, down) := powerFraction 2 estimate
  let power := if numerator * down < denominator * up * Nat.pow 2 52 then estimate - 1 else estimate
  max power leastPower

/-- The integer nearest to a fraction, the even one of two. -/
def nearest (numerator denominator : Nat) : Nat :=
  let whole := numerator / denominator
  let doubled := 2 * (numerator % denominator)
  if doubled < denominator then whole
  else if denominator < doubled then whole + 1
  else if whole % 2 = 0 then whole
  else whole + 1

/-- The binary number nearest to a positive fraction. -/
def roundFraction (numerator denominator : Nat) : Rounded :=
  let power := powerFor numerator denominator
  let (up, down) := powerFraction 2 power
  let significand := nearest (numerator * down) (denominator * up)
  if significand = Nat.pow 2 53 then
    if greatestPower < power + 1 then .infinite else .finite (Nat.pow 2 52) (power + 1)
  else if greatestPower < power then .infinite
  else .finite significand power

/-- The number of decimal digits of a number. -/
def digitCount (n : Nat) : Nat :=
  (Nat.toDigits 10 n).length

/-- The binary number nearest to a coefficient times a power of ten. -/
def round (coefficient : Nat) (exponent : Int) : Rounded :=
  let magnitude : Int := digitCount coefficient + exponent
  if coefficient = 0 ∨ magnitude < -330 then .finite 0 leastPower
  else if 310 < magnitude then .infinite
  else
    let (up, down) := powerFraction 10 exponent
    roundFraction (coefficient * up) down

end PermissionNames.Decimal
