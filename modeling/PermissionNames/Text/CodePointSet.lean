/-! Sets of code points, written as the points where membership changes. -/

namespace PermissionNames

/-- Membership is false at zero and flips at every listed point, in rising order. -/
structure CodePointSet where
  /-- The first point inside, the first point outside again, and so on. -/
  changes : List Nat

namespace CodePointSet

/-- Whether an odd number of the changes lie at or below a point. -/
def flipsAt : List Nat → Nat → Bool
  | [], _ => false
  | change :: later, point => if point < change then false else !flipsAt later point

/-- Whether the character belongs to the set. -/
def contains (set : CodePointSet) (c : Char) : Bool :=
  flipsAt set.changes c.toNat

end CodePointSet

end PermissionNames
