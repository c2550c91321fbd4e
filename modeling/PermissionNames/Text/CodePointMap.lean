/-! Mappings from one code point to one or more, compressed into runs. -/

namespace PermissionNames

/-- Every `step`-th point from `first` to `last` maps to a point at the same distance from `image`. -/
structure PointRun where
  first : Nat
  last : Nat
  step : Nat
  image : Nat

/-- The image of a point of the run. -/
def PointRun.find? (run : PointRun) (point : Nat) : Option Nat :=
  if run.first ≤ point && point ≤ run.last && (point - run.first) % run.step == 0 then
    some (run.image + (point - run.first))
  else
    none

/-- A mapping of characters, which fixes every character that it does not list. -/
structure CodePointMap where
  /-- Characters with a single image. -/
  runs : List PointRun
  /-- Characters with an image of several characters. -/
  expansions : List (Nat × List Nat)

namespace CodePointMap

/-- The listed image of a character. -/
def find? (map : CodePointMap) (c : Char) : Option (List Char) :=
  match map.runs.findSome? (·.find? c.toNat) with
  | some point => some [Char.ofNat point]
  | none => (map.expansions.lookup c.toNat).map (·.map Char.ofNat)

/-- The image of a character. -/
def image (map : CodePointMap) (c : Char) : List Char :=
  (map.find? c).getD [c]

end CodePointMap

end PermissionNames
