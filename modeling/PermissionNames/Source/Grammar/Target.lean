import PermissionNames.Source.Grammar.Level

/-! What values can be assigned to, and what can be deleted. -/

namespace PermissionNames.Source

namespace Expression

/-- Whether the expression names one place. -/
def isPlace : Expression → Bool
  | .name _ => true
  | .attribute .. => true
  | .subscript .. => true
  | _ => false

mutual

/-- Whether values can be assigned to the expression, which is not behind a star. -/
def isTarget : Expression → Bool
  | .name _ => true
  | .attribute .. => true
  | .subscript .. => true
  | .tuple elements => areTargets elements
  | .list elements => areTargets elements
  | _ => false

/-- Whether values can be assigned to all expressions, some of which may be behind a star. -/
def areTargets : List Expression → Bool
  | [] => true
  | .starred value :: rest => isTarget value && areTargets rest
  | value :: rest => isTarget value && areTargets rest

end

/-- Whether values can be assigned to the expression, which may be behind a star. -/
def isStarTarget (value : Expression) : Bool :=
  areTargets [value]

mutual

/-- Whether the expression can be deleted. -/
def isDeletable : Expression → Bool
  | .name _ => true
  | .attribute .. => true
  | .subscript .. => true
  | .tuple elements => areDeletable elements
  | .list elements => areDeletable elements
  | _ => false

/-- Whether all expressions can be deleted. -/
def areDeletable : List Expression → Bool
  | [] => true
  | value :: rest => isDeletable value && areDeletable rest

end

end Expression

namespace Grammar

open Source.Parser

/-- Takes one target, which may be behind a star. -/
def starTarget (inner : Grammar) : Parser Expression := do
  let value ← if ← accepts (.sign "*") then .starred <$> inner.read .primary
    else inner.read .primary
  ensure value.isStarTarget
  return value

/-- Takes targets between commas. -/
def starTargets (inner : Grammar) : Parser Expression :=
  asTuple <$> commaList inner.starTarget inner.limit

end Grammar

end PermissionNames.Source
