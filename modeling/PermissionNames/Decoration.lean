import PermissionNames.Marker
import PermissionNames.Source.Expression

/-! What markers record on a class when the source that carries them is executed. -/

namespace PermissionNames

open Source

/-- What a marker records on a class: its kind, and its options as bits. -/
structure MarkerRecord where
  kind : ContainerKind
  bits : Nat
  deriving DecidableEq, Repr

namespace Decoration

/-- A value, as far as decorators are made of it. -/
inductive Value
  | integer (value : Nat)
  /-- Members of the enumeration of options, with the unknown bits beside them. -/
  | options (bits : Nat)
  /-- A marker, which takes a class or options. -/
  | marker (kind : ContainerKind)
  /-- What a marker makes of options, which takes a class. -/
  | prepared (kind : ContainerKind) (bits : Nat)
  /-- A decorator that leaves what is recorded on its class. -/
  | inert
  deriving DecidableEq, Repr

/-- Whether a number can be made a member of the enumeration; beside known bits, the unknown ones are written as a decimal integer. -/
def isNameable (bits : Nat) : Bool :=
  bits % 16 == 0 || bits - bits % 16 < Nat.pow 10 Numeral.longestInteger

/-- The number that a value is. -/
def Value.number? : Value → Option Nat
  | integer value => some value
  | options bits => some bits
  | _ => none

/-- The union of two values, which is a member of the enumeration if one of them is. -/
def Value.union : Value → Value → Option Value
  | integer left, integer right => some (.integer (left ||| right))
  | left, right => do
    let bits := (← left.number?) ||| (← right.number?)
    if isNameable bits then some (.options bits) else none

/-- The value of an expression of options, where `scope` tells what is neither an integer nor a union. -/
def evaluate (scope : Expression → Option Value) : Expression → Option Value
  | .constant (.number (.integer value)) => some (.integer value)
  | .binary .bitOr left right => do (← evaluate scope left).union (← evaluate scope right)
  | expression => scope expression

/-- The options among the arguments of a marker, which takes at most one. -/
def argument? : List Expression → List (Option String × Expression) → Option (Option Expression)
  | [], [] => some none
  | [options], [] => some (some options)
  | [], [(some "flags", options)] => some (some options)
  | _, _ => none

/-- The value of a decorator. -/
def decorator (scope : Expression → Option Value) : Expression → Option Value
  | .call function arguments named =>
    match scope function with
    | some (.marker kind) => do
      match ← argument? arguments named with
      | none => some (.prepared kind 0)
      | some options => (← evaluate scope options).number?.map (.prepared kind)
    | _ => scope (.call function arguments named)
  | expression => scope expression

/-- What a decorator leaves recorded on a class, after what was recorded before. -/
def Value.record : Value → Option MarkerRecord → Option (Option MarkerRecord)
  | marker kind, _ => some (some ⟨kind, 0⟩)
  | prepared kind bits, _ =>
    if isNameable bits then some (some ⟨kind, recordedBits bits⟩) else none
  | inert, before => some before
  | _, _ => none

/-- What the decorators of a class leave recorded on it: all of them are evaluated first, and then they are applied from the last to the first. -/
def decorate (scope : Expression → Option Value) (decorators : List Expression) :
    Option (Option MarkerRecord) := do
  let values ← decorators.mapM (decorator scope)
  values.foldrM Value.record none

end Decoration

end PermissionNames
