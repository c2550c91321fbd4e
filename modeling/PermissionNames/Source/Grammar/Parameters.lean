import PermissionNames.Source.Grammar.Level

/-! Parameters of functions, and the order that they have to keep. -/

namespace PermissionNames.Source

namespace Parameter

/-- What may still follow the parameters so far. -/
inductive Phase
  /-- No parameter yet, or only ones without fallbacks; the flag says whether any. -/
  | required (isStarted canSeparate : Bool)
  /-- There has been a fallback, so all later parameters by position need one. -/
  | defaulted (canSeparate : Bool)
  /-- A bare star needs a parameter behind it. -/
  | namedExpected
  /-- Parameters are given by name. -/
  | named
  /-- Nothing may follow. -/
  | complete
  deriving DecidableEq, Repr

/-- What may follow a parameter, if it is allowed. -/
def Phase.after : Phase → Parameter → Option Phase
  | required _ canSeparate, .plain _ none => some (required true canSeparate)
  | required _ canSeparate, .plain _ (some _) => some (defaulted canSeparate)
  | required true true, .positionalEnd => some (required true false)
  | required _ _, .namedStart => some namedExpected
  | required _ _, .rest _ => some named
  | required _ _, .namedRest _ => some complete
  | defaulted canSeparate, .plain _ (some _) => some (defaulted canSeparate)
  | defaulted true, .positionalEnd => some (defaulted false)
  | defaulted _, .namedStart => some namedExpected
  | defaulted _, .rest _ => some named
  | defaulted _, .namedRest _ => some complete
  | namedExpected, .plain _ _ => some named
  | named, .plain _ _ => some named
  | named, .namedRest _ => some complete
  | _, _ => none

/-- Whether parameters keep their order from a phase on. -/
def areOrdered : Phase → List Parameter → Bool
  | phase, [] => phase != .namedExpected
  | phase, first :: later =>
    match phase.after first with
    | some phase => areOrdered phase later
    | none => false

end Parameter

namespace Grammar

open Source.Parser

/-- Takes the type of a parameter, where types are allowed. -/
def parameterType (typed : Bool) (type : Parser Expression) : Parser Unit := do
  if typed then
    if ← accepts (.sign ":") then
      let _ ← type
  return ()

/-- Takes a parameter or a mark between parameters. -/
def parameter (inner : Grammar) (typed : Bool) : Parser Parameter := do
  if ← accepts (.sign "/") then return .positionalEnd
  else if ← accepts (.sign "**") then
    let name ← identifier
    parameterType typed (inner.read .expression)
    return .namedRest name
  else if ← accepts (.sign "*") then
    match ← ifAny identifier with
    | none => return .namedStart
    | some name =>
      parameterType typed inner.starExpression
      return .rest name
  else
    let name ← identifier
    parameterType typed (inner.read .expression)
    if ← accepts (.sign "=") then return .plain name (some (← inner.read .expression))
    else return .plain name none

/-- Takes the parameters before a closing sign, which is taken too. -/
def parameters (inner : Grammar) (typed : Bool) (closing : String) :
    Parser (List Parameter) := do
  if ← accepts (.sign closing) then return []
  else
    let (found, _) ← commaList (inner.parameter typed) inner.limit
    ensure (Parameter.areOrdered (.required false true) found)
    sign closing
    return found

end Grammar

end PermissionNames.Source
