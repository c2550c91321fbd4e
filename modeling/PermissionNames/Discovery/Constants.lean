import PermissionNames.Source.Statement

/-! Text constants that statements of one body assign to names. -/

namespace PermissionNames.Discovery

open Source

/-- Names and the texts that they are given, in the order of the assignments. -/
abbrev Constants := List (String × LiteralText)

namespace Constants

/-- The names among targets, each with a text. -/
def ofTargets (targets : List Expression) (text : LiteralText) : Constants :=
  targets.filterMap fun
    | .name identifier => some (identifier.text, text)
    | _ => none

/-- The names that a statement gives a text. -/
def ofStatement : Statement → Constants
  | .assignment targets value =>
    match value.text? with
    | some text => ofTargets targets text
    | none => []
  | .declaration target _ (some value) =>
    match value.text? with
    | some text => ofTargets [target] text
    | none => []
  | _ => []

/-- The names that the statements of a body give a text; blocks inside do not count. -/
def ofBody (body : List Statement) : Constants :=
  body.flatMap ofStatement

/-- The text that a name was given last. -/
def find? (constants : Constants) (name : String) : Option LiteralText :=
  constants.reverse.lookup name

end Constants

/-- The text of a name in a class: the last one of its body, else of the module, else the name itself. -/
def resolveName (body module : Constants) (name : String) : LiteralText :=
  ((body.find? name).or (module.find? name)).getD name

end PermissionNames.Discovery
