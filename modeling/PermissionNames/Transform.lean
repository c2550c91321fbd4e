import PermissionNames.Container
import PermissionNames.Token

/-! The ordered stages that turn the names of a container's slots into their final form. -/

namespace PermissionNames

/-- One step of the transformation of a name. -/
inductive Stage
  /-- Segments the composed name again, prefix included. -/
  | parsePrefix
  /-- Lowers the name. -/
  | lowerCase
  /-- Replaces the name by a token under the named digest algorithm. -/
  | obfuscate (algorithm : String)
  /-- Writes the name in capitals. -/
  | upperCase
  deriving DecidableEq, Repr

/-- Why a slot cannot be transformed. -/
inductive TransformError
  /-- The slot has its final name already. -/
  | alreadyTransformed (identity : String)
  /-- A name was to be obfuscated under an algorithm that is not there. -/
  | algorithm (cause : AlgorithmError)
  deriving DecidableEq, Repr

/-- The wording of a transformation error. -/
def TransformError.message : TransformError → String
  | alreadyTransformed identity => "Slot already transformed: " ++ identity
  | algorithm cause => cause.message

namespace Stage

/-- What a stage makes of a name. -/
def rename (stage : Stage) (name : String) : Except AlgorithmError String :=
  match stage with
  | parsePrefix => .ok (segmented name)
  | lowerCase => .ok (lowercase name)
  | obfuscate algorithm => (Algorithm.lookUp algorithm).map (obfuscated · name)
  | upperCase => .ok (uppercase name)

/-- What stages make of a name, one after another. -/
def renameAll : List Stage → String → Except AlgorithmError String
  | [], name => .ok name
  | stage :: later, name => (stage.rename name).bind (renameAll later)

/-- The stages that options select, in their fixed order. -/
def select (flags : Flags) (algorithm : String) : List Stage :=
  (if flags.parsePrefix then [parsePrefix] else []) ++
    [lowerCase] ++
    (if flags.obfuscate then [obfuscate algorithm] else []) ++
    (if flags.upperCase then [upperCase] else [])

/-- Applies one stage to a slot, which stays open for more. -/
def apply (stage : Stage) (slot : Slot) : Except AlgorithmError Slot :=
  (stage.rename slot.canonicalName).map fun name => { slot with canonicalName := name }

end Stage

/-- Gives a slot its final name; a slot that has one already is refused. -/
def Slot.transform (slot : Slot) (stages : List Stage) : Except TransformError Slot :=
  if slot.finalized then .error (.alreadyTransformed slot.identity)
  else
    match Stage.renameAll stages slot.canonicalName with
    | .ok name => .ok { slot with canonicalName := name, finalized := true }
    | .error cause => .error (.algorithm cause)

/-- Gives all slots their final names, in order, up to the first that fails. -/
def Slot.transformAll (stages : List Stage) : List Slot → Except TransformError (List Slot)
  | [] => .ok []
  | slot :: rest =>
    match slot.transform stages with
    | .error cause => .error cause
    | .ok done => (transformAll stages rest).map (done :: ·)

namespace Tally

/-- Counts one more occurrence of a name; a name that is new goes to the end. -/
def add (name : String) : List (String × Nat) → List (String × Nat)
  | [] => [(name, 1)]
  | (known, count) :: later =>
    if known = name then (known, count + 1) :: later else (known, count) :: add name later

/-- How often each name occurs, in the order in which the names first occur. -/
def ofNames (names : List String) : List (String × Nat) :=
  names.foldl (fun counts name => add name counts) []

end Tally

/-- A token that several slots of one container share. -/
structure Collision where
  /-- The qualified name of the container. -/
  container : String
  token : String
  /-- The identities of the slots, in slot order. -/
  identities : List String
  deriving DecidableEq, Repr

namespace Container

/-- Transforms every slot of a container by the stages that its options select. -/
def transform (container : Container) (algorithm : String) : Except TransformError Container :=
  let stages := Stage.select container.effectiveFlags algorithm
  (Slot.transformAll stages container.slots).map fun slots => { container with slots }

/-- The slots that have a name. -/
def slotsNamed (container : Container) (name : String) : List Slot :=
  container.slots.filter (·.canonicalName == name)

/-- The tokens shared by two or more slots, in the order in which they first occur; none unless names are obfuscated. -/
def collisions (container : Container) : List Collision :=
  if container.effectiveFlags.obfuscate then
    let counts := Tally.ofNames (container.slots.map (·.canonicalName))
    (counts.filter (2 ≤ ·.2)).map fun (name, _) =>
      { container := container.qualifiedName
        token := name
        identities := (container.slotsNamed name).map (·.identity) }
  else []

end Container

end PermissionNames
