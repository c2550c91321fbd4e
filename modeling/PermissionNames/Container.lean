import PermissionNames.Flags
import PermissionNames.Slot

/-! Containers of permission slots. -/

namespace PermissionNames

/-- Whether a container takes options. -/
inductive ContainerKind
  /-- A configurable container. -/
  | store
  /-- A flat container, whose options do not apply. -/
  | repo
  deriving DecidableEq, Repr

/-- The written form of a kind. -/
def ContainerKind.text : ContainerKind → String
  | store => "store"
  | repo => "repo"

/-- One class of permissions. -/
structure Container where
  name : String
  /-- The dotted path of what encloses the class; empty at the top. -/
  namespacePath : String
  /-- The slots in declaration order. -/
  slots : List Slot := []
  flags : Flags := {}
  kind : ContainerKind := .store
  /-- Whether the class carries the partial marker. -/
  reEmittable : Bool := true
  /-- Where the declaration was found. -/
  sourcePath : Option String := none
  deriving DecidableEq, Repr

namespace Container

/-- The name below its namespace. -/
def qualifiedName (container : Container) : String :=
  if container.namespacePath = "" then container.name
  else container.namespacePath ++ "." ++ container.name

/-- The options that apply: those declared for a store, none for a flat container. -/
def effectiveFlags (container : Container) : Flags :=
  match container.kind with
  | .store => container.flags
  | .repo => .none

end Container

end PermissionNames
