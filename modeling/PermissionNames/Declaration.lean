import PermissionNames.Container

/-! What is declared for a finished container: one literal for every slot, and the list of them all. -/

namespace PermissionNames

/-- A target language of generated sources. -/
inductive Dialect
  | python
  | csharp
  deriving DecidableEq, Repr

/-- Why a dialect cannot be used. -/
inductive DialectError
  /-- Options name no dialect. -/
  | notAChoice
  /-- A source is asked for in no known dialect. -/
  | unknown (name : String)
  /-- An enumeration is asked for in no known dialect. -/
  | unnamedEnumeration (name : String)
  deriving DecidableEq, Repr

namespace Dialect

/-- The written form of a dialect. -/
def name : Dialect → String
  | python => "python"
  | csharp => "csharp"

/-- The dialects in the order of their listing. -/
def all : List Dialect := [python, csharp]

/-- The dialect with a written form. -/
def named? (name : String) : Option Dialect :=
  all.find? (·.name == name)

/-- The name of the declaration that lists every literal. -/
def enumerationName : Dialect → String
  | python => "get_all_permissions"
  | csharp => "GetAllPermissions"

end Dialect

/-- The wording of a dialect error. -/
def DialectError.message : DialectError → String
  | notAChoice => "dialect must be one of " ++ ", ".intercalate (Dialect.all.map (·.name))
  | unknown name => "Unknown dialect: " ++ name
  | unnamedEnumeration name => "no enumeration in dialect " ++ name

/-- One slot bound to its final name. -/
structure Declaration where
  identity : String
  visibility : Visibility
  isStatic : Bool
  literal : String
  deriving DecidableEq, Repr

/-- The declaration that lists every literal of a container. -/
structure Enumeration where
  name : String
  /-- The literals in slot order. -/
  literals : List String
  deriving DecidableEq, Repr

/-- The declaration of a slot. -/
def Slot.declaration (slot : Slot) : Declaration where
  identity := slot.identity
  visibility := slot.visibility
  isStatic := slot.isStatic
  literal := slot.canonicalName

namespace Container

/-- One declaration for every slot, in slot order and with repetitions kept. -/
def declarations (container : Container) : List Declaration :=
  container.slots.map (·.declaration)

/-- The enumeration that a container asks for. -/
def enumeration (container : Container) (dialect : Dialect) : Option Enumeration :=
  if container.effectiveFlags.emitEnumeration then
    some ⟨dialect.enumerationName, container.declarations.map (·.literal)⟩
  else none

/-- The enumeration in a named dialect, whose name matters only if the container asks for one. -/
def enumerationNamed (container : Container) (dialect : String) :
    Except DialectError (Option Enumeration) :=
  match Dialect.named? dialect with
  | some known => .ok (container.enumeration known)
  | none =>
    if container.effectiveFlags.emitEnumeration then .error (.unnamedEnumeration dialect)
    else .ok none

end Container

end PermissionNames
