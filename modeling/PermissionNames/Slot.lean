import PermissionNames.Segment

/-! Permission slots, their visibility, and the name they start with. -/

namespace PermissionNames

/-- The declared access level of a slot. -/
inductive Visibility
  | publicAccess
  | internalAccess
  | protectedAccess
  | privateAccess
  deriving DecidableEq, Repr

namespace Visibility

/-- The written form of a visibility. -/
def text : Visibility → String
  | publicAccess => "public"
  | internalAccess => "internal"
  | protectedAccess => "protected"
  | privateAccess => "private"

/-- The visibilities in declaration order. -/
def all : List Visibility :=
  [publicAccess, internalAccess, protectedAccess, privateAccess]

/-- The visibility with a written form. -/
def ofText? (word : String) : Option Visibility :=
  all.find? (·.text == word)

/-- The visibility with a member name, which is the written form in capitals. -/
def ofMember? : String → Option Visibility
  | "PUBLIC" => some publicAccess
  | "INTERNAL" => some internalAccess
  | "PROTECTED" => some protectedAccess
  | "PRIVATE" => some privateAccess
  | _ => none

/-- The visibility that the leading underscores of a name imply. -/
def ofIdentity (identity : String) : Visibility :=
  if "__".toList.isPrefixOf identity.toList && !"__".toList.isSuffixOf identity.toList then
    privateAccess
  else if "_".toList.isPrefixOf identity.toList then internalAccess
  else publicAccess

end Visibility

/-- Why a slot cannot be made. -/
inductive SlotError
  /-- A finished record without an identity. -/
  | unnamedRecord
  /-- A declaration whose name would have no base. -/
  | unnamedDeclaration
  deriving DecidableEq, Repr

/-- The wording of a slot error. -/
def SlotError.message : SlotError → String
  | unnamedRecord => "Slot identity must not be empty"
  | unnamedDeclaration => "Cannot build a permission name for an empty identity"

/-- One declared permission. -/
structure Slot where
  /-- The declared name. -/
  identity : String
  visibility : Visibility := .publicAccess
  /-- Whether the slot belongs to the class and not to its instances. -/
  isStatic : Bool := false
  /-- The tokens of the first prefix declaration, verbatim. -/
  prefixTokens : List String := []
  /-- The permission name as far as it has been transformed. -/
  canonicalName : String := ""
  /-- Whether the transformation is complete. -/
  finalized : Bool := false
  identity_ne : identity ≠ ""
  deriving DecidableEq, Repr

namespace Slot

/-- The tokens of the first declaration; later declarations count for nothing. -/
def choosePrefix {α : Type} : List (List α) → List α
  | [] => []
  | first :: _ => first

/-- The prefix tokens that are not empty, then the segmented identity, joined by a separator. -/
def composeName (identity : String) (tokens : List String) (separator : String) : String :=
  separator.intercalate (tokens.filter (· ≠ "") ++ [segmented identity])

/-- The name of an identity under prefix tokens. -/
def buildName (identity : String) (tokens : List String := []) (separator : String := ".") :
    Except SlotError String :=
  if identity = "" then .error .unnamedDeclaration
  else .ok (composeName identity tokens separator)

/-- A slot fresh from its declaration, named by its identity and its first prefix. -/
def declare (identity : String) (visibility : Visibility) (isStatic : Bool)
    (declarations : List (List String)) : Except SlotError Slot :=
  if named : identity = "" then .error .unnamedDeclaration
  else
    let tokens := choosePrefix declarations
    .ok {
      identity, visibility, isStatic
      prefixTokens := tokens
      canonicalName := composeName identity tokens "."
      identity_ne := named }

/-- A slot record taken as it is. -/
def ofRecord (identity : String) (visibility : Visibility) (isStatic : Bool)
    (prefixTokens : List String) (canonicalName : String) (finalized : Bool) :
    Except SlotError Slot :=
  if named : identity = "" then .error .unnamedRecord
  else
    .ok {
      identity, visibility, isStatic, prefixTokens, canonicalName, finalized
      identity_ne := named }

end Slot

end PermissionNames
