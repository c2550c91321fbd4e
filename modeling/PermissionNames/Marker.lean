import PermissionNames.Container
import PermissionNames.Text.Literal

/-! The markers that declare a container and its prefixes, as values. -/

namespace PermissionNames

/-- The kind of container that a marker declares. -/
def ContainerKind.ofMarker? : String → Option ContainerKind
  | "permissions_store" => some .store
  | "permissions_repo" => some .repo
  | _ => none

/-- The value of an enumeration that a text does not denote. -/
structure NotAMember where
  /-- The text that was given. -/
  word : String
  /-- The name of the enumeration. -/
  enumeration : String
  deriving DecidableEq, Repr

/-- The wording for a text that denotes no value of an enumeration. -/
def NotAMember.message (error : NotAMember) : String :=
  literalOf error.word ++ " is not a valid " ++ error.enumeration

/-- The visibility that a text denotes. -/
def Visibility.read (word : String) : Except NotAMember Visibility :=
  match ofText? word with
  | some visibility => .ok visibility
  | none => .error ⟨word, "Visibility"⟩

/-- The number of binary digits of a number. -/
def bitLength (n : Nat) : Nat :=
  if n = 0 then 0 else n.log2 + 1

/-- The bits that a marker records: unknown ones stay, and a negative number is completed to the next power of two that covers the four known ones. -/
def recordedBits (bits : Int) : Nat :=
  if 0 ≤ bits then bits.toNat
  else if -16 ≤ bits then (bits + 16).toNat
  else ((Nat.pow 2 (bitLength bits.natAbs) : Int) + bits).toNat

/-- A prefix declaration written as a call. -/
def prefixCall (tokens : List String) : String :=
  "Prefix(" ++ ", ".intercalate (tokens.map literalOf) ++ ")"

end PermissionNames
