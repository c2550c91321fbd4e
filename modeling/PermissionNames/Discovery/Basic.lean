import PermissionNames.Container
import PermissionNames.Source.Reading
import PermissionNames.Source.Written

/-! What can go wrong while containers are found in source text, and what is noticed. -/

namespace PermissionNames.Discovery

/-- Why the containers of a text cannot be told. -/
inductive DiscoveryError
  | reading (cause : Source.ReadingError)
  /-- An expression that has to be shown cannot be written. -/
  | writing (cause : Source.WritingError)
  /-- A text that has to be read cannot be encoded, as a surrogate stands in it. -/
  | encoding
  | slot (cause : SlotError)
  deriving DecidableEq, Repr

/-- A container whose options cannot be evaluated. -/
structure UnsupportedFlags where
  container : String
  expression : String
  deriving DecidableEq, Repr

/-- The wording of what is noticed about options. -/
def UnsupportedFlags.message (notice : UnsupportedFlags) : String :=
  "Unsupported flags expression; using no flags (container=" ++ notice.container ++
    " expression=" ++ notice.expression ++ ")"

/-- A container that is found in source text. -/
structure Found where
  /-- The container; where a surrogate stands in a text of it, another character shows that. -/
  container : Container
  /-- Whether the names of all its slots can be encoded, as no surrogates stand in them. -/
  isEncodable : Bool := true
  deriving DecidableEq, Repr

instance : Coe Container Found := ⟨fun container => { container }⟩

/-- The containers of a text, and what was noticed about them. -/
structure Findings where
  found : List Found := []
  notices : List UnsupportedFlags := []
  deriving DecidableEq, Repr

/-- The containers alone. -/
def Findings.containers (findings : Findings) : List Container :=
  findings.found.map (·.container)

/-- Findings followed by later ones. -/
def Findings.append (first second : Findings) : Findings :=
  ⟨first.found ++ second.found, first.notices ++ second.notices⟩

end PermissionNames.Discovery
