import PermissionNames.Text.Casing

/-! Identifiers cut into lower-case segments, which periods separate. -/

namespace PermissionNames.Segment

/-- Whether the character is a basic Latin capital, before which a segment may start. -/
def isCapital (c : Char) : Bool :=
  'A' ≤ c && c ≤ 'Z'

/-- Puts a period before every capital. -/
def separateAll : List Char → List Char
  | [] => []
  | c :: rest => if isCapital c then '.' :: c :: separateAll rest else c :: separateAll rest

/-- Puts a period before every capital of a chunk except one at its start. -/
def separate : List Char → List Char
  | [] => []
  | c :: rest => c :: separateAll rest

/-- The chunks between periods; a text without a period is one chunk. -/
def chunks : List Char → List (List Char)
  | [] => [[]]
  | c :: rest =>
    if c = '.' then [] :: chunks rest
    else
      match chunks rest with
      | [] => [[c]]
      | first :: others => (c :: first) :: others

/-- Separates every chunk and joins the chunks again, before any change of case. -/
def boundaries (identifier : List Char) : List Char :=
  ['.'].intercalate ((chunks identifier).map separate)

/-- The segmented form of an identifier. -/
def segment (identifier : List Char) : List Char :=
  Casing.lower (boundaries identifier)

end PermissionNames.Segment

namespace PermissionNames

/-- The lower-case segments of an identifier, joined by periods. -/
def segmented (identifier : String) : String :=
  String.ofList (Segment.segment identifier.toList)

end PermissionNames
