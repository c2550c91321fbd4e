import PermissionNames.Path
import PermissionNames.Text.Literal

/-! The dotted module path of a source file below a project root. -/

namespace PermissionNames

/-- A path without a last component, which therefore names no module. -/
structure UnnamedPath where
  path : Path
  deriving DecidableEq, Repr

/-- The wording for a path that names no module. -/
def UnnamedPath.message (error : UnnamedPath) : String :=
  "PosixPath(" ++ literalOf error.path.toString ++ ") has an empty name"

namespace ModuleName

/-- The components of a module, without a final `__init__` and then without a leading `src` that has something below it. -/
def reduce (parts : List String) : List String :=
  let kept := if parts.getLast? = some "__init__" then parts.dropLast else parts
  match kept with
  | "src" :: next :: rest => next :: rest
  | kept => kept

/-- The file relative to the root, or its bare name if it lies elsewhere. -/
def placeBelow (root file directory : Path) : Path :=
  match (file.resolve directory).relativeTo? (root.resolve directory) with
  | some path => path
  | none => Path.ofString file.name

/-- The dotted name of the module in a file, where relative paths start from a directory. -/
def ofFile (root file directory : Path) : Except UnnamedPath String :=
  let place := placeBelow root file directory
  if place.name = "" then .error ⟨place⟩
  else .ok (".".intercalate (reduce (place.withName place.stem).parts))

end ModuleName

end PermissionNames
