import PermissionNames.Discovery.Declared
import PermissionNames.FileTree
import PermissionNames.ModuleName

/-! The containers in the source files of a file tree, and the files that could not be used. -/

namespace PermissionNames.Discovery

/-- What is found in source files. -/
structure TreeFindings where
  found : List Found := []
  /-- The paths of the files that could not be used. -/
  failures : List String := []
  deriving DecidableEq, Repr

/-- The containers alone. -/
def TreeFindings.containers (findings : TreeFindings) : List Container :=
  findings.found.map (·.container)

/-- Findings followed by later ones. -/
def TreeFindings.append (first second : TreeFindings) : TreeFindings :=
  ⟨first.found ++ second.found, first.failures ++ second.failures⟩

/-- Where files are looked for. -/
structure Project where
  tree : FileTree
  /-- The directory that relative paths start from. -/
  directory : Path
  /-- A source file, or a directory of source files. -/
  root : Path

namespace Project

/-- Whether a file name is that of a source file. -/
def isSourceName (name : String) : Bool :=
  ".py".toList.isSuffixOf name.toList

/-- Whether the root is a file. -/
def isFile (project : Project) : Bool :=
  project.tree.isFile (project.directory.join project.root)

/-- The directory that files are named from. -/
def base (project : Project) : Path :=
  if project.isFile then project.root.parent else project.root

/-- The path of an entry by its components below a directory. -/
def below (project : Project) (path : Path) : List Path :=
  match project.tree.walk [] (project.directory.join path).parts with
  | .error _ => []
  | .ok place =>
    (project.tree.below ⟨.root, place⟩ isSourceName).map fun found =>
      { path with parts := path.parts ++ found.parts.drop place.length }

/-- The source files of the project. -/
def sourceFiles (project : Project) : List Path :=
  if project.isFile then [project.root] else project.below project.root

/-- The path that a file is reported by: from the base on if it lies below it. -/
def shownPath (project : Project) (file : Path) : String :=
  ((file.relativeTo? project.base).getD file).toString

/-- What one file declares, unless something about it fails. -/
def declaredIn (project : Project) (file : Path) : Option (List Found) :=
  match project.tree.readText (project.directory.join file) with
  | .error _ => none
  | .ok text =>
    match ModuleName.ofFile project.base file project.directory with
    | .error _ => none
    | .ok moduleName =>
      match ofSource (String.ofList text) moduleName (some (project.shownPath file)) with
      | .ok findings => some findings.found
      | .error _ => none

/-- What is found in one file: its containers, or the failure of the file as a whole. -/
def findIn (project : Project) (file : Path) : TreeFindings :=
  match project.declaredIn file with
  | some found => ⟨found, []⟩
  | none => ⟨[], [project.shownPath file]⟩

/-- What is found in files, in the order of their paths; without files, in all source files of the project. -/
def find (project : Project) (files : Option (List Path) := none) : TreeFindings :=
  (Path.sort (files.getD project.sourceFiles)).foldr
    (fun file later => (project.findIn file).append later) {}

/-- What is found in files, unless the name of the root is too long to be looked up. -/
def find? (project : Project) (files : Option (List Path) := none) :
    Except FileFault TreeFindings :=
  match project.tree.exists? (project.directory.join project.root) with
  | .error _ => .error (.system .nameTooLong project.root.toString)
  | .ok _ => .ok (project.find files)

end Project

end PermissionNames.Discovery
