import PermissionNames.FileTree
import PermissionNames.Ignore.Line
import PermissionNames.Ignore.Pattern

/-! The ignore rules of a project: all its ignore files together, in the order of their paths. -/

namespace PermissionNames.Ignore

/-- Patterns in the order of their precedence, the last one strongest. -/
structure Rules where
  patterns : List Pattern
  deriving DecidableEq, Repr

/-- Why the rules of a project cannot be had. -/
inductive RulesError
  | unreadable (fault : FileFault)
  | pattern (cause : PatternError)
  deriving DecidableEq, Repr

/-- The name of an ignore file. -/
def fileName : String := ".gitignore"

/-- Reads patterns from their lines. -/
def readPatterns : List String → Except PatternError (List Pattern)
  | [] => .ok []
  | line :: rest =>
    match Pattern.read line with
    | .error cause => .error cause
    | .ok pattern => (readPatterns rest).map (pattern.toList ++ ·)

/-- The lines of one ignore file, rewritten to the root. -/
def rootLines (tree : FileTree) (root file : Path) : Except FileFault (List String) :=
  (tree.readText file).map fun text =>
    let base := "/".intercalate (file.parent.parts.drop root.parts.length)
    (splitLines (String.ofList text)).map (rebaseIgnoreLine base)

/-- The lines of several ignore files, up to the first that cannot be read. -/
def allLines (tree : FileTree) (root : Path) : List Path → Except FileFault (List String)
  | [] => .ok []
  | file :: rest =>
    match rootLines tree root file with
    | .error fault => .error fault
    | .ok lines => (allLines tree root rest).map (lines ++ ·)

namespace Rules

/-- The rules of all ignore files below a root. -/
def ofProject (tree : FileTree) (root : Path) : Except RulesError Rules :=
  match allLines tree root (tree.below root (· == fileName)) with
  | .error fault => .error (.unreadable fault)
  | .ok lines =>
    match readPatterns lines with
    | .error cause => .error (.pattern cause)
    | .ok patterns => .ok ⟨patterns⟩

/-- The patterns that match a path, each with whether it matches as a directory. -/
def found (rules : Rules) (path : List Char) : List (Pattern × Bool) :=
  rules.patterns.filterMap fun pattern =>
    (pattern.shape.match? path).map fun asDirectory => (pattern, asDirectory)

/-- What the strongest match of a path says: the last one of the path itself, or else the last one of a directory. -/
def verdict (rules : Rules) (path : List Char) : Bool :=
  let found := rules.found path
  match (found.filter (!·.2)).getLast? with
  | some (pattern, _) => pattern.ignores
  | none =>
    match found.getLast? with
    | some (pattern, _) => pattern.ignores
    | none => false

/-- A relative path without slashes around it. -/
def trimSlashes (path : List Char) : List Char :=
  ((path.dropWhile (· == '/')).reverse.dropWhile (· == '/')).reverse

/-- Whether a relative path is ignored. -/
def ignores (rules : Rules) (path : String) : Bool :=
  let trimmed := trimSlashes path.toList
  if trimmed = [] then false
  else
    match trimmed with
    | '.' :: '/' :: rest => rules.verdict rest
    | rest => rules.verdict rest

end Rules

end PermissionNames.Ignore
