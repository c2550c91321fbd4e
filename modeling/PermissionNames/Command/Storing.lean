import PermissionNames.Batch
import PermissionNames.FileTree

/-! Generated sources stored below an output directory, each as a whole or not at all. -/

namespace PermissionNames.Command

/-- A change of a file tree that may fail; what was changed before a failure stays. -/
abbrev TreeAction := ExceptT FileFault (StateM FileTree)

namespace TreeAction

/-- What a file tree answers. -/
def ask {α : Type} (question : FileTree → Except FileFault α) : TreeAction α := do
  match question (← get) with
  | .ok answer => return answer
  | .error fault => throw fault

/-- A change that happens as a whole or not at all. -/
def change (step : FileTree → Except FileFault FileTree) : TreeAction Unit := do
  set (← ask step)

/-- A change that may be left half done. -/
def attempt (step : FileTree → FileTree × Except FileFault Unit) : TreeAction Unit := do
  let (tree, outcome) := step (← get)
  set tree
  match outcome with
  | .ok () => return ()
  | .error fault => throw fault

end TreeAction

/-- Whether a file had to be written. -/
inductive Storage
  | written
  | unchanged
  deriving DecidableEq, Repr

/-- The file that a text is written to before it replaces another. -/
def temporary (target : Path) : Path :=
  target.withName (target.name ++ ".tmp")

/-- Whether a file is there and holds a text. -/
def holds (target : Path) (text : String) : TreeAction Bool := do
  if ← TreeAction.ask (·.exists? target) then
    return (← TreeAction.ask (·.readText target)) == text.toList
  else return false

/-- Puts a text in the place of what stands under a path, through its temporary file; that one stays empty if the text cannot be encoded. -/
def replaceText (target : Path) (text : String) (isEncodable : Bool) : TreeAction Storage := do
  if isEncodable then
    TreeAction.change (·.writeFile (temporary target) (Utf8.encode text.toList))
    TreeAction.change (·.moveFile (temporary target) target)
    return .written
  else
    TreeAction.change (·.writeFile (temporary target) [])
    throw .unencodable

/-- Stores a text under a path, unless it is there. -/
def storeText (target : Path) (text : String) (isEncodable : Bool) : TreeAction Storage := do
  if (← holds target text) && isEncodable then return .unchanged
  else
    TreeAction.attempt (·.makeDirectories target.parent)
    replaceText target text isEncodable

/-- Stores sources below a directory, one after the other, up to the first that fails. -/
def storeAll (output : Path) (sources : List GeneratedSource) : TreeAction (List Storage) :=
  sources.mapM fun source =>
    storeText (output.join (.ofString source.path)) source.text source.isEncodable

end PermissionNames.Command
