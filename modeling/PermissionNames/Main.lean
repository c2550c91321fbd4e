import PermissionNames.Command.Run

/-! The command as a program: it reads directories, runs on them as a value, and writes what has changed. -/

namespace PermissionNames.Program

/-- The system's path of a place. -/
def systemPath (place : List String) : String :=
  (Path.mk .root place).toString

/-- Whether the content of a file can matter to a run; of any other file its presence alone does. -/
def isRead (name : String) : Bool :=
  [".py", ".g.cs", ".gitignore"].any fun ending => ending.toList.isSuffixOf name.toList

/-- The content of a file as far as it can matter. -/
def content (place : List String) : IO (List UInt8) := do
  if isRead (place.getLast?.getD "") then
    return (← IO.FS.readBinFile (systemPath place)).toList
  else return []

/-- Adds a place and all that lies below it; directories behind links stay empty. -/
partial def load (tree : FileTree) (place : List String) : IO FileTree := do
  let path := System.mkFilePath [systemPath place]
  if !(← path.pathExists) then return tree
  else if ← path.isDir then
    let tree := tree.put place .directory
    if (← path.symlinkMetadata).type == .symlink then return tree
    else
      (← path.readDir).foldlM (fun tree entry => load tree (place ++ [entry.fileName])) tree
  else return tree.put place (.file (← content place))

/-- Adds the directories and files that a path leads through, from the root on. -/
def loadAncestors (tree : FileTree) (place : List String) : IO FileTree :=
  (List.range place.length).foldlM (fun tree depth => do
    let above := place.take depth
    let path := System.mkFilePath [systemPath above]
    if above = [] || !(← path.pathExists) then return tree
    else if ← path.isDir then return tree.put above .directory
    else return tree.put above (.file [])) tree

/-- Adds what a path of the command line names. -/
def loadNamed (directory : Path) (tree : FileTree) (name : String) : IO FileTree := do
  let place := ((Path.ofString name).resolve directory).parts
  load (← loadAncestors tree place) place

/-- Writes the directories and files that the first tree lacks or holds with other content. -/
def store (before after : FileTree) : IO Unit := do
  for (place, entry) in after.entries do
    if entry == .directory && (before.entry? place).isNone then
      IO.FS.createDirAll (systemPath place)
  for (place, bytes) in before.changes after do
    let path := systemPath place
    let temporary := path ++ ".tmp"
    IO.FS.writeBinFile temporary ⟨bytes.toArray⟩
    IO.FS.rename temporary path

/-- How the command is called. -/
def usage : String :=
  "usage: --input PATH --output DIRECTORY [--dialect python|csharp] [--hash-algorithm NAME] " ++
    "[--max-workers NUMBER] [--verbose]"

/-- Shows what a run tells, and gives its exit code. -/
def tell (report : Command.Report) : IO UInt32 := do
  for step in report.progress do
    IO.println step.line
  if report.progress.isEmpty then
    IO.eprintln usage
  IO.eprint report.complaintText
  return UInt32.ofNat report.exitCode

/-- The wording of why a run ends without a report. -/
def abortMessage : Command.Abort → String
  | .file fault => fault.message
  | .pattern cause => cause.message
  | .encoding => FileFault.unencodable.message

end PermissionNames.Program

open PermissionNames in
/-- Runs the command in the current directory. -/
def main (words : List String) : IO UInt32 := do
  let directory := Path.ofString (← IO.currentDir).toString
  let named := match Command.Arguments.read words with
    | some arguments => [arguments.input, arguments.output].filter fun name => !holdsNull name
    | none => []
  let tree ← named.foldlM (Program.loadNamed directory) FileTree.empty
  let outcome := Command.run tree directory words
  Program.store tree outcome.tree
  match outcome.result with
  | .ok report => Program.tell report
  | .error abort =>
    IO.eprintln (Program.abortMessage abort)
    return 1
