import PermissionNames.Path
import PermissionNames.Text.Literal
import PermissionNames.Text.Utf8

/-! File trees as values: what reading, creating and replacing does to them, and how each can fail. -/

namespace PermissionNames

/-- What stands at a place of a file tree. -/
inductive FileEntry
  | directory
  | file (bytes : List UInt8)
  deriving DecidableEq, Repr

/-- Files and directories by their components below the root, which is always there. -/
structure FileTree where
  entries : List (List String × FileEntry)
  deriving DecidableEq, Repr

/-- Why an operation on a file tree fails. -/
inductive FileProblem
  | notFound
  | alreadyExists
  | notADirectory
  | isADirectory
  | nameTooLong
  deriving DecidableEq, Repr

namespace FileProblem

/-- The system's number of a problem. -/
def number : FileProblem → Nat
  | notFound => 2
  | alreadyExists => 17
  | notADirectory => 20
  | isADirectory => 21
  | nameTooLong => 36

/-- The system's text for a problem. -/
def text : FileProblem → String
  | notFound => "No such file or directory"
  | alreadyExists => "File exists"
  | notADirectory => "Not a directory"
  | isADirectory => "Is a directory"
  | nameTooLong => "File name too long"

end FileProblem

/-- Why a file cannot be read or written. -/
inductive FileFault
  /-- The system refuses the path. -/
  | system (problem : FileProblem) (path : String)
  /-- The content is not UTF-8. -/
  | undecodable (fault : Utf8.Fault)
  /-- The path holds a null character. -/
  | nullCharacter
  /-- The content cannot be encoded, as a surrogate stands in it. -/
  | unencodable
  deriving DecidableEq, Repr

/-- The wording of a file fault. -/
def FileFault.message : FileFault → String
  | system problem path =>
    "[Errno " ++ Nat.repr problem.number ++ "] " ++ problem.text ++ ": " ++ literalOf path
  | undecodable fault => fault.message
  | nullCharacter => "embedded null byte"
  | unencodable => "surrogates not allowed"

/-- The greatest number of bytes in the name of one file. -/
def longestName : Nat := 255

/-- The greatest number of bytes in a path. -/
def longestPath : Nat := 4095

/-- Whether a text holds a null character. -/
def holdsNull (text : String) : Bool :=
  text.toList.contains '\x00'

/-- Whether a path has more bytes than the system takes. -/
def isOversized (path : Path) : Bool :=
  path.toString.utf8ByteSize > longestPath

namespace FileTree

/-- The tree with nothing but its root. -/
def empty : FileTree := ⟨[]⟩

/-- What stands at a place. -/
def entry? (tree : FileTree) (place : List String) : Option FileEntry :=
  if place = [] then some .directory else tree.entries.lookup place

/-- Puts an entry at a place, whatever stood there. -/
def put (tree : FileTree) (place : List String) (entry : FileEntry) : FileTree :=
  if tree.entries.any (·.1 == place) then
    ⟨tree.entries.map fun (at_, old) => (at_, if at_ = place then entry else old)⟩
  else
    ⟨tree.entries ++ [(place, entry)]⟩

/-- Takes away a place and everything below it. -/
def remove (tree : FileTree) (place : List String) : FileTree :=
  ⟨tree.entries.filter fun (at_, _) => !place.isPrefixOf at_⟩

/-- Puts an entry at a place and directories above it wherever nothing stands. -/
def putDeep (tree : FileTree) (place : List String) (entry : FileEntry) : FileTree :=
  let ancestors := (List.range place.length).map fun i => place.take i
  let prepared := ancestors.foldl
    (fun tree above => if (tree.entry? above).isSome then tree else tree.put above .directory) tree
  prepared.put place entry

/-- Follows components from a place; a pair of periods climbs one place. -/
def walk (tree : FileTree) : List String → List String → Except FileProblem (List String)
  | place, [] => .ok place
  | place, part :: rest =>
    match tree.entry? place with
    | none => .error .notFound
    | some (.file _) => .error .notADirectory
    | some .directory =>
      if part = ".." then walk tree place.dropLast rest
      else if part.utf8ByteSize > longestName then .error .nameTooLong
      else
        match tree.entry? (place ++ [part]) with
        | none => .error .notFound
        | some _ => walk tree (place ++ [part]) rest

/-- What a path from the root leads to. -/
def status (tree : FileTree) (path : Path) : Except FileProblem FileEntry :=
  match tree.walk [] path.parts with
  | .error problem => .error problem
  | .ok place =>
    match tree.entry? place with
    | some entry => .ok entry
    | none => .error .notFound

/-- Whether something stands at a path; only an overlong path or name cannot be answered. -/
def exists? (tree : FileTree) (path : Path) : Except FileFault Bool :=
  if holdsNull path.toString then .ok false
  else if isOversized path then .error (.system .nameTooLong path.toString)
  else
    match tree.status path with
    | .ok _ => .ok true
    | .error .nameTooLong => .error (.system .nameTooLong path.toString)
    | .error _ => .ok false

/-- Whether a path leads to a directory. -/
def isDirectory (tree : FileTree) (path : Path) : Bool :=
  match tree.status path with
  | .ok .directory => true
  | _ => false

/-- Whether a path leads to a file. -/
def isFile (tree : FileTree) (path : Path) : Bool :=
  match tree.status path with
  | .ok (.file _) => true
  | _ => false

/-- The text of a file, with every line end a newline. -/
def readText (tree : FileTree) (path : Path) : Except FileFault (List Char) :=
  if holdsNull path.toString then .error .nullCharacter
  else if isOversized path then .error (.system .nameTooLong path.toString)
  else
    match tree.status path with
    | .error problem => .error (.system problem path.toString)
    | .ok .directory => .error (.system .isADirectory path.toString)
    | .ok (.file bytes) =>
      match Utf8.decode bytes with
      | .ok text => .ok (unifyNewlines text)
      | .error fault => .error (.undecodable fault)

/-- The place that a path names, in a directory that is there. -/
def target (tree : FileTree) (path : Path) : Except FileProblem (List String) :=
  match path.parts.getLast? with
  | none => .ok []
  | some last =>
    match tree.walk [] path.parts.dropLast with
    | .error problem => .error problem
    | .ok place =>
      match tree.entry? place with
      | some .directory =>
        if last = ".." then .ok place.dropLast
        else if last.utf8ByteSize > longestName then .error .nameTooLong
        else .ok (place ++ [last])
      | some (.file _) => .error .notADirectory
      | none => .error .notFound

/-- Makes one directory, in a directory that is there. -/
def makeDirectory (tree : FileTree) (path : Path) : Except FileProblem FileTree :=
  match tree.target path with
  | .error problem => .error problem
  | .ok place =>
    if (tree.entry? place).isSome then .error .alreadyExists
    else .ok (tree.put place .directory)

/-- Accepts a directory that could not be made because it is there. -/
def tolerate (tree : FileTree) (path : Path) (problem : FileProblem) :
    FileTree × Except FileFault Unit :=
  (tree, if tree.isDirectory path then .ok () else .error (.system problem path.toString))

/-- Makes a directory, given by its reversed components, and those above it; what was made before a failure stays. -/
def makeAll (tree : FileTree) : List String → FileTree × Except FileFault Unit
  | [] => (tree, .ok ())
  | part :: above =>
    let path : Path := ⟨.root, (part :: above).reverse⟩
    match tree.makeDirectory path with
    | .ok tree => (tree, .ok ())
    | .error .notFound =>
      match makeAll tree above with
      | (tree, .error fault) => (tree, .error fault)
      | (tree, .ok ()) =>
        match tree.makeDirectory path with
        | .ok tree => (tree, .ok ())
        | .error .notFound => (tree, .error (.system .notFound path.toString))
        | .error problem => tree.tolerate path problem
    | .error problem => tree.tolerate path problem

/-- Makes a directory and those above it, unless they are there. -/
def makeDirectories (tree : FileTree) (path : Path) : FileTree × Except FileFault Unit :=
  if holdsNull path.toString then (tree, .error .nullCharacter)
  else if isOversized path then (tree, .error (.system .nameTooLong path.toString))
  else tree.makeAll path.parts.reverse

/-- Writes a file, in a directory that is there. -/
def writeFile (tree : FileTree) (path : Path) (bytes : List UInt8) : Except FileFault FileTree :=
  if holdsNull path.toString then .error .nullCharacter
  else if isOversized path then .error (.system .nameTooLong path.toString)
  else
    match tree.target path with
    | .error problem => .error (.system problem path.toString)
    | .ok place =>
      match tree.entry? place with
      | some .directory => .error (.system .isADirectory path.toString)
      | _ => .ok (tree.put place (.file bytes))

/-- Moves a file to another path, where it replaces a file. -/
def moveFile (tree : FileTree) (source destination : Path) : Except FileFault FileTree :=
  match tree.target source, tree.target destination with
  | .error problem, _ => .error (.system problem source.toString)
  | _, .error problem => .error (.system problem destination.toString)
  | .ok origin, .ok place =>
    match tree.entry? origin, tree.entry? place with
    | some (.file _), some .directory => .error (.system .isADirectory destination.toString)
    | some (.file bytes), _ =>
      if origin = place then .ok tree
      else .ok ((tree.remove origin).put place (.file bytes))
    | _, _ => .error (.system .notFound source.toString)

/-- The paths of all entries strictly below a directory whose name satisfies a test, in rising order. -/
def below (tree : FileTree) (directory : Path) (wanted : String → Bool) : List Path :=
  let places := tree.entries.filterMap fun (place, _) =>
    if directory.parts.isPrefixOf place && directory.parts.length < place.length &&
        wanted (place.getLast?.getD "") then
      some (Path.mk directory.anchor place)
    else none
  Path.sort places

/-- The files of the second tree that the first lacks or holds with other content. -/
def changes (before after : FileTree) : List (List String × List UInt8) :=
  after.entries.filterMap fun (place, entry) =>
    match entry with
    | .directory => none
    | .file bytes => if before.entry? place = some (.file bytes) then none else some (place, bytes)

end FileTree

end PermissionNames
