import PermissionNames.Command.Arguments
import PermissionNames.Command.Report
import PermissionNames.Command.Storing
import PermissionNames.Discovery.Tree
import PermissionNames.Ignore.Rules

/-! A run of the command: sources are selected, containers found, names generated and stored. -/

namespace PermissionNames.Command

open Discovery

/-- Why a run ends without a report. -/
inductive Abort
  | file (fault : FileFault)
  | pattern (cause : Ignore.PatternError)
  /-- A name that has to be digested cannot be encoded, as a surrogate stands in it. -/
  | encoding
  deriving DecidableEq, Repr

/-- The file tree after a run, and what the run tells. -/
structure Outcome where
  tree : FileTree
  result : Except Abort Report

/-- How containers are found in the selected files of an input. -/
abbrev Finder := FileTree → Path → List Path → TreeFindings

/-- Finds containers in source text. -/
def findInSources : Finder := fun tree input files =>
  Project.find ⟨tree, ⟨.root, []⟩, input⟩ (some files)

/-- What a run works with. -/
structure Settings where
  input : Path
  output : Path
  options : Options
  deriving DecidableEq, Repr

/-- Whether something stands at a path; a path that cannot be looked up ends the run. -/
def lookUp (tree : FileTree) (path : Path) : Except (Abort ⊕ ValidationError) Bool :=
  match tree.exists? path with
  | .ok found => .ok found
  | .error fault => .error (.inl (.file fault))

/-- Checks paths, and then options, before any work is done. -/
def validate (tree : FileTree) (directory : Path) (arguments : Arguments) :
    Except (Abort ⊕ ValidationError) Settings := do
  if holdsNull arguments.input || holdsNull arguments.output then
    throw (.inr .nullCharacter)
  let input := (Path.ofString arguments.input).resolve directory
  let output := (Path.ofString arguments.output).resolve directory
  if !(← lookUp tree input) then throw (.inr (.inputMissing input))
  if tree.isFile input && input.suffix != ".py" then throw (.inr (.inputNoModule input))
  if (← lookUp tree output) && !tree.isDirectory output then
    throw (.inr (.outputNoDirectory output))
  match Options.check arguments.dialect.name arguments.hashAlgorithm arguments.maxWorkers with
  | .ok options => return ⟨input, output, options⟩
  | .error cause => throw (.inr (.options cause))

/-- The name of directories whose content is never selected. -/
def hiddenDirectory : String := ".git"

/-- Whether a file below a root is selected under ignore rules. -/
def isSelected (rules : Ignore.Rules) (root file : Path) : Bool :=
  let parts := file.parts.drop root.parts.length
  !parts.contains hiddenDirectory && !rules.ignores ("/".intercalate parts)

/-- The source files of an input in the order of their paths. -/
def selectFiles (tree : FileTree) (input : Path) : Except Ignore.RulesError (List Path) :=
  if tree.isFile input then .ok [input]
  else
    (Ignore.Rules.ofProject tree input).map fun rules =>
      (tree.below input Project.isSourceName).filter (isSelected rules input)

/-- The number of slots of containers. -/
def slotCount (containers : List Container) : Nat :=
  containers.foldl (fun count container => count + container.slots.length) 0

/-- Whether names of a container have to be digested that cannot be encoded. -/
def isUndigestible (found : Found) : Bool :=
  found.container.reEmittable && found.container.effectiveFlags.obfuscate && !found.isEncodable

/-- A source that can be encoded if the names in its container can. -/
def encodedAs (found : Found) (source : GeneratedSource) : GeneratedSource :=
  { source with isEncodable := found.isEncodable }

/-- What a batch of containers that are found yields. -/
def generate (found : List Found) (options : Options) : Except BatchError BatchResult :=
  (Batch.generate (found.map (·.container)) options).outcome.map fun result =>
    let emitted := found.filter (·.container.reEmittable)
    { result with sources := List.zipWith encodedAs emitted result.sources }

/-- Whether a fault of storing is told in a report; any other one ends the run at once. -/
def isReported : FileFault → Bool
  | .system .. => true
  | .undecodable _ => true
  | .nullCharacter => false
  | .unencodable => false

/-- Stores the result of a batch and tells how that went, after the progress so far. -/
def storeResult (tree : FileTree) (output : Path) (progress : List Progress)
    (result : BatchResult) : Outcome :=
  let complaints := result.diagnostics.map Complaint.finding
  match ((storeAll output result.sources).run).run tree with
  | (.error fault, tree) =>
    if isReported fault then
      ⟨tree, .ok ⟨Report.failure, progress, complaints ++ [.writing fault]⟩⟩
    else ⟨tree, .error (.file fault)⟩
  | (.ok stored, tree) =>
    let withErrors := result.hasErrors
    let written := stored.count .written
    let unchanged := stored.count .unchanged
    ⟨tree, .ok {
      exitCode := if withErrors then Report.completedWithErrors else Report.success
      progress := progress ++
        [.finished .write, .stored written unchanged, .completed withErrors]
      complaints }⟩

/-- Generates names for the containers that are found and stores them, after the progress so far. -/
def generateAll (tree : FileTree) (settings : Settings) (progress : List Progress)
    (found : List Found) : Outcome :=
  let started := progress ++ [.started .generation]
  if found.any isUndigestible then ⟨tree, .error .encoding⟩
  else
    match generate found settings.options with
    | .error cause => ⟨tree, .ok ⟨Report.failure, started, [.generation cause]⟩⟩
    | .ok result =>
      let emitted := result.sources.length
      storeResult tree settings.output
        (started ++ [.finished .generation,
          .generated emitted (found.length - emitted) result.diagnostics.length,
          .started .write])
        result

/-- Does the work of a run whose settings are valid. -/
def work (find : Finder) (tree : FileTree) (settings : Settings) : Outcome :=
  let started : List Progress :=
    [.started .validation, .finished .validation, .started .discovery]
  match selectFiles tree settings.input with
  | .error (.pattern cause) => ⟨tree, .error (.pattern cause)⟩
  | .error (.unreadable fault) =>
    ⟨tree, .ok ⟨Report.failure, started, [.ignoreFiles fault]⟩⟩
  | .ok files =>
    let findings := find tree settings.input files
    let containers := findings.containers
    generateAll tree settings
      (started ++ [.finished .discovery,
        .discovered files.length findings.failures.length containers.length
          (slotCount containers)])
      findings.found

/-- Runs the command in a directory of a file tree; words that make no command line end it at once. -/
def runWith (find : Finder) (tree : FileTree) (directory : Path) (words : List String) : Outcome :=
  match Arguments.read words with
  | none => ⟨tree, .ok ⟨Report.failure, [], []⟩⟩
  | some arguments =>
    match validate tree directory arguments with
    | .error (.inl cause) => ⟨tree, .error cause⟩
    | .error (.inr cause) =>
      ⟨tree, .ok ⟨Report.failure, [.started .validation], [.validation cause]⟩⟩
    | .ok settings => work find tree settings

/-- Runs the command on source text. -/
def run (tree : FileTree) (directory : Path) (words : List String) : Outcome :=
  runWith findInSources tree directory words

end PermissionNames.Command
