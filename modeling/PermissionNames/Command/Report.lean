import PermissionNames.Batch
import PermissionNames.FileTree

/-! What a run of the command tells: its progress, its complaints, and its exit code. -/

namespace PermissionNames.Command

/-- The phases of a run, in their order. -/
inductive Phase
  | validation
  | discovery
  | generation
  | write
  deriving DecidableEq, Repr

/-- The name of a phase. -/
def Phase.name : Phase → String
  | validation => "validation"
  | discovery => "discovery"
  | generation => "generation"
  | write => "write"

/-- One step of progress. -/
inductive Progress
  | started (phase : Phase)
  | finished (phase : Phase)
  /-- The numbers of source files, of those that could not be used, of containers and of slots. -/
  | discovered (files failures containers slots : Nat)
  /-- The numbers of containers with and without a source, and of findings. -/
  | generated (emitted skipped diagnostics : Nat)
  /-- The numbers of files that were written and of those that were as they should be. -/
  | stored (written unchanged : Nat)
  | completed (withErrors : Bool)
  deriving DecidableEq, Repr

/-- A number with its name. -/
def counter (name : String) (value : Nat) : String :=
  name ++ "=" ++ Nat.repr value

/-- The line that shows a step of progress. -/
def Progress.line : Progress → String
  | started phase => phase.name ++ ":start"
  | finished phase => phase.name ++ ":done"
  | discovered files failures containers slots =>
    " ".intercalate [counter "python_files_discovered" files,
      counter "python_files_failed" failures, counter "containers_discovered" containers,
      counter "slots_discovered" slots]
  | generated emitted skipped diagnostics =>
    " ".intercalate [counter "containers_emitted" emitted, counter "containers_skipped" skipped,
      counter "diagnostics" diagnostics]
  | stored written unchanged =>
    " ".intercalate [counter "files_written" written, counter "files_unchanged" unchanged]
  | completed true => "status=completed_with_errors"
  | completed false => "status=success"

/-- Why a run is refused before it starts its work. -/
inductive ValidationError
  | nullCharacter
  | inputMissing (path : Path)
  | inputNoModule (path : Path)
  | outputNoDirectory (path : Path)
  | options (cause : OptionsError)
  deriving DecidableEq, Repr

/-- The wording of a validation error. -/
def ValidationError.message : ValidationError → String
  | nullCharacter => "lstat: embedded null character in path"
  | inputMissing path => "Input path does not exist: " ++ path.toString
  | inputNoModule path => "Input file must be a Python module: " ++ path.toString
  | outputNoDirectory path => "Output path must be a directory: " ++ path.toString
  | options cause => cause.message

/-- What a run complains about. -/
inductive Complaint
  | validation (cause : ValidationError)
  | ignoreFiles (fault : FileFault)
  | generation (cause : BatchError)
  | finding (diagnostic : Diagnostic)
  | writing (fault : FileFault)
  deriving DecidableEq, Repr

/-- The line that shows a complaint. -/
def Complaint.line : Complaint → String
  | validation cause => cause.message
  | ignoreFiles fault => "Failed to read .gitignore files: " ++ fault.message
  | generation cause => "Generation failed: " ++ cause.message
  | finding diagnostic => diagnostic.line
  | writing fault => "Write failed: " ++ fault.message

/-- What a run tells when it ends. -/
structure Report where
  exitCode : Nat
  progress : List Progress := []
  complaints : List Complaint := []
  deriving DecidableEq, Repr

namespace Report

/-- The exit code of a run that did all its work without complaint. -/
def success : Nat := 0

/-- The exit code of a run that did its work and has findings that are errors. -/
def completedWithErrors : Nat := 1

/-- The exit code of a run that was given up. -/
def failure : Nat := 2

/-- The text of the complaints, each on a line. -/
def complaintText (report : Report) : String :=
  String.join (report.complaints.map fun complaint => complaint.line ++ "\n")

end Report

end PermissionNames.Command
