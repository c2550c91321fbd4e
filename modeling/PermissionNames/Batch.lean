import PermissionNames.Diagnostic
import PermissionNames.GeneratedSource
import PermissionNames.Transform

/-! Batches of containers: what is generated, what is reported, and why a batch is given up. -/

namespace PermissionNames

/-- Why options are refused. -/
inductive OptionsError
  | dialect
  | maxWorkers
  | algorithm (cause : AlgorithmError)
  deriving DecidableEq, Repr

/-- The wording of an options error. -/
def OptionsError.message : OptionsError → String
  | dialect => DialectError.message .notAChoice
  | maxWorkers => "max_workers must be > 0"
  | algorithm cause => cause.message

/-- Settings of a whole batch. -/
structure Options where
  dialect : Dialect := .python
  algorithm : Algorithm := .sha256
  /-- The greatest number of containers in work at once. -/
  maxWorkers : Nat := 4
  maxWorkers_pos : 0 < maxWorkers := by decide
  deriving DecidableEq, Repr

/-- Checks the dialect, the number of workers and the algorithm, in this order. -/
def Options.check (dialect algorithm : String) (maxWorkers : Int) : Except OptionsError Options :=
  match Dialect.named? dialect with
  | none => .error .dialect
  | some dialect =>
    if positive : 0 < maxWorkers then
      match Algorithm.select algorithm with
      | .error cause => .error (.algorithm cause)
      | .ok algorithm =>
        .ok {
          dialect, algorithm
          maxWorkers := maxWorkers.toNat
          maxWorkers_pos := by omega }
    else .error .maxWorkers

/-- Why a batch is given up. -/
inductive BatchError
  | cancelled
  /-- A container could not be transformed. -/
  | container (name : String) (cause : TransformError)
  /-- Two containers would be written to one path. -/
  | samePath (first second path : String)
  deriving DecidableEq, Repr

/-- The wording of a batch error. -/
def BatchError.message : BatchError → String
  | cancelled => "Generation batch cancelled"
  | container name cause => name ++ ": " ++ cause.message
  | samePath first second path => first ++ " and " ++ second ++ " both map to " ++ path

/-- What is worth noticing while containers are generated. -/
inductive Notice
  /-- A container lacks the partial marker. -/
  | skipped (rule : DiagnosticRule) (container : String)
  | cancelled
  /-- A container could not be transformed. -/
  | aborted (container : String) (cause : TransformError)
  /-- Two containers would be written to one path. -/
  | samePath (first second path : String)
  /-- A token stands for several slots. -/
  | collision (collision : Collision)
  deriving DecidableEq, Repr

namespace Notice

/-- Whether the batch is lost by what is noticed. -/
def isError : Notice → Bool
  | aborted .. => true
  | samePath .. => true
  | _ => false

/-- The wording of a notice. -/
def message : Notice → String
  | skipped rule container =>
    rule.title ++ " (rule=" ++ rule.id ++ " category=" ++ rule.category ++ " container=" ++
      container ++ ")"
  | cancelled => "Generation batch cancelled; discarding partial results"
  | aborted container cause =>
    "Aborting generation batch (container=" ++ container ++ " error=" ++ cause.message ++ ")"
  | samePath first second path =>
    "Output path collision (path=" ++ path ++ " containers=" ++ first ++ "," ++ second ++ ")"
  | collision _ => "Obfuscated permission names collide"

end Notice

/-- What a finished batch yields. -/
structure BatchResult where
  /-- The sources in the order of their containers. -/
  sources : List GeneratedSource
  /-- One finding for every container left out. -/
  diagnostics : List Diagnostic
  deriving DecidableEq, Repr

/-- Whether a finding of the batch is an error. -/
def BatchResult.hasErrors (result : BatchResult) : Bool :=
  result.diagnostics.any (·.isError)

/-- The outcome of a batch and what was noticed on the way. -/
structure BatchReport where
  notices : List Notice
  outcome : Except BatchError BatchResult

/-- When the containers of a batch are finished, and when its cancellation is seen. -/
structure Schedule where
  /-- The positions of the selected containers, in the order in which they are finished. -/
  order : List Nat
  /-- Whether the batch is seen as cancelled at its start, when the first container is finished, and so on. -/
  cancelledAt : Nat → Bool

/-- The schedule that finishes containers in their own order. -/
def Schedule.sequential (count : Nat) (cancelled : Bool) : Schedule :=
  ⟨List.range count, fun _ => cancelled⟩

namespace Batch

/-- The finding for a container that is left out. -/
def finding (container : Container) : Diagnostic where
  rule := .nonPartialContainer
  message :=
    match Template.fill DiagnosticRule.nonPartialContainer.template [container.name] with
    | .ok message => message
    | .error cause => cause.message
  container := container.qualifiedName
  sourcePath := container.sourcePath

/-- The containers that carry the partial marker. -/
def selected (containers : List Container) : List Container :=
  containers.filter (·.reEmittable)

/-- The containers that do not carry it. -/
def leftOut (containers : List Container) : List Container :=
  containers.filter (!·.reEmittable)

/-- A finished container and its source, or why there is none. -/
def process (options : Options) (container : Container) :
    Except BatchError (Container × GeneratedSource) :=
  match container.transform options.algorithm.name with
  | .ok finished => .ok (finished, finished.source options.dialect)
  | .error cause => .error (.container container.qualifiedName cause)

/-- Collects finished containers in the order of a schedule, each at its own position. -/
def collect (options : Options) (containers : List Container) (cancelledAt : Nat → Bool) :
    Nat → List Nat → List (Option (Container × GeneratedSource)) →
    Except BatchError (List (Option (Container × GeneratedSource)))
  | _, [], done => .ok done
  | check, position :: later, done =>
    if cancelledAt check then .error .cancelled
    else
      match containers[position]? with
      | none => collect options containers cancelledAt (check + 1) later done
      | some container =>
        match process options container with
        | .error cause => .error cause
        | .ok result =>
          collect options containers cancelledAt (check + 1) later (done.set position (some result))

/-- The first source whose folded path another source has taken, and that source. -/
def takenPath? (owners : List (String × GeneratedSource)) :
    List GeneratedSource → Option (GeneratedSource × GeneratedSource)
  | [] => none
  | source :: later =>
    match owners.lookup (caseFolded source.path) with
    | some owner => some (owner, source)
    | none => takenPath? (owners ++ [(caseFolded source.path, source)]) later

/-- What is noticed when a batch is given up. -/
def noticeOf : BatchError → Notice
  | .cancelled => .cancelled
  | .container name cause => .aborted name cause
  | .samePath first second path => .samePath first second path

/-- The containers and sources of a batch, all of them or none. -/
def results (schedule : Schedule) (containers : List Container) (options : Options) :
    Except BatchError (List (Container × GeneratedSource)) :=
  if schedule.cancelledAt 0 then .error .cancelled
  else
    let chosen := selected containers
    let empty := List.replicate chosen.length none
    match collect options chosen schedule.cancelledAt 1 schedule.order empty with
    | .error cause => .error cause
    | .ok done =>
      let finished := done.filterMap id
      match takenPath? [] (finished.map (·.2)) with
      | some (owner, source) =>
        .error (.samePath owner.container source.container source.path)
      | none => .ok finished

/-- The shared tokens of finished containers, by the qualified names of the containers. -/
def collisionNotices (finished : List Container) : List Notice :=
  let all := finished.flatMap (·.collisions)
  (all.mergeSort fun a b => !decide (b.container < a.container)).map .collision

/-- Generates a batch under a schedule. -/
def generateUnder (schedule : Schedule) (containers : List Container) (options : Options) :
    BatchReport :=
  let skips := (leftOut containers).map fun container =>
    Notice.skipped .nonPartialContainer container.qualifiedName
  match results schedule containers options with
  | .error cause => ⟨skips ++ [noticeOf cause], .error cause⟩
  | .ok finished =>
    ⟨skips ++ collisionNotices (finished.map (·.1)),
      .ok ⟨finished.map (·.2), (leftOut containers).map finding⟩⟩

/-- Generates a batch in the order of its containers; a cancelled one yields nothing. -/
def generate (containers : List Container) (options : Options) (cancelled : Bool := false) :
    BatchReport :=
  generateUnder (.sequential (selected containers).length cancelled) containers options

end Batch

end PermissionNames
