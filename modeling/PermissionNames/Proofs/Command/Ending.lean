import PermissionNames.Command.Run
import PermissionNames.Proofs.Command.Storing

/-! A run ends in one of a few ways, told apart by the phase that it reaches. -/

namespace PermissionNames.Command

open Discovery TreeAction

variable {tree after : FileTree} {directory : Path} {arguments : Arguments} {settings : Settings}
  {words : List String} {files : List Path} {result : BatchResult} {stored : List Storage}
  {report : Report}

/-- The steps of a run before its sources are stored, all of them successful. -/
structure Prepared (tree : FileTree) (directory : Path) (words : List String)
    (arguments : Arguments) (settings : Settings) (files : List Path) (result : BatchResult) :
    Prop where
  read : Arguments.read words = some arguments
  valid : validate tree directory arguments = .ok settings
  selected : selectFiles tree settings.input = .ok files
  digested : (findInSources tree settings.input files).found.any isUndigestible = false
  generated : generate (findInSources tree settings.input files).found settings.options =
    .ok result

/-- A run is prepared in one way only. -/
theorem Prepared.unique {otherArguments : Arguments} {otherSettings : Settings}
    {others : List Path} {otherResult : BatchResult}
    (prepared : Prepared tree directory words arguments settings files result)
    (other : Prepared tree directory words otherArguments otherSettings others otherResult) :
    otherArguments = arguments ∧ otherSettings = settings ∧ others = files ∧
      otherResult = result := by
  -- Each step has one result, which the next one starts from.
  obtain rfl : otherArguments = arguments := Option.some.inj (other.read.symm.trans prepared.read)
  obtain rfl : otherSettings = settings := Except.ok.inj (other.valid.symm.trans prepared.valid)
  obtain rfl : others = files := Except.ok.inj (other.selected.symm.trans prepared.selected)
  exact ⟨rfl, rfl, rfl, Except.ok.inj (other.generated.symm.trans prepared.generated)⟩

/-- The progress of a run up to the generation of its sources. -/
def progressBefore (files : List Path) (findings : TreeFindings) : List Progress :=
  [.started .validation, .finished .validation, .started .discovery, .finished .discovery,
    .discovered files.length findings.failures.length findings.containers.length
      (slotCount findings.containers),
    .started .generation, .finished .generation]

/-- The report of a run that stores all its sources. -/
def finishedReport (files : List Path) (findings : TreeFindings) (result : BatchResult)
    (stored : List Storage) : Report where
  exitCode := if result.hasErrors then Report.completedWithErrors else Report.success
  progress := progressBefore files findings ++
    [.generated result.sources.length (findings.containers.length - result.sources.length)
      result.diagnostics.length, .started .write, .finished .write,
      .stored (stored.count .written) (stored.count .unchanged), .completed result.hasErrors]
  complaints := result.diagnostics.map .finding

/-- As many containers are told as are found. -/
theorem length_found (findings : TreeFindings) :
    findings.found.length = findings.containers.length :=
  (List.length_map _).symm

/-- A prepared run that stores all its sources reports that. -/
theorem Prepared.run_eq (prepared : Prepared tree directory words arguments settings files result)
    (done : (storeAll settings.output result.sources).on tree = (.ok stored, after)) :
    run tree directory words =
      ⟨after, .ok (finishedReport files (findInSources tree settings.input files) result stored)⟩ := by
  -- No step before storing fails, so the run is what follows it.
  obtain ⟨read, valid, selected, digested, generated⟩ := prepared
  have ran : ((storeAll settings.output result.sources).run).run tree = (.ok stored, after) := done
  have counted := length_found (findInSources tree settings.input files)
  simp only [run, runWith, read, valid, work, selected, generateAll, digested, generated,
    storeResult, ran, counted, Bool.false_eq_true, if_false]
  rfl

/-- What such a run reports does not hang on the tree that it leaves. -/
theorem Prepared.result_eq
    (prepared : Prepared tree directory words arguments settings files result)
    (done : ((storeAll settings.output result.sources).on tree).1 = .ok stored) :
    (run tree directory words).result =
      .ok (finishedReport files (findInSources tree settings.input files) result stored) := by
  -- The tree that is left is the one that storing ends in.
  have left : (storeAll settings.output result.sources).on tree =
      (.ok stored, ((storeAll settings.output result.sources).on tree).2) :=
    Prod.ext done rfl
  rw [prepared.run_eq left]

/-- The progress of a run whose settings are valid, up to the search for containers. -/
def progressBeforeSearch : List Progress :=
  [.started .validation, .finished .validation, .started .discovery]

/-- The progress of a run that cannot generate its sources. -/
def progressBeforeRefusal (files : List Path) (findings : TreeFindings) : List Progress :=
  progressBeforeSearch ++ [Progress.finished .discovery,
    .discovered files.length findings.failures.length findings.containers.length
      (slotCount findings.containers),
    .started .generation]

/-- The progress of a run that cannot store all its sources. -/
def progressBeforeFault (files : List Path) (findings : TreeFindings) (result : BatchResult) :
    List Progress :=
  progressBefore files findings ++
    [Progress.generated result.sources.length
      (findings.containers.length - result.sources.length) result.diagnostics.length,
      .started .write]

/-- A prepared run that cannot store a source reports the fault, or ends at once if none is told of it. -/
theorem Prepared.run_stopped {fault : FileFault}
    (prepared : Prepared tree directory words arguments settings files result)
    (stopped : (storeAll settings.output result.sources).on tree = (.error fault, after)) :
    run tree directory words = ⟨after,
      if isReported fault then
        .ok ⟨Report.failure,
          progressBeforeFault files (findInSources tree settings.input files) result,
          result.diagnostics.map .finding ++ [Complaint.writing fault]⟩
      else .error (.file fault)⟩ := by
  -- No step before storing fails, and the fault is told or leaves the run.
  obtain ⟨read, valid, selected, digested, generated⟩ := prepared
  have ran : ((storeAll settings.output result.sources).run).run tree = (.error fault, after) :=
    stopped
  have counted := length_found (findInSources tree settings.input files)
  simp only [run, runWith, read, valid, work, selected, generateAll, digested, generated,
    storeResult, ran, counted, Bool.false_eq_true, if_false]
  cases isReported fault <;> rfl

/-- How a run can end: the file tree that it leaves, and what it tells unless it is cut short. -/
inductive Ending (tree : FileTree) (directory : Path) (words : List String) : Outcome → Prop
  /-- The words make no command line. -/
  | unread (read : Arguments.read words = none) :
    Ending tree directory words ⟨tree, .ok ⟨Report.failure, [], []⟩⟩
  /-- A path cannot be looked up. -/
  | overlong {arguments : Arguments} {cause : Abort} (read : Arguments.read words = some arguments)
    (checked : validate tree directory arguments = .error (.inl cause)) :
    Ending tree directory words ⟨tree, .error cause⟩
  /-- A path or an option is not valid. -/
  | invalid {arguments : Arguments} {cause : ValidationError}
    (read : Arguments.read words = some arguments)
    (checked : validate tree directory arguments = .error (.inr cause)) :
    Ending tree directory words
      ⟨tree, .ok ⟨Report.failure, [.started .validation], [.validation cause]⟩⟩
  /-- A line of an ignore file is no pattern. -/
  | malformed {arguments : Arguments} {settings : Settings} {cause : Ignore.PatternError}
    (read : Arguments.read words = some arguments)
    (checked : validate tree directory arguments = .ok settings)
    (selected : selectFiles tree settings.input = .error (.pattern cause)) :
    Ending tree directory words ⟨tree, .error (.pattern cause)⟩
  /-- An ignore file cannot be read. -/
  | unreadable {arguments : Arguments} {settings : Settings} {fault : FileFault}
    (read : Arguments.read words = some arguments)
    (checked : validate tree directory arguments = .ok settings)
    (selected : selectFiles tree settings.input = .error (.unreadable fault)) :
    Ending tree directory words
      ⟨tree, .ok ⟨Report.failure, progressBeforeSearch, [.ignoreFiles fault]⟩⟩
  /-- A name has to be digested that cannot be encoded. -/
  | undigested {arguments : Arguments} {settings : Settings} {files : List Path}
    (read : Arguments.read words = some arguments)
    (checked : validate tree directory arguments = .ok settings)
    (selected : selectFiles tree settings.input = .ok files)
    (undigested : (findInSources tree settings.input files).found.any isUndigestible = true) :
    Ending tree directory words ⟨tree, .error .encoding⟩
  /-- The names cannot be generated. -/
  | refused {arguments : Arguments} {settings : Settings} {files : List Path} {cause : BatchError}
    (read : Arguments.read words = some arguments)
    (checked : validate tree directory arguments = .ok settings)
    (selected : selectFiles tree settings.input = .ok files)
    (digested : (findInSources tree settings.input files).found.any isUndigestible = false)
    (generated : generate (findInSources tree settings.input files).found settings.options =
      .error cause) :
    Ending tree directory words ⟨tree, .ok ⟨Report.failure,
      progressBeforeRefusal files (findInSources tree settings.input files), [.generation cause]⟩⟩
  /-- A source has no path that a file could have, or no bytes. -/
  | lost {arguments : Arguments} {settings : Settings} {files : List Path} {result : BatchResult}
    {after : FileTree} {fault : FileFault}
    (prepared : Prepared tree directory words arguments settings files result)
    (storing : (storeAll settings.output result.sources).on tree = (.error fault, after))
    (untold : isReported fault = false) :
    Ending tree directory words ⟨after, .error (.file fault)⟩
  /-- A source cannot be stored. -/
  | stopped {arguments : Arguments} {settings : Settings} {files : List Path}
    {result : BatchResult} {after : FileTree} {fault : FileFault}
    (prepared : Prepared tree directory words arguments settings files result)
    (storing : (storeAll settings.output result.sources).on tree = (.error fault, after))
    (told : isReported fault = true) :
    Ending tree directory words ⟨after, .ok ⟨Report.failure,
      progressBeforeFault files (findInSources tree settings.input files) result,
      result.diagnostics.map .finding ++ [Complaint.writing fault]⟩⟩
  /-- All sources are stored. -/
  | finished {arguments : Arguments} {settings : Settings} {files : List Path}
    {result : BatchResult} {after : FileTree} {stored : List Storage}
    (prepared : Prepared tree directory words arguments settings files result)
    (storing : (storeAll settings.output result.sources).on tree = (.ok stored, after)) :
    Ending tree directory words
      ⟨after, .ok (finishedReport files (findInSources tree settings.input files) result stored)⟩

/-- A run ends in the way whose conditions hold. -/
theorem Ending.run_eq {outcome : Outcome} (ending : Ending tree directory words outcome) :
    run tree directory words = outcome := by
  -- What each phase yields is known up to the one that the run ends in.
  cases ending with
  | unread read => simp only [run, runWith, read]
  | overlong read checked => simp only [run, runWith, read, checked]
  | invalid read checked => simp only [run, runWith, read, checked]
  | malformed read checked selected => simp only [run, runWith, read, checked, work, selected]
  | unreadable read checked selected =>
    simp only [run, runWith, read, checked, work, selected]
    rfl
  | undigested read checked selected undigested =>
    simp only [run, runWith, read, checked, work, selected, generateAll, undigested, if_true]
  | refused read checked selected digested generated =>
    simp only [run, runWith, read, checked, work, selected, generateAll, digested, generated,
      Bool.false_eq_true, if_false]
    rfl
  | lost prepared storing untold =>
    rw [prepared.run_stopped storing, untold]
    rfl
  | stopped prepared storing told =>
    rw [prepared.run_stopped storing, told]
    rfl
  | finished prepared storing => exact prepared.run_eq storing

/-- Every run ends in one of these ways. -/
theorem ending_of_run (tree : FileTree) (directory : Path) (words : List String) :
    Ending tree directory words (run tree directory words) := by
  -- The phases are followed one after another, and each way out of a phase is an ending.
  obtain ⟨outcome, ending⟩ : ∃ outcome, Ending tree directory words outcome := by
    cases read : Arguments.read words with
    | none => exact ⟨_, .unread read⟩
    | some arguments =>
      cases checked : validate tree directory arguments with
      | error cause =>
        cases cause with
        | inl cause => exact ⟨_, .overlong read checked⟩
        | inr cause => exact ⟨_, .invalid read checked⟩
      | ok settings =>
        cases selected : selectFiles tree settings.input with
        | error cause =>
          cases cause with
          | pattern cause => exact ⟨_, .malformed read checked selected⟩
          | unreadable fault => exact ⟨_, .unreadable read checked selected⟩
        | ok files =>
          cases digested : (findInSources tree settings.input files).found.any isUndigestible with
          | true => exact ⟨_, .undigested read checked selected digested⟩
          | false =>
            cases generated : generate (findInSources tree settings.input files).found
                settings.options with
            | error cause => exact ⟨_, .refused read checked selected digested generated⟩
            | ok result =>
              have prepared : Prepared tree directory words arguments settings files result :=
                ⟨read, checked, selected, digested, generated⟩
              cases storing : (storeAll settings.output result.sources).on tree with
              | mk outcome after =>
                cases outcome with
                | ok stored => exact ⟨_, .finished prepared storing⟩
                | error fault =>
                  cases told : isReported fault with
                  | true => exact ⟨_, .stopped prepared storing told⟩
                  | false => exact ⟨_, .lost prepared storing told⟩
  rw [ending.run_eq]
  exact ending

/-- A run that ends with success or with findings was prepared and has stored all its sources. -/
theorem prepared_of_run (done : (run tree directory words).result = .ok report)
    (code : report.exitCode = Report.success ∨ report.exitCode = Report.completedWithErrors) :
    ∃ arguments settings files result stored,
      Prepared tree directory words arguments settings files result ∧
        (storeAll settings.output result.sources).on tree =
          (.ok stored, (run tree directory words).tree) ∧
        report = finishedReport files (findInSources tree settings.input files) result stored := by
  have ending := ending_of_run tree directory words
  generalize run tree directory words = outcome at ending done ⊢
  -- All other endings have no report, or one with the exit code of failure.
  cases ending with
  | finished prepared storing =>
    cases done
    exact ⟨_, _, _, _, _, prepared, storing, rfl⟩
  | overlong | malformed | undigested | lost => cases done
  | unread | invalid | unreadable | refused | stopped =>
    cases done
    rcases code with success | withErrors
    · cases success
    · cases withErrors

end PermissionNames.Command
