import Mathlib.Algebra.GroupWithZero.Nat
import PermissionNames.Proofs.Command.CutShort
import PermissionNames.Proofs.Command.Replacement
import PermissionNames.Proofs.Command.StoredBytes
import PermissionNames.Proofs.FileTree.Closed

/-! The numbers that a finished run tells: they add up, and they count what was found, left out, generated and stored. -/

namespace PermissionNames

/-- Whether a text is still to be written: nothing stands at its target, or a file that reads otherwise. -/
def FileTree.lacksText (tree : FileTree) (target : Path) (text : String) : Bool :=
  match tree.exists? target with
  | .ok false => true
  | _ =>
    match tree.readText target with
    | .ok old => old != text.toList
    | .error _ => false

namespace FileTree

variable {tree other : FileTree} {path : Path}

/-- A path that leads to a file in one tree is overlong in none. -/
theorem not_isOverlong_of_hasFile {bytes : List UInt8} (level : ".." ∉ path.parts)
    (file : other.HasFile path bytes) : ¬ tree.IsOverlong path := by
  rintro (long | ⟨above, name, rest, parts, -, -, long⟩)
  · have fits := file.openable.fits
    simp only [isOversized, gt_iff_lt, decide_eq_false_iff_not] at fits
    exact fits long
  · -- Each name on the way has been looked up.
    have onWay : name ∈ path.parts := by simp [parts]
    have short := short_of_status level file.status onWay
    omega

/-- A path that leads nowhere is found not to be there, unless it is overlong. -/
theorem exists?_of_error {problem : FileProblem} (level : ".." ∉ path.parts)
    (reachable : ¬ tree.IsOverlong path) (nowhere : tree.status path = .error problem) :
    tree.exists? path = .ok false := by
  -- Of all that can be wrong on the way only overlong names are told.
  rw [IsOverlong, ← status_eq_nameTooLong_iff level, nowhere, not_or] at reachable
  obtain ⟨fits, other⟩ := reachable
  unfold exists?
  split
  · rfl
  · rw [if_neg (by simpa [isOversized] using fits), nowhere]
    cases problem <;> simp_all

end FileTree

namespace Command

open Discovery TreeAction

variable {tree middle after : FileTree} {target : Path} {text : String} {isEncodable : Bool}
  {directory : Path}
  {words : List String} {arguments : Arguments} {settings : Settings} {files : List Path}
  {result : BatchResult} {stored : List Storage} {report : Report}

/-- A text that a file is found not to hold is still to be written. -/
theorem lacksText_of_holds (found : (holds target text).on tree = (.ok false, after)) :
    tree.lacksText target text = true := by
  rw [on_holds_eq, Prod.mk.injEq] at found
  obtain ⟨found, -⟩ := found
  unfold FileTree.lacksText
  -- Only where something stands is its text compared.
  cases there : tree.exists? target with
  | error fault => simp [there] at found
  | ok present =>
    cases present with
    | false => rfl
    | true =>
      cases read : tree.readText target with
      | error fault => simp [there, read, Except.map] at found
      | ok old =>
        simp only [there, read, Except.map, Except.ok.injEq] at found
        simpa using found

/-- A text that is written was still to be written. -/
theorem lacksText_of_written
    (done : (storeText target text isEncodable).on tree = (.ok .written, after)) :
    tree.lacksText target text = true := by
  -- A text that is found in place is not written, so it was looked for in vain.
  obtain rfl := isEncodable_of_storeText done
  rw [storeText, on_bind] at done
  cases looked : (holds target text).on tree with
  | mk found same =>
    rw [looked] at done
    cases found with
    | error fault => cases done
    | ok there =>
      cases there with
      | true => cases done
      | false => exact lacksText_of_holds looked

/-- A text that is read from its target is not to be written. -/
theorem lacksText_eq_false (read : tree.readText target = .ok text.toList) :
    tree.lacksText target text = false := by
  -- What can be read exists, and it is read as the text.
  obtain ⟨bytes, raw, file, -, -⟩ := FileTree.readText_eq_ok_iff.mp read
  simp [FileTree.lacksText, file.exists?_eq, read]

/-- Whether a text is still to be written is known from the file at its target. -/
theorem lacksText_congr {bytes : List UInt8} (file : tree.HasFile target bytes)
    (also : middle.HasFile target bytes) :
    middle.lacksText target text = tree.lacksText target text := by
  -- Only the file at the target is looked at, and it has the same bytes in both trees.
  simp [FileTree.lacksText, file.exists?_eq, also.exists?_eq, FileTree.readText, file.openable.clean,
    file.openable.fits, file.status, also.status]

/-- What has not happened to a target yet while other sources were stored: the files on the way to it are there, and its entry is the same. -/
structure IsPending (tree middle : FileTree) (target : Path) : Prop where
  files : ∀ bytes, tree.HasFile target bytes → middle.HasFile target bytes
  entry : middle.entry? target.parts = tree.entry? target.parts

/-- A text that is stored later is written exactly if it was still to be written at the start. -/
theorem written_iff_lacksText {storage : Storage} (closed : tree.IsClosed)
    (settled : Settled target) (pending : IsPending tree middle target)
    (done : (storeText target text isEncodable).on middle = (.ok storage, after)) :
    storage = .written ↔ tree.lacksText target text = true := by
  obtain ⟨⟨front, last, split⟩, level⟩ := settled
  cases storage with
  | unchanged =>
    -- The file that is read now stood there at the start.
    cases storeStep_of_on done with
    | unchanged _ read =>
      obtain ⟨bytes, raw, file, decoded, unified⟩ := FileTree.readText_eq_ok_iff.mp read
      have standing := (FileTree.entry?_of_status level file.status).1
      rw [pending.entry] at standing
      have early := closed.hasFile_of_standing level file standing
      simp [lacksText_eq_false (FileTree.readText_eq_ok_iff.mpr ⟨bytes, raw, early, decoded, unified⟩)]
  | written =>
    have lacks := lacksText_of_written done
    have file : after.HasFile target (Utf8.encode text.toList) :=
      (inPlace_of_storeText split level done).1
    simp only [true_iff]
    cases found : tree.status target with
    | error problem =>
      -- The path leads to a file in the end, so no name in it was too long at the start.
      have reachable : ¬ tree.IsOverlong target :=
        FileTree.not_isOverlong_of_hasFile level file
      simp [FileTree.lacksText, FileTree.exists?_of_error level reachable found]
    | ok entry =>
      cases entry with
      | directory =>
        have standing := (FileTree.entry?_of_status level found).1
        rw [← pending.entry] at standing
        exact absurd standing (entry?_target_of_written split level done)
      | file bytes =>
        have early : tree.HasFile target bytes := ⟨file.openable, found⟩
        rw [← lacksText_congr early (pending.files bytes early), lacks]

section Sources

variable {output : Path} {sources : List GeneratedSource}

/-- Of sources that spare each other, those are written that were still to be written at the start. -/
theorem written_of_storeAll (closed : tree.IsClosed)
    (settled : ∀ source ∈ sources, Settled (targetOf output source))
    (spared : sources.Pairwise fun first second =>
      Spares (targetOf output first) (targetOf output second) ∧
        Spares (targetOf output second) (targetOf output first))
    (pending : ∀ source ∈ sources, IsPending tree middle (targetOf output source))
    (done : (storeAll output sources).on middle = (.ok stored, after)) :
    List.Forall₂ (fun source storage => storage = Storage.written ↔
      tree.lacksText (targetOf output source) source.text = true) sources stored := by
  -- The sources that are not stored yet are pending, and storing one keeps the later ones so.
  induction sources generalizing middle stored with
  | nil =>
    cases done
    exact .nil
  | cons source later ih =>
    obtain ⟨storage, next, others, rfl, first, rest⟩ := on_storeAll_cons_eq_ok done
    obtain ⟨spares, laterSpared⟩ := List.pairwise_cons.mp spared
    have here := settled source List.mem_cons_self
    refine .cons (written_iff_lacksText closed here (pending source List.mem_cons_self) first) ?_
    refine ih (fun other member => settled other (List.mem_cons_of_mem source member)) laterSpared
      ?_ rest
    intro other member
    obtain ⟨⟨front, last, split⟩, level⟩ := here
    have waiting := pending other (List.mem_cons_of_mem source member)
    have misses := (spares other member).1.path
    refine ⟨fun bytes early => ?_, ?_⟩
    · exact hasFile_storeText split level
        (settled other (List.mem_cons_of_mem source member)).level misses.notTarget
        (fun same => misses.notTemporary (same ▸ List.prefix_rfl)) (waiting.files bytes early) first
    · rw [entry?_storeText split level misses first, waiting.entry]

/-- As many sources are written as were still to be written, if each is written exactly if it was. -/
theorem count_written (written : List.Forall₂ (fun source storage => storage = Storage.written ↔
      tree.lacksText (targetOf output source) source.text = true) sources stored) :
    stored.count .written = sources.countP fun source =>
      tree.lacksText (targetOf output source) source.text := by
  -- Each source counts on both sides or on none.
  induction written with
  | nil => rfl
  | @cons source storage later others same _ ih =>
    rw [List.count_cons, List.countP_cons, ih]
    cases storage <;> simp_all

end Sources

/-- A container whose finding takes one line: neither its name nor its path holds a newline. -/
structure FitsLine (container : Container) : Prop where
  name : '\n' ∉ container.name.toList
  path : ∀ path, container.sourcePath = some path → '\n' ∉ path.toList

/-- The finding about such a container is one line. -/
theorem FitsLine.newline_not_mem {container : Container} (fits : FitsLine container) :
    '\n' ∉ (Batch.finding container).line.toList := by
  -- A line is made of a place, a name and fixed text.
  have place : '\n' ∉ (Batch.finding container).location.toList := by
    simp only [Batch.finding, Diagnostic.location]
    cases known : container.sourcePath with
    | none => simp
    | some path =>
      by_cases empty : path = ""
      · simp [empty]
      · simpa [empty] using fits.path path known
  have message : '\n' ∉ (Batch.finding container).message.toList := by
    simpa [Batch.finding, Template.fill_nonPartialContainer] using fits.name
  have severity : (Batch.finding container).rule.severity.text = "error" := rfl
  have id : (Batch.finding container).rule.id = "PG001" := rfl
  simp [Diagnostic.line, place, message, severity, id]

/-- In a text of lines there is one newline for each of them. -/
theorem count_newline_join {lines : List String} (plain : ∀ line ∈ lines, '\n' ∉ line.toList) :
    (String.join (lines.map (· ++ "\n"))).toList.count '\n' = lines.length := by
  -- Each line adds the newline behind it and none of its own.
  rw [String.toList_join]
  induction lines with
  | nil => rfl
  | cons line later ih =>
    have here := List.count_eq_zero.mpr (plain line List.mem_cons_self)
    rw [List.map_cons, List.flatMap_cons, List.count_append, String.toList_append,
      List.count_append, here, ih fun other member => plain other (List.mem_cons_of_mem line member)]
    simp [Nat.add_comm]

/-- A report of findings, each of them one line, has as many lines as findings. -/
theorem count_newline_complaintText {findings : List Diagnostic}
    (told : report.complaints = findings.map .finding)
    (plain : ∀ finding ∈ findings, '\n' ∉ finding.line.toList) :
    report.complaintText.toList.count '\n' = findings.length := by
  -- There is one complaint for each finding, in the same order.
  have counted := count_newline_join (List.forall_mem_map.mpr plain)
  rw [List.length_map, List.map_map] at counted
  rw [Report.complaintText, told, List.map_map]
  exact counted

/-- The slots of containers are counted one container after the other. -/
theorem slotCount_eq_sum (containers : List Container) :
    slotCount containers = (containers.map (·.slots.length)).sum := by
  -- Counting from the left is the same as summing up.
  rw [List.sum_eq_foldl, List.foldl_map]
  rfl

/-- The numbers that a finished run tells. -/
structure Tally where
  files : Nat
  failures : Nat
  discovered : Nat
  slots : Nat
  emitted : Nat
  skipped : Nat
  diagnostics : Nat
  written : Nat
  unchanged : Nat
  withErrors : Bool

/-- The progress that tells these numbers. -/
def Tally.progress (tally : Tally) : List Progress :=
  [.started .validation, .finished .validation, .started .discovery, .finished .discovery,
    .discovered tally.files tally.failures tally.discovered tally.slots, .started .generation,
    .finished .generation, .generated tally.emitted tally.skipped tally.diagnostics,
    .started .write, .finished .write, .stored tally.written tally.unchanged,
    .completed tally.withErrors]

/-- The numbers of a run on a tree add up, and they count its containers, its complaints and its sources. -/
structure Tally.Balances (tally : Tally) (tree : FileTree) (output : Path)
    (containers : List Container) (sources : List GeneratedSource) (report : Report) : Prop where
  discovered : tally.discovered = containers.length
  slots : tally.slots = (containers.map (·.slots.length)).sum
  emitted : tally.emitted + tally.skipped = tally.discovered
  skipped : tally.skipped = tally.diagnostics
  complaints : report.complaints.length = tally.diagnostics
  lines : (∀ container ∈ containers, FitsLine container) →
    report.complaintText.toList.count '\n' = tally.diagnostics
  stored : tally.written + tally.unchanged = tally.emitted
  written : tally.written =
    sources.countP fun source => tree.lacksText (targetOf output source) source.text
  exitCode : report.exitCode = Report.completedWithErrors ↔ 0 < tally.diagnostics

/-- The numbers of a run that finds containers, generates sources and stores them all. -/
def tallyOf (files : List Path) (findings : TreeFindings) (result : BatchResult)
    (stored : List Storage) : Tally where
  files := files.length
  failures := findings.failures.length
  discovered := findings.containers.length
  slots := slotCount findings.containers
  emitted := result.sources.length
  skipped := findings.containers.length - result.sources.length
  diagnostics := result.diagnostics.length
  written := stored.count .written
  unchanged := stored.count .unchanged
  withErrors := result.hasErrors

/-- The numbers of a prepared run that stores all its sources balance. -/
theorem Prepared.balances (named : tree.WellNamed) (closed : tree.IsClosed)
    (prepared : Prepared tree directory words arguments settings files result)
    (storing : (storeAll settings.output result.sources).on tree = (.ok stored, after)) :
    (tallyOf files (findInSources tree settings.input files) result stored).Balances tree
      settings.output (findInSources tree settings.input files).containers result.sources
      (finishedReport files (findInSources tree settings.input files) result stored) := by
  have level := (validated_of_validate prepared.valid).output_level
  have free := prepared.isSlashFreeSource named
  have distinct := distinct_of_generate prepared.generated
  -- Each container found has a source or a finding.
  have emitted : result.sources.length =
      (Batch.selected (findInSources tree settings.input files).containers).length :=
    length_sources_of_generate prepared.generated
  have findings : result.diagnostics =
      (Batch.leftOut (findInSources tree settings.input files).containers).map Batch.finding :=
    diagnostics_of_generate prepared.generated
  have left : result.diagnostics.length =
      (Batch.leftOut (findInSources tree settings.input files).containers).length := by
    rw [findings, List.length_map]
  have total := Batch.length_selected_add_length_leftOut
    (findInSources tree settings.input files).containers
  -- Each source is stored, by writing it or not.
  have written := written_of_storeAll closed
    (fun source member => (free source member).settled level)
    (spared_of_distinct settings.output free distinct) (fun source _ => ⟨fun _ file => file, rfl⟩)
    storing
  constructor
  case discovered => rfl
  case slots => exact slotCount_eq_sum _
  case emitted => simp only [tallyOf]; omega
  case skipped => simp only [tallyOf]; omega
  case complaints => simp [finishedReport, tallyOf]
  case lines =>
    intro fits
    refine count_newline_complaintText rfl ?_
    rw [findings, List.forall_mem_map]
    exact fun container member => (fits container (List.mem_filter.mp member).1).newline_not_mem
  case stored => simp only [tallyOf, count_storages]; exact written.length_eq.symm
  case written => exact count_written written
  case exitCode =>
    -- Every finding is an error.
    have isError : ∀ container, (Batch.finding container).isError = true := fun _ => rfl
    have errors : result.hasErrors = true ↔ 0 < result.diagnostics.length := by
      simp [BatchResult.hasErrors, findings, isError, List.length_pos_iff_exists_mem]
    simp only [tallyOf, ← errors]
    cases found : result.hasErrors <;>
      simp [finishedReport, found, Report.completedWithErrors, Report.success]

/-- A run that ends with success or with findings tells numbers that balance. -/
theorem tally_of_run (named : tree.WellNamed) (closed : tree.IsClosed)
    (done : (run tree directory words).result = .ok report)
    (code : report.exitCode = Report.success ∨ report.exitCode = Report.completedWithErrors) :
    ∃ arguments settings files result, ∃ tally : Tally,
      Prepared tree directory words arguments settings files result ∧
      report.progress = tally.progress ∧
      tally.Balances tree settings.output (findInSources tree settings.input files).containers
        result.sources report := by
  -- Such a run has gone through all phases, so its settings, files and result are known.
  obtain ⟨arguments, settings, files, result, stored, prepared, storing, rfl⟩ :=
    prepared_of_run done code
  exact ⟨arguments, settings, files, result, tallyOf files (findInSources tree settings.input files)
    result stored, prepared, rfl, prepared.balances named closed storing⟩

/-- A tree with one module, where one of two marked classes is not partial. -/
def plainBesidePartial : FileTree where
  entries := [(["in"], .directory), (["in", "codes.py"], .file (Utf8.encode
    ("@permissions_repo\nclass Read(Partial):\n    own: str\n" ++
      "@permissions_repo\nclass Plain:\n    own: str\n").toList))]

/-- The container of its class that is not partial. -/
def plainInCodes : Container :=
  { Project.readInCodes with name := "Plain", reEmittable := false }

/-- The module declares both classes. -/
theorem declares_plainBesidePartial :
    Project.Declares ⟨plainBesidePartial, ⟨.root, []⟩, ⟨.root, ["in"]⟩⟩
      ⟨.root, ["in", "codes.py"]⟩
      ("@permissions_repo\nclass Read(Partial):\n    own: str\n" ++
        "@permissions_repo\nclass Plain:\n    own: str\n").toList "codes"
      ⟨[Project.readInCodes, plainInCodes], []⟩ := by
  -- The text of the file is that of the module, which is read and looked through by computation.
  have file : plainBesidePartial.HasFile ⟨.root, ["in", "codes.py"]⟩ (Utf8.encode
      ("@permissions_repo\nclass Read(Partial):\n    own: str\n" ++
        "@permissions_repo\nclass Plain:\n    own: str\n").toList) :=
    ⟨by decide, rfl⟩
  refine ⟨file.readText_eq ?_, rfl, ?_⟩
  · rw [toList_append_of_toList String.toList_ofList String.toList_ofList]
    decide
  · rw [ofSource, readModule_of_toList (String.toList_ofList.trans
      (toList_append_of_toList String.toList_ofList String.toList_ofList))]
    decide +kernel

/-- The run on this tree is prepared, with one source and one finding. -/
theorem prepared_plainBesidePartial : Prepared plainBesidePartial ⟨.root, []⟩ inToOut
    { input := "in", output := "out" } ⟨⟨.root, ["in"]⟩, ⟨.root, ["out"]⟩, {}⟩
    [⟨.root, ["in", "codes.py"]⟩]
    ⟨[ownRead.source .python], [Batch.finding plainInCodes]⟩ where
  read := by decide
  valid := rfl
  selected := by decide +kernel
  digested := by
  -- Each field computes, once the containers of the file are known.
    rw [findInSources, Project.find_singleton, declares_plainBesidePartial.findIn_eq]
    rfl
  generated := by
    rw [findInSources, Project.find_singleton, declares_plainBesidePartial.findIn_eq]
    rfl

/-- One source is written, one container is left out, and the run ends with findings. -/
theorem tally_of_run_plainBesidePartial :
    plainBesidePartial.WellNamed ∧ plainBesidePartial.IsClosed ∧
    ∃ report, (run plainBesidePartial ⟨.root, []⟩ inToOut).result = .ok report ∧
      report.exitCode = Report.completedWithErrors ∧
      ∃ arguments settings files result, ∃ tally : Tally,
        Prepared plainBesidePartial ⟨.root, []⟩ inToOut arguments settings files result ∧
        report.progress = tally.progress ∧
        tally.Balances plainBesidePartial settings.output
          (findInSources plainBesidePartial settings.input files).containers result.sources
          report := by
  -- The report is computed from what is found and stored, and the theorem is applied to it.
  have named : plainBesidePartial.WellNamed := by decide
  have closed : plainBesidePartial.IsClosed := by decide
  have done : (run plainBesidePartial ⟨.root, []⟩ inToOut).result = .ok {
      exitCode := 1
      progress := [.started .validation, .finished .validation, .started .discovery,
        .finished .discovery, .discovered 1 0 2 2, .started .generation, .finished .generation,
        .generated 1 1 1, .started .write, .finished .write, .stored 1 0, .completed true]
      complaints := [.finding ⟨.nonPartialContainer,
        "Class 'Plain' should derive from Partial to support permissions generation",
        "codes.Plain", some "codes.py"⟩] } := by
    have stored : ((storeAll ⟨.root, ["out"]⟩ [ownRead.source .python]).on plainBesidePartial).1 =
        .ok [.written] := by
      decide +kernel
    rw [prepared_plainBesidePartial.result_eq stored, findInSources, Project.find_singleton,
      declares_plainBesidePartial.findIn_eq]
    decide +kernel
  exact ⟨named, closed, _, done, rfl, tally_of_run named closed done (.inr rfl)⟩

end Command

end PermissionNames
