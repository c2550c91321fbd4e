import Mathlib.Data.List.Infix
import PermissionNames.Proofs.Command.Idle
import PermissionNames.Proofs.Command.StoredBytes

/-! The exit code of a run follows from the phase that it reaches, and from the containers that it finds. -/

namespace PermissionNames.Command

open Discovery FileTree TreeAction

variable {tree other after : FileTree} {directory : Path} {arguments : Arguments} {settings : Settings}
  {words : List String} {files : List Path} {result : BatchResult} {report : Report}

/-- The steps of a run up to the selection of its files, all of them successful. -/
structure Selects (tree : FileTree) (directory : Path) (words : List String)
    (arguments : Arguments) (settings : Settings) (files : List Path) : Prop where
  read : Arguments.read words = some arguments
  valid : validate tree directory arguments = .ok settings
  selected : selectFiles tree settings.input = .ok files

/-- A run that is given up before it stores anything. -/
inductive GivenUp (tree : FileTree) (directory : Path) (words : List String) : Prop
  /-- The words make no command line, or they call for help. -/
  | unread (read : Arguments.read words = none)
  /-- A path or an option is not valid. -/
  | invalid {arguments : Arguments} {cause : Abort ⊕ ValidationError}
    (read : Arguments.read words = some arguments)
    (checked : validate tree directory arguments = .error cause)
  /-- The ignore files cannot be used. -/
  | unselected {arguments : Arguments} {settings : Settings} {cause : Ignore.RulesError}
    (read : Arguments.read words = some arguments)
    (checked : validate tree directory arguments = .ok settings)
    (selected : selectFiles tree settings.input = .error cause)
  /-- A name has to be digested that cannot be encoded. -/
  | undigested {arguments : Arguments} {settings : Settings} {files : List Path}
    (selects : Selects tree directory words arguments settings files)
    (undigested : (findInSources tree settings.input files).found.any isUndigestible = true)
  /-- The names cannot be generated. -/
  | refused {arguments : Arguments} {settings : Settings} {files : List Path} {cause : BatchError}
    (selects : Selects tree directory words arguments settings files)
    (generated : (Batch.generate (findInSources tree settings.input files).containers
      settings.options).outcome = .error cause)

/-- A run whose sources are generated, and whose storing ends with a fault. -/
def StoringFails (tree : FileTree) (directory : Path) (words : List String) (fault : FileFault) :
    Prop :=
  ∃ arguments settings files result after,
    Prepared tree directory words arguments settings files result ∧
      (storeAll settings.output result.sources).on tree = (.error fault, after)

/-- A run is given up before it stores anything, or it is prepared for that. -/
theorem givenUp_or_prepared (tree : FileTree) (directory : Path) (words : List String) :
    GivenUp tree directory words ∨
      ∃ arguments settings files result,
        Prepared tree directory words arguments settings files result := by
  -- Each ending of a run is assigned to one side: three of them come after the preparation.
  have ending := ending_of_run tree directory words
  generalize run tree directory words = outcome at ending
  cases ending with
  | unread read => exact .inl (.unread read)
  | overlong read checked => exact .inl (.invalid read checked)
  | invalid read checked => exact .inl (.invalid read checked)
  | malformed read checked selected => exact .inl (.unselected read checked selected)
  | unreadable read checked selected => exact .inl (.unselected read checked selected)
  | undigested read checked selected undigested =>
    exact .inl (.undigested ⟨read, checked, selected⟩ undigested)
  | refused read checked selected digested generated =>
    exact .inl (.refused ⟨read, checked, selected⟩ (generate_eq_error_iff.mp generated))
  | lost prepared | stopped prepared | finished prepared => exact .inr ⟨_, _, _, _, prepared⟩

/-- Whether a complaint is told like a fault of storing. -/
def Complaint.tellsWriteFailed (complaint : Complaint) : Bool :=
  "Write failed: ".toList.isPrefixOf complaint.line.toList

/-- What starts with another letter is not told like a fault of storing. -/
theorem tellsWriteFailed_eq_false {complaint : Complaint} {c : Char}
    (start : complaint.line.toList.head? = some c) (other : c ≠ 'W') :
    complaint.tellsWriteFailed = false := by
  -- The wording of such a fault begins with one letter, so the first one tells them apart.
  rw [Complaint.tellsWriteFailed]
  cases spelled : complaint.line.toList with
  | nil => simp
  | cons first rest =>
    rw [spelled, List.head?_cons, Option.some.injEq] at start
    subst start
    simp [List.isPrefixOf, Ne.symm other]

/-- A text starts with what its first part starts with. -/
theorem head?_append {first rest : String} {c : Char} (start : first.toList.head? = some c) :
    (first ++ rest).toList.head? = some c := by
  rw [String.toList_append, List.head?_append, start, Option.some_or]

/-- A validation error is not told like a fault of storing. -/
theorem tellsWriteFailed_validation (cause : ValidationError) :
    (Complaint.validation cause).tellsWriteFailed = false := by
  -- The wordings start with other letters.
  obtain ⟨c, start, other⟩ : ∃ c, cause.message.toList.head? = some c ∧ c ≠ 'W' := by
    cases cause with
    | nullCharacter => exact ⟨'l', rfl, by decide⟩
    | inputMissing path => exact ⟨'I', head?_append (by simp), by decide⟩
    | inputNoModule path => exact ⟨'I', head?_append (by simp), by decide⟩
    | outputNoDirectory path => exact ⟨'O', head?_append (by simp), by decide⟩
    | options cause =>
      cases cause with
      | dialect => exact ⟨'d', head?_append (by simp), by decide⟩
      | maxWorkers => exact ⟨'m', rfl, by decide⟩
      | algorithm cause =>
        cases cause with
        | unknown name => exact ⟨'U', head?_append (by simp), by decide⟩
        | variableLength name => exact ⟨'V', head?_append (by simp), by decide⟩
        | unsupported name => exact ⟨'u', head?_append (by simp), by decide⟩
        | missingLength => exact ⟨'a', rfl, by decide⟩
  exact tellsWriteFailed_eq_false start other

/-- A fault of ignore files is not told like a fault of storing. -/
theorem tellsWriteFailed_ignoreFiles (fault : FileFault) :
    (Complaint.ignoreFiles fault).tellsWriteFailed = false :=
  tellsWriteFailed_eq_false (head?_append (by simp) : _ = some 'F') (by decide)

/-- An error of a batch is not told like a fault of storing. -/
theorem tellsWriteFailed_generation (cause : BatchError) :
    (Complaint.generation cause).tellsWriteFailed = false :=
  tellsWriteFailed_eq_false (head?_append (by simp) : _ = some 'G') (by decide)

/-- A fault of storing is told as such. -/
theorem tellsWriteFailed_writing (fault : FileFault) :
    (Complaint.writing fault).tellsWriteFailed = true := by
  -- The wording begins the line, whatever the fault is.
  show "Write failed: ".toList.isPrefixOf ("Write failed: " ++ fault.message).toList = true
  rw [String.toList_append]
  exact List.isPrefixOf_iff_prefix.mpr (List.prefix_append _ _)

/-- A run that is given up leaves the tree as it is, and if it reports at all, it reports failure, but no fault of storing. -/
theorem GivenUp.run_eq (givenUp : GivenUp tree directory words) :
    (run tree directory words).tree = tree ∧
      ∀ report, (run tree directory words).result = .ok report →
        report.exitCode = Report.failure ∧
          ∀ complaint ∈ report.complaints, complaint.tellsWriteFailed = false := by
  -- One case for each point at which a run can be given up; none of them lies behind the first change.
  cases givenUp with
  | unread read =>
    rw [(Ending.unread read).run_eq]
    refine ⟨rfl, ?_⟩
    rintro report ⟨⟩
    exact ⟨rfl, by simp⟩
  | invalid read checked =>
    rename_i cause
    cases cause with
    | inl cause =>
      rw [(Ending.overlong read checked).run_eq]
      exact ⟨rfl, by rintro report ⟨⟩⟩
    | inr cause =>
      rw [(Ending.invalid read checked).run_eq]
      refine ⟨rfl, ?_⟩
      rintro report ⟨⟩
      exact ⟨rfl, by simpa using tellsWriteFailed_validation cause⟩
  | unselected read checked selected =>
    rename_i cause
    cases cause with
    | pattern cause =>
      rw [(Ending.malformed read checked selected).run_eq]
      exact ⟨rfl, by rintro report ⟨⟩⟩
    | unreadable fault =>
      rw [(Ending.unreadable read checked selected).run_eq]
      refine ⟨rfl, ?_⟩
      rintro report ⟨⟩
      exact ⟨rfl, by simpa using tellsWriteFailed_ignoreFiles fault⟩
  | undigested selects undigested =>
    obtain ⟨read, checked, selected⟩ := selects
    rw [(Ending.undigested read checked selected undigested).run_eq]
    exact ⟨rfl, by rintro report ⟨⟩⟩
  | refused selects generated =>
    obtain ⟨read, checked, selected⟩ := selects
    have refused := generate_eq_error_iff.mpr generated
    -- A name that cannot be encoded ends the run before that.
    rcases Bool.eq_false_or_eq_true ((findInSources tree _ _).found.any isUndigestible) with
      undigested | digested
    · rw [(Ending.undigested read checked selected undigested).run_eq]
      exact ⟨rfl, by rintro report ⟨⟩⟩
    · rw [(Ending.refused read checked selected digested refused).run_eq]
      refine ⟨rfl, ?_⟩
      rintro report ⟨⟩
      exact ⟨rfl, by simpa using tellsWriteFailed_generation _⟩

/-- A report after a fault of storing is one of failure, and it tells the fault. -/
theorem StoringFails.report_eq {fault : FileFault}
    (fails : StoringFails tree directory words fault)
    (done : (run tree directory words).result = .ok report) :
    report.exitCode = Report.failure ∧
      ∃ complaint ∈ report.complaints, complaint.tellsWriteFailed = true := by
  -- The run reports a fault only if it is one of those that are told.
  obtain ⟨arguments, settings, files, result, after, prepared, storing⟩ := fails
  rw [prepared.run_stopped storing] at done
  split at done
  · cases done
    exact ⟨rfl, _, List.mem_append_right _ (List.mem_singleton_self _),
      tellsWriteFailed_writing fault⟩
  · cases done

/-- A run that stores all its sources ends with findings if some container is left out, and with success otherwise. -/
theorem Prepared.exitCode_iff {stored : List Storage}
    (prepared : Prepared tree directory words arguments settings files result) :
    ((finishedReport files (findInSources tree settings.input files) result stored).exitCode =
        Report.completedWithErrors ↔
      ∃ container ∈ (findInSources tree settings.input files).containers,
        container.reEmittable = false) ∧
    ((finishedReport files (findInSources tree settings.input files) result stored).exitCode =
        Report.success ↔
      ∀ container ∈ (findInSources tree settings.input files).containers,
        container.reEmittable = true) := by
  -- The code depends on whether there are errors, and these on whether a container is left out.
  have errors_iff := hasErrors_of_generate prepared.generated
  rw [← TreeFindings.containers] at errors_iff
  rw [← errors_iff]
  have none : (∀ container ∈ (findInSources tree settings.input files).containers,
      container.reEmittable = true) ↔ ¬ result.hasErrors = true := by
    rw [errors_iff]
    simp
  rw [none]
  cases errors : result.hasErrors <;>
    simp [finishedReport, errors, Report.completedWithErrors, Report.success]

/-- The exit code of a run that reports.
It is failure, on a tree as before, if the run is given up before it stores anything, as for a locked container or a path taken twice.
It is failure, told as such, exactly if storing fails, and else tells whether some container is left out.
Source files that add no container and are in nobody's way do not change it. -/
theorem exitCode_of_run (done : (run tree directory words).result = .ok report) :
    (GivenUp tree directory words →
      report.exitCode = Report.failure ∧ (run tree directory words).tree = tree) ∧
    (∀ arguments settings files, Selects tree directory words arguments settings files →
      ((∃ container ∈ Batch.selected (findInSources tree settings.input files).containers,
          Batch.Locked container) ∨
        ¬ ((Batch.selected (findInSources tree settings.input files).containers).map
          (·.foldedPath settings.options.dialect)).Nodup) →
      GivenUp tree directory words) ∧
    ((report.exitCode = Report.failure ∧
        ∃ complaint ∈ report.complaints, complaint.tellsWriteFailed = true) ↔
      ∃ fault, StoringFails tree directory words fault) ∧
    (¬ GivenUp tree directory words → (∀ fault, ¬ StoringFails tree directory words fault) →
      ∃ arguments settings files, Selects tree directory words arguments settings files ∧
        (report.exitCode = Report.completedWithErrors ↔
          ∃ container ∈ (findInSources tree settings.input files).containers,
            container.reEmittable = false) ∧
        (report.exitCode = Report.success ↔
          ∀ container ∈ (findInSources tree settings.input files).containers,
            container.reEmittable = true)) ∧
    ∀ (other : FileTree) (places : List String → Bool) arguments,
      Arguments.read words = some arguments → tree.WellNamed → other.WellNamed →
      Keeps (elsewhere places) tree other →
      Idle places tree ((Path.ofString arguments.input).resolve directory) →
      Idle places other ((Path.ofString arguments.input).resolve directory) →
      LooksAlike tree other ((Path.ofString arguments.input).resolve directory) →
      LooksAlike tree other ((Path.ofString arguments.output).resolve directory) →
      (∀ settings files result, Prepared tree directory words arguments settings files result →
        ∀ source ∈ result.sources,
          Stays (elsewhere places) (targetOf settings.output source).parts) →
      ∃ otherReport, (run other directory words).result = .ok otherReport ∧
        otherReport.exitCode = report.exitCode := by
  -- A run is given up, or it is prepared and its storing ends somehow; each part looks at these
  -- cases.
  refine ⟨fun givenUp => ?_, ?_, ⟨?_, ?_⟩, ?_, ?_⟩
  · obtain ⟨sameTree, reports⟩ := givenUp.run_eq
    exact ⟨(reports report done).1, sameTree⟩
  · intro arguments settings files selects failing
    obtain ⟨cause, generated⟩ := (Batch.exists_error_of_generate_iff _ _).mpr failing
    exact .refused selects generated
  · -- Neither a run that is given up nor one that stores everything reports such a failure.
    rintro ⟨failure, complaint, told, tells⟩
    rcases givenUp_or_prepared tree directory words with
      givenUp | ⟨arguments, settings, files, result, prepared⟩
    · rw [(givenUp.run_eq.2 report done).2 complaint told] at tells
      cases tells
    · cases storing : (storeAll settings.output result.sources).on tree with
      | mk outcome after =>
        cases outcome with
        | error fault => exact ⟨fault, arguments, settings, files, result, after, prepared, storing⟩
        | ok stored =>
          rw [prepared.run_eq storing] at done
          cases done
          cases errors : result.hasErrors <;>
            simp [finishedReport, errors, Report.completedWithErrors, Report.success,
              Report.failure] at failure
  · rintro ⟨fault, fails⟩
    exact fails.report_eq done
  · intro notGivenUp stores
    rcases givenUp_or_prepared tree directory words with
      givenUp | ⟨arguments, settings, files, result, prepared⟩
    · exact absurd givenUp notGivenUp
    · cases storing : (storeAll settings.output result.sources).on tree with
      | mk outcome after =>
        cases outcome with
        | error fault =>
          exact absurd ⟨arguments, settings, files, result, after, prepared, storing⟩ (stores fault)
        | ok stored =>
          rw [prepared.run_eq storing] at done
          cases done
          exact ⟨arguments, settings, files, ⟨prepared.read, prepared.valid, prepared.selected⟩,
            prepared.exitCode_iff⟩
  · intro other places arguments read named otherNamed kept idle otherIdle inputAlike outputAlike free
    -- The other run has the same exit code, and so it has a report at all.
    have same := Idle.exitCode_eq read named otherNamed kept idle otherIdle inputAlike outputAlike
      free
    rw [done] at same
    cases otherDone : (run other directory words).result with
    | error cause =>
      rw [otherDone] at same
      cases same
    | ok otherReport =>
      rw [otherDone] at same
      exact ⟨otherReport, rfl, Except.ok.inj same⟩

/-- A tree with one module, and with an empty directory for the source of its container. -/
def readInRoot : FileTree where
  entries := [(["codes"], .directory), (["codes.py"], .file (Utf8.encode
    "@permissions_repo\nclass Read(Partial):\n    own: str\n".toList))]

/-- The same tree with one more file, which is not UTF-8. -/
def unreadableInCodes (name : String) : FileTree where
  entries := [(["codes"], .directory), (["codes", name], .file [0xff]),
    (["codes.py"], .file (Utf8.encode
      "@permissions_repo\nclass Read(Partial):\n    own: str\n".toList))]

/-- A call that stores the sources of a directory right there. -/
def inPlace : List String := ["--input", ".", "--output", "."]

/-- The module of the tree without that file declares its class. -/
theorem findInSources_readInRoot :
    findInSources readInRoot ⟨.root, []⟩ [⟨.root, ["codes.py"]⟩] = ⟨[Project.readInCodes], []⟩ := by
  -- There is one file, whose module is known.
  have declares := @Project.declares_readInCodes ⟨readInRoot, ⟨.root, []⟩, ⟨.root, []⟩⟩
    ⟨.root, ["codes.py"]⟩ ⟨by decide, rfl⟩ rfl rfl
  rw [findInSources, Project.find_singleton, declares.findIn_eq]

/-- The run on the tree without that file is prepared, with one source. -/
theorem prepared_readInRoot : Prepared readInRoot ⟨.root, []⟩ inPlace
    { input := ".", output := "." } ⟨⟨.root, []⟩, ⟨.root, []⟩, {}⟩
    [⟨.root, ["codes.py"]⟩] ⟨[ownRead.source .python], []⟩ where
  read := by decide
  valid := rfl
  selected := by decide +kernel
  digested := by
  -- Each field computes, once the containers of the file are known.
    rw [findInSources_readInRoot]
    rfl
  generated := by
    rw [findInSources_readInRoot]
    exact generate_readInCodes

/-- This run is a success. -/
theorem run_readInRoot : ∃ report, (run readInRoot ⟨.root, []⟩ inPlace).result = .ok report ∧
    report.exitCode = Report.success := by
  -- The source is stored by computation, so the report is known.
  have stored : ((storeAll ⟨.root, []⟩ [ownRead.source .python]).on readInRoot).1 =
      .ok [.written] := by
    decide +kernel
  exact ⟨_, prepared_readInRoot.result_eq stored, rfl⟩

/-- In both of these trees nothing of use stands at or below the place of that file. -/
theorem idle_pages {tree : FileTree}
    (listed : tree = readInRoot ∨ tree = unreadableInCodes "pages.py") :
    Idle (· == ["codes", "pages.py"]) tree ⟨.root, []⟩ where
  isSource place here := by
  -- Both trees are small enough to look through for what stands at the place or below it.
    obtain rfl : place = _ := beq_iff_eq.mp here
    decide
  nothingBelow := by
    have above : ∀ entry ∈ tree.entries, ∀ front ∈ entry.1.inits, front ≠ entry.1 →
        (front == ["codes", "pages.py"]) = false := by
      rcases listed with rfl | rfl <;> decide
    intro entry member front inside
    exact above entry member front ((List.mem_inits _ _).mpr inside)
  addsNothing place here := by
    obtain rfl : place = _ := beq_iff_eq.mp here
    rcases listed with rfl | rfl <;> decide +kernel

/-- A file that cannot be read and is in nobody's way leaves the run the success that it is without it. -/
theorem exitCode_of_run_unreadableInCodes :
    ∃ report, (run (unreadableInCodes "pages.py") ⟨.root, []⟩ inPlace).result = .ok report ∧
      report.exitCode = Report.success := by
  have read : Arguments.read inPlace = some { input := ".", output := "." } := by decide +kernel
  have alike : LooksAlike readInRoot (unreadableInCodes "pages.py") ⟨.root, []⟩ :=
    ⟨rfl, rfl, rfl⟩
  obtain ⟨report, done, success⟩ := run_readInRoot
  rw [← success]
  refine (exitCode_of_run done).2.2.2.2 (unreadableInCodes "pages.py")
    (· == ["codes", "pages.py"]) _ read (by decide +kernel) (by decide +kernel)
    (by unfold Keeps; decide +kernel) (idle_pages (.inl rfl)) (idle_pages (.inr rfl)) alike alike ?_
  -- The only target is another file of the directory.
  intro settings files result prepared source member
  obtain ⟨-, rfl, -, rfl⟩ := prepared_readInRoot.unique prepared
  obtain rfl := List.mem_singleton.mp member
  have apart : ∀ front ∈ (targetOf ⟨.root, []⟩ (ownRead.source .python)).parts.inits,
      elsewhere (· == ["codes", "pages.py"]) front = true := by
    decide +kernel
  intro front inside
  exact apart front ((List.mem_inits _ _).mpr inside)

/-- At the target of the container, such a file is in the way. -/
theorem prepared_unreadableInCodes :
    Prepared (unreadableInCodes "Read_generated.py") ⟨.root, []⟩ inPlace
      { input := ".", output := "." } ⟨⟨.root, []⟩, ⟨.root, []⟩, {}⟩
      [⟨.root, ["codes", "Read_generated.py"]⟩, ⟨.root, ["codes.py"]⟩]
      ⟨[ownRead.source .python], []⟩ := by
  -- Two files are selected, of which one cannot be read and adds nothing.
  have sorted : Path.sort [⟨.root, ["codes", "Read_generated.py"]⟩, ⟨.root, ["codes.py"]⟩] =
      [⟨.root, ["codes", "Read_generated.py"]⟩, ⟨.root, ["codes.py"]⟩] :=
    List.mergeSort_of_pairwise (by decide)
  have declares := @Project.declares_readInCodes
    ⟨unreadableInCodes "Read_generated.py", ⟨.root, []⟩, ⟨.root, []⟩⟩
    ⟨.root, ["codes.py"]⟩ ⟨by decide, rfl⟩ rfl rfl
  have nothing : (⟨unreadableInCodes "Read_generated.py", ⟨.root, []⟩, ⟨.root, []⟩⟩ :
      Project).findIn ⟨.root, ["codes", "Read_generated.py"]⟩ =
        ⟨[], ["codes/Read_generated.py"]⟩ := by
    decide +kernel
  have found : (findInSources (unreadableInCodes "Read_generated.py") ⟨.root, []⟩
      [⟨.root, ["codes", "Read_generated.py"]⟩, ⟨.root, ["codes.py"]⟩]).found =
        [Project.readInCodes] := by
    rw [findInSources, Project.find_eq_flatMap, sorted, List.flatMap_cons, List.flatMap_singleton,
      nothing, declares.findIn_eq]
    rfl
  refine ⟨by decide, rfl, ?_, by rw [found]; rfl, by rw [found]; exact generate_readInCodes⟩
  have below : (unreadableInCodes "Read_generated.py").below ⟨.root, []⟩ Project.isSourceName =
      [⟨.root, ["codes", "Read_generated.py"]⟩, ⟨.root, ["codes.py"]⟩] := sorted
  unfold selectFiles
  dsimp only
  rw [below]
  decide +kernel

/-- A file that cannot be read turns success into failure where it stands at a target, although the batch is the same. -/
theorem exitCode_changed_by_unreadable_target :
    (∃ report, (run readInRoot ⟨.root, []⟩ inPlace).result = .ok report ∧
      report.exitCode = Report.success) ∧
    (∃ report, (run (unreadableInCodes "Read_generated.py") ⟨.root, []⟩ inPlace).result =
        .ok report ∧
      report.exitCode = Report.failure) ∧
    (∃ fault, (unreadableInCodes "Read_generated.py").readText
      ⟨.root, ["codes", "Read_generated.py"]⟩ = .error fault) ∧
    ∃ arguments settings files others result,
      Prepared readInRoot ⟨.root, []⟩ inPlace arguments settings files result ∧
      Prepared (unreadableInCodes "Read_generated.py") ⟨.root, []⟩ inPlace arguments settings
        others result := by
  -- The target cannot be compared with the new text, so storing it fails before anything is
  -- written.
  have storing : (storeAll ⟨.root, []⟩ [ownRead.source .python]).on
      (unreadableInCodes "Read_generated.py") =
        (.error (.undecodable ⟨.startByte, [0xff], 0⟩), unreadableInCodes "Read_generated.py") := by
    decide
  refine ⟨run_readInRoot, ?_, ⟨.undecodable ⟨.startByte, [0xff], 0⟩, ?_⟩,
    _, _, _, _, _, prepared_readInRoot, prepared_unreadableInCodes⟩
  · rw [prepared_unreadableInCodes.run_stopped storing]
    exact ⟨_, rfl, rfl⟩
  · decide

end PermissionNames.Command
