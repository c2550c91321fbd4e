import PermissionNames.Proofs.Command.Ending
import PermissionNames.Proofs.Command.Generation
import PermissionNames.Proofs.Command.Selection
import PermissionNames.Proofs.Command.Targets
import PermissionNames.Proofs.Command.Validation

/-! A run on the tree that a finished run leaves: it finds every source in place and stores none. -/

namespace PermissionNames.Command

open Discovery TreeAction

variable {tree other after : FileTree} {directory : Path} {arguments : Arguments}
  {settings : Settings} {words : List String}

variable {files : List Path} {result : BatchResult} {stored : List Storage} {report : Report}

/-- Neither of two paths leads to the other. -/
def Apart (first second : Path) : Prop :=
  ¬ first.parts <+: second.parts ∧ ¬ second.parts <+: first.parts

instance (first second : Path) : Decidable (Apart first second) :=
  inferInstanceAs (Decidable (¬ first.parts <+: second.parts ∧ ¬ second.parts <+: first.parts))

/-- The sources of a prepared run on a tree of names are free of slashes. -/
theorem Prepared.isSlashFreeSource
    (prepared : Prepared tree directory words arguments settings files result)
    (named : tree.WellNamed) : ∀ source ∈ result.sources, IsSlashFreeSource source := by
  obtain ⟨anchored, level⟩ := (validated_of_validate prepared.valid).input_resolved
  -- A slash neither stands in a word nor in the name of an entry.
  have free := lacks_findInSources (c := '/') ⟨by decide, by decide⟩ named anchored level
    (fun entry listed _ part inEntry => (named entry listed part inEntry).single) prepared.selected
  intro source member
  obtain ⟨one, listed, rfl⟩ := exists_found_of_mem_sources prepared.generated source member
  have finished :=
    (free one.container (List.mem_map_of_mem listed)).finish settings.options.algorithm
  exact ⟨_, _, ⟨finished.name, finished.namespacePath⟩, rfl⟩

/-- The texts of a prepared run hold no carriage return if no entry below the input does. -/
theorem Prepared.return_not_mem_text
    (prepared : Prepared tree directory words arguments settings files result)
    (named : tree.WellNamed)
    (clean : ∀ entry ∈ tree.entries, settings.input.parts <+: entry.1 →
      ∀ part ∈ entry.1, '\r' ∉ part.toList) :
    ∀ source ∈ result.sources, '\r' ∉ source.text.toList := by
  -- Returns come from names alone, as literals escape them, and finishing keeps the names.
  obtain ⟨anchored, level⟩ := (validated_of_validate prepared.valid).input_resolved
  have lacks := lacks_findInSources (c := '\r') ⟨by decide, by decide⟩ named anchored level clean
    prepared.selected
  intro source member
  obtain ⟨one, listed, rfl⟩ := exists_found_of_mem_sources prepared.generated source member
  have finished := (lacks one.container (List.mem_map_of_mem listed)).finish settings.options.algorithm
  exact finished.control_not_mem_text (by decide) (by decide) _

/-- Settings stay valid where the input is as before and a source of theirs is in place. -/
theorem Validated.validate_of_stored {source : GeneratedSource} {text : List Char}
    (validated : Validated tree directory arguments settings)
    (same : FileTree.SameAlong tree after settings.input.parts) (free : IsSlashFreeSource source)
    (read : after.readText (targetOf settings.output source) = .ok text) :
    validate after directory arguments = .ok settings := by
  -- A file that can be read below the output makes that a directory.
  obtain ⟨container, dialect, isFree, located⟩ := free
  rw [targetOf_eq located] at read
  obtain ⟨directories, file, -, -, parts⟩ := parts_targetOf isFree settings.output dialect
  obtain ⟨bytes, raw, standing, -, -⟩ := FileTree.readText_eq_ok_iff.mp read
  exact (validated.of_sameAlong same).validate_eq_ok
    (FileTree.status_eq_directory parts (by simp) standing.status)

/-- A run that was prepared and has stored all its sources leaves a tree on which it is prepared in the same way, with every source in place. -/
theorem Prepared.again (prepared : Prepared tree directory words arguments settings files result)
    (named : tree.WellNamed) (apart : Apart settings.input settings.output)
    (clean : ∀ entry ∈ tree.entries, settings.input.parts <+: entry.1 →
      ∀ part ∈ entry.1, '\r' ∉ part.toList)
    (done : (storeAll settings.output result.sources).on tree = (.ok stored, after)) :
    Prepared after directory words arguments settings files result ∧
      findInSources after settings.input files = findInSources tree settings.input files ∧
      ∀ source ∈ result.sources,
        after.readText (targetOf settings.output source) = .ok source.text.toList := by
  have validated := validated_of_validate prepared.valid
  obtain ⟨anchored, level⟩ := validated.input_resolved
  have below : ∀ file ∈ files, IsBelow settings.input file := fun file member =>
    (mem_selectFiles named anchored level prepared.selected member).1
  have free := prepared.isSlashFreeSource named
  have along := FileTree.exists_along_of_exists? level validated.inputThere
  -- The targets lie below the output, so storing touches nothing around the input.
  have settled : ∀ source ∈ result.sources, Settled (targetOf settings.output source) :=
    fun source member => (free source member).settled validated.output_level
  have clear : ∀ source ∈ result.sources,
      Clears (FileTree.around settings.input.parts) tree (targetOf settings.output source) := by
    intro source member
    obtain ⟨container, dialect, isFree, located⟩ := free source member
    rw [targetOf_eq located]
    exact clears_targetOf isFree apart.2 apart.1 along
  -- Input and ignore files are as before, and every text is read back as it was stored.
  have kept := keeps_storeAll settled clear done
  have spared := spared_of_distinct settings.output free (distinct_of_generate prepared.generated)
  have read := readText_of_storeAll settled spared (prepared.return_not_mem_text named clean) done
  have found := findInSources_eq kept anchored level below
  refine ⟨⟨prepared.read, ?_, ?_, ?_, ?_⟩, found, read⟩
  · cases held : result.sources with
    | nil =>
      -- Without sources nothing was stored, so the tree is the same.
      rw [held] at done
      cases done
      exact prepared.valid
    | cons source later =>
      -- Any source that is in place shows the output to be a directory.
      have member : source ∈ result.sources := by simp [held]
      exact validated.validate_of_stored (kept.sameAlong (List.prefix_refl settings.input.parts))
        (free source member) (read source member)
  · rw [selectFiles_eq kept named anchored level, prepared.selected]
  · rw [found, prepared.digested]
  · rw [found, prepared.generated]

/-- Running again after a run that ended with success or with findings, with input and output apart, leaves the tree as it is.
It reports the same, except that no file was written and every emitted one was as it should be. -/
theorem run_after_run (named : tree.WellNamed) (read : Arguments.read words = some arguments)
    (apart : Apart ((Path.ofString arguments.input).resolve directory)
      ((Path.ofString arguments.output).resolve directory))
    (clean : ∀ entry ∈ tree.entries,
      ((Path.ofString arguments.input).resolve directory).parts <+: entry.1 →
        ∀ part ∈ entry.1, '\r' ∉ part.toList)
    (done : (run tree directory words).result = .ok report)
    (code : report.exitCode = Report.success ∨ report.exitCode = Report.completedWithErrors) :
    ∃ before emitted skipped diagnostics written unchanged withErrors,
      report.progress = before ++ [.generated emitted skipped diagnostics, .started .write,
        .finished .write, .stored written unchanged, .completed withErrors] ∧
      run (run tree directory words).tree directory words =
        ⟨(run tree directory words).tree, .ok {
          exitCode := report.exitCode
          progress := before ++ [.generated emitted skipped diagnostics, .started .write,
            .finished .write, .stored 0 emitted, .completed withErrors]
          complaints := report.complaints }⟩ := by
  obtain ⟨given, settings, files, result, stored, prepared, storing, rfl⟩ :=
    prepared_of_run done code
  -- The words are read in one way only.
  have same : given = arguments := Option.some.inj (prepared.read.symm.trans read)
  subst same
  have validated := validated_of_validate prepared.valid
  rw [← validated.input_eq] at apart clean
  rw [← validated.output_eq] at apart
  obtain ⟨prepared, found, inPlace⟩ := prepared.again named apart clean storing
  -- With all texts in place the second run stores nothing and reports that.
  have ran := prepared.run_eq (on_storeAll (isEncodable_of_storeAll storing) inPlace)
  rw [found] at ran
  have nothingWritten :
      (List.replicate result.sources.length Storage.unchanged).count .written = 0 := by
    simp [List.count_replicate]
  refine ⟨progressBefore files (findInSources tree settings.input files), result.sources.length, _,
    _, _, _, _, rfl, ?_⟩
  rw [ran]
  simp only [finishedReport, nothingWritten, List.count_replicate_self]

/-- A tree with one module, where the prefix of a slot holds a carriage return. -/
def returnInPrefix : FileTree where
  entries := [(["in"], .directory),
    (["in", "codes.py"], .file (Utf8.encode
      "@permissions_repo\nclass Read(Partial):\n    own: Annotated[str, Prefix('a\\r')]\n".toList))]

/-- A call that stores the sources of one directory below another one. -/
def inToOut : List String := ["--input", "in", "--output", "out"]

/-- A name with a carriage return is written with an escape, read back, and left alone by the second run. -/
theorem run_after_run_returnInPrefix :
    ∃ report, (run returnInPrefix ⟨.root, []⟩ inToOut).result = .ok report ∧
      ∃ before emitted skipped diagnostics written unchanged withErrors,
        report.progress = before ++ [.generated emitted skipped diagnostics, .started .write,
          .finished .write, .stored written unchanged, .completed withErrors] ∧
        run (run returnInPrefix ⟨.root, []⟩ inToOut).tree ⟨.root, []⟩ inToOut =
          ⟨(run returnInPrefix ⟨.root, []⟩ inToOut).tree, .ok {
            exitCode := report.exitCode
            progress := before ++ [.generated emitted skipped diagnostics, .started .write,
              .finished .write, .stored 0 emitted, .completed withErrors]
            complaints := report.complaints }⟩ := by
  -- The first run is computed, and the law tells the second.
  have done : (run returnInPrefix ⟨.root, []⟩ inToOut).result = .ok {
      exitCode := 0
      progress := [.started .validation, .finished .validation, .started .discovery,
        .finished .discovery, .discovered 1 0 1 1, .started .generation, .finished .generation,
        .generated 1 0 0, .started .write, .finished .write, .stored 1 0, .completed false] } := by
    decide +kernel
  have read : Arguments.read inToOut = some { input := "in", output := "out" } := by
    decide
  exact ⟨_, done, run_after_run (by decide) read (by decide) (by decide)
    done (.inl rfl)⟩

end PermissionNames.Command
