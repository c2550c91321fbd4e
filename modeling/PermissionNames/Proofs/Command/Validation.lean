import PermissionNames.Command.Run
import PermissionNames.Proofs.FileTree
import PermissionNames.Proofs.Path

/-! The checks that settings have to pass before a run does its work. -/

namespace PermissionNames.Command

variable {tree other : FileTree} {directory : Path} {arguments : Arguments} {settings : Settings}

/-- The checks of a command line, one after the other. -/
theorem validate_eq (tree : FileTree) (directory : Path) (arguments : Arguments) :
    validate tree directory arguments =
      let input := (Path.ofString arguments.input).resolve directory
      let output := (Path.ofString arguments.output).resolve directory
      if holdsNull arguments.input || holdsNull arguments.output then .error (.inr .nullCharacter)
      else
        match tree.exists? input with
        | .error fault => .error (.inl (.file fault))
        | .ok false => .error (.inr (.inputMissing input))
        | .ok true =>
          if tree.isFile input && input.suffix != ".py" then .error (.inr (.inputNoModule input))
          else
            match tree.exists? output with
            | .error fault => .error (.inl (.file fault))
            | .ok found =>
              if found && !tree.isDirectory output then .error (.inr (.outputNoDirectory output))
              else
                match Options.check arguments.dialect.name arguments.hashAlgorithm
                    arguments.maxWorkers with
                | .ok options => .ok ⟨input, output, options⟩
                | .error cause => .error (.inr (.options cause)) := by
  unfold validate lookUp
  dsimp only
  -- The checks are made in order, so each case ends the run or leads to the next check.
  by_cases null : (holdsNull arguments.input || holdsNull arguments.output) = true
  · rw [if_pos null, if_pos null]
    rfl
  · rw [if_neg null, if_neg null]
    cases inputThere : tree.exists? ((Path.ofString arguments.input).resolve directory) with
    | error fault => rfl
    | ok found =>
      cases found with
      | false => rfl
      | true =>
        dsimp only [Bind.bind, Except.bind, Bool.not_true]
        rw [if_neg (by simp)]
        split
        · rfl
        · cases tree.exists? ((Path.ofString arguments.output).resolve directory) with
          | error fault => rfl
          | ok found =>
            dsimp only
            split
            · rfl
            · rfl

/-- What is known of settings that were found valid, apart from what stands at the output. -/
structure Validated (tree : FileTree) (directory : Path) (arguments : Arguments)
    (settings : Settings) : Prop where
  noNull : (holdsNull arguments.input || holdsNull arguments.output) = false
  input_eq : settings.input = (Path.ofString arguments.input).resolve directory
  output_eq : settings.output = (Path.ofString arguments.output).resolve directory
  inputThere : tree.exists? settings.input = .ok true
  inputModule : (tree.isFile settings.input && settings.input.suffix != ".py") = false
  /-- The output has been looked up, so its path is not too long. -/
  outputFits : holdsNull settings.output.toString = true ∨ isOversized settings.output = false
  options_eq : Options.check arguments.dialect.name arguments.hashAlgorithm arguments.maxWorkers =
    .ok settings.options

/-- A path that can be looked up holds a null character, or it is not too long. -/
theorem fits_of_exists? {path : Path} {there : Bool} (looked : tree.exists? path = .ok there) :
    holdsNull path.toString = true ∨ isOversized path = false := by
  -- A path that is too long is refused before it is looked up.
  unfold FileTree.exists? at looked
  split at looked
  · exact .inl ‹_›
  split at looked
  · cases looked
  · exact .inr (Bool.eq_false_iff.mpr ‹_›)

/-- Valid settings have passed all checks. -/
theorem validated_of_validate (valid : validate tree directory arguments = .ok settings) :
    Validated tree directory arguments settings := by
  rw [validate_eq] at valid
  dsimp only at valid
  -- Every failed check would have been an error, so each of them has passed.
  split at valid
  · cases valid
  · rename_i noNull
    split at valid
    · cases valid
    · cases valid
    · rename_i inputThere
      split at valid
      · cases valid
      · rename_i inputModule
        split at valid
        · cases valid
        · rename_i looked
          split at valid
          · cases valid
          · split at valid
            · rename_i options checked
              cases valid
              exact ⟨by simpa using noNull, rfl, rfl, inputThere, by simpa using inputModule,
                fits_of_exists? looked, checked⟩
            · cases valid

/-- The input of settings starts at the root and does not climb. -/
theorem Validated.input_resolved (validated : Validated tree directory arguments settings) :
    settings.input.anchor = .root ∧ ".." ∉ settings.input.parts := by
  -- A resolved path starts at the root, and all its steps upwards are taken.
  rw [validated.input_eq]
  exact ⟨rfl, Path.level_resolve _ _⟩

/-- The checks of the input have the same outcome in trees that agree along it. -/
theorem Validated.of_sameAlong (validated : Validated tree directory arguments settings)
    (same : FileTree.SameAlong tree other settings.input.parts) :
    Validated other directory arguments settings := by
  -- Only what stands at the input is asked for.
  have level := validated.input_resolved.2
  obtain ⟨noNull, sameInput, sameOutput, inputThere, inputModule, fits, checked⟩ := validated
  refine ⟨noNull, sameInput, sameOutput, ?_, ?_, fits, checked⟩
  · rw [same.exists?_eq level, inputThere]
  · rw [same.isFile_eq level, inputModule]

/-- Settings that have passed all checks are valid where the output is a directory. -/
theorem Validated.validate_eq_ok (validated : Validated tree directory arguments settings)
    (found : tree.status settings.output = .ok .directory) :
    validate tree directory arguments = .ok settings := by
  -- Whether the output can be looked up or not, it is no obstacle.
  have isDirectory : tree.isDirectory settings.output = true := by
    simp [FileTree.isDirectory, found]
  obtain ⟨answer, looked⟩ : ∃ answer, tree.exists? settings.output = .ok answer := by
    unfold FileTree.exists?
    by_cases null : holdsNull settings.output.toString = true
    · exact ⟨false, if_pos null⟩
    · have fits := validated.outputFits.resolve_left null
      exact ⟨true, by simp only [null, fits, found, Bool.false_eq_true, if_false]⟩
  obtain ⟨noNull, sameInput, sameOutput, inputThere, inputModule, -, checked⟩ := validated
  rw [validate_eq]
  dsimp only
  rw [← sameInput, ← sameOutput]
  simp only [noNull, Bool.false_eq_true, if_false, inputThere, inputModule, looked, isDirectory,
    Bool.not_true, Bool.and_false, checked]

/-- The output of settings does not climb. -/
theorem Validated.output_level (validated : Validated tree directory arguments settings) :
    ".." ∉ settings.output.parts := by
  -- All steps upwards of a resolved path are taken.
  rw [validated.output_eq]
  exact Path.level_resolve _ _

end PermissionNames.Command
