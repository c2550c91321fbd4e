import PermissionNames.Proofs.Command.ToldFaults
import PermissionNames.Proofs.Command.Rerun

/-! A run is cut short only by a path that is too long to be looked up, by a line of an ignore file that is no pattern, or by a name that cannot be encoded. -/

namespace PermissionNames

variable {tree : FileTree}

namespace FileTree

/-- A walk without climbs fails for a long name exactly if it comes to one in a directory. -/
theorem walk_eq_nameTooLong_iff {place parts : List String} (level : ".." ∉ parts) :
    tree.walk place parts = .error .nameTooLong ↔
      ∃ (front : List String) (name : String) (rest : List String),
        parts = front ++ name :: rest ∧
        tree.walk place front = .ok (place ++ front) ∧
        tree.entry? (place ++ front) = some .directory ∧ longestName < name.utf8ByteSize := by
  constructor
  · intro failed
    -- The walk takes one component after the other, and the long name is the first or a later one.
    induction parts generalizing place with
    | nil => cases failed
    | cons part rest ih =>
      have here : part ≠ ".." := fun same => level (by simp [same])
      have later : ".." ∉ rest := fun member => level (List.mem_cons_of_mem part member)
      unfold walk at failed
      split at failed
      · cases failed
      · cases failed
      · rename_i directory
        rw [if_neg here] at failed
        split at failed
        · rename_i long
          exact ⟨[], part, rest, rfl, by simp [walk], by simpa using directory, long⟩
        · rename_i short
          split at failed
          · cases failed
          · rename_i next
            obtain ⟨front, name, further, split, walked, above, long⟩ := ih later failed
            refine ⟨part :: front, name, further, by rw [split]; rfl, ?_, by simpa using above,
              long⟩
            unfold walk
            simp only [directory, if_neg here, if_neg short, next, walked]
            simp
  · rintro ⟨front, name, rest, split, walked, directory, long⟩
    have here : name ≠ ".." := fun same => level (by simp [split, same])
    -- The walk comes to the directory, where the long name is the next component.
    rw [split, walk_append, walked]
    show tree.walk (place ++ front) (name :: rest) = _
    unfold walk
    simp only [directory, if_neg here, if_pos long]

/-- A path that leads to a directory and on to a name that is too long to be looked up there. -/
def LeadsToLongName (tree : FileTree) (path : Path) : Prop :=
  ∃ (front : List String) (name : String) (rest : List String),
    path.parts = front ++ name :: rest ∧ tree.walk [] front = .ok front ∧
    tree.entry? front = some .directory ∧ longestName < name.utf8ByteSize

/-- A path that is too long to be looked up, as a whole or for a name that it leads to. -/
def IsOverlong (tree : FileTree) (path : Path) : Prop :=
  longestPath < path.toString.utf8ByteSize ∨ tree.LeadsToLongName path

/-- What stands at a path without climbs is hidden by a long name exactly if the path leads to one. -/
theorem status_eq_nameTooLong_iff {path : Path} (level : ".." ∉ path.parts) :
    tree.status path = .error .nameTooLong ↔ tree.LeadsToLongName path := by
  have walked : tree.walk [] path.parts = .error .nameTooLong ↔ _ := walk_eq_nameTooLong_iff level
  simp only [List.nil_append] at walked
  rw [LeadsToLongName, ← walked, status]
  -- A walk that succeeds ends at an entry, or at none.
  cases tree.walk [] path.parts with
  | error problem => simp
  | ok place => cases standing : tree.entry? place <;> simp [standing]

/-- Looking up a path without climbs and null characters has an answer unless the path is overlong. -/
theorem exists?_cases (tree : FileTree) {path : Path} (level : ".." ∉ path.parts)
    (clean : holdsNull path.toString = false) :
    (tree.IsOverlong path ∧
        tree.exists? path = .error (.system .nameTooLong path.toString)) ∨
      ∃ there, ¬ tree.IsOverlong path ∧ tree.exists? path = .ok there := by
  unfold exists? IsOverlong
  rw [if_neg (by simp [clean]), ← status_eq_nameTooLong_iff level]
  by_cases long : longestPath < path.toString.utf8ByteSize
  · have oversized : isOversized path = true := by simpa [isOversized] using long
    exact .inl ⟨.inl long, if_pos oversized⟩
  · -- A path that is not too long as a whole is walked.
    have fits : isOversized path = false := by simpa [isOversized] using long
    rw [fits, if_neg (by simp)]
    cases tree.status path with
    | ok entry => exact .inr ⟨true, by simp [long], rfl⟩
    | error problem =>
      cases problem with
      | nameTooLong => exact .inl ⟨.inr rfl, rfl⟩
      | _ => exact .inr ⟨false, by simp [long], rfl⟩

end FileTree

namespace Ignore

/-- The reading of patterns fails at the first line that is none. -/
theorem readPatterns_eq_error_iff {lines : List String} {cause : PatternError} :
    readPatterns lines = .error cause ↔
      ∃ before line after, lines = before ++ line :: after ∧
        (∀ earlier ∈ before, ∃ pattern, Pattern.read earlier = .ok pattern) ∧
        Pattern.read line = .error cause := by
  constructor
  · intro failed
    -- The first line is the one that fails, or the rest fails after it.
    induction lines with
    | nil => cases failed
    | cons line rest ih =>
      unfold readPatterns at failed
      split at failed
      · rename_i other bad
        cases failed
        exact ⟨[], line, rest, rfl, by simp, bad⟩
      · rename_i pattern good
        cases later : readPatterns rest with
        | ok patterns =>
          rw [later] at failed
          cases failed
        | error other =>
          rw [later] at failed
          cases failed
          obtain ⟨before, bad, after, split, earlier, isBad⟩ := ih later
          refine ⟨line :: before, bad, after, by rw [split]; rfl, ?_, isBad⟩
          exact List.forall_mem_cons.mpr ⟨⟨pattern, good⟩, earlier⟩
  · rintro ⟨before, line, after, rfl, earlier, bad⟩
    -- All lines before the bad one are read, so the reading comes to it.
    induction before with
    | nil =>
      rw [List.nil_append, readPatterns, bad]
    | cons first rest ih =>
      obtain ⟨⟨pattern, good⟩, later⟩ := List.forall_mem_cons.mp earlier
      rw [List.cons_append, readPatterns, good, ih later]
      rfl

end Ignore

namespace Command

open Discovery TreeAction

variable {after : FileTree} {directory : Path} {words : List String} {arguments : Arguments}
  {settings : Settings} {files : List Path} {result : BatchResult}

/-- What cuts a run short, and the tree that it leaves. -/
inductive CutShort (tree : FileTree) (directory : Path) (words : List String) :
    Abort → FileTree → Prop
  /-- The input is overlong. -/
  | input {arguments : Arguments} {input : Path} (read : Arguments.read words = some arguments)
    (clean : (holdsNull arguments.input || holdsNull arguments.output) = false)
    (resolved : (Path.ofString arguments.input).resolve directory = input)
    (overlong : tree.IsOverlong input) :
    CutShort tree directory words (.file (.system .nameTooLong input.toString)) tree
  /-- The input can be used, but the output is overlong. -/
  | output {arguments : Arguments} {input output : Path}
    (read : Arguments.read words = some arguments)
    (clean : (holdsNull arguments.input || holdsNull arguments.output) = false)
    (inputResolved : (Path.ofString arguments.input).resolve directory = input)
    (inputThere : tree.exists? input = .ok true)
    (inputModule : (tree.isFile input && input.suffix != ".py") = false)
    (resolved : (Path.ofString arguments.output).resolve directory = output)
    (overlong : tree.IsOverlong output) :
    CutShort tree directory words (.file (.system .nameTooLong output.toString)) tree
  /-- All ignore files of the input can be read, but a line of theirs is no pattern. -/
  | line {arguments : Arguments} {settings : Settings} {before after : List String} {line : String}
    {cause : Ignore.PatternError} (read : Arguments.read words = some arguments)
    (checked : validate tree directory arguments = .ok settings)
    (notFile : tree.isFile settings.input = false)
    (lines : Ignore.allLines tree settings.input
      (tree.below settings.input (· == Ignore.fileName)) = .ok (before ++ line :: after))
    (earlier : ∀ earlier ∈ before, ∃ pattern, Ignore.Pattern.read earlier = .ok pattern)
    (bad : Ignore.Pattern.read line = .error cause) :
    CutShort tree directory words (.pattern cause) tree
  /-- The names of a partial container have to be digested, but one of them cannot be encoded. -/
  | digested {arguments : Arguments} {settings : Settings} {files : List Path} {one : Found}
    (read : Arguments.read words = some arguments)
    (checked : validate tree directory arguments = .ok settings)
    (selected : selectFiles tree settings.input = .ok files)
    (member : one ∈ (findInSources tree settings.input files).found)
    (isPartial : one.container.reEmittable = true)
    (obfuscated : one.container.effectiveFlags.obfuscate = true)
    (broken : one.isEncodable = false) :
    CutShort tree directory words .encoding tree
  /-- All sources are generated and those before one are stored, but that one cannot be encoded; its temporary file is left empty. -/
  | written {arguments : Arguments} {settings : Settings} {files : List Path}
    {result : BatchResult} {after : FileTree}
    (prepared : Prepared tree directory words arguments settings files result)
    (ends : EndsUntold settings.output result.sources tree after) :
    CutShort tree directory words (.file .unencodable) after

/-- A path of a call holds no null character if neither its text nor the directory does. -/
theorem clean_resolve {text : String} (clean : holdsNull text = false)
    (inDirectory : directory.Lacks '\x00') :
    holdsNull ((Path.ofString text).resolve directory).toString = false := by
  -- The components of the resolved path come from the text or from the directory.
  have inText : '\x00' ∉ text.toList := by simpa [holdsNull] using clean
  exact ((Path.lacks_ofString inText).resolve inDirectory).holdsNull_eq

/-- The checks of settings cut a run short exactly for an overlong input, or for an overlong output of an input that can be used. -/
theorem validate_eq_inl_iff {cause : Abort} (inDirectory : directory.Lacks '\x00') :
    validate tree directory arguments = .error (.inl cause) ↔
      let input := (Path.ofString arguments.input).resolve directory
      let output := (Path.ofString arguments.output).resolve directory
      (holdsNull arguments.input || holdsNull arguments.output) = false ∧
      ((tree.IsOverlong input ∧ cause = .file (.system .nameTooLong input.toString)) ∨
        (tree.exists? input = .ok true ∧ (tree.isFile input && input.suffix != ".py") = false ∧
          tree.IsOverlong output ∧ cause = .file (.system .nameTooLong output.toString))) := by
  rw [validate_eq]
  dsimp only
  by_cases null : (holdsNull arguments.input || holdsNull arguments.output) = true
  · rw [if_pos null]
    simp [null]
  · rw [if_neg null]
    obtain ⟨inputClean, outputClean⟩ : holdsNull arguments.input = false ∧
        holdsNull arguments.output = false := by simpa using null
    -- A path is overlong exactly if looking it up fails, and what fails first is told.
    have inputCases := tree.exists?_cases (Path.level_resolve (.ofString arguments.input) directory)
      (clean_resolve inputClean inDirectory)
    have outputCases := tree.exists?_cases
      (Path.level_resolve (.ofString arguments.output) directory)
      (clean_resolve outputClean inDirectory)
    generalize (Path.ofString arguments.input).resolve directory = input,
      (Path.ofString arguments.output).resolve directory = output at inputCases outputCases ⊢
    rcases inputCases with ⟨overlong, looked⟩ | ⟨there, notOverlong, looked⟩
    · simp [looked, overlong, inputClean, outputClean, eq_comm (a := cause)]
    · rw [looked]
      cases there with
      | false => simp [notOverlong]
      | true =>
        dsimp only
        split
        · rename_i noModule
          simp [notOverlong, noModule]
        · rename_i isModule
          rcases outputCases with ⟨overlong, looked⟩ | ⟨there, outputFits, looked⟩
          · simp [looked, overlong, notOverlong, isModule, inputClean, outputClean,
              eq_comm (a := cause)]
          · rw [looked]
            dsimp only
            split
            · simp [notOverlong, outputFits]
            · split <;> simp [notOverlong, outputFits]

/-- The files of an input are not selected exactly if it is no file and its ignore rules cannot be had. -/
theorem selectFiles_eq_error_iff {input : Path} {cause : Ignore.RulesError} :
    selectFiles tree input = .error cause ↔
      tree.isFile input = false ∧ Ignore.Rules.ofProject tree input = .error cause := by
  -- A file is selected without looking at any rules.
  unfold selectFiles
  cases tree.isFile input with
  | true => simp
  | false => cases Ignore.Rules.ofProject tree input <;> simp [Except.map]

/-- The files of an input are not selected for a line that is no pattern exactly if it is the first such line of its ignore files. -/
theorem selectFiles_eq_pattern_iff {input : Path} {cause : Ignore.PatternError} :
    selectFiles tree input = .error (.pattern cause) ↔
      tree.isFile input = false ∧ ∃ before line after,
        Ignore.allLines tree input (tree.below input (· == Ignore.fileName)) =
          .ok (before ++ line :: after) ∧
        (∀ earlier ∈ before, ∃ pattern, Ignore.Pattern.read earlier = .ok pattern) ∧
        Ignore.Pattern.read line = .error cause := by
  rw [selectFiles_eq_error_iff]
  refine and_congr_right fun _ => ?_
  unfold Ignore.Rules.ofProject
  cases read : Ignore.allLines tree input (tree.below input (· == Ignore.fileName)) with
  | error fault => simp
  | ok lines =>
    -- The patterns are read from exactly these lines.
    have failing : Ignore.readPatterns lines = .error cause ↔ _ := Ignore.readPatterns_eq_error_iff
    dsimp only
    constructor
    · intro failed
      split at failed
      · rename_i bad
        cases failed
        obtain ⟨before, line, after, split, pattern⟩ := failing.mp bad
        exact ⟨before, line, after, by rw [split], pattern⟩
      · cases failed
    · rintro ⟨before, line, after, split, pattern⟩
      rw [failing.mpr ⟨before, line, after, Except.ok.inj split, pattern⟩]

/-- The files of an input are not selected for a fault exactly if its ignore files cannot all be read for it. -/
theorem selectFiles_eq_unreadable_iff {input : Path} {fault : FileFault} :
    selectFiles tree input = .error (.unreadable fault) ↔
      tree.isFile input = false ∧
        Ignore.allLines tree input (tree.below input (· == Ignore.fileName)) = .error fault := by
  -- All ignore files are read before the first line is looked at.
  rw [selectFiles_eq_error_iff]
  refine and_congr_right fun _ => ?_
  unfold Ignore.Rules.ofProject
  cases Ignore.allLines tree input (tree.below input (· == Ignore.fileName)) with
  | error other => simp
  | ok lines =>
    dsimp only
    split <;> simp

/-- A prepared run on a tree without null characters meets a fault that is not told only at a source that cannot be encoded. -/
theorem Prepared.endsUntold {fault : FileFault}
    (prepared : Prepared tree directory words arguments settings files result)
    (named : tree.WellNamed)
    (clean : ∀ entry ∈ tree.entries, ∀ part ∈ entry.1, '\x00' ∉ part.toList)
    (inDirectory : directory.Lacks '\x00')
    (failed : (storeAll settings.output result.sources).on tree = (.error fault, after))
    (untold : isReported fault = false) :
    fault = .unencodable ∧ EndsUntold settings.output result.sources tree after := by
  have validated := validated_of_validate prepared.valid
  obtain ⟨anchored, level⟩ := validated.input_resolved
  -- The output comes from the call, and the paths of sources from words and from names of entries.
  have inOutput : settings.output.Lacks '\x00' := by
    obtain ⟨-, outputClean⟩ := Bool.or_eq_false_iff.mp validated.noNull
    rw [validated.output_eq]
    exact (Path.lacks_ofString (by simpa [holdsNull] using outputClean)).resolve inDirectory
  have lacks := lacks_findInSources (c := '\x00') ⟨by decide, by decide⟩ named anchored level
    (fun entry listed _ => clean entry listed) prepared.selected
  refine endsUntold_of_storeAll inOutput (fun source member => ?_) failed untold
  obtain ⟨one, listed, rfl⟩ := exists_found_of_mem_sources prepared.generated source member
  have finished := (lacks one.container (List.mem_map_of_mem listed)).finish settings.options.algorithm
  exact finished.control_not_mem_outputPath (by decide) _

/-- A run ends at what cuts it short. -/
theorem CutShort.run_eq {cause : Abort} (inDirectory : directory.Lacks '\x00')
    (short : CutShort tree directory words cause after) :
    run tree directory words = ⟨after, .error cause⟩ := by
  -- Each cause is met in its own phase, and all phases in front of it are passed.
  cases short with
  | input read noNull resolved overlong =>
    subst resolved
    have checked := (validate_eq_inl_iff inDirectory).mpr ⟨noNull, .inl ⟨overlong, rfl⟩⟩
    exact (Ending.overlong read checked).run_eq
  | output read noNull inputResolved there isModule resolved overlong =>
    subst inputResolved resolved
    have checked := (validate_eq_inl_iff inDirectory).mpr
      ⟨noNull, .inr ⟨there, isModule, overlong, rfl⟩⟩
    exact (Ending.overlong read checked).run_eq
  | line read checked notFile lines earlier bad =>
    have selected := selectFiles_eq_pattern_iff.mpr ⟨notFile, _, _, _, lines, earlier, bad⟩
    exact (Ending.malformed read checked selected).run_eq
  | digested read checked selected member isPartial obfuscated broken =>
    have undigested : List.any (findInSources tree _ _).found isUndigestible = true :=
      List.any_eq_true.mpr ⟨_, member, by simp [isUndigestible, isPartial, obfuscated, broken]⟩
    exact (Ending.undigested read checked selected undigested).run_eq
  | written prepared ends =>
    rw [prepared.run_stopped ends.on_storeAll]
    rfl

/-- Only a source that cannot be encoded cuts a run short when something has been stored. -/
theorem CutShort.tree_eq {cause : Abort} (short : CutShort tree directory words cause after)
    (early : cause ≠ .file .unencodable) : after = tree := by
  -- All other causes are met before the first source is stored.
  cases short with
  | written => exact absurd rfl early
  | input | output | line | digested => rfl

/-- A run that ends without a report has been cut short. -/
theorem cutShort_of_run {cause : Abort} (named : tree.WellNamed)
    (clean : ∀ entry ∈ tree.entries, ∀ part ∈ entry.1, '\x00' ∉ part.toList)
    (inDirectory : directory.Lacks '\x00')
    (ended : (run tree directory words).result = .error cause) :
    CutShort tree directory words cause (run tree directory words).tree := by
  have ending := ending_of_run tree directory words
  generalize run tree directory words = outcome at ending ended ⊢
  -- Only four endings have no report.
  cases ending with
  | overlong read checked =>
    cases ended
    obtain ⟨noNull, ⟨overlong, rfl⟩ | ⟨there, isModule, overlong, rfl⟩⟩ :=
      (validate_eq_inl_iff inDirectory).mp checked
    · exact .input read noNull rfl overlong
    · exact .output read noNull rfl there isModule rfl overlong
  | malformed read checked selected =>
    cases ended
    obtain ⟨notFile, before, line, after, lines, earlier, bad⟩ :=
      selectFiles_eq_pattern_iff.mp selected
    exact .line read checked notFile lines earlier bad
  | undigested read checked selected undigested =>
    cases ended
    obtain ⟨one, member, undigestible⟩ := List.any_eq_true.mp undigested
    obtain ⟨⟨isPartial, obfuscated⟩, broken⟩ :
        (one.container.reEmittable = true ∧ one.container.effectiveFlags.obfuscate = true) ∧
          one.isEncodable = false := by
      simpa [isUndigestible] using undigestible
    exact .digested read checked selected member isPartial obfuscated broken
  | lost prepared storing untold =>
    cases ended
    obtain ⟨rfl, ends⟩ := prepared.endsUntold named clean inDirectory storing untold
    exact .written prepared ends
  | unread | invalid | unreadable | refused | stopped | finished => cases ended

/-- A run that ends with a report has one of three exit codes. -/
theorem exitCode_mem {report : Report} (done : (run tree directory words).result = .ok report) :
    report.exitCode ∈ [Report.success, Report.completedWithErrors, Report.failure] := by
  have ending := ending_of_run tree directory words
  generalize run tree directory words = outcome at ending done
  -- All endings with a report are failures, apart from that of a run that stores everything.
  cases ending with
  | overlong | malformed | undigested | lost => cases done
  | unread | invalid | unreadable | refused | stopped =>
    cases done
    simp
  | finished prepared storing =>
    cases done
    unfold finishedReport
    dsimp only
    split <;> simp

/-- A run ends without a report exactly if something cuts it short: a path that is too long, a line that is no pattern, or a name that cannot be encoded.
Then it ends there, and it leaves the tree as it is unless the name had to be written.
Any other run reports success, findings or failure, and it is failure if an ignore file cannot be read. -/
theorem result_of_run (named : tree.WellNamed)
    (clean : ∀ entry ∈ tree.entries, ∀ part ∈ entry.1, '\x00' ∉ part.toList)
    (inDirectory : directory.Lacks '\x00') (words : List String) :
    (∀ cause, (run tree directory words).result = .error cause ↔
      ∃ after, CutShort tree directory words cause after) ∧
    (∀ cause after, CutShort tree directory words cause after →
      run tree directory words = ⟨after, .error cause⟩ ∧
        (cause ≠ .file .unencodable → after = tree)) ∧
    (∀ report, (run tree directory words).result = .ok report →
      report.exitCode ∈ [Report.success, Report.completedWithErrors, Report.failure]) ∧
    ∀ arguments settings fault, Arguments.read words = some arguments →
      validate tree directory arguments = .ok settings → tree.isFile settings.input = false →
      Ignore.allLines tree settings.input (tree.below settings.input (· == Ignore.fileName)) =
        .error fault →
      run tree directory words =
        ⟨tree, .ok ⟨Report.failure, progressBeforeSearch, [.ignoreFiles fault]⟩⟩ := by
  -- What ends a run without a report is told by its endings; the last part is one more of these.
  refine ⟨fun cause => ⟨fun ended => ⟨_, cutShort_of_run named clean inDirectory ended⟩, ?_⟩,
    fun cause after short => ⟨short.run_eq inDirectory, short.tree_eq⟩,
    fun report => exitCode_mem, ?_⟩
  · rintro ⟨after, short⟩
    rw [short.run_eq inDirectory]
  · intro arguments settings fault read checked notFile unread
    have selected := selectFiles_eq_unreadable_iff.mpr ⟨notFile, unread⟩
    exact (Ending.unreadable read checked selected).run_eq

/-- A tree with one module, and with an ignore file beside it. -/
def withIgnoreFile (bytes : List UInt8) : FileTree where
  entries := [(["in"], .directory), (["in", ".gitignore"], .file bytes),
    (["in", "codes.py"], .file (Utf8.encode
      "@permissions_repo\nclass Read(Partial):\n    own: str\n".toList))]

/-- An ignore file that is not UTF-8 is reported, and does not cut the run short. -/
theorem result_of_run_undecodable :
    run (withIgnoreFile [0xff]) ⟨.root, []⟩ inToOut =
      ⟨withIgnoreFile [0xff], .ok ⟨Report.failure, progressBeforeSearch,
        [.ignoreFiles (.undecodable ⟨.startByte, [0xff], 0⟩)]⟩⟩ ∧
    ∀ cause after, ¬ CutShort (withIgnoreFile [0xff]) ⟨.root, []⟩ inToOut cause after := by
  -- The ignore file is read before any source, and the report is already known.
  have read : Arguments.read inToOut = some { input := "in", output := "out" } := by
    decide
  have named : (withIgnoreFile [0xff]).WellNamed := by decide
  have inDirectory : (⟨.root, []⟩ : Path).Lacks '\x00' := by decide
  obtain ⟨cutShort, -, -, reported⟩ :=
    result_of_run named (by decide) inDirectory inToOut
  have ran := reported _ ⟨⟨.root, ["in"]⟩, ⟨.root, ["out"]⟩, {}⟩
    (.undecodable ⟨.startByte, [0xff], 0⟩) read rfl (by decide) (by decide +kernel)
  refine ⟨ran, fun cause after short => ?_⟩
  have ended := (cutShort cause).mpr ⟨after, short⟩
  rw [ran] at ended
  cases ended

/-- A line that holds a negation alone cuts the run short. -/
theorem negation_cuts_short :
    (run (withIgnoreFile [0x21, 0x0a]) ⟨.root, []⟩ inToOut).result =
      .error (.pattern (.invalid "!")) := by
  decide +kernel

end Command

end PermissionNames
