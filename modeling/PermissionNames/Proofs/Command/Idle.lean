import PermissionNames.Proofs.Command.Locality
import PermissionNames.Proofs.Command.Rerun
import PermissionNames.Proofs.Discovery.Files

/-! Source files that add no container leave the exit code of a run as it is, wherever they are not in its way. -/

namespace PermissionNames

variable {tree other : FileTree} {kind : List String → Bool}

/-- What is found below a directory at places of a kind is the same in trees with the same entries there. -/
theorem FileTree.Keeps.filter_below (kept : Keeps kind tree other) (directory : Path)
    (wanted : String → Bool) :
    (other.below directory wanted).filter (kind ·.parts) =
      (tree.below directory wanted).filter (kind ·.parts) := by
  -- Picking before sorting, nothing is picked from the other entries.
  have picked : ∀ tree : FileTree, (tree.below directory wanted).filter (kind ·.parts) =
      Path.sort (tree.entries.filterMap fun entry =>
        (if directory.parts.isPrefixOf entry.1 && directory.parts.length < entry.1.length &&
            wanted (entry.1.getLast?.getD "") then some (Path.mk directory.anchor entry.1)
          else none).filter (kind ·.parts)) := by
    intro tree
    unfold below
    rw [Path.filter_sort, List.filter_filterMap]
    refine Path.toldApart_of_anchor fun path member => (?_ : path.anchor = directory.anchor)
    obtain ⟨entry, -, made⟩ := List.mem_filterMap.mp member
    dsimp only at made
    split at made
    · cases made
      rfl
    · cases made
  rw [picked other, picked tree, kept.filterMap_eq]
  intro entry outside
  split
  · simp [outside]
  · rfl

/-- A list of parts is that of the elements that have any. -/
theorem flatMap_filter_eq {α β : Type} {list : List α} {parts : α → List β} {kept : α → Bool}
    (dropped : ∀ element ∈ list, kept element = false → parts element = []) :
    (list.filter kept).flatMap parts = list.flatMap parts := by
  -- An element that is dropped has no parts to lose.
  induction list with
  | nil => rfl
  | cons first rest ih =>
    have later := ih fun element member => dropped element (List.mem_cons_of_mem first member)
    rw [List.filter_cons, List.flatMap_cons]
    split
    · rw [List.flatMap_cons, later]
    · rename_i unkept
      rw [later, dropped first List.mem_cons_self (by simpa using unkept), List.nil_append]

namespace Command

open Discovery FileTree TreeAction

variable {input output : Path} {places : List String → Bool}

/-- Places below which nothing stands, and where source files stand, if any, that add nothing to the containers of an input. -/
structure Idle (places : List String → Bool) (tree : FileTree) (input : Path) : Prop where
  isSource : ∀ place, places place = true → Project.isSourceName (place.getLast?.getD "") = true
  nothingBelow : ∀ entry ∈ tree.entries, ∀ front, front <+: entry.1 → front ≠ entry.1 →
    places front = false
  addsNothing : ∀ place, places place = true →
    (Project.findIn ⟨tree, ⟨.root, []⟩, input⟩ ⟨.root, place⟩).containers = []

/-- A path that is the same in two trees as far as one can see from its end. -/
structure LooksAlike (tree other : FileTree) (path : Path) : Prop where
  exists_eq : other.exists? path = tree.exists? path
  isFile_eq : other.isFile path = tree.isFile path
  isDirectory_eq : other.isDirectory path = tree.isDirectory path

/-- Whether a place is none of some places. -/
def elsewhere (places : List String → Bool) (place : List String) : Bool :=
  !places place

/-- The way to an entry at no idle place passes none. -/
theorem Idle.stays (idle : Idle places tree input) {place : List String}
    (listed : ∃ entry ∈ tree.entries, entry.1 = place) (outside : elsewhere places place = true) :
    Stays (elsewhere places) place := by
  -- Only the entry itself could be idle, since nothing is below an idle place.
  obtain ⟨entry, member, rfl⟩ := listed
  intro front inside
  by_cases whole : front = entry.1
  · rwa [whole]
  · rw [elsewhere, idle.nothingBelow entry member front inside whole, Bool.not_false]

/-- What has no name of a source file is at no idle place. -/
theorem Idle.elsewhere_of_name (idle : Idle places tree input) {place : List String}
    (other : Project.isSourceName (place.getLast?.getD "") = false) :
    elsewhere places place = true := by
  -- Every idle place has the name of a source file.
  rw [elsewhere, Bool.not_eq_true']
  refine Bool.eq_false_iff.mpr fun listed => ?_
  rw [idle.isSource place listed] at other
  cases other

/-- The same checks are made of settings where input and output look alike. -/
theorem validate_eq_of_looksAlike {directory : Path} {arguments : Arguments}
    (inputAlike : LooksAlike tree other ((Path.ofString arguments.input).resolve directory))
    (outputAlike : LooksAlike tree other ((Path.ofString arguments.output).resolve directory)) :
    validate other directory arguments = validate tree directory arguments := by
  -- The checks ask no more of the tree than this.
  rw [validate_eq, validate_eq]
  dsimp only
  rw [inputAlike.exists_eq, inputAlike.isFile_eq, outputAlike.exists_eq, outputAlike.isDirectory_eq]

/-- The ignore rules are the same in trees that differ at idle places only. -/
theorem Idle.rules_eq (idle : Idle places tree input) (otherIdle : Idle places other input)
    (named : tree.WellNamed) (kept : Keeps (elsewhere places) tree other) :
    Ignore.Rules.ofProject other input = Ignore.Rules.ofProject tree input := by
  -- No ignore file has the name of a source file.
  have isElsewhere : ∀ {tree : FileTree}, Idle places tree input →
      ∀ file ∈ tree.below input (· == Ignore.fileName), elsewhere places file.parts = true := by
    intro tree idle file found
    refine idle.elsewhere_of_name ?_
    have name : file.parts.getLast?.getD "" = Ignore.fileName := by
      simpa using wanted_of_mem_below found
    rw [name]
    decide
  have below : other.below input (· == Ignore.fileName) =
      tree.below input (· == Ignore.fileName) := by
    have same := kept.filter_below input (· == Ignore.fileName)
    rwa [List.filter_eq_self.mpr (isElsewhere idle),
      List.filter_eq_self.mpr (isElsewhere otherIdle)] at same
  unfold Ignore.Rules.ofProject
  rw [below, allLines_congr]
  intro file found
  have listed := (mem_below found).2.2
  have level : ".." ∉ file.parts := by
    obtain ⟨entry, member, place⟩ := listed
    rw [← place]
    exact level_of_named (named entry member)
  exact (kept.agreeAt.sameAlong (idle.stays listed (isElsewhere idle file found))).readText_eq level

/-- Files that are the same apart from those at idle places yield the same containers. -/
theorem Idle.found_eq {files others : List Path} (idle : Idle places tree input)
    (otherIdle : Idle places other input) (named : tree.WellNamed)
    (anchored : input.anchor = .root) (kept : Keeps (elsewhere places) tree other)
    (isFile : other.isFile input = tree.isFile input)
    (listed : ∀ file ∈ files, file.anchor = .root ∧ ∃ entry ∈ tree.entries, entry.1 = file.parts)
    (otherAnchored : ∀ file ∈ others, file.anchor = .root)
    (same : others.filter (elsewhere places ·.parts) = files.filter (elsewhere places ·.parts)) :
    (findInSources other input others).found = (findInSources tree input files).found := by
  -- Files at idle places add nothing, so only the others count, in their order.
  have counted : ∀ {tree : FileTree} {files : List Path}, Idle places tree input →
      (∀ file ∈ files, file.anchor = .root) →
      (findInSources tree input files).found =
        (Path.sort (files.filter (elsewhere places ·.parts))).flatMap fun file =>
          (Project.findIn ⟨tree, ⟨.root, []⟩, input⟩ file).found := by
    intro tree files idle anchored
    rw [← Path.filter_sort (Path.toldApart_of_anchor anchored), flatMap_filter_eq,
      findInSources, Project.find_eq_flatMap]
    intro file member atIdle
    have root := anchored file (List.mem_mergeSort.mp member)
    obtain ⟨anchor, parts⟩ := file
    obtain rfl : anchor = .root := root
    exact List.map_eq_nil_iff.mp (idle.addsNothing parts (by simpa [elsewhere] using atIdle))
  rw [counted otherIdle otherAnchored, counted idle fun file member => (listed file member).1, same]
  -- The files that count stand along the same entries in both trees.
  refine List.flatMap_congr fun file member => ?_
  obtain ⟨inFiles, outside⟩ := List.mem_filter.mp (List.mem_mergeSort.mp member)
  obtain ⟨fileAnchored, entry, entered, place⟩ := listed file inFiles
  have level : ".." ∉ file.parts := by
    rw [← place]
    exact level_of_named (named entry entered)
  have along := kept.agreeAt.sameAlong (idle.stays ⟨entry, entered, place⟩ outside)
  rw [findIn_congr anchored fileAnchored isFile (along.readText_eq level)]

/-- The files of an input cannot be selected in both of two trees that differ at idle places only, or they yield the same containers. -/
theorem Idle.selectFiles_cases (idle : Idle places tree input)
    (otherIdle : Idle places other input) (named : tree.WellNamed) (otherNamed : other.WellNamed)
    (anchored : input.anchor = .root) (level : ".." ∉ input.parts)
    (kept : Keeps (elsewhere places) tree other)
    (isFile : other.isFile input = tree.isFile input) :
    (∃ cause, selectFiles tree input = .error cause ∧ selectFiles other input = .error cause) ∨
      ∃ files others, selectFiles tree input = .ok files ∧ selectFiles other input = .ok others ∧
        (findInSources other input others).found = (findInSources tree input files).found := by
  have contained : ∀ {files others : List Path}, selectFiles tree input = .ok files →
      selectFiles other input = .ok others →
      others.filter (elsewhere places ·.parts) = files.filter (elsewhere places ·.parts) →
      (findInSources other input others).found = (findInSources tree input files).found := by
    intro files others selected otherSelected same
    refine idle.found_eq otherIdle named anchored kept isFile ?_ ?_ same
    · intro file member
      obtain ⟨below, listed⟩ := mem_selectFiles named anchored level selected member
      exact ⟨below.anchored, listed⟩
    · intro file member
      exact (mem_selectFiles otherNamed anchored level otherSelected member).1.anchored
  unfold selectFiles at contained ⊢
  rw [idle.rules_eq otherIdle named kept, isFile] at contained ⊢
  split
  · rename_i single
    rw [if_pos single, if_pos single] at contained
    exact .inr ⟨[input], [input], rfl, rfl, contained rfl rfl rfl⟩
  · rename_i notSingle
    rw [if_neg notSingle, if_neg notSingle] at contained
    cases rules : Ignore.Rules.ofProject tree input with
    | error cause => exact .inl ⟨cause, rfl, rfl⟩
    | ok rules =>
      rw [rules] at contained
      refine .inr ⟨_, _, rfl, rfl, contained rfl rfl ?_⟩
      -- The rules select the same files elsewhere.
      rw [List.filter_comm, kept.filter_below, List.filter_comm]

/-- A temporary file has no name of a source file. -/
theorem isSourceName_temporary (name : String) :
    Project.isSourceName (name ++ ".tmp") = false := by
  -- Read backwards, the name starts with another letter.
  simp [Project.isSourceName, List.isSuffixOf, List.isPrefixOf]

/-- Storing at a target that no idle place is in the way of looks at no idle place. -/
theorem Idle.looksAt (idle : Idle places tree input) {target : Path} (settled : Settled target)
    (stays : Stays (elsewhere places) target.parts) : LooksAt (elsewhere places) target := by
  -- The name of a temporary file is not that of a source file.
  obtain ⟨⟨front, last, split⟩, -⟩ := settled
  refine ⟨stays, idle.elsewhere_of_name ?_⟩
  rw [parts_temporary split, List.getLast?_concat, Option.getD_some]
  exact isSourceName_temporary last

variable {directory : Path} {words : List String} {arguments : Arguments}

/-- Two prepared runs whose storing ends alike have the same exit code, or are cut short alike. -/
theorem Prepared.exitCode_eq {settings : Settings} {files others : List Path}
    {result : BatchResult}
    (prepared : Prepared tree directory words arguments settings files result)
    (otherPrepared : Prepared other directory words arguments settings others result)
    (same : ((storeAll settings.output result.sources).on other).1 =
      ((storeAll settings.output result.sources).on tree).1) :
    (run other directory words).result.map (·.exitCode) =
      (run tree directory words).result.map (·.exitCode) := by
  -- The report of a run with this outcome does not read the files.
  cases storing : (storeAll settings.output result.sources).on tree with
  | mk outcome after =>
    cases otherStoring : (storeAll settings.output result.sources).on other with
    | mk otherOutcome otherAfter =>
      rw [storing, otherStoring] at same
      dsimp only at same
      subst same
      cases otherOutcome with
      | ok stored =>
        rw [prepared.run_eq storing, otherPrepared.run_eq otherStoring]
        rfl
      | error fault =>
        rw [prepared.run_stopped storing, otherPrepared.run_stopped otherStoring]
        cases isReported fault <;> rfl

/-- Two runs have the same exit code, or are cut short alike, on trees that differ at idle places only.
These are neither in the way of the input or the output nor of a target. -/
theorem Idle.exitCode_eq (read : Arguments.read words = some arguments)
    (named : tree.WellNamed) (otherNamed : other.WellNamed)
    (kept : Keeps (elsewhere places) tree other)
    (idle : Idle places tree ((Path.ofString arguments.input).resolve directory))
    (otherIdle : Idle places other ((Path.ofString arguments.input).resolve directory))
    (inputAlike : LooksAlike tree other ((Path.ofString arguments.input).resolve directory))
    (outputAlike : LooksAlike tree other ((Path.ofString arguments.output).resolve directory))
    (free : ∀ settings files result,
      Prepared tree directory words arguments settings files result →
        ∀ source ∈ result.sources,
          Stays (elsewhere places) (targetOf settings.output source).parts) :
    (run other directory words).result.map (·.exitCode) =
      (run tree directory words).result.map (·.exitCode) := by
  -- Up to storing, both runs pass the same phases or end in the same one.
  have alike := validate_eq_of_looksAlike inputAlike outputAlike
  cases checked : validate tree directory arguments with
  | error cause =>
    rw [checked] at alike
    cases cause with
    | inl cause => rw [(Ending.overlong read checked).run_eq, (Ending.overlong read alike).run_eq]
    | inr cause => rw [(Ending.invalid read checked).run_eq, (Ending.invalid read alike).run_eq]
  | ok settings =>
    rw [checked] at alike
    have validated := validated_of_validate checked
    obtain ⟨anchored, level⟩ := validated.input_resolved
    rw [← validated.input_eq] at idle otherIdle inputAlike
    rcases idle.selectFiles_cases otherIdle named otherNamed anchored level kept
      inputAlike.isFile_eq with ⟨cause, selected, otherSelected⟩ | ⟨files, others, selected,
        otherSelected, found⟩
    · cases cause with
      | pattern cause =>
        rw [(Ending.malformed read checked selected).run_eq,
          (Ending.malformed read alike otherSelected).run_eq]
      | unreadable fault =>
        rw [(Ending.unreadable read checked selected).run_eq,
          (Ending.unreadable read alike otherSelected).run_eq]
    · cases digested : (findInSources tree settings.input files).found.any isUndigestible with
      | true =>
        rw [(Ending.undigested read checked selected digested).run_eq,
          (Ending.undigested read alike otherSelected (by rw [found, digested])).run_eq]
      | false =>
        cases generated : generate (findInSources tree settings.input files).found
            settings.options with
        | error cause =>
          rw [(Ending.refused read checked selected digested generated).run_eq,
            (Ending.refused read alike otherSelected (by rw [found, digested])
              (by rw [found, generated])).run_eq]
          rfl
        | ok result =>
          have prepared : Prepared tree directory words arguments settings files result :=
            ⟨read, checked, selected, digested, generated⟩
          have otherPrepared : Prepared other directory words arguments settings others result :=
            ⟨read, alike, otherSelected, by rw [found, digested], by rw [found, generated]⟩
          -- Storing looks at no idle place, so it ends alike on both trees.
          have settled : ∀ source ∈ result.sources, Settled (targetOf settings.output source) :=
            fun source member =>
              (prepared.isSlashFreeSource named source member).settled validated.output_level
          have isLocal := isLocal_storeAll settled fun source member =>
            idle.looksAt (settled source member) (free settings files result prepared source member)
          exact prepared.exitCode_eq otherPrepared (isLocal tree other kept.agreeAt).1

end Command

end PermissionNames
