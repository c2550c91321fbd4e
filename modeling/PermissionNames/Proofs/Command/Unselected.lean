import PermissionNames.Proofs.Command.Idle
import PermissionNames.Proofs.FileTree.Contents
import PermissionNames.Proofs.FileTree.Listing

/-! Exactly the source files are selected that are neither hidden nor ignored, and no content of any other file below the input changes what a run does. -/

namespace PermissionNames.Command

open Discovery FileTree TreeAction

variable {tree other : FileTree} {input directory : Path} {arguments : Arguments}
  {words : List String} {settings : Settings} {files : List Path} {result : BatchResult}

/-- The files are the entries strictly below an input, in rising order and each of them once, that have the name of a source file.
They are in no hidden directory and are not ignored. -/
structure SelectsExactly (tree : FileTree) (input : Path) (rules : Ignore.Rules)
    (files : List Path) : Prop where
  rising : files.Pairwise fun first second => first.parts < second.parts
  mem_iff : ∀ file, file ∈ files ↔
    file.anchor = input.anchor ∧
      ∃ rest name, file.parts = input.parts ++ rest ∧ rest.getLast? = some name ∧
        (∃ entry ∈ tree.entries, entry.1 = file.parts) ∧ ".py".toList <:+ name.toList ∧
        ".git" ∉ rest ∧ rules.ignores ("/".intercalate rest) = false

/-- What is found below a directory is in strictly rising order in a tree that lists every place once. -/
theorem pairwise_below (once : tree.ListsOnce) (directory : Path) (wanted : String → Bool) :
    (tree.below directory wanted).Pairwise fun first second => first.parts < second.parts := by
  have single : (tree.below directory wanted).Nodup := by
    rw [below_eq_sort]
    refine (List.mergeSort_perm _ _).nodup_iff.mpr ?_
    refine List.Nodup.filterMap ?_ (List.nodup_cons.mp once).2
    intro first second path fromFirst fromSecond
    obtain ⟨same, -⟩ := pathBelow_eq_some_iff.mp fromFirst
    obtain ⟨alsoSame, -⟩ := pathBelow_eq_some_iff.mp fromSecond
    exact (Path.mk.inj (same.symm.trans alsoSame)).2
  have sorted := Path.pairwise_sort
    ((tree.entries.map (·.1)).filterMap (pathBelow directory wanted))
  rw [← below_eq_sort] at sorted
  refine (sorted.and single).imp_of_mem ?_
  rintro ⟨anchor, first⟩ ⟨otherAnchor, second⟩ inFirst inSecond ⟨inOrder, apart⟩
  obtain rfl : anchor = directory.anchor := (mem_below_iff.mp inFirst).1
  obtain rfl : otherAnchor = directory.anchor := (mem_below_iff.mp inSecond).1
  -- Paths with one anchor that are in order and not the same are in strict order.
  rcases lt_trichotomy first second with less | same | greater
  · exact less
  · exact absurd (by rw [same]) apart
  · exact absurd inOrder (not_le.mpr (Path.sortKey_lt_of_lt _ greater))

/-- Exactly these files are selected from an input that is no file. -/
theorem selectsExactly_of_selectFiles (once : tree.ListsOnce) (notFile : tree.isFile input = false)
    (selected : selectFiles tree input = .ok files) :
    ∃ rules, Ignore.Rules.ofProject tree input = .ok rules ∧
      SelectsExactly tree input rules files := by
  unfold selectFiles at selected
  rw [if_neg (by simp [notFile])] at selected
  cases built : Ignore.Rules.ofProject tree input with
  | error cause =>
    rw [built] at selected
    cases selected
  | ok rules =>
    rw [built] at selected
    cases selected
    -- Picking some of the sources keeps their order.
    refine ⟨rules, rfl, (pairwise_below once input _).filter _, fun file => ?_⟩
    rw [List.mem_filter, mem_below_iff, List.mem_map]
    -- The name of the path is that of what remains below the input, if anything does.
    have nameOf : ∀ rest name : List String, rest ≠ [] →
        (name ++ rest).getLast?.getD "" = rest.getLast?.getD "" := by
      intro rest name full
      rw [List.getLast?_append_of_ne_nil _ full]
    constructor
    · rintro ⟨⟨anchored, listed, ⟨rest, split⟩, strictly, isSource⟩, passes⟩
      have full : rest ≠ [] := by
        rintro rfl
        simp [← split] at strictly
      have last := List.getLast?_eq_some_getLast full
      rw [← split, nameOf rest _ full, last, Option.getD_some] at isSource
      rw [isSelected, ← split, List.drop_left, Bool.and_eq_true, Bool.not_eq_true',
        Bool.not_eq_true'] at passes
      exact ⟨anchored, rest, rest.getLast full, split.symm, last, listed,
        List.isSuffixOf_iff_suffix.mp isSource, by simpa [hiddenDirectory] using passes.1, passes.2⟩
    · rintro ⟨anchored, rest, name, split, last, listed, isSource, visible, kept⟩
      have full : rest ≠ [] := by
        rintro rfl
        cases last
      refine ⟨⟨anchored, listed, ⟨rest, split.symm⟩, ?_, ?_⟩, ?_⟩
      · rw [split, List.length_append]
        have := List.length_pos_iff.mpr full
        omega
      · rw [split, nameOf rest _ full, last, Option.getD_some]
        exact List.isSuffixOf_iff_suffix.mpr isSource
      · rw [isSelected, split, List.drop_left, Bool.and_eq_true, Bool.not_eq_true',
          Bool.not_eq_true']
        exact ⟨by simpa [hiddenDirectory] using visible, kept⟩

/-- A place below an input that is neither that of an ignore file nor selected. -/
structure IsUnselected (tree : FileTree) (input : Path) (place : List String) : Prop where
  inside : input.parts <+: place
  noIgnoreFile : place.getLast? ≠ some Ignore.fileName
  unselected : ∀ files, selectFiles tree input = .ok files → ⟨.root, place⟩ ∉ files

/-- The same files are selected whatever stands in files that are not. -/
theorem selectFiles_of_unselected (named : tree.WellNamed) (anchored : input.anchor = .root)
    (differ : DifferAt (IsUnselected tree input) tree other) :
    selectFiles other input = selectFiles tree input := by
  have lines : ∀ file ∈ tree.below input (· == Ignore.fileName),
      other.readText file = tree.readText file := by
    intro file found
    obtain ⟨below, -⟩ := isBelow_of_mem_below anchored named found
    refine differ.readText_eq below.level fun unselected => unselected.noIgnoreFile ?_
    -- What is found has the name of an ignore file.
    have name := wanted_of_mem_below found
    cases last : file.parts.getLast? with
    | none =>
      rw [last] at name
      cases name
    | some found =>
      rw [last, Option.getD_some, beq_iff_eq] at name
      rw [name]
  unfold selectFiles Ignore.Rules.ofProject
  rw [differ.sameShape.isFile_eq, below_eq_of_places differ.places_eq,
    below_eq_of_places differ.places_eq, allLines_congr lines]

/-- The same is found in the selected files whatever stands in the others. -/
theorem findInSources_of_unselected (named : tree.WellNamed) (anchored : input.anchor = .root)
    (level : ".." ∉ input.parts) (selected : selectFiles tree input = .ok files)
    (differ : DifferAt (IsUnselected tree input) tree other) :
    findInSources other input files = findInSources tree input files := by
  have below : ∀ file ∈ files, IsBelow input file := fun file member =>
    (mem_selectFiles named anchored level selected member).1
  refine findInSources_congr anchored (fun file member => (below file member).anchored)
    (differ.sameShape.isFile_eq input) fun file member => ?_
  -- A selected file is at none of the places where the trees differ.
  refine differ.readText_eq (below file member).level fun unselected => ?_
  have listed := member
  obtain ⟨anchor, parts⟩ := file
  obtain rfl : anchor = .root := (below _ member).anchored
  exact unselected.unselected files selected listed

/-- A prepared run tells what storing its sources ends in, and leaves the tree that this leaves. -/
theorem Prepared.run_cases
    (prepared : Prepared tree directory words arguments settings files result) :
    (run tree directory words).tree = ((storeAll settings.output result.sources).on tree).2 ∧
      (run tree directory words).result =
        match ((storeAll settings.output result.sources).on tree).1 with
        | .ok stored =>
          .ok (finishedReport files (findInSources tree settings.input files) result stored)
        | .error fault =>
          if isReported fault then
            .ok ⟨Report.failure,
              progressBeforeFault files (findInSources tree settings.input files) result,
              result.diagnostics.map .finding ++ [.writing fault]⟩
          else .error (.file fault) := by
  -- Storing ends well, or is stopped by a fault.
  cases storing : (storeAll settings.output result.sources).on tree with
  | mk outcome after =>
    cases outcome with
    | ok stored =>
      rw [prepared.run_eq storing]
      exact ⟨rfl, rfl⟩
    | error fault =>
      rw [prepared.run_stopped storing]
      exact ⟨rfl, rfl⟩

/-- Trees with the same places are well named together. -/
theorem wellNamed_of_places (same : other.entries.map (·.1) = tree.entries.map (·.1))
    (named : tree.WellNamed) : other.WellNamed := by
  -- The names are those of the places.
  intro entry member
  have listed : entry.1 ∈ tree.entries.map (·.1) := same ▸ List.mem_map_of_mem member
  obtain ⟨found, inTree, place⟩ := List.mem_map.mp listed
  rw [← place]
  exact named found inTree

/-- Storing sources leaves every place listed once. -/
theorem listsOnce_storeAll {output : Path} {sources : List GeneratedSource}
    (once : tree.ListsOnce) : ((storeAll output sources).on tree).2.ListsOnce := by
  refine holds_of_storeAll ListsOnce ?_ once rfl
  intro source _ middle final outcome good stored
  -- Directories, temporary file and move each leave the places listed once.
  cases storeStep_of_on stored with
  | unchanged _ read => exact good
  | unreadable fault => exact good
  | prepared fault => exact good.makeDirectories _
  | filled fault filled => exact (good.makeDirectories _).writeFile filled
  | written _ filled moved => exact ((good.makeDirectories _).writeFile filled).moveFile moved

/-- Whether a place is not below an input. -/
def outside (input : Path) (place : List String) : Bool :=
  !input.parts.isPrefixOf place

/-- A path that is apart from an input stays outside of it. -/
theorem stays_outside {parts : List String} (apart : ¬ input.parts <+: parts) :
    Stays (outside input) parts := by
  -- A place on the way that is below the input would put the end below it.
  intro front inside
  simp only [outside, Bool.not_eq_true', Bool.eq_false_iff, ne_eq, List.isPrefixOf_iff_prefix]
  exact fun below => apart (below.trans inside)

/-- Storing the sources of a prepared run looks at nothing below an input that is apart from the output, and leaves all as it is there. -/
theorem Prepared.stores_outside
    (prepared : Prepared tree directory words arguments settings files result)
    (named : tree.WellNamed) (apart : Apart settings.input settings.output) :
    IsLocal (outside settings.input) (storeAll settings.output result.sources) ∧
      Keeps (around settings.input.parts) tree
        ((storeAll settings.output result.sources).on tree).2 := by
  have validated := validated_of_validate prepared.valid
  have free := prepared.isSlashFreeSource named
  have along := exists_along_of_exists? validated.input_resolved.2 validated.inputThere
  have settled : ∀ source ∈ result.sources, Settled (targetOf settings.output source) :=
    fun source member => (free source member).settled validated.output_level
  refine ⟨isLocal_storeAll settled fun source member => ?_,
    keeps_storeAll settled (fun source member => ?_) rfl⟩
  · obtain ⟨container, dialect, isFree, located⟩ := free source member
    rw [targetOf_eq located]
    obtain ⟨directories, file, -, -, parts⟩ := parts_targetOf isFree settings.output dialect
    have never : ∀ place, settings.output.parts <+: place → Stays (outside settings.input) place :=
      fun place below => stays_outside (not_prefix_of_apart apart.2 apart.1 below)
    have split : (targetOf settings.output (container.source dialect)).parts =
        (settings.output.parts ++ directories) ++ [file] := by
      rw [parts, List.append_assoc]
    -- The target lies below the output directory, and so does the temporary file.
    refine ⟨never _ ?_, (never _ ?_).ending⟩
    · rw [parts]
      exact List.prefix_append _ _
    · rw [parts_temporary split, List.append_assoc]
      exact List.prefix_append _ _
  · obtain ⟨container, dialect, isFree, located⟩ := free source member
    rw [targetOf_eq located]
    exact clears_targetOf isFree apart.2 apart.1 along

/-- The same files are written to two trees that agree outside of an input, before and after, if nothing is changed in it. -/
theorem mem_changes_congr {after otherAfter : FileTree} (once : after.ListsOnce)
    (otherOnce : otherAfter.ListsOnce) (agree : AgreeAt (outside input) tree other)
    (agreeAfter : AgreeAt (outside input) after otherAfter)
    (kept : Keeps (around input.parts) tree after)
    (otherKept : Keeps (around input.parts) other otherAfter)
    (written : List String × List UInt8) :
    written ∈ other.changes otherAfter ↔ written ∈ tree.changes after := by
  obtain ⟨place, bytes⟩ := written
  rw [otherOnce.mem_changes_iff, once.mem_changes_iff]
  cases apart : outside input place with
  | true => rw [agree place apart, agreeAfter place apart]
  | false =>
    -- Below the input the same stands afterwards as before.
    have inside : around input.parts place = true :=
      around_iff.mpr (.inr (by simpa [outside] using apart))
    rw [kept.entry?_eq inside, otherKept.entry?_eq inside]
    simp only [ne_eq, and_not_self_iff]

/-- Runs that are prepared alike do the same on two trees that differ only in the content of unselected files, and write the same, if input and output are apart. -/
theorem Prepared.run_of_unselected
    (prepared : Prepared tree directory words arguments settings files result)
    (otherPrepared : Prepared other directory words arguments settings files result)
    (found : findInSources other settings.input files = findInSources tree settings.input files)
    (once : tree.ListsOnce) (otherOnce : other.ListsOnce) (named : tree.WellNamed)
    (apart : Apart settings.input settings.output)
    (differ : DifferAt (IsUnselected tree settings.input) tree other) :
    (run other directory words).result = (run tree directory words).result ∧
      ∀ written, written ∈ other.changes (run other directory words).tree ↔
        written ∈ tree.changes (run tree directory words).tree := by
  have otherNamed := wellNamed_of_places differ.places_eq named
  obtain ⟨isLocal, kept⟩ := prepared.stores_outside named apart
  obtain ⟨-, otherKept⟩ := otherPrepared.stores_outside otherNamed apart
  -- The trees agree wherever storing looks, so it ends alike and leaves them in agreement there.
  have agree : AgreeAt (outside settings.input) tree other :=
    differ.agreeAt fun place unselected => by simpa [outside] using unselected.inside
  obtain ⟨sameOutcome, agreeAfter⟩ := isLocal tree other agree
  obtain ⟨left, told⟩ := prepared.run_cases
  obtain ⟨otherLeft, otherTold⟩ := otherPrepared.run_cases
  refine ⟨by rw [told, otherTold, sameOutcome, found], ?_⟩
  rw [left, otherLeft]
  exact mem_changes_congr (listsOnce_storeAll once) (listsOnce_storeAll otherOnce) agree
    agreeAfter kept otherKept

/-- A run does the same on two trees that differ only in the content of unselected files below its input, and writes the same, if input and output are apart. -/
theorem run_of_unselected (once : tree.ListsOnce) (named : tree.WellNamed)
    (read : Arguments.read words = some arguments)
    (apart : Apart ((Path.ofString arguments.input).resolve directory)
      ((Path.ofString arguments.output).resolve directory))
    (differ : DifferAt (IsUnselected tree ((Path.ofString arguments.input).resolve directory))
      tree other) :
    (run other directory words).result = (run tree directory words).result ∧
      ∀ written, written ∈ other.changes (run other directory words).tree ↔
        written ∈ tree.changes (run tree directory words).tree := by
  have shape := differ.sameShape
  have looksAlike : ∀ path, LooksAlike tree other path := fun path =>
    ⟨shape.exists?_eq path, shape.isFile_eq path, shape.isDirectory_eq path⟩
  have alike : validate other directory arguments = validate tree directory arguments :=
    validate_eq_of_looksAlike (looksAlike _) (looksAlike _)
  have otherOnce : other.ListsOnce := by
    rw [ListsOnce, differ.places_eq]
    exact once
  -- A run that ends before it stores anything writes nothing.
  have nothing : ∀ written, written ∈ other.changes other ↔ written ∈ tree.changes tree :=
    fun written => iff_of_false otherOnce.not_mem_changes_self once.not_mem_changes_self
  -- Each phase before that ends alike on both trees.
  cases checked : validate tree directory arguments with
  | error cause =>
    rw [checked] at alike
    cases cause with
    | inl cause =>
      rw [(Ending.overlong read checked).run_eq, (Ending.overlong read alike).run_eq]
      exact ⟨rfl, nothing⟩
    | inr cause =>
      rw [(Ending.invalid read checked).run_eq, (Ending.invalid read alike).run_eq]
      exact ⟨rfl, nothing⟩
  | ok settings =>
    rw [checked] at alike
    have validated := validated_of_validate checked
    obtain ⟨anchored, level⟩ := validated.input_resolved
    rw [← validated.input_eq, ← validated.output_eq] at apart
    rw [← validated.input_eq] at differ
    have sameFiles := selectFiles_of_unselected named anchored differ
    cases selected : selectFiles tree settings.input with
    | error cause =>
      rw [selected] at sameFiles
      cases cause with
      | pattern cause =>
        rw [(Ending.malformed read checked selected).run_eq,
          (Ending.malformed read alike sameFiles).run_eq]
        exact ⟨rfl, nothing⟩
      | unreadable fault =>
        rw [(Ending.unreadable read checked selected).run_eq,
          (Ending.unreadable read alike sameFiles).run_eq]
        exact ⟨rfl, nothing⟩
    | ok files =>
      rw [selected] at sameFiles
      have found := findInSources_of_unselected named anchored level selected differ
      cases digested : (findInSources tree settings.input files).found.any isUndigestible with
      | true =>
        rw [(Ending.undigested read checked selected digested).run_eq,
          (Ending.undigested read alike sameFiles (by rw [found, digested])).run_eq]
        exact ⟨rfl, nothing⟩
      | false =>
        cases generated : generate (findInSources tree settings.input files).found
            settings.options with
        | error cause =>
          rw [(Ending.refused read checked selected digested generated).run_eq,
            (Ending.refused read alike sameFiles (by rw [found, digested])
              (by rw [found, generated])).run_eq, found]
          exact ⟨rfl, nothing⟩
        | ok result =>
          have prepared : Prepared tree directory words arguments settings files result :=
            ⟨read, checked, selected, digested, generated⟩
          have otherPrepared : Prepared other directory words arguments settings files result :=
            ⟨read, alike, sameFiles, by rw [found, digested], by rw [found, generated]⟩
          exact prepared.run_of_unselected otherPrepared found once otherOnce named apart differ

/-- Exactly the files are selected from a directory that are sources, neither hidden nor ignored, each once and in rising order.
No content of a file below the input that is neither selected nor an ignore file changes what a run tells or writes, if input and output are apart. -/
theorem selectFiles_exact_and_others_inert (once : tree.ListsOnce) :
    (∀ input files, tree.isFile input = false → selectFiles tree input = .ok files →
      ∃ rules, Ignore.Rules.ofProject tree input = .ok rules ∧
        SelectsExactly tree input rules files) ∧
    ∀ other directory words arguments, tree.WellNamed →
      Arguments.read words = some arguments →
      Apart ((Path.ofString arguments.input).resolve directory)
        ((Path.ofString arguments.output).resolve directory) →
      DifferAt (IsUnselected tree ((Path.ofString arguments.input).resolve directory))
        tree other →
      (run other directory words).result = (run tree directory words).result ∧
        ∀ written, written ∈ other.changes (run other directory words).tree ↔
          written ∈ tree.changes (run tree directory words).tree :=
  ⟨fun _ _ notFile selected => selectsExactly_of_selectFiles once notFile selected,
    fun _ _ _ _ named read apart differ => run_of_unselected once named read apart differ⟩

/-- A tree with a module that declares a container, and beside it an ignored one with some content. -/
def ignoredBeside (bytes : List UInt8) : FileTree where
  entries := [(["in"], .directory),
    (["in", ".gitignore"], .file (Utf8.encode "skip.py\n".toList)),
    (["in", "codes.py"], .file (Utf8.encode
      "@permissions_repo\nclass Read(Partial):\n    own: str\n".toList)),
    (["in", "skip.py"], .file bytes)]

/-- The ignored module is not selected. -/
theorem selectFiles_ignoredBeside :
    selectFiles (ignoredBeside []) ⟨.root, ["in"]⟩ = .ok [⟨.root, ["in", "codes.py"]⟩] := by
  -- Both modules are listed, and the rules keep one.
  have sorted : Path.sort [⟨.root, ["in", "codes.py"]⟩, ⟨.root, ["in", "skip.py"]⟩] =
      [⟨.root, ["in", "codes.py"]⟩, ⟨.root, ["in", "skip.py"]⟩] :=
    List.mergeSort_of_pairwise (by decide)
  have below : (ignoredBeside []).below ⟨.root, ["in"]⟩ Project.isSourceName =
      [⟨.root, ["in", "codes.py"]⟩, ⟨.root, ["in", "skip.py"]⟩] := sorted
  unfold selectFiles
  rw [below]
  decide +kernel

/-- An ignored module that is not even text changes nothing. -/
theorem selectFiles_exact_and_others_inert_ignoredBeside :
    (∃ rules, Ignore.Rules.ofProject (ignoredBeside []) ⟨.root, ["in"]⟩ = .ok rules ∧
      SelectsExactly (ignoredBeside []) ⟨.root, ["in"]⟩ rules [⟨.root, ["in", "codes.py"]⟩]) ∧
    (run (ignoredBeside [0xff]) ⟨.root, []⟩ inToOut).result =
        (run (ignoredBeside []) ⟨.root, []⟩ inToOut).result ∧
      ∀ written,
        written ∈ (ignoredBeside [0xff]).changes
            (run (ignoredBeside [0xff]) ⟨.root, []⟩ inToOut).tree ↔
          written ∈ (ignoredBeside []).changes
            (run (ignoredBeside []) ⟨.root, []⟩ inToOut).tree := by
  have read : Arguments.read inToOut = some { input := "in", output := "out" } := by
    decide
  have resolved : (Path.ofString "in").resolve ⟨.root, []⟩ = ⟨.root, ["in"]⟩ := by
    decide
  have differ : DifferAt
      (IsUnselected (ignoredBeside []) ((Path.ofString "in").resolve ⟨.root, []⟩))
      (ignoredBeside []) (ignoredBeside [0xff]) := by
    rw [resolved]
    -- Only the last entry differs, and it is not selected.
    refine .cons ⟨rfl, .inl rfl⟩ (.cons ⟨rfl, .inl rfl⟩ (.cons ⟨rfl, .inl rfl⟩ (.cons ?_ .nil)))
    refine ⟨rfl, .inr ⟨⟨⟨["skip.py"], rfl⟩, by decide, ?_⟩, [], [0xff], rfl, rfl⟩⟩
    intro files selected
    obtain rfl := Except.ok.inj (selectFiles_ignoredBeside.symm.trans selected)
    decide
  obtain ⟨exact_, inert⟩ := @selectFiles_exact_and_others_inert (ignoredBeside []) (by decide)
  exact ⟨exact_ _ _ (by decide) selectFiles_ignoredBeside,
    inert _ _ _ _ (by decide) read (by decide) differ⟩

end PermissionNames.Command
