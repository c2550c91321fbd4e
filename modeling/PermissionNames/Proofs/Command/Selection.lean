import Mathlib.Data.List.Basic
import PermissionNames.Command.Run
import PermissionNames.Proofs.Discovery
import PermissionNames.Proofs.FileTree

/-! What a run takes from its input is known from the entries around the input. -/

namespace PermissionNames

/-- Every component of every entry is a name, as in any tree that a file system holds. -/
def FileTree.WellNamed (tree : FileTree) : Prop :=
  ∀ entry ∈ tree.entries, ∀ part ∈ entry.1, Path.IsName part

instance (tree : FileTree) : Decidable tree.WellNamed :=
  inferInstanceAs (Decidable (∀ entry ∈ tree.entries, ∀ part ∈ entry.1, Path.IsName part))

namespace Command

open Discovery FileTree

/-- A file of an input: a path from the root that passes the input and does not climb. -/
structure IsBelow (input file : Path) : Prop where
  anchored : file.anchor = .root
  passes : input.parts <+: file.parts
  level : ".." ∉ file.parts

variable {tree other : FileTree} {input : Path} {files : List Path}

/-- A path of names does not climb. -/
theorem level_of_named {parts : List String} (named : ∀ part ∈ parts, Path.IsName part) :
    ".." ∉ parts :=
  fun member => (named _ member).level rfl

/-- What is found below an input is a file of it, and an entry of the tree. -/
theorem isBelow_of_mem_below {file : Path} {wanted : String → Bool}
    (anchored : input.anchor = .root) (named : tree.WellNamed)
    (found : file ∈ tree.below input wanted) :
    IsBelow input file ∧ ∃ entry ∈ tree.entries, entry.1 = file.parts := by
  obtain ⟨sameAnchor, passes, entry, listed, place⟩ := mem_below found
  -- The path is that of an entry, and all components of entries are names.
  refine ⟨⟨sameAnchor.trans anchored, passes, ?_⟩, entry, listed, place⟩
  rw [← place]
  exact level_of_named (named entry listed)

/-- The lines of ignore files are the same where their texts are. -/
theorem allLines_congr
    (same : ∀ file ∈ files, other.readText file = tree.readText file) :
    Ignore.allLines other input files = Ignore.allLines tree input files := by
  -- The lines of each file are those of its text.
  induction files with
  | nil => rfl
  | cons file rest ih =>
    rw [Ignore.allLines, Ignore.allLines, Ignore.rootLines, Ignore.rootLines,
      same file List.mem_cons_self,
      ih fun later member => same later (List.mem_cons_of_mem file member)]

/-- The lines of ignore files are known from the entries around the input. -/
theorem allLines_eq (kept : Keeps (around input.parts) tree other)
    (below : ∀ file ∈ files, IsBelow input file) :
    Ignore.allLines other input files = Ignore.allLines tree input files := by
  -- Each file is read along its own path, which passes the input.
  refine allLines_congr fun file member => ?_
  have here := below file member
  exact (kept.sameAlong here.passes).readText_eq here.level

/-- The same files are selected where the entries around the input are the same. -/
theorem selectFiles_eq (kept : Keeps (around input.parts) tree other) (named : tree.WellNamed)
    (anchored : input.anchor = .root) (level : ".." ∉ input.parts) :
    selectFiles other input = selectFiles tree input := by
  -- Whether the input is a file, what lies below it and its ignore files are all the same.
  have along := kept.sameAlong (List.prefix_refl input.parts)
  have ignoreFiles : ∀ file ∈ tree.below input (· == Ignore.fileName), IsBelow input file :=
    fun file found => (isBelow_of_mem_below anchored named found).1
  unfold selectFiles Ignore.Rules.ofProject
  rw [along.isFile_eq level, kept.below_eq, kept.below_eq, allLines_eq kept ignoreFiles]

/-- The selected files are files of the input, and entries of the tree. -/
theorem mem_selectFiles {file : Path} (named : tree.WellNamed) (anchored : input.anchor = .root)
    (level : ".." ∉ input.parts) (selected : selectFiles tree input = .ok files)
    (member : file ∈ files) :
    IsBelow input file ∧ ∃ entry ∈ tree.entries, entry.1 = file.parts := by
  unfold selectFiles at selected
  split at selected
  · rename_i isFile
    cases selected
    -- A file as the input is the only one that is selected.
    rw [List.mem_singleton.mp member]
    refine ⟨⟨anchored, List.prefix_refl _, level⟩, ?_⟩
    unfold FileTree.isFile at isFile
    split at isFile
    · rename_i bytes found
      exact ⟨_, mem_entries_of_file (entry?_of_status level found).1, rfl⟩
    · cases isFile
  -- Of a directory some of the files below it are selected.
  · cases rules : Ignore.Rules.ofProject tree input with
    | error cause =>
      rw [rules] at selected
      cases selected
    | ok rules =>
      rw [rules] at selected
      cases selected
      exact isBelow_of_mem_below anchored named (List.mem_filter.mp member).1

/-- The containers found in selected files lack a foreign character if the entries below the input do. -/
theorem lacks_findInSources {c : Char} (foreign : IsForeign c) (named : tree.WellNamed)
    (anchored : input.anchor = .root) (level : ".." ∉ input.parts)
    (lacks : ∀ entry ∈ tree.entries, input.parts <+: entry.1 → ∀ part ∈ entry.1, c ∉ part.toList)
    (selected : selectFiles tree input = .ok files) :
    ∀ container ∈ (findInSources tree input files).containers, container.Lacks c := by
  refine Project.lacks_find foreign ?_ fun part member => by cases member
  -- A selected file is an entry of the tree, at a place that passes the input.
  intro file member
  obtain ⟨below, entry, listed, place⟩ := mem_selectFiles named anchored level selected member
  have passes := below.passes
  unfold Path.Lacks
  rw [← place] at passes ⊢
  exact lacks entry listed passes

/-- A path from the root stands for itself in every directory. -/
theorem join_eq_self {path : Path} (anchored : path.anchor = .root) (directory : Path) :
    directory.join path = path := by
  simp [Path.join, anchored]

/-- The same is found in a file with the same text, of an input that is a file in both trees or in none. -/
theorem findIn_congr {file : Path} (anchored : input.anchor = .root)
    (fileAnchored : file.anchor = .root) (isFile : other.isFile input = tree.isFile input)
    (text : other.readText file = tree.readText file) :
    Project.findIn ⟨other, ⟨.root, []⟩, input⟩ file =
      Project.findIn ⟨tree, ⟨.root, []⟩, input⟩ file := by
  -- Files are named from the input, or from the directory above it if it is a file.
  have base : Project.base ⟨other, ⟨.root, []⟩, input⟩ =
      Project.base ⟨tree, ⟨.root, []⟩, input⟩ := by
    unfold Project.base Project.isFile
    simp only [join_eq_self anchored, isFile]
  unfold Project.findIn Project.declaredIn Project.shownPath
  simp only [join_eq_self fileAnchored, text, base]

/-- The same is found in files with the same texts, of an input that is a file in both trees or in none. -/
theorem findInSources_congr (anchored : input.anchor = .root)
    (filesAnchored : ∀ file ∈ files, file.anchor = .root)
    (isFile : other.isFile input = tree.isFile input)
    (texts : ∀ file ∈ files, other.readText file = tree.readText file) :
    findInSources other input files = findInSources tree input files := by
  -- Files are read one after another, in the same order.
  refine List.foldr_ext _ _ _ ?_
  intro file member later
  have listed := List.mem_mergeSort.mp member
  rw [findIn_congr anchored (filesAnchored file listed) isFile (texts file listed)]

/-- The same is found in the files of an input where the entries around it are the same. -/
theorem findInSources_eq (kept : Keeps (around input.parts) tree other)
    (anchored : input.anchor = .root) (level : ".." ∉ input.parts)
    (below : ∀ file ∈ files, IsBelow input file) :
    findInSources other input files = findInSources tree input files := by
  -- Each file is reached through places around the input.
  have along := kept.sameAlong (List.prefix_refl input.parts)
  refine findInSources_congr anchored (fun file member => (below file member).anchored)
    (along.isFile_eq level) fun file member => ?_
  exact (kept.sameAlong (below file member).passes).readText_eq (below file member).level

end Command

end PermissionNames
