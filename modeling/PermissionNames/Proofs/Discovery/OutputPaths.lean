import PermissionNames.Proofs.BatchOutcome
import PermissionNames.Proofs.Command.Selection
import PermissionNames.Proofs.Command.StoredSources
import PermissionNames.Proofs.Discovery.Classes
import PermissionNames.Proofs.Discovery.Files
import PermissionNames.Proofs.GeneratedSource.OutputPath

/-! Containers found in a project share an output path only if they share their names, but for empty parts of their namespaces. -/

namespace PermissionNames

/-- A word holds no period. -/
theorem Identifier.Word.period_not_mem (word : Identifier.Word) : '.' ∉ word.text.toList := by
  -- A period does not continue a word.
  intro member
  have continues := List.all_eq_true.mp word.continues '.' member
  revert continues
  decide

namespace Discovery.Project

open Container Source

variable {project : Project} {files : Option (List Path)} {container : Container}

/-- The source files of a project lack slashes if its root does. -/
theorem lacks_sourceFiles (named : project.tree.WellNamed) (inRoot : project.root.Lacks '/') :
    ∀ file ∈ project.sourceFiles, file.Lacks '/' := by
  unfold sourceFiles
  split
  · simpa using inRoot
  · unfold below
    split
    · simp
    · -- A file below the root goes on from it with components of an entry.
      intro file member
      obtain ⟨found, listed, rfl⟩ := List.mem_map.mp member
      obtain ⟨-, -, entry, inTree, place⟩ := FileTree.mem_below listed
      intro part inPath
      rcases List.mem_append.mp inPath with above | behind
      · exact inRoot part above
      · have inEntry : part ∈ entry.1 := place ▸ List.mem_of_mem_drop behind
        exact (named entry inTree part inEntry).single

/-- The name of a found container is a word. -/
theorem exists_word_of_mem_find (found : container ∈ (project.find files).containers) :
    ∃ word : Identifier.Word, container.name = word.text := by
  obtain ⟨one, listed, rfl⟩ := List.mem_map.mp found
  obtain ⟨file, -, found, declared, member⟩ := exists_declaredIn_of_mem_find listed
  obtain ⟨text, moduleName, findings, declares, rfl⟩ := exists_declares declared
  obtain ⟨body, -, inBody⟩ := exists_ofBody_of_ofSource declares.declared
  -- It describes a class of the text, and has its name.
  obtain ⟨reached, -, describes⟩ :=
    Command.exists_of_forall₂ (forall₂_ofBody body 0 inBody).flip (List.mem_map_of_mem member)
  exact ⟨reached.node.name, describes.name⟩

/-- Paths of files without slashes, as in any project that a file system holds. -/
structure IsOrdinary (project : Project) (files : Option (List Path)) : Prop where
  tree : project.tree.WellNamed
  directory : project.directory.Lacks '/'
  root : project.root.Lacks '/'
  files : ∀ given, files = some given → ∀ file ∈ given, file.Lacks '/'

/-- What is found in an ordinary project has no slash in its names. -/
theorem IsOrdinary.isSlashFree (ordinary : project.IsOrdinary files)
    (found : container ∈ (project.find files).containers) : container.IsSlashFree := by
  -- Names come from the files and the directory, whose components have no slash.
  have inFiles : ∀ file ∈ files.getD project.sourceFiles, file.Lacks '/' := by
    cases files with
    | none => exact lacks_sourceFiles ordinary.tree ordinary.root
    | some given => exact ordinary.files given rfl
  have lacks := lacks_find ⟨by decide, by decide⟩ inFiles ordinary.directory container found
  exact ⟨lacks.name, lacks.namespacePath⟩

/-- What the output paths of two containers tell about their names, with and without regard to case. -/
structure TellNames (first second : Container) : Prop where
  csharp : first.outputPath .csharp = second.outputPath .csharp ↔
    first.qualifiedName = second.qualifiedName
  csharpFolded : first.foldedPath .csharp = second.foldedPath .csharp ↔
    caseFolded first.qualifiedName = caseFolded second.qualifiedName
  python : first.outputPath .python = second.outputPath .python ↔
    dottedParts first.namespacePath = dottedParts second.namespacePath ∧ first.name = second.name
  pythonFolded : first.foldedPath .python = second.foldedPath .python ↔
    dottedParts (caseFolded first.namespacePath) = dottedParts (caseFolded second.namespacePath) ∧
      caseFolded first.name = caseFolded second.name
  whole : IsWhole first.namespacePath → IsWhole second.namespacePath →
    (first.outputPath .python = second.outputPath .python ↔
      first.qualifiedName = second.qualifiedName)
  wholeFolded : IsWhole first.namespacePath → IsWhole second.namespacePath →
    (first.foldedPath .python = second.foldedPath .python ↔
      caseFolded first.qualifiedName = caseFolded second.qualifiedName)

/-- The paths of containers that are found in an ordinary project tell their names. -/
theorem IsOrdinary.tellNames (ordinary : project.IsOrdinary files) {first second : Container}
    (found : first ∈ (project.find files).containers)
    (alsoFound : second ∈ (project.find files).containers) : TellNames first second := by
  -- Names of classes are words, so the last period of a qualified name is in front of the name.
  have free := ordinary.isSlashFree found
  have alsoFree := ordinary.isSlashFree alsoFound
  have plain : '.' ∉ first.name.toList := by
    obtain ⟨word, named⟩ := exists_word_of_mem_find found
    exact named ▸ word.period_not_mem
  have alsoPlain : '.' ∉ second.name.toList := by
    obtain ⟨word, named⟩ := exists_word_of_mem_find alsoFound
    exact named ▸ word.period_not_mem
  refine ⟨outputPath_csharp_inj, foldedPath_csharp_inj, free.outputPath_python_inj alsoFree,
    free.foldedPath_python_inj alsoFree, fun whole alsoWhole => ?_, fun whole alsoWhole => ?_⟩
  · rw [free.outputPath_python_inj alsoFree, dottedParts_inj whole alsoWhole,
      qualifiedName_inj plain alsoPlain]
  · have first : IsPlain first := ⟨free, plain, whole⟩
    rw [first.foldedPath_inj ⟨alsoFree, alsoPlain, alsoWhole⟩,
      caseFolded_qualifiedName_inj plain alsoPlain]

/-- Containers found in a project share an output path only if their names are the same and their namespaces are, but for empty parts.
No batch of them fails for a path unless two folded names are the same in that sense, or altogether for partial classes and where no part is empty. -/
theorem paths_of_find (ordinary : project.IsOrdinary files) :
    (∀ first ∈ (project.find files).containers, ∀ second ∈ (project.find files).containers,
      TellNames first second) ∧
    ∀ options schedule first second path,
      schedule.Complete (Batch.selected (project.find files).containers).length →
      (Batch.generateUnder schedule (project.find files).containers options).outcome =
        .error (.samePath first second path) →
      ∃ owner ∈ (project.find files).containers, ∃ source ∈ (project.find files).containers,
        first = owner.qualifiedName ∧ second = source.qualifiedName ∧
        path = source.outputPath options.dialect ∧
        owner.foldedPath options.dialect = source.foldedPath options.dialect ∧
        (options.dialect = .csharp ∨ IsWhole owner.namespacePath ∧ IsWhole source.namespacePath →
          caseFolded owner.qualifiedName = caseFolded source.qualifiedName) := by
  refine ⟨fun first found second alsoFound => ordinary.tellNames found alsoFound, ?_⟩
  intro options schedule first second path complete failed
  obtain ⟨owner, source, clash, rfl, rfl, rfl⟩ := Batch.firstClash_of_samePath complete failed
  obtain ⟨before, after, split, earlier, shared⟩ := clash.spec
  -- Both containers of the clash are marked ones of the project.
  have found : ∀ container ∈ before ++ source :: after,
      container ∈ (project.find files).containers := fun container member =>
    (List.mem_filter.mp (split ▸ member)).1
  have ownerFound := found owner (List.mem_append_left _ earlier)
  have sourceFound := found source (by simp)
  have tells := ordinary.tellNames ownerFound sourceFound
  refine ⟨owner, ownerFound, source, sourceFound, rfl, rfl, rfl, shared, ?_⟩
  rintro (csharp | ⟨whole, alsoWhole⟩)
  · rw [csharp] at shared
    exact tells.csharpFolded.mp shared
  · cases dialect : options.dialect with
    | csharp => exact tells.csharpFolded.mp (dialect ▸ shared)
    | python => exact (tells.wholeFolded whole alsoWhole).mp (dialect ▸ shared)

/-- A project with a module and a hidden one of the same name. -/
def hiddenBeside : Project where
  tree := ⟨[
    (["in"], .directory),
    (["in", "a.py"], .file (Utf8.encode
      "@permissions_repo\nclass Read(Partial):\n    own: str\n".toList)),
    (["in", ".a.py"], .file (Utf8.encode
      "@permissions_repo\nclass Read(Partial):\n    own: str\n".toList))]⟩
  directory := ⟨.root, []⟩
  root := ⟨.root, ["in"]⟩

/-- The containers of the two modules, the hidden one first. -/
def hiddenContainers : List Container :=
  [(".a", ".a.py"), ("a", "a.py")].map fun (namespacePath, shown) =>
    { name := "Read", namespacePath, slots := [.own], kind := .repo, sourcePath := some shown }

/-- The files of the two modules. -/
def hiddenFiles : List Path := [⟨.root, ["in", ".a.py"]⟩, ⟨.root, ["in", "a.py"]⟩]

/-- The containers of the two modules are found in their files. -/
theorem find_hiddenBeside : (hiddenBeside.find (some hiddenFiles)).containers = hiddenContainers := by
  -- The files are in order, and each declares its one container.
  have sorted : Path.sort hiddenFiles = hiddenFiles :=
    List.mergeSort_of_pairwise (by decide +kernel)
  have hidden := @declares_ownRead hiddenBeside ⟨.root, ["in", ".a.py"]⟩ ".a" ".a.py"
    ⟨by decide, rfl⟩ (by decide +kernel) (by decide +kernel)
  have plain := @declares_ownRead hiddenBeside ⟨.root, ["in", "a.py"]⟩ "a" "a.py"
    ⟨by decide, rfl⟩ (by decide +kernel) (by decide +kernel)
  rw [find_eq_flatMap, sorted]
  simp only [hiddenFiles, List.flatMap_cons, List.flatMap_nil, hidden.findIn_eq, plain.findIn_eq]
  rfl

/-- No name in this project holds a slash. -/
theorem isOrdinary_hiddenBeside : hiddenBeside.IsOrdinary (some hiddenFiles) := by
  -- The names of the tree and those of the given files are looked through.
  refine ⟨by decide +kernel, by decide, by decide, ?_⟩
  rintro given ⟨⟩
  decide

/-- The partial classes of the two modules have different paths, as their qualified names differ. -/
theorem paths_of_find_hiddenBeside :
    hiddenBeside.IsOrdinary (some hiddenFiles) ∧
    ∀ first ∈ hiddenContainers, ∀ second ∈ hiddenContainers,
      first.qualifiedName ≠ second.qualifiedName →
        first.outputPath .csharp ≠ second.outputPath .csharp := by
  -- The paths of the partial classes tell the qualified names.
  refine ⟨isOrdinary_hiddenBeside, ?_⟩
  rw [← find_hiddenBeside]
  intro first found second alsoFound apart shared
  have tells := (paths_of_find isOrdinary_hiddenBeside).1 first found second alsoFound
  exact apart (tells.csharp.mp shared)

/-- Modules of two found containers may have the same path although the qualified names differ, also when they are folded, and then the batch fails. -/
theorem hidden_module_shares_path :
    hiddenBeside.IsOrdinary (some hiddenFiles) ∧
    ∃ first ∈ (hiddenBeside.find (some hiddenFiles)).containers,
      ∃ second ∈ (hiddenBeside.find (some hiddenFiles)).containers,
        caseFolded first.qualifiedName ≠ caseFolded second.qualifiedName ∧
        first.outputPath .python = second.outputPath .python ∧
        (Batch.generate (hiddenBeside.find (some hiddenFiles)).containers {}).outcome =
          .error (.samePath first.qualifiedName second.qualifiedName
            (second.outputPath .python)) := by
  -- The empty part of the namespace is dropped from the path, and both paths are the same.
  refine ⟨isOrdinary_hiddenBeside, ?_⟩
  rw [find_hiddenBeside]
  refine ⟨_, List.mem_cons_self, _, List.mem_cons_of_mem _ List.mem_cons_self, ?_, ?_, ?_⟩
  · decide +kernel
  · decide +kernel
  · decide +kernel

end Discovery.Project

end PermissionNames
