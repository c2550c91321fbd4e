import PermissionNames.Proofs.Batch
import PermissionNames.Proofs.GeneratedSource.Unambiguous
import PermissionNames.Proofs.Text.Folding

/-! Output paths: what two containers share if they share one, in each dialect, with and without regard to case. -/

namespace PermissionNames.Container

open Casing

/-- A dotted path that is empty or has no empty part. -/
def IsWhole (path : String) : Prop :=
  path = "" ∨ [] ∉ Path.splitAt '.' path.toList

instance (path : String) : Decidable (IsWhole path) :=
  inferInstanceAs (Decidable (path = "" ∨ [] ∉ Path.splitAt '.' path.toList))

/-- The parts of a folded path are the folded parts. -/
theorem dottedParts_caseFolded (path : String) :
    dottedParts (caseFolded path) = (dottedParts path).map caseFolded := by
  -- Folding empties no part.
  have kept : ((fun piece : List Char => decide (piece ≠ [])) ∘ fold) =
      fun piece => decide (piece ≠ []) := by
    funext piece
    simp
  rw [dottedParts, dottedParts, toList_caseFolded, isFixed_period.splitAt_fold, List.filter_map,
    kept, List.map_map, List.map_map]
  refine List.map_congr_left fun piece _ => ?_
  simp [caseFolded]

/-- A path without empty parts is joined from its parts. -/
theorem IsWhole.intercalate_dottedParts {path : String} (whole : IsWhole path) :
    ".".intercalate (dottedParts path) = path := by
  -- Nothing is dropped from the parts, so joining them undoes the cutting.
  rcases whole with rfl | full
  · rfl
  · have all : (Path.splitAt '.' path.toList).filter (· ≠ []) = Path.splitAt '.' path.toList := by
      refine List.filter_eq_self.mpr fun piece member => ?_
      simpa using fun empty : piece = [] => full (empty ▸ member)
    refine String.toList_injective ?_
    rw [dottedParts, all]
    simpa [String.toList_intercalate, Function.comp_def] using
      Path.intercalate_splitAt '.' path.toList

/-- Paths without empty parts are told apart by their parts. -/
theorem dottedParts_inj {path other : String} (whole : IsWhole path) (alsoWhole : IsWhole other) :
    dottedParts path = dottedParts other ↔ path = other := by
  -- Both paths are joined from their parts.
  refine ⟨fun same => ?_, congrArg dottedParts⟩
  rw [← whole.intercalate_dottedParts, same, alsoWhole.intercalate_dottedParts]

/-- A folded path has no empty part if the path has none. -/
theorem IsWhole.caseFolded {path : String} (whole : IsWhole path) :
    IsWhole (PermissionNames.caseFolded path) := by
  -- Folding leaves periods where they are, and no part becomes empty.
  rcases whole with rfl | full
  · exact .inl (by simp)
  · refine .inr ?_
    rw [toList_caseFolded, isFixed_period.splitAt_fold]
    simpa using full

variable {first second container : Container}

/-- Containers whose names hold no period have the same qualified name only if both parts of it are the same. -/
theorem qualifiedName_inj (plain : '.' ∉ first.name.toList) (alsoPlain : '.' ∉ second.name.toList) :
    first.qualifiedName = second.qualifiedName ↔
      first.namespacePath = second.namespacePath ∧ first.name = second.name := by
  refine ⟨fun same => ?_, fun ⟨place, name⟩ => by rw [qualifiedName, qualifiedName, place, name]⟩
  -- Behind a namespace the name follows the last period.
  have characters := congrArg String.toList same
  unfold qualifiedName at characters
  split at characters
  · rename_i top
    split at characters
    · rename_i alsoTop
      exact ⟨top.trans alsoTop.symm, String.toList_injective characters⟩
    · exact absurd (by simp [characters]) plain
  · split at characters
    · exact absurd (by simp [← characters]) alsoPlain
    · obtain ⟨place, name⟩ := cut_last plain alsoPlain (by simpa using characters)
      exact ⟨String.toList_injective place, String.toList_injective name⟩

/-- Partial classes share an output path exactly if they share a qualified name. -/
theorem outputPath_csharp_inj :
    first.outputPath .csharp = second.outputPath .csharp ↔
      first.qualifiedName = second.qualifiedName := by
  simp only [outputPath, ← String.toList_inj, String.toList_append, List.append_cancel_right_eq]

/-- Modules share an output path exactly if their names are the same, and all parts of their namespaces but empty ones. -/
theorem IsSlashFree.outputPath_python_inj (free : first.IsSlashFree)
    (alsoFree : second.IsSlashFree) :
    first.outputPath .python = second.outputPath .python ↔
      dottedParts first.namespacePath = dottedParts second.namespacePath ∧
        first.name = second.name := by
  rw [free.outputPath_python, alsoFree.outputPath_python]
  refine ⟨fun same => ?_, fun ⟨parts, name⟩ => by rw [parts, name]⟩
  -- The written paths are read back.
  have paths := congrArg Path.ofString same
  rw [Path.ofString_toString (by simp) free.isPlace.named,
    Path.ofString_toString (by simp) alsoFree.isPlace.named, Path.mk.injEq] at paths
  obtain ⟨parts, file⟩ := List.append_inj' paths.2 rfl
  refine ⟨parts, String.toList_injective ?_⟩
  simpa using congrArg String.toList (List.singleton_inj.mp file)

/-- A written relative path is folded component by component. -/
theorem caseFolded_toString {parts : List String} (full : parts ≠ []) :
    caseFolded (Path.toString ⟨.relative, parts⟩) =
      Path.toString ⟨.relative, parts.map caseFolded⟩ := by
  -- A slash is its own folded form, so it separates the same components.
  have slash : "/".toList = ['/'] := by simp
  have folded : (parts.map caseFolded).map String.toList =
      (parts.map String.toList).map fold := by
    simp [Function.comp_def]
  refine String.toList_injective ?_
  simp only [Path.toString, full, List.map_eq_nil_iff, and_false, if_false, Anchor.text,
    String.empty_append, toList_caseFolded, String.toList_intercalate, slash, folded,
    isFixed_slash.fold_intercalate]

/-- The container with its name and its namespace folded. -/
def folded (container : Container) : Container :=
  { container with
    name := caseFolded container.name
    namespacePath := caseFolded container.namespacePath }

/-- Folding makes no slash. -/
theorem IsSlashFree.folded (free : container.IsSlashFree) : container.folded.IsSlashFree where
  name := by simpa [Container.folded, isFixed_slash.mem_fold] using free.name
  namespacePath := by simpa [Container.folded, isFixed_slash.mem_fold] using free.namespacePath

/-- The folded qualified name is that of the folded container. -/
theorem caseFolded_qualifiedName (container : Container) :
    caseFolded container.qualifiedName = container.folded.qualifiedName := by
  -- The period between both parts is its own folded form.
  have period : caseFolded "." = "." := by decide
  simp only [qualifiedName, folded, caseFolded_eq_empty]
  split
  · rfl
  · rw [caseFolded_append, caseFolded_append, period]

/-- The folded path of a container is the path of the folded container. -/
theorem IsSlashFree.foldedPath_eq (free : container.IsSlashFree) (dialect : Dialect) :
    container.foldedPath dialect = container.folded.outputPath dialect := by
  -- The endings are their own folded form, and the rest is folded part by part.
  cases dialect with
  | csharp =>
    have ending : caseFolded ".g.cs" = ".g.cs" := by decide
    simp only [foldedPath, outputPath, caseFolded_append, caseFolded_qualifiedName, ending]
  | python =>
    have ending : caseFolded "_generated.py" = "_generated.py" := by decide
    rw [foldedPath, free.outputPath_python, free.folded.outputPath_python,
      caseFolded_toString (by simp)]
    simp only [Container.folded, dottedParts_caseFolded, List.map_append, List.map_cons, List.map_nil,
      caseFolded_append, ending]

/-- Partial classes collide exactly if their folded qualified names are the same. -/
theorem foldedPath_csharp_inj :
    first.foldedPath .csharp = second.foldedPath .csharp ↔
      caseFolded first.qualifiedName = caseFolded second.qualifiedName := by
  -- Both paths have the same ending.
  simp only [foldedPath, outputPath, caseFolded_append, ← String.toList_inj, String.toList_append,
    List.append_cancel_right_eq]

/-- Modules collide exactly if their folded names are the same, and all parts of their folded namespaces but empty ones. -/
theorem IsSlashFree.foldedPath_python_inj (free : first.IsSlashFree)
    (alsoFree : second.IsSlashFree) :
    first.foldedPath .python = second.foldedPath .python ↔
      dottedParts (caseFolded first.namespacePath) = dottedParts (caseFolded second.namespacePath) ∧
        caseFolded first.name = caseFolded second.name := by
  -- Folding commutes with the path, so the paths of folded containers are compared.
  rw [free.foldedPath_eq, alsoFree.foldedPath_eq]
  exact free.folded.outputPath_python_inj alsoFree.folded

/-- Containers whose names hold no period have the same folded qualified name only if both parts of it are folded alike. -/
theorem caseFolded_qualifiedName_inj (plain : '.' ∉ first.name.toList)
    (alsoPlain : '.' ∉ second.name.toList) :
    caseFolded first.qualifiedName = caseFolded second.qualifiedName ↔
      caseFolded first.namespacePath = caseFolded second.namespacePath ∧
        caseFolded first.name = caseFolded second.name := by
  -- The name is what stands behind the last period, as it has none itself.
  rw [caseFolded_qualifiedName, caseFolded_qualifiedName]
  refine qualifiedName_inj ?_ ?_
  · simpa [folded, isFixed_period.mem_fold] using plain
  · simpa [folded, isFixed_period.mem_fold] using alsoPlain

/-- A container without slashes, and without periods in its name or empty parts in its namespace. -/
structure IsPlain (container : Container) : Prop where
  free : container.IsSlashFree
  name : '.' ∉ container.name.toList
  whole : IsWhole container.namespacePath

instance (container : Container) : Decidable container.IsPlain :=
  decidable_of_iff (('/' ∉ container.name.toList ∧ '/' ∉ container.namespacePath.toList) ∧
      '.' ∉ container.name.toList ∧ IsWhole container.namespacePath)
    ⟨fun ⟨⟨name, namespacePath⟩, noPeriod, whole⟩ => ⟨⟨name, namespacePath⟩, noPeriod, whole⟩,
      fun plain => ⟨⟨plain.free.name, plain.free.namespacePath⟩, plain.name, plain.whole⟩⟩

/-- Plain containers collide exactly if their namespaces and their names are folded alike, whatever the dialect is. -/
theorem IsPlain.foldedPath_inj (plain : first.IsPlain) (alsoPlain : second.IsPlain)
    (dialect : Dialect) :
    first.foldedPath dialect = second.foldedPath dialect ↔
      caseFolded first.namespacePath = caseFolded second.namespacePath ∧
        caseFolded first.name = caseFolded second.name := by
  -- In one dialect the qualified names are compared, in the other the parts of both.
  cases dialect with
  | csharp => rw [foldedPath_csharp_inj, caseFolded_qualifiedName_inj plain.name alsoPlain.name]
  | python =>
    rw [plain.free.foldedPath_python_inj alsoPlain.free,
      dottedParts_inj plain.whole.caseFolded alsoPlain.whole.caseFolded]

end PermissionNames.Container
