import PermissionNames.Proofs.Command.StoredSources
import PermissionNames.Proofs.GeneratedSource

/-! The targets of containers without slashes: distinct ones spare each other, and all of them stay clear of what lies outside the output directory. -/

namespace PermissionNames.Command

open Container

variable {output : Path} {dialect other : Dialect} {container first second : Container}

/-- The source of a container without slashes is stored at its place below the output directory. -/
theorem parts_targetOf (free : container.IsSlashFree) (output : Path) (dialect : Dialect) :
    ∃ directories file, IsPlace directories file ∧
      container.outputPath dialect = Path.toString ⟨.relative, directories ++ [file]⟩ ∧
      (targetOf output (container.source dialect)).parts =
        output.parts ++ (directories ++ [file]) := by
  obtain ⟨directories, file, place, written⟩ := free.outputPath_eq dialect
  -- The written path is read back, as it is made of names.
  have read : Path.ofString (container.outputPath dialect) =
      ⟨.relative, directories ++ [file]⟩ := by
    rw [written, Path.ofString_toString (by simp) place.named]
  refine ⟨directories, file, place, written, ?_⟩
  show (output.join (.ofString (container.outputPath dialect))).parts = _
  rw [read]
  rfl

/-- The target of a container without slashes names a file without climbing. -/
theorem settled_targetOf (level : ".." ∉ output.parts) (free : container.IsSlashFree) :
    Settled (targetOf output (container.source dialect)) := by
  obtain ⟨directories, file, place, -, parts⟩ := parts_targetOf free output dialect
  refine ⟨⟨output.parts ++ directories, file, by rw [parts]; simp⟩, ?_⟩
  -- Neither the output directory nor any name below it climbs.
  rw [parts, List.mem_append, not_or]
  exact ⟨level, fun member => (place.named _ member).level rfl⟩

/-- Storing at a place below an output directory misses another name with a period below it, unless that is the target or its temporary file. -/
theorem misses_of_place {target : Path} {directories others : List String} {file name last : String}
    (parts : target.parts = output.parts ++ (directories ++ [file]))
    (place : IsPlace directories file) (otherPlace : IsPlace others last)
    (period : '.' ∈ name.toList) (notTarget : others ++ [name] ≠ directories ++ [file])
    (notTemporary : others ++ [name] ≠ directories ++ [file ++ ".tmp"]) :
    Misses target (output.parts ++ (others ++ [name])) := by
  have split : target.parts = (output.parts ++ directories) ++ [file] := by
    rw [parts, List.append_assoc]
  refine ⟨?_, ?_, ?_⟩
  · rw [parts]
    simpa using notTarget
  · rw [parts_temporary split, List.append_assoc, List.prefix_append_right_inj]
    intro inside
    exact notTemporary (otherPlace.eq_of_prefix (by simp [place.period]) inside).symm
  -- Directories above the target have no period, unless they are above the output directory too.
  · rw [split, List.dropLast_concat, List.prefix_append_right_inj]
    exact place.not_prefix period

/-- Storing at the target of a container without slashes spares the target of another one with a different path. -/
theorem spares_targetOf (free : first.IsSlashFree) (alsoFree : second.IsSlashFree)
    (apart : first.outputPath dialect ≠ second.outputPath other) :
    Spares (targetOf output (first.source dialect)) (targetOf output (second.source other)) := by
  obtain ⟨directories, file, place, written, parts⟩ := parts_targetOf free output dialect
  obtain ⟨others, last, otherPlace, otherWritten, otherParts⟩ :=
    parts_targetOf alsoFree output other
  -- The places differ, as else the paths would be the same.
  have distinct : others ++ [last] ≠ directories ++ [file] := by
    intro same
    rw [written, otherWritten, same] at apart
    exact apart rfl
  have split : (targetOf output (second.source other)).parts =
      (output.parts ++ others) ++ [last] := by
    rw [otherParts, List.append_assoc]
  refine ⟨?_, ?_⟩
  -- A target is no temporary file, as targets end in another way.
  · rw [otherParts]
    refine misses_of_place parts place otherPlace otherPlace.period distinct ?_
    intro same
    exact otherPlace.notTemporary file (by simpa using (List.append_inj' same rfl).2)
  -- The temporary files of two places are as different as the places.
  · rw [parts_temporary split, List.append_assoc]
    refine misses_of_place parts place otherPlace (by simp [otherPlace.period]) ?_ ?_
    · intro same
      exact place.notTemporary last (by simpa using ((List.append_inj' same rfl).2).symm)
    · intro same
      obtain ⟨above, ends⟩ := List.append_inj' same rfl
      have named : last = file := by simpa using ends
      exact distinct (by rw [above, named])

/-- A source with the path of a container without slashes, in some dialect. -/
def IsSlashFreeSource (source : GeneratedSource) : Prop :=
  ∃ (container : Container) (dialect : Dialect), container.IsSlashFree ∧
    source.path = container.outputPath dialect

/-- Sources with one path have one target. -/
theorem targetOf_eq {source : GeneratedSource} (located : source.path = container.outputPath dialect) :
    targetOf output source = targetOf output (container.source dialect) :=
  congrArg (fun path => output.join (.ofString path)) located

/-- Storing one of several sources without slashes spares all others if their paths differ. -/
theorem spared_of_distinct {sources : List GeneratedSource} (output : Path)
    (free : ∀ source ∈ sources, IsSlashFreeSource source)
    (distinct : sources.Pairwise fun first second => first.path ≠ second.path) :
    sources.Pairwise fun first second =>
      Spares (targetOf output first) (targetOf output second) ∧
        Spares (targetOf output second) (targetOf output first) := by
  -- Two sources with different paths come from containers that spare each other.
  refine distinct.imp_of_mem ?_
  intro first second inFirst inSecond apart
  obtain ⟨container, dialect, isFree, located⟩ := free first inFirst
  obtain ⟨other, otherDialect, alsoFree, alsoLocated⟩ := free second inSecond
  rw [located, alsoLocated] at apart
  rw [targetOf_eq located, targetOf_eq alsoLocated]
  exact ⟨spares_targetOf isFree alsoFree apart, spares_targetOf alsoFree isFree (Ne.symm apart)⟩

/-- The target of a source without slashes names a file without climbing. -/
theorem IsSlashFreeSource.settled {source : GeneratedSource} (free : IsSlashFreeSource source)
    (level : ".." ∉ output.parts) : Settled (targetOf output source) := by
  -- The path is that of its container.
  obtain ⟨container, dialect, isFree, located⟩ := free
  rw [targetOf_eq located]
  exact settled_targetOf level isFree

/-- A place below one of two directories that are apart is not below the other. -/
theorem not_prefix_of_apart {input output place : List String} (outside : ¬ output <+: input)
    (apart : ¬ input <+: output) (below : output <+: place) : ¬ input <+: place := by
  -- A place that both lead to would make one of them lead to the other.
  intro inside
  rcases List.prefix_or_prefix_of_prefix below inside with first | second
  · exact outside first
  · exact apart second

/-- Storing below an output directory stays clear of what stands around an input that is apart from it. -/
theorem clears_targetOf {input : Path} {tree : FileTree} (free : container.IsSlashFree)
    (outside : ¬ output.parts <+: input.parts) (apart : ¬ input.parts <+: output.parts)
    (along : ∀ front, front <+: input.parts → (tree.entry? front).isSome) :
    Clears (FileTree.around input.parts) tree (targetOf output (container.source dialect)) := by
  obtain ⟨directories, file, place, -, parts⟩ := parts_targetOf free output dialect
  have split : (targetOf output (container.source dialect)).parts =
      (output.parts ++ directories) ++ [file] := by
    rw [parts, List.append_assoc]
  have never : ∀ place, output.parts <+: place → FileTree.around input.parts place = false := by
    intro place below
    refine Bool.eq_false_iff.mpr fun listed => ?_
    rcases FileTree.around_iff.mp listed with above | inside
    · exact outside (below.trans above)
    · exact not_prefix_of_apart outside apart below inside
  refine ⟨?_, ?_, ?_⟩
  -- The target lies below the output directory, and so does the temporary file.
  · exact never _ (by rw [parts]; exact List.prefix_append _ _)
  · intro below deeper
    refine never below (.trans ?_ deeper)
    rw [parts_temporary split, List.append_assoc]
    exact List.prefix_append _ _
  -- A directory above the target lies around the input only if it is above it.
  · intro front inside listed
    rcases FileTree.around_iff.mp listed with above | below
    · exact along front above
    · have outputInside : output.parts <+: (targetOf output (container.source dialect)).parts := by
        rw [parts]
        exact List.prefix_append _ _
      have inputInside := below.trans (inside.trans (List.dropLast_prefix _))
      exact absurd inputInside (not_prefix_of_apart outside apart outputInside)

end PermissionNames.Command
