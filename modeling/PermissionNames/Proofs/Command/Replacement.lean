import PermissionNames.Proofs.Command.Targets

/-! What storing sources leaves behind, whether it finishes or stops at one of them: whole targets, and all other files as they were. -/

namespace PermissionNames.Command

variable {output : Path} {sources : List GeneratedSource} {tree after : FileTree}
  {stored : List Storage} {outcome : Except FileFault (List Storage)}

/-- Sources that were stored, each of them in place. -/
def AllInPlace (output : Path) (tree after : FileTree) (sources : List GeneratedSource)
    (stored : List Storage) : Prop :=
  List.Forall₂ (fun source storage =>
    InPlace (targetOf output source) source.text tree after storage) sources stored

/-- What stands at a target is what stood there. -/
def Untouched (output : Path) (tree after : FileTree) (source : GeneratedSource) : Prop :=
  after.entry? (targetOf output source).parts = tree.entry? (targetOf output source).parts

/-- What storing sources leaves behind. -/
structure Leaves (output : Path) (sources : List GeneratedSource) (tree after : FileTree)
    (outcome : Except FileFault (List Storage)) : Prop where
  /-- Every target is as it was, or it is a file of the whole text. -/
  whole : ∀ source ∈ sources, Untouched output tree after source ∨
    after.HasFile (targetOf output source) (Utf8.encode source.text.toList)
  /-- A file that is neither a target nor beside one as its temporary file is as it was. -/
  others : ∀ path bytes, ".." ∉ path.parts →
    (∀ source ∈ sources, path.parts ≠ (targetOf output source).parts ∧
      path.parts ≠ (temporary (targetOf output source)).parts) →
    tree.HasFile path bytes → after.HasFile path bytes
  /-- A fault is that of one source: all before it are in place, and nothing has happened to its own target and to those after it. -/
  stopped : ∀ fault, outcome = .error fault → ∃ before source later stored middle,
    sources = before ++ source :: later ∧
      (storeAll output before).on tree = (.ok stored, middle) ∧
      (storeText (targetOf output source) source.text source.isEncodable).on middle =
        (.error fault, after) ∧
      AllInPlace output tree after before stored ∧
      ∀ other ∈ source :: later, Untouched output tree after other
  /-- Without a fault all are in place, so that no temporary file has come to stay, and all are counted. -/
  complete : ∀ stored, outcome = .ok stored → AllInPlace output tree after sources stored ∧
    stored.count .written + stored.count .unchanged = sources.length

/-- Every stored source is counted once. -/
theorem count_storages (stored : List Storage) :
    stored.count .written + stored.count .unchanged = stored.length := by
  -- Each storage is of one of the two kinds.
  induction stored with
  | nil => rfl
  | cons storage later ih =>
    cases storage <;> simp <;> omega

/-- A text in place is a file of it, or nothing has happened to its target. -/
theorem InPlace.whole {target : Path} {text : String} {storage : Storage}
    (inPlace : InPlace target text tree after storage) :
    after.entry? target.parts = tree.entry? target.parts ∨
      after.HasFile target (Utf8.encode text.toList) := by
  -- What is written is a file, and what is unchanged is as before.
  cases storage with
  | written => exact .inr inPlace.1
  | unchanged => exact .inl inPlace.2.1

section Distinct

variable (level : ".." ∉ output.parts) (free : ∀ source ∈ sources, IsSlashFreeSource source)
  (distinct : sources.Pairwise fun first second => first.path ≠ second.path)

include level free distinct

/-- All sources that were stored are in place. -/
theorem allInPlace_of_storeAll (done : (storeAll output sources).on tree = (.ok stored, after)) :
    AllInPlace output tree after sources stored :=
  -- Distinct paths spare each other, so no source undoes another.
  inPlace_of_storeAll (fun source member => (free source member).settled level)
    (spared_of_distinct output free distinct) done

/-- Storing that fails has put the sources before one of them in place, and has not touched the targets of that one and of those after it. -/
theorem stopped_of_storeAll {fault : FileFault}
    (done : (storeAll output sources).on tree = (.error fault, after)) :
    ∃ before source later stored middle, sources = before ++ source :: later ∧
      (storeAll output before).on tree = (.ok stored, middle) ∧
      (storeText (targetOf output source) source.text source.isEncodable).on middle =
        (.error fault, after) ∧
      AllInPlace output tree after before stored ∧
      ∀ other ∈ source :: later, Untouched output tree after other := by
  obtain ⟨before, source, later, stored, middle, split, complete, failed⟩ := exists_stopped done
  refine ⟨before, source, later, stored, middle, split, complete, failed, ?_⟩
  subst split
  have settled : ∀ other ∈ before ++ source :: later, Settled (targetOf output other) :=
    fun other member => (free other member).settled level
  obtain ⟨beforeSettled, restSettled⟩ := List.forall_mem_append.mp settled
  -- Storing a source before the fault spares those after it, and the other way round.
  obtain ⟨beforeSpared, restSpared, across⟩ :=
    List.pairwise_append.mp (spared_of_distinct output free distinct)
  constructor
  · -- The attempt that failed is one at the rest of the sources.
    have rest : (storeAll output (source :: later)).on middle = (.error fault, after) :=
      on_storeAll_cons_of_error failed
    obtain ⟨lengths, each⟩ :=
      List.forall₂_iff_zip.mp (inPlace_of_storeAll beforeSettled beforeSpared complete)
    refine List.forall₂_iff_zip.mpr ⟨lengths, fun {first storage} paired => ?_⟩
    have member := (List.of_mem_zip paired).1
    exact (each paired).stays_storeAll (beforeSettled first member).level restSettled
      (fun other listed => (across first member other listed).2) rest
  · intro other member
    obtain ⟨⟨front, last, split⟩, climbs⟩ := restSettled source List.mem_cons_self
    have early : Untouched output tree middle other :=
      entry?_storeAll beforeSettled (fun first listed => (across first listed other member).1.path)
        complete
    refine .trans ?_ early
    -- The source itself stays as the fault keeps it from being replaced, and the others are spared.
    rcases List.mem_cons.mp member with rfl | beyond
    · exact entry?_target_of_error split climbs failed
    · have spares := ((List.pairwise_cons.mp restSpared).1 other beyond).1
      exact entry?_storeText split climbs spares.path failed

end Distinct

/-- Storing sources without slashes at different paths leaves every target whole and all else as it was, wherever it ends. -/
theorem leaves_of_storeAll (level : ".." ∉ output.parts)
    (free : ∀ source ∈ sources, IsSlashFreeSource source)
    (distinct : sources.Pairwise fun first second =>
      caseFolded first.path ≠ caseFolded second.path)
    (done : (storeAll output sources).on tree = (outcome, after)) :
    Leaves output sources tree after outcome := by
  have apart : sources.Pairwise fun first second => first.path ≠ second.path :=
    distinct.imp fun folded same => folded (congrArg caseFolded same)
  refine ⟨?_, ?_, ?_, ?_⟩
  -- A source is in place, or it is one of those that a fault has kept from being stored.
  · intro source member
    cases outcome with
    | ok stored =>
      obtain ⟨storage, -, inPlace⟩ :=
        exists_of_forall₂ (allInPlace_of_storeAll level free apart done) member
      exact inPlace.whole
    | error fault =>
      obtain ⟨before, failed, later, stored, middle, split, -, -, early, late⟩ :=
        stopped_of_storeAll level free apart done
      rw [split] at member
      rcases List.mem_append.mp member with inBefore | inRest
      · obtain ⟨storage, -, inPlace⟩ := exists_of_forall₂ early inBefore
        exact inPlace.whole
      · exact .inl (late source inRest)
  · intro path bytes pathLevel others file
    exact hasFile_storeAll pathLevel (fun source member => (free source member).settled level)
      others file done
  · rintro fault rfl
    exact stopped_of_storeAll level free apart done
  · rintro stored rfl
    have inPlace := allInPlace_of_storeAll level free apart done
    exact ⟨inPlace, by rw [count_storages, inPlace.length_eq]⟩

/-- The sources of two classes without slots. -/
def twoSources : List GeneratedSource :=
  ["First", "Second"].map fun name => Container.source { name, namespacePath := "" } .python

/-- A tree in which a directory stands at the place of the second source. -/
def secondBlocked : FileTree where
  entries := [(["out"], .directory), (["out", "First_generated.py"], .file [0x41]),
    (["out", "Second_generated.py"], .directory), (["out", "other.py"], .file [])]

/-- The first source replaces what was there, and the second one is stopped by the directory. -/
theorem leaves_of_storeAll_secondBlocked :
    ∃ fault after,
      (storeAll ⟨.root, ["out"]⟩ twoSources).on secondBlocked = (.error fault, after) ∧
      Leaves ⟨.root, ["out"]⟩ twoSources secondBlocked after (.error fault) := by
  have free : ∀ source ∈ twoSources, IsSlashFreeSource source := by
    intro source member
    obtain ⟨name, listed, rfl⟩ := List.mem_map.mp member
    refine ⟨{ name, namespacePath := "" }, .python, ⟨?_, by simp⟩, rfl⟩
    simp only [List.mem_cons, List.not_mem_nil, or_false] at listed
    rcases listed with rfl | rfl <;> simp
  have distinct : twoSources.Pairwise fun first second =>
      caseFolded first.path ≠ caseFolded second.path := by
    decide +kernel
  have stops : ((storeAll ⟨.root, ["out"]⟩ twoSources).on secondBlocked).1 =
      .error (.system .isADirectory "/out/Second_generated.py") := by
    decide +kernel
  -- The tree that is left need not be spelled out.
  cases ran : (storeAll ⟨.root, ["out"]⟩ twoSources).on secondBlocked with
  | mk outcome after =>
    rw [ran] at stops
    subst stops
    exact ⟨_, after, rfl, leaves_of_storeAll (by simp) free distinct ran⟩

end PermissionNames.Command
