import PermissionNames.Proofs.Command.Targets

/-! Targets stay strictly below the output directory, and neither a target nor its temporary file stands where another target needs a directory. -/

namespace PermissionNames

namespace Path

/-- Climbing goes on from where it has come to. -/
theorem climb_append (done parts others : List String) :
    climb done (parts ++ others) = climb (climb done parts).reverse others := by
  -- What is stacked up is what the first components leave, the last one on top.
  induction parts generalizing done with
  | nil => simp [climb]
  | cons part later ih =>
    rw [List.cons_append, climb, climb]
    split
    · exact ih done.tail
    · exact ih (part :: done)

/-- Components that do not climb are kept where a path resolves to. -/
theorem parts_resolve_append {parts : List String} (level : ".." ∉ parts) (base directory : Path) :
    (Path.resolve { base with parts := base.parts ++ parts } directory).parts =
      (base.resolve directory).parts ++ parts := by
  -- Climbing goes through the base first, and then adds what does not climb.
  have joined : (directory.join { base with parts := base.parts ++ parts }).parts =
      (directory.join base).parts ++ parts := by
    unfold join
    split <;> simp
  rw [resolve, joined, climb_append, climb_eq_append level, List.reverse_reverse, resolve]

/-- A written path that leads strictly below every directory it is used in, by names alone. -/
structure LeadsBelow (text : String) : Prop where
  full : text ≠ ""
  relative : (ofString text).anchor = .relative
  /-- What stands between its slashes neither is empty nor stays or climbs. -/
  named : ∀ piece ∈ splitAt '/' text.toList, IsName (.ofList piece)
  /-- It adds components to any base, also where both are resolved. -/
  below : ∀ base directory : Path, ∃ parts, parts ≠ [] ∧
    base.join (ofString text) = { base with parts := base.parts ++ parts } ∧
    ((base.join (ofString text)).resolve directory).parts =
      (base.resolve directory).parts ++ parts

/-- A relative path of names leads below every directory. -/
theorem leadsBelow_toString {parts : List String} (full : parts ≠ [])
    (named : ∀ part ∈ parts, IsName part) : LeadsBelow (toString ⟨.relative, parts⟩) := by
  have read := ofString_toString full named
  have written : toString ⟨.relative, parts⟩ = "/".intercalate parts := by
    simp [toString, full, Anchor.text]
  have level : ".." ∉ parts := fun member => (named ".." member).level rfl
  refine ⟨?_, by rw [read], ?_, fun base directory => ?_⟩
  -- The empty text would be read as a path without components.
  · intro empty
    rw [empty] at read
    exact full (congrArg Path.parts read).symm
  · have clean : ∀ piece ∈ parts.map String.toList, '/' ∉ piece := by
      intro piece member
      obtain ⟨part, listed, rfl⟩ := List.mem_map.mp member
      exact (named part listed).single
    have slash : "/".toList = ['/'] := by simp
    rw [written, String.toList_intercalate, slash,
      splitAt_intercalate_eq_self (by simpa using full) clean]
    intro piece member
    obtain ⟨part, listed, rfl⟩ := List.mem_map.mp member
    rw [String.ofList_toList]
    exact named part listed
  · have joined : base.join (ofString (toString ⟨.relative, parts⟩)) =
        { base with parts := base.parts ++ parts } := by
      rw [read, join, if_pos rfl]
    refine ⟨parts, full, joined, ?_⟩
    rw [joined, parts_resolve_append level]

end Path

namespace Command

open Container

variable {output : Path} {dialect other : Dialect} {first second : Container}

/-- The target of one container is no directory above the target of another one. -/
theorem not_above_targetOf (free : first.IsSlashFree) (alsoFree : second.IsSlashFree)
    (above : (targetOf output (first.source dialect)).parts <+:
      (targetOf output (second.source other)).parts) :
    (targetOf output (first.source dialect)).parts =
      (targetOf output (second.source other)).parts := by
  obtain ⟨directories, file, place, -, parts⟩ := parts_targetOf free output dialect
  obtain ⟨others, last, otherPlace, -, otherParts⟩ := parts_targetOf alsoFree output other
  -- Its name has a period, which no directory below the output directory has.
  rw [parts, otherParts, List.prefix_append_right_inj] at above
  rw [parts, otherParts, otherPlace.eq_of_prefix place.period above]

/-- The temporary file of one target is neither a target nor a directory above one. -/
theorem not_above_temporary (free : first.IsSlashFree) (alsoFree : second.IsSlashFree) :
    ¬ (temporary (targetOf output (first.source dialect))).parts <+:
      (targetOf output (second.source other)).parts := by
  obtain ⟨directories, file, place, -, parts⟩ := parts_targetOf free output dialect
  obtain ⟨others, last, otherPlace, -, otherParts⟩ := parts_targetOf alsoFree output other
  have split : (targetOf output (first.source dialect)).parts =
      (output.parts ++ directories) ++ [file] := by
    rw [parts, List.append_assoc]
  rw [parts_temporary split, otherParts, List.append_assoc, List.prefix_append_right_inj]
  intro above
  -- Its name has a period as well, so it could only be the target, which ends in another way.
  have same := otherPlace.eq_of_prefix (by simp [place.period]) above
  exact otherPlace.notTemporary file (by simpa using (List.append_inj' same rfl).2.symm)

/-- Containers without slashes are written strictly below the output directory, whatever else stands in their names.
No target is a directory above another one, and no temporary file is a target or a directory above one. -/
theorem targets_stay_below (output : Path) (dialect other : Dialect) :
    (∀ container : Container, container.IsSlashFree →
      Path.LeadsBelow (container.outputPath dialect)) ∧
    ∀ first second : Container, first.IsSlashFree → second.IsSlashFree →
      ((targetOf output (first.source dialect)).parts <+:
          (targetOf output (second.source other)).parts →
        (targetOf output (first.source dialect)).parts =
          (targetOf output (second.source other)).parts) ∧
      ¬ (temporary (targetOf output (first.source dialect))).parts <+:
        (targetOf output (second.source other)).parts := by
  -- The path is that of a directory for each part and the file in it.
  refine ⟨fun container free => ?_, fun first second free alsoFree =>
    ⟨not_above_targetOf free alsoFree, not_above_temporary free alsoFree⟩⟩
  obtain ⟨directories, file, place, written⟩ := free.outputPath_eq dialect
  rw [written]
  exact Path.leadsBelow_toString (by simp) place.named

/-- Names made of periods lead nowhere else, and a class named like a temporary file is not taken for one. -/
theorem targets_stay_below_periods :
    let output : Path := ⟨.relative, ["..", "out"]⟩
    let climbing : Container := { name := "..", namespacePath := "..a_generated.py..tmp" }
    let beside : Container := { name := "..", namespacePath := "" }
    (climbing.IsSlashFree ∧ beside.IsSlashFree) ∧
      Path.LeadsBelow (climbing.outputPath .python) ∧
      climbing.outputPath .python = "a_generated/py/tmp/.._generated.py" ∧
      ¬ (temporary (targetOf output (beside.source .python))).parts <+:
        (targetOf output (climbing.source .python)).parts := by
  -- Neither name holds a slash.
  intro output climbing beside
  have free : climbing.IsSlashFree := ⟨by decide, by decide⟩
  have alsoFree : beside.IsSlashFree := ⟨by decide, by decide⟩
  obtain ⟨below, apart⟩ := targets_stay_below output .python .python
  exact ⟨⟨free, alsoFree⟩, below climbing free, by decide,
    (apart beside climbing alsoFree free).2⟩

end Command

end PermissionNames
