import PermissionNames.Proofs.PermissionName

/-! The segmented names are the names that segmenting leaves as they are, and also those that lowering does. -/

namespace PermissionNames

/-- Whether a name is the segmented form of some text. -/
def IsSegmented (name : String) : Prop :=
  ∃ text, name = segmented text

/-- A name is segmented if and only if segmenting leaves it as it is. -/
theorem segmented_eq_self_iff {name : String} : segmented name = name ↔ IsSegmented name := by
  -- A name that is left as it is comes from itself.
  constructor
  · exact fun same => ⟨name, same.symm⟩
  · rintro ⟨text, rfl⟩
    exact segmented_segmented text

/-- A name is segmented if and only if lowering leaves it as it is. -/
theorem lowercase_eq_self_iff {name : String} : lowercase name = name ↔ IsSegmented name := by
  constructor
  -- A lowered name has no capital, so segmenting has nothing to separate.
  · intro lowered
    have characters : Casing.lower name.toList = name.toList := by
      rw [← toList_lowercase, lowered]
    refine ⟨name, ?_⟩
    rw [segmented, Segment.segment_eq_self characters, String.ofList_toList]
  · rintro ⟨text, rfl⟩
    exact lowercase_segmented text

/-- A stage leaves a slot as it is if and only if it leaves its name. -/
theorem Stage.apply_eq_self_iff {stage : Stage} {slot : Slot} :
    stage.apply slot = .ok slot ↔ stage.rename slot.canonicalName = .ok slot.canonicalName := by
  -- The name is all that a stage changes in a slot.
  unfold apply
  cases stage.rename slot.canonicalName with
  | error cause => simp [Except.map]
  | ok name =>
    constructor
    · intro same
      exact congrArg Except.ok (congrArg Slot.canonicalName (Except.ok.inj same))
    · intro same
      rw [Except.ok.inj same]
      rfl

/-- Segmenting settles every text: what it gives is its own segmented and its own small form.
It holds no capital of basic Latin, and is empty only for the empty text.
The stages that segment or lower a slot's name leave the slot as it is exactly if the name is segmented. -/
theorem segmented_settles (text : String) :
    segmented (segmented text) = segmented text ∧
    (segmented text).toList.any Segment.isCapital = false ∧
    lowercase (segmented text) = segmented text ∧
    (segmented text = "" ↔ text = "") ∧
    ∀ slot : Slot,
      (Stage.parsePrefix.apply slot = .ok slot ↔ IsSegmented slot.canonicalName) ∧
      (Stage.lowerCase.apply slot = .ok slot ↔ IsSegmented slot.canonicalName) := by
  refine ⟨segmented_segmented text, ?_, lowercase_segmented text, ?_, fun slot => ⟨?_, ?_⟩⟩
  · rw [List.any_eq_false, toList_segmented]
    exact fun c member => by simp [Segment.isCapital_of_mem_lower member]
  · constructor
    · intro empty
      by_cases blank : text = ""
      · exact blank
      · exact absurd empty (segmented_ne_empty blank)
    · rintro rfl
      rfl
  -- A stage succeeds with the name it is given exactly if that name is its own form.
  · rw [Stage.apply_eq_self_iff, Stage.rename, Except.ok.injEq, segmented_eq_self_iff]
  · rw [Stage.apply_eq_self_iff, Stage.rename, Except.ok.injEq, lowercase_eq_self_iff]

end PermissionNames
