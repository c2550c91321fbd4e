import PermissionNames.Proofs.PermissionName
import PermissionNames.Proofs.Text.Casing.Capitals

/-! Capitals are written last: they change every segment of a finished name for itself, and nothing else. -/

namespace PermissionNames

/-- Stages one after the other rename what the first ones give. -/
theorem Stage.renameAll_append (first second : List Stage) (name : String) :
    renameAll (first ++ second) name = (renameAll first name).bind (renameAll second) := by
  induction first generalizing name with
  | nil => rfl
  | cons stage later ih =>
    rw [List.cons_append, renameAll, renameAll]
    -- A stage that fails stops both sides.
    cases stage.rename name with
    | error cause => rfl
    | ok renamed => exact ih renamed

/-- The option for capitals adds its stage at the end. -/
theorem Stage.select_upperCase {flags : Flags} (asked : flags.upperCase = true) (used : String) :
    select flags used = select { flags with upperCase := false } used ++ [upperCase] := by
  simp [select, asked]

namespace Slot

/-- The slot with its name in capitals. -/
def capitalize (slot : Slot) : Slot :=
  { slot with canonicalName := uppercase slot.canonicalName }

/-- The segments of a name in capitals are its segments in capitals. -/
theorem splitAt_capitalize (slot : Slot) :
    Path.splitAt '.' slot.capitalize.canonicalName.toList =
      (Path.splitAt '.' slot.canonicalName.toList).map Casing.upper := by
  rw [capitalize, toList_uppercase, Casing.splitAt_upper]

/-- Writing a name in capitals twice writes it once. -/
@[simp] theorem capitalize_capitalize (slot : Slot) :
    slot.capitalize.capitalize = slot.capitalize := by
  -- Only the name is changed, and its capital form is its own.
  have same : uppercase (uppercase slot.canonicalName) = uppercase slot.canonicalName := by
    simp [← String.toList_inj]
  rw [capitalize, capitalize, same]

/-- With capitals behind other stages a slot ends as it would without them, in capitals. -/
theorem transform_upperCase (slot : Slot) (stages : List Stage) :
    slot.transform (stages ++ [Stage.upperCase]) = (slot.transform stages).map capitalize := by
  unfold transform
  split
  · rfl
  · rw [Stage.renameAll_append]
    -- The last stage cannot fail, so only a failure of the others matters.
    cases Stage.renameAll stages slot.canonicalName <;> rfl

/-- With capitals behind other stages all slots end as they would without them, in capitals. -/
theorem transformAll_upperCase (slots : List Slot) (stages : List Stage) :
    transformAll (stages ++ [Stage.upperCase]) slots =
      (transformAll stages slots).map (·.map capitalize) := by
  -- The slots are transformed from the front, so the first that fails stops both sides.
  induction slots with
  | nil => rfl
  | cons slot rest ih =>
    rw [transformAll, transformAll, transform_upperCase, ih]
    cases slot.transform stages with
    | error cause => rfl
    | ok done => cases transformAll stages rest <;> rfl

end Slot

namespace Container

/-- The container with the option for capitals off. -/
def withoutCapitals (container : Container) : Container :=
  { container with flags := { container.flags with upperCase := false } }

variable {container : Container} (store : container.kind = .store)
  (asked : container.flags.upperCase = true)

include store asked

/-- A store with capitals ends as it would without them, with every name in capitals. -/
theorem transform_upperCase (used : String) :
    container.transform used = (container.withoutCapitals.transform used).map fun plain =>
      { container with slots := plain.slots.map (·.capitalize) } := by
  -- The options of a store apply as they are declared, with or without capitals.
  have declared : container.effectiveFlags = container.flags := by
    rw [effectiveFlags, store]
  have others : container.withoutCapitals.effectiveFlags =
      { container.flags with upperCase := false } := by
    rw [effectiveFlags, withoutCapitals, store]
  simp only [transform, declared, others, Stage.select_upperCase asked,
    Slot.transformAll_upperCase]
  -- Both sides succeed with the slots that the other stages give, or fail where these do.
  unfold withoutCapitals
  cases Slot.transformAll (Stage.select { container.flags with upperCase := false } used)
    container.slots <;> rfl

/-- The stage for capitals succeeds on every slot, changes its name alone, and that segment by segment; it settles at once.
A store with the option for capitals is transformed exactly if it is without it.
Every slot then ends with the capital form of the name that it gets without the option, and the stage leaves all of them as they are. -/
theorem capitals_by_segments (used : String) :
    (∀ slot : Slot, Stage.upperCase.apply slot = .ok slot.capitalize ∧
      Path.splitAt '.' slot.capitalize.canonicalName.toList =
        (Path.splitAt '.' slot.canonicalName.toList).map Casing.upper ∧
      Stage.upperCase.apply slot.capitalize = .ok slot.capitalize) ∧
    (container.transform used = (container.withoutCapitals.transform used).map fun plain =>
      { container with slots := plain.slots.map (·.capitalize) }) ∧
    ∀ finished, container.transform used = .ok finished →
      ∀ slot ∈ finished.slots, Stage.upperCase.apply slot = .ok slot := by
  have settles : ∀ slot : Slot, Stage.upperCase.apply slot.capitalize = .ok slot.capitalize :=
    fun slot => congrArg Except.ok slot.capitalize_capitalize
  refine ⟨fun slot => ⟨rfl, slot.splitAt_capitalize, settles slot⟩,
    transform_upperCase store asked used, ?_⟩
  -- Every slot of a result is the capital form of another one.
  intro finished done slot member
  rw [transform_upperCase store asked] at done
  cases plain : container.withoutCapitals.transform used with
  | error cause =>
    rw [plain] at done
    cases done
  | ok found =>
    rw [plain] at done
    cases done
    obtain ⟨other, -, rfl⟩ := List.mem_map.mp member
    exact settles other

end Container

/-- A name whose capital form is longer, and a period at its end. -/
theorem Container.capitals_by_segments_expanded :
    let street : Slot := ⟨"Straße", .publicAccess, false, [], "ﬁx.straße.", false, by decide⟩
    let api : Container :=
  -- The container is a store that asks for capitals, and its one name is computed.
      { name := "Api", namespacePath := "app", slots := [street], flags := { upperCase := true } }
    ∃ finished, api.transform "sha256" = .ok finished ∧
      finished.slots.map (·.canonicalName) = ["FIX.STRASSE."] ∧
      ∀ slot ∈ finished.slots, Stage.upperCase.apply slot = .ok slot := by
  intro street api
  have store : api.kind = .store := rfl
  have capitals : api.flags.upperCase = true := rfl
  obtain ⟨-, same, settled⟩ := capitals_by_segments store capitals "sha256"
  have done : ∃ finished, api.transform "sha256" = .ok finished ∧
      finished.slots.map (·.canonicalName) = ["FIX.STRASSE."] := by
    rw [same]
    refine ⟨_, rfl, ?_⟩
    decide
  obtain ⟨finished, transformed, named⟩ := done
  exact ⟨finished, transformed, named, settled finished transformed⟩

end PermissionNames
