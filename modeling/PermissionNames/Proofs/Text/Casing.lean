import PermissionNames.Proofs.Text.CodePointMap
import PermissionNames.Text.Casing

/-! Lowering a text twice lowers it once, and without a capital sigma it goes character by character. -/

namespace PermissionNames.Casing

/-- A character that lowering leaves as it is, wherever it stands. -/
def IsSmall (c : Char) : Prop :=
  -- The capital sigma is lowered by its context and not by the mapping alone.
  c ≠ 'Σ' ∧ lowerMap.image c = [c]

/-- No small form has a small form of its own. -/
theorem lowerMap_settles : lowerMap.settles :=
  -- The table is checked against itself in the kernel, part by part.
  CodePointMap.settles_of_apart (by decide +kernel) (by decide +kernel) (by decide +kernel)
    (by decide)

/-- A character that the mapping does not list is small. -/
theorem isSmall_of_unlisted {c : Char} (unlisted : lowerMap.find? c = none) : IsSmall c := by
  -- The capital sigma is listed, so it cannot be this character.
  refine ⟨?_, by simp [CodePointMap.image, unlisted]⟩
  rintro rfl
  exact absurd unlisted (by decide)

/-- Every character of a small form is small. -/
theorem isSmall_of_mem_image {c d : Char} (member : d ∈ lowerMap.image c) : IsSmall d := by
  -- Either the character stands for itself, or its image is listed and settles.
  rcases lowerMap.image_cases c with ⟨unlisted, same⟩ | listed
  · rw [same, List.mem_singleton] at member
    exact member ▸ isSmall_of_unlisted unlisted
  · exact isSmall_of_unlisted (CodePointMap.find?_none_of_settles lowerMap_settles listed member)

/-- Both small forms of the sigma are small. -/
theorem isSmall_sigma (final : Bool) : IsSmall (if final then 'ς' else 'σ') := by
  -- Neither small sigma is listed again.
  cases final
  · exact isSmall_of_unlisted (by decide)
  · exact isSmall_of_unlisted (by decide)

/-- The period is small. -/
theorem isSmall_period : IsSmall '.' :=
  isSmall_of_unlisted (by decide)

/-- A lowered text consists of small characters. -/
theorem isSmall_of_mem_lowerAfter {afterCased : Bool} {text : List Char} {c : Char}
    (member : c ∈ lowerAfter afterCased text) : IsSmall c := by
  -- The induction follows the text; each character leaves a sigma form or a listed image behind.
  induction text generalizing afterCased with
  | nil => simp [lowerAfter] at member
  | cons first rest ih =>
    simp only [lowerAfter, List.mem_append] at member
    -- The character comes from the first one, or from what follows in a new context.
    rcases member with image | later
    · split at image
      · rw [List.mem_singleton.mp image]
        exact isSmall_sigma _
      · exact isSmall_of_mem_image image
    · exact ih later

/-- A lowered text consists of small characters. -/
theorem isSmall_of_mem_lower {text : List Char} {c : Char} (member : c ∈ lower text) : IsSmall c :=
  isSmall_of_mem_lowerAfter member

/-- Without a capital sigma the context does not matter. -/
theorem lowerAfter_eq_flatMap {text : List Char} (plain : 'Σ' ∉ text) (afterCased : Bool) :
    lowerAfter afterCased text = text.flatMap lowerMap.image := by
  -- The context is only looked at for a capital sigma, so it may be any.
  induction text generalizing afterCased with
  | nil => rfl
  | cons first rest ih =>
    simp only [List.mem_cons, not_or] at plain
    simp [lowerAfter, Ne.symm plain.1, ih plain.2]

/-- Without a capital sigma a text is lowered character by character. -/
theorem lower_eq_flatMap {text : List Char} (plain : 'Σ' ∉ text) :
    lower text = text.flatMap lowerMap.image :=
  lowerAfter_eq_flatMap plain false

/-- A text of small characters is lowered already. -/
theorem lower_eq_self {text : List Char} (small : ∀ c ∈ text, IsSmall c) : lower text = text := by
  -- A small text holds no capital sigma, and each of its characters is its own image.
  have plain : 'Σ' ∉ text := fun member => (small _ member).1 rfl
  rw [lower_eq_flatMap plain]
  clear plain
  induction text with
  | nil => rfl
  | cons first rest ih =>
    rw [List.flatMap_cons, (small first (by simp)).2, ih fun c member => small c (by simp [member])]
    rfl

/-- Lowering a lowered text changes nothing. -/
@[simp] theorem lower_lower (text : List Char) : lower (lower text) = lower text :=
  lower_eq_self fun _ member => isSmall_of_mem_lower member

/-- No small form is empty. -/
theorem lowerMap_image_ne_nil (c : Char) : lowerMap.image c ≠ [] := by
  -- Runs map to single characters, and no listed expansion is empty.
  have full : ∀ entry ∈ lowerMap.expansions, entry.2 ≠ [] := by decide
  exact CodePointMap.image_ne_nil full c

/-- Lowering leaves something of every character. -/
theorem lower_ne_nil {text : List Char} (nonempty : text ≠ []) : lower text ≠ [] := by
  -- The first character becomes a sigma or its image, and neither is empty.
  cases text with
  | nil => exact absurd rfl nonempty
  | cons first rest =>
    simp only [lower, lowerAfter]
    split
    · simp
    · simp [lowerMap_image_ne_nil first]

end PermissionNames.Casing
