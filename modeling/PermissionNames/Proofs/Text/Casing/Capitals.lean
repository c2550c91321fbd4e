import PermissionNames.Proofs.Text.Folding

/-! Capitals: writing them twice writes them once, and it goes segment by segment. -/

namespace PermissionNames.Casing

/-- No capital form has a capital form of its own. -/
theorem upperMap_settles : upperMap.settles :=
  -- The table is checked against itself in the kernel, part by part.
  CodePointMap.settles_of_apart (by decide +kernel) (by decide +kernel) (by decide +kernel)
    (by decide +kernel)

/-- A text of characters without other capital forms is written in capitals already. -/
theorem upper_eq_self {text : List Char} (capital : ∀ c ∈ text, upperMap.image c = [c]) :
    upper text = text := by
  -- The images are put together one by one.
  induction text with
  | nil => rfl
  | cons c later ih =>
    have others := ih fun d member => capital d (List.mem_cons_of_mem c member)
    rw [upper, List.flatMap_cons, capital c List.mem_cons_self, ← upper, others]
    rfl

/-- Writing capitals in capitals changes nothing. -/
@[simp] theorem upper_upper (text : List Char) : upper (upper text) = upper text := by
  refine upper_eq_self fun d member => ?_
  -- However many characters a capital form has, each of them stands for itself.
  obtain ⟨c, -, image⟩ := List.mem_flatMap.mp member
  exact CodePointMap.image_of_mem_image upperMap_settles image

/-- The period is a capital form of the period alone. -/
theorem eq_period_of_mem_image {c : Char} (member : '.' ∈ upperMap.image c) : c = '.' := by
  -- All listed capital forms stand above the slash, and thereby above the period.
  have above : upperMap.isAbove slashPoint := by decide +kernel
  rcases upperMap.image_cases c with ⟨-, same⟩ | listed
  · rw [same, List.mem_singleton] at member
    exact member.symm
  · have low := CodePointMap.lt_of_isAbove above listed member
    exact absurd low (by decide)

/-- The segments of a text in capitals are its segments in capitals. -/
theorem splitAt_upper (text : List Char) :
    Path.splitAt '.' (upper text) = (Path.splitAt '.' text).map upper := by
  -- Only a period has a period in its capital form, so the text is cut in the same places.
  have kept : upperMap.image '.' = ['.'] := by decide
  exact Path.splitAt_flatMap kept (fun _ => eq_period_of_mem_image) text

end PermissionNames.Casing
