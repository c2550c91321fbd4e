import PermissionNames.Proofs.Text.Folding

/-! Lowering place by place: what a character becomes between two texts, whatever periods stand in them. -/

namespace PermissionNames

/-- The text without its periods. -/
def withoutPeriods (text : List Char) : List Char :=
  text.filter (· ≠ '.')

/-- A text of no characters has no periods to lose. -/
@[simp] theorem withoutPeriods_nil : withoutPeriods [] = [] := rfl

/-- A period in front is left out. -/
@[simp] theorem withoutPeriods_period (rest : List Char) :
    withoutPeriods ('.' :: rest) = withoutPeriods rest := rfl

/-- Any other character in front is kept. -/
theorem withoutPeriods_cons_of_ne {c : Char} (other : c ≠ '.') (rest : List Char) :
    withoutPeriods (c :: rest) = c :: withoutPeriods rest := by
  simp [withoutPeriods, other]

/-- Texts lose their periods one by one. -/
@[simp] theorem withoutPeriods_append (first second : List Char) :
    withoutPeriods (first ++ second) = withoutPeriods first ++ withoutPeriods second :=
  List.filter_append first second

/-- The first character is kept or left out on its own. -/
theorem withoutPeriods_cons (c : Char) (rest : List Char) :
    withoutPeriods (c :: rest) = withoutPeriods [c] ++ withoutPeriods rest :=
  withoutPeriods_append [c] rest

/-- Without periods there are none to lose. -/
@[simp] theorem withoutPeriods_withoutPeriods (text : List Char) :
    withoutPeriods (withoutPeriods text) = withoutPeriods text := by
  simp [withoutPeriods]

/-- A text without periods stays as it is. -/
theorem withoutPeriods_eq_self {text : List Char} (absent : '.' ∉ text) :
    withoutPeriods text = text := by
  -- Every character of the text passes the filter.
  apply List.filter_eq_self.mpr
  intro c member
  have other : c ≠ '.' := fun period => absent (period ▸ member)
  simpa using other

namespace Casing

/-- Whether the last character that is not ignorable is cased. -/
def endsCased (text : List Char) : Bool :=
  startsCased text.reverse

/-- The small form of a character that stands between two texts. -/
def formBetween (before : List Char) (c : Char) (after : List Char) : List Char :=
  if c = 'Σ' then [if endsCased before && !startsCased after then 'ς' else 'σ']
  else lowerMap.image c

/-- The small form of a text that stands between two others. -/
def lowerBetween (before : List Char) : List Char → List Char → List Char
  | [], _ => []
  | c :: rest, after => formBetween before c (rest ++ after) ++ lowerBetween (before ++ [c]) rest after

/-- The end of a text is cased if its last character is, unless that is ignorable. -/
theorem endsCased_append_singleton (text : List Char) (c : Char) :
    endsCased (text ++ [c]) = if isIgnorable c then endsCased text else isCased c := by
  simp [endsCased, startsCased]

/-- Behind a text its end is all that lowering looks back to. -/
theorem lowerAfter_endsCased (before text : List Char) :
    lowerAfter (endsCased before) text = lowerBetween before text [] := by
  -- The carried flag is the end of what has been passed, which grows by one character a step.
  induction text generalizing before with
  | nil => rfl
  | cons c rest ih =>
    rw [lowerAfter, ← endsCased_append_singleton, ih, lowerBetween, List.append_nil]
    rfl

/-- A text is lowered place by place. -/
theorem lower_eq_lowerBetween (text : List Char) : lower text = lowerBetween [] text [] :=
  lowerAfter_endsCased [] text

/-- The first of two texts is lowered in front of the second, and the second behind the first. -/
theorem lowerBetween_append (before first second after : List Char) :
    lowerBetween before (first ++ second) after =
      lowerBetween before first (second ++ after) ++
        lowerBetween (before ++ first) second after := by
  -- The characters of the first text go over, one by one, to what stands before.
  induction first generalizing before with
  | nil => simp [lowerBetween]
  | cons c rest ih => simp [lowerBetween, ih, List.append_assoc]

/-! ### Periods in the context -/

/-- A period is passed over when the neighbours of a sigma are looked up. -/
theorem isIgnorable_period : isIgnorable '.' = true := by decide

/-- The start of a text is the same without periods. -/
@[simp] theorem startsCased_withoutPeriods (text : List Char) :
    startsCased (withoutPeriods text) = startsCased text := by
  induction text with
  | nil => rfl
  | cons c rest ih =>
    by_cases period : c = '.'
    -- A period is passed over, so the rest decides with or without it.
    · subst period
      rw [withoutPeriods_period, ih, startsCased, if_pos isIgnorable_period]
    -- Any other character decides itself, or leaves it to the rest on both sides.
    · rw [withoutPeriods_cons_of_ne period, startsCased, startsCased, ih]

/-- The end of a text is the same without periods. -/
@[simp] theorem endsCased_withoutPeriods (text : List Char) :
    endsCased (withoutPeriods text) = endsCased text := by
  -- The end of a text is the start of the reversed one, and deleting does not mind the direction.
  have turned : (withoutPeriods text).reverse = withoutPeriods text.reverse :=
    List.filter_reverse.symm
  rw [endsCased, turned, startsCased_withoutPeriods, endsCased]

/-- The small form of a character is the same without the periods around it. -/
@[simp] theorem formBetween_withoutPeriods (before : List Char) (c : Char) (after : List Char) :
    formBetween (withoutPeriods before) c (withoutPeriods after) = formBetween before c after := by
  -- Only a capital sigma looks around, and it sees the same end and the same start.
  simp [formBetween]

/-- Characters between texts that differ in periods alone have the same small form. -/
theorem formBetween_congr {before before' after after' : List Char}
    (front : withoutPeriods before = withoutPeriods before')
    (back : withoutPeriods after = withoutPeriods after') (c : Char) :
    formBetween before c after = formBetween before' c after' := by
  -- Both are the form that the character has with no periods around it.
  rw [← formBetween_withoutPeriods before, front, back, formBetween_withoutPeriods]

/-- Texts between others that differ in periods alone have the same small form. -/
theorem lowerBetween_congr {before before' after after' : List Char}
    (front : withoutPeriods before = withoutPeriods before')
    (back : withoutPeriods after = withoutPeriods after') (text : List Char) :
    lowerBetween before text after = lowerBetween before' text after' := by
  induction text generalizing before before' with
  | nil => rfl
  | cons c rest ih =>
    -- The character joins what stands before, and the rest joins what comes after.
    have here : formBetween before c (rest ++ after) = formBetween before' c (rest ++ after') :=
      formBetween_congr front (by simp [back]) c
    have passed : withoutPeriods (before ++ [c]) = withoutPeriods (before' ++ [c]) := by
      simp [front]
    rw [lowerBetween, lowerBetween, here, ih passed]

/-! ### Periods in the text -/

/-- A period stays a period. -/
@[simp] theorem formBetween_period (before after : List Char) :
    formBetween before '.' after = ['.'] := by
  simp [formBetween, isSmall_period.2]

/-- No other character has a period in its small form. -/
theorem period_not_mem_formBetween {c : Char} (other : c ≠ '.') (before after : List Char) :
    '.' ∉ formBetween before c after := by
  intro member
  unfold formBetween at member
  split at member
  -- Neither of the small sigmas is a period.
  · split at member <;> simp at member
  · rcases lowerMap_image_cases c with same | above
    · rw [same, List.mem_singleton] at member
      exact other member.symm
    · exact absurd (above '.' member) (by decide)

/-- Lowering leaves something of every character, wherever it stands. -/
theorem formBetween_ne_nil (before : List Char) (c : Char) (after : List Char) :
    formBetween before c after ≠ [] := by
  -- A capital sigma leaves a small one, and no image of the mapping is empty.
  unfold formBetween
  split
  · simp
  · exact lowerMap_image_ne_nil c

/-- Lowering and leaving out the periods can change places. -/
theorem withoutPeriods_lowerBetween (before text after : List Char) :
    withoutPeriods (lowerBetween before text after) =
      lowerBetween before (withoutPeriods text) after := by
  -- The text before stays open in the induction, as it grows by each character that is lowered.
  induction text generalizing before with
  | nil => rfl
  | cons c rest ih =>
    by_cases period : c = '.'
    -- What follows a period is lowered as if the period were not there.
    · subst period
      have gone : lowerBetween (before ++ ['.']) (withoutPeriods rest) after =
          lowerBetween before (withoutPeriods rest) after :=
        lowerBetween_congr (by simp) rfl _
      simp [lowerBetween, ih, gone]
    -- Any other form holds no period, and it is the same in front of fewer of them.
    · have kept := withoutPeriods_eq_self (period_not_mem_formBetween period before (rest ++ after))
      have here : formBetween before c (rest ++ after) =
          formBetween before c (withoutPeriods rest ++ after) :=
        formBetween_congr rfl (by simp) c
      rw [withoutPeriods_cons_of_ne period, lowerBetween, lowerBetween, withoutPeriods_append, kept,
        here, ih]

/-- Lowering a text without its periods leaves the periods out of the lowered text. -/
theorem withoutPeriods_lower (text : List Char) :
    withoutPeriods (lower text) = lower (withoutPeriods text) := by
  rw [lower_eq_lowerBetween, lower_eq_lowerBetween, withoutPeriods_lowerBetween]

/-- Lowering makes no periods and removes none. -/
@[simp] theorem count_period_lower (text : List Char) : (lower text).count '.' = text.count '.' := by
  -- What stands before a character changes its form, but not whether that is a period.
  have general : ∀ before, (lowerBetween before text []).count '.' = text.count '.' := by
    induction text with
    | nil => intro _; rfl
    | cons c rest ih =>
      intro before
      rw [lowerBetween, List.count_append, ih, List.count_cons, Nat.add_comm]
      -- The form of this character holds one period if it is one, and none otherwise.
      by_cases period : c = '.'
      · simp [period]
      · have absent := List.count_eq_zero.mpr (period_not_mem_formBetween period before (rest ++ []))
        simp only [absent, period, beq_iff_eq, if_false]
  rw [lower_eq_lowerBetween, general]

/-- Between periods the same pieces are empty in a lowered text. -/
theorem map_isEmpty_splitAt_lower (text : List Char) :
    (Path.splitAt '.' (lower text)).map List.isEmpty =
      (Path.splitAt '.' text).map List.isEmpty := by
  have general : ∀ before, (Path.splitAt '.' (lowerBetween before text [])).map List.isEmpty =
      (Path.splitAt '.' text).map List.isEmpty := by
    induction text with
    | nil => intro _; rfl
    | cons c rest ih =>
      intro before
      have later := ih (before ++ [c])
      rw [lowerBetween]
      by_cases period : c = '.'
      -- A period stays, and ends an empty piece on both sides.
      · simpa [period, Path.splitAt] using later
      -- The form stands at the start of the first piece, as the character does.
      · obtain ⟨first, pieces, cut, joined⟩ := Path.splitAt_cons_of_ne period rest
        obtain ⟨lowered, others, loweredCut, loweredJoined⟩ := Path.splitAt_append_of_not_mem
          (period_not_mem_formBetween period before (rest ++ []))
          (lowerBetween (before ++ [c]) rest [])
        rw [cut, loweredCut, List.map_cons, List.map_cons, List.cons.injEq] at later
        rw [joined, loweredJoined, List.map_cons, List.map_cons, later.2]
        simp [formBetween_ne_nil]
  rw [lower_eq_lowerBetween, general]

end Casing

end PermissionNames
