import PermissionNames.Proofs.Segment.Scan
import PermissionNames.Proofs.Text.Identifier
import PermissionNames.Text.Casing.Uppercase

/-! Where a character of an identifier stands in the segmented text: it is lowered as it would be without periods, and a basic capital has a period in front. -/

namespace PermissionNames.Segment

open Casing

/-- The period in front of a character stays what it is. -/
@[simp] theorem lowerBetween_opening (previous : Option Char) (c : Char) (before after : List Char) :
    lowerBetween before (opening previous c) after = opening previous c := by
  -- A period has no other small form.
  unfold opening
  split
  · simp [lowerBetween]
  · rfl

/-- What the segmented text has before a character: all that is passed over before it, lowered in front of it, and its period. -/
def front (before : List Char) (c : Char) (after : List Char) : List Char :=
  lowerBetween [] (scan before) (c :: after) ++ opening before.getLast? c

/-- What the segmented text has behind a character. -/
def back (before : List Char) (c : Char) (after : List Char) : List Char :=
  lowerBetween (before ++ [c]) (scanAfter (some c) after) []

/-- A segmented text around one character, which is lowered as in the text itself. -/
theorem segment_around (before : List Char) (c : Char) (after : List Char) :
    segment (before ++ c :: after) =
      front before c after ++ formBetween before c after ++ back before c after := by
  have passed : scan (before ++ c :: after) =
      scan before ++ (opening before.getLast? c ++ c :: scanAfter (some c) after) := by
    rw [scan, scanAfter_append, scanAfter, Option.or_none]
    rfl
  -- The texts around each part are compared without periods, as the pass adds nothing else.
  have laterSame : withoutPeriods (opening before.getLast? c ++ c :: scanAfter (some c) after) =
      withoutPeriods (c :: after) := by
    rw [withoutPeriods_append, withoutPeriods_opening, List.nil_append, withoutPeriods_cons,
      withoutPeriods_scanAfter, ← withoutPeriods_cons]
  have earlierSame : withoutPeriods (scan before ++ opening before.getLast? c) =
      withoutPeriods before := by
    simp [scan]
  have inFront : lowerBetween [] (scan before)
        (opening before.getLast? c ++ c :: scanAfter (some c) after) =
      lowerBetween [] (scan before) (c :: after) :=
    lowerBetween_congr rfl laterSame _
  have here : formBetween (scan before ++ opening before.getLast? c) c (scanAfter (some c) after) =
      formBetween before c after :=
    formBetween_congr earlierSame (withoutPeriods_scanAfter _ _) c
  have behind : lowerBetween (scan before ++ opening before.getLast? c ++ [c])
        (scanAfter (some c) after) [] =
      back before c after := by
    apply lowerBetween_congr _ rfl
    rw [withoutPeriods_append, earlierSame, ← withoutPeriods_append]
  rw [segment, boundaries_eq_scan, passed, lower_eq_lowerBetween, lowerBetween_append,
    List.append_nil, inFront, List.nil_append, lowerBetween_append, lowerBetween_opening,
    lowerBetween, List.append_nil, here, behind, front]
  simp only [List.append_assoc]

/-- Without periods the text before a character is lowered in front of it. -/
theorem withoutPeriods_front (before : List Char) (c : Char) (after : List Char) :
    withoutPeriods (front before c after) =
      lowerBetween [] (withoutPeriods before) (c :: after) := by
  -- The scan adds periods alone, and they are left out again.
  rw [front, withoutPeriods_append, withoutPeriods_opening, List.append_nil,
    withoutPeriods_lowerBetween, scan, withoutPeriods_scanAfter]

/-- Without periods the text behind a character is lowered behind it. -/
theorem withoutPeriods_back (before : List Char) (c : Char) (after : List Char) :
    withoutPeriods (back before c after) =
      lowerBetween (before ++ [c]) (withoutPeriods after) [] := by
  rw [back, withoutPeriods_lowerBetween, withoutPeriods_scanAfter]

/-- Deleting the periods of a segmented text leaves the text without its periods, lowered.
Each character is lowered at its place as it would be there in the text itself, or among the characters of the text that are no periods. -/
theorem withoutPeriods_segmented :
    (∀ text : String,
      withoutPeriods (segmented text).toList = lower (withoutPeriods text.toList)) ∧
    ∀ (before : List Char) (c : Char) (after : List Char), ∃ earlier later,
      (segmented (String.ofList (before ++ c :: after))).toList =
        earlier ++ formBetween before c after ++ later ∧
      formBetween before c after = formBetween (withoutPeriods before) c (withoutPeriods after) ∧
      withoutPeriods earlier =
        lowerBetween [] (withoutPeriods before) (c :: withoutPeriods after) ∧
      withoutPeriods later =
        lowerBetween (withoutPeriods before ++ [c]) (withoutPeriods after) [] := by
  refine ⟨fun text => ?_, fun before c after => ?_⟩
  -- The pass adds nothing but periods, and lowering does not see them.
  · simp [segmented, segment, boundaries_eq_scan, withoutPeriods_lower, scan]
  · refine ⟨front before c after, back before c after, ?_, ?_, ?_, ?_⟩
    · rw [segmented, String.toList_ofList, String.toList_ofList, segment_around]
    · rw [formBetween_withoutPeriods]
    -- The rest of the context may lose its periods as well.
    · rw [withoutPeriods_front]
      apply lowerBetween_congr rfl
      rw [withoutPeriods_cons, withoutPeriods_cons c (withoutPeriods after),
        withoutPeriods_withoutPeriods]
    · rw [withoutPeriods_back]
      exact lowerBetween_congr (by simp) rfl _

/-! ### Uppercase characters -/

/-- In basic Latin only the capitals have another small form. -/
theorem lowerMap_find?_of_not_capital {c : Char} (low : c.toNat < 0x80)
    (other : isCapital c = false) : lowerMap.find? c = none := by
  -- All runs but that of the capitals, and all expansions, start behind basic Latin.
  have runs : ∀ run ∈ lowerMap.runs,
      run.first = 'A'.toNat ∧ run.last = 'Z'.toNat ∨ 0x80 ≤ run.first := by
    decide +kernel
  have expansions : ∀ entry ∈ lowerMap.expansions, 0x80 ≤ entry.1 := by decide
  apply CodePointMap.find?_eq_none
  · intro run listed
    apply Option.eq_none_iff_forall_ne_some.mpr
    intro image found
    obtain ⟨⟨above, below, -⟩, -⟩ := PointRun.find?_eq_some.mp found
    rcases runs run listed with ⟨first, last⟩ | behind
    · rw [first] at above
      rw [last] at below
      have capital : isCapital c = true := by
        simp only [isCapital, Bool.and_eq_true, decide_eq_true_eq]
        exact ⟨above, below⟩
      rw [other] at capital
      cases capital
    · omega
  · intro entry listed same
    have behind := expansions entry listed
    omega

/-- The capitals before which a segment may start are the uppercase characters of basic Latin. -/
theorem isCapital_iff_isUppercase (c : Char) :
    isCapital c = true ↔ isUppercase c = true ∧ c.toNat < 0x80 := by
  constructor
  · intro capital
    -- Capitals end with the Z, far below the bound, and each of them has a small form.
    have low : c.toNat < 0x5B := by
      simp only [isCapital, Bool.and_eq_true, decide_eq_true_eq] at capital
      exact Nat.lt_succ_of_le capital.2
    have tried := Identifier.of_tried (fun c => !isCapital c || isUppercase c) (by decide) low
    rw [capital] at tried
    exact ⟨tried, Nat.lt_trans low (by decide)⟩
  · rintro ⟨uppercase, low⟩
    cases other : isCapital c with
    | true => rfl
    | false =>
      -- The uppercase characters without a small form start behind basic Latin as well.
      have paired : unpairedSet.contains c = false := if_pos (Nat.lt_trans low (by decide))
      rw [isUppercase, lowerMap_find?_of_not_capital low other, paired] at uppercase
      cases uppercase

/-- What has been passed over ends with a period only if the text does. -/
theorem getLast?_lowerBetween_scan {before : List Char} {previous : Char}
    (inside : before.getLast? = some previous) (letter : previous ≠ '.') (after : List Char) :
    (lowerBetween [] (scan before) after).getLast? ≠ some '.' := by
  obtain ⟨earlier, rfl⟩ := List.getLast?_eq_some_iff.mp inside
  -- It ends with the form of the last character, in which there is no period.
  rw [scan_append_singleton, lowerBetween_append, List.getLast?_append]
  simp only [lowerBetween, List.append_nil]
  intro last
  cases ending : (formBetween ([] ++ (scan earlier ++ opening earlier.getLast? previous)) previous
      ([] ++ after)).getLast? with
  | none => exact formBetween_ne_nil _ _ _ (List.getLast?_eq_none_iff.mp ending)
  | some d =>
    rw [ending, Option.some_or, Option.some.injEq] at last
    exact period_not_mem_formBetween letter _ _ (last ▸ List.mem_of_getLast? ending)

/-- Inside a chunk exactly a capital of basic Latin has a period in front. -/
theorem getLast?_front_iff {before : List Char} {previous : Char}
    (inside : before.getLast? = some previous) (letter : previous ≠ '.') (c : Char)
    (after : List Char) : (front before c after).getLast? = some '.' ↔ isCapital c = true := by
  -- A period is put in front of a capital, and the text before it ends in none.
  rw [front, inside]
  cases capital : isCapital c with
  | true => simp [opening, capital, letter]
  | false => simpa [opening, capital] using getLast?_lowerBetween_scan inside letter (c :: after)

/-- A character inside a chunk has a period immediately before its small form exactly if it is an uppercase character of basic Latin. -/
theorem period_before_iff {before : List Char} {previous : Char}
    (inside : before.getLast? = some previous) (letter : previous ≠ '.') (c : Char)
    (after : List Char) :
    ∃ earlier later,
      (segmented (String.ofList (before ++ c :: after))).toList =
        earlier ++ formBetween before c after ++ later ∧
      withoutPeriods earlier = lowerBetween [] (withoutPeriods before) (c :: after) ∧
      (earlier.getLast? = some '.' ↔ isUppercase c = true ∧ c.toNat < 0x80) := by
  -- The segmented text is cut around the character, and its front ends in the period.
  refine ⟨front before c after, back before c after, ?_, withoutPeriods_front before c after, ?_⟩
  · rw [segmented, String.toList_ofList, String.toList_ofList, segment_around]
  · rw [getLast?_front_iff inside letter, isCapital_iff_isUppercase]

/-- A capital of basic Latin behind one that is accented. -/
theorem period_before_iff_behindAccent :
    "ownÉ".toList.getLast? = some 'É' ∧ 'É' ≠ '.' ∧ ∃ earlier later,
      (segmented (String.ofList ("ownÉ".toList ++ 'T' :: "at".toList))).toList =
        earlier ++ formBetween "ownÉ".toList 'T' "at".toList ++ later ∧
      withoutPeriods earlier =
        lowerBetween [] (withoutPeriods "ownÉ".toList) ('T' :: "at".toList) ∧
      (earlier.getLast? = some '.' ↔ isUppercase 'T' = true ∧ 'T'.toNat < 0x80) :=
  -- The character before is an accented capital, which is no period.
  have inside : "ownÉ".toList.getLast? = some 'É' := by decide
  have letter : 'É' ≠ '.' := by decide
  ⟨inside, letter, period_before_iff inside letter 'T' "at".toList⟩

/-- An accented capital inside a chunk gets no period, so not every uppercase character starts a segment. -/
theorem accented_capital_joins :
    segmented "ownÉtat" = "ownétat" ∧
    ¬ ∀ (before : List Char) (previous c : Char) (after : List Char),
      before.getLast? = some previous → previous ≠ '.' → isUppercase c = true → ∃ earlier later,
        (segmented (String.ofList (before ++ c :: after))).toList =
          earlier ++ '.' :: formBetween before c after ++ later := by
  have joined : segmented "ownÉtat" = "ownétat" := by decide
  refine ⟨joined, fun opens => ?_⟩
  obtain ⟨earlier, later, written⟩ :=
    opens "own".toList 'n' 'É' "tat".toList (by decide) (by decide) (by decide)
  -- There is no period in all of the segmented text.
  have together : String.ofList ("own".toList ++ 'É' :: "tat".toList) = "ownÉtat" := by decide
  rw [together, joined] at written
  have period : '.' ∈ "ownétat".toList := by
    rw [written]
    simp
  exact absurd period (by decide)

end PermissionNames.Segment
