import PermissionNames.Proofs.Text.Compatibility

/-! Valid identifiers consist of characters that words consist of. -/

namespace PermissionNames.Identifier

open Compatibility (continuesWord_of_le)

/-- What holds of the characters below a bound is found out by trying them. -/
theorem of_tried (holds : Char → Bool) {bound : Nat}
    (tried : ((List.range bound).map Char.ofNat).all holds) {c : Char} (small : c.toNat < bound) :
    holds c := by
  -- The character is one of those that were tried.
  refine List.all_eq_true.mp tried c (List.mem_map.mpr ⟨c.toNat, List.mem_range.mpr small, ?_⟩)
  exact Char.ofNat_toNat c

/-- Letters and numerals stand in basic Latin. -/
theorem toNat_lt_of_isAlphanum {c : Char} (plain : c.isAlphanum) : c.toNat < 0x80 := by
  have runs : ((decide ('A'.val ≤ c.val ∧ c.val ≤ 'Z'.val) ||
      decide ('a'.val ≤ c.val) && decide (c.val ≤ 'z'.val)) ||
      decide ('0'.val ≤ c.val) && decide (c.val ≤ '9'.val)) = true := plain
  simp only [Bool.or_eq_true, Bool.and_eq_true, decide_eq_true_eq, UInt32.le_iff_toNat_le] at runs
  -- The last characters of the three runs are the bounds.
  have capitals : 'Z'.val.toNat = 90 := rfl
  have letters : 'z'.val.toNat = 122 := rfl
  have numerals : '9'.val.toNat = 57 := rfl
  have point : c.toNat = c.val.toNat := rfl
  omega

/-- What may start an identifier starts words. -/
theorem startsWord_of_contains {c : Char} (starts : startSet.contains c) : startsWord c := by
  by_cases small : c.toNat < 0x80
  · -- Below 0x80 the table lists letters and the underscore.
    have tried := of_tried (fun c => !startSet.contains c || startsWord c) (by decide) small
    simpa [starts] using tried
  · simp [startsWord, Nat.le_of_not_lt small]

/-- What may continue an identifier continues words. -/
theorem continuesWord_of_contains {c : Char} (continues : continueSet.contains c) :
    continuesWord c := by
  -- The characters of basic Latin are tried, and all others continue words.
  by_cases small : c.toNat < 0x80
  · have tried := of_tried (fun c => !continueSet.contains c || continuesWord c) (by decide)
      small
    simpa [continues] using tried
  · exact continuesWord_of_le (Nat.le_of_not_lt small)

/-- A valid identifier starts and continues like a word. -/
theorem exists_of_isValid {text : List Char} (valid : isValid text) :
    ∃ first later, text = first :: later ∧ startsWord first ∧ text.all continuesWord := by
  -- The first character starts the identifier and continues it, too.
  cases text with
  | nil => cases valid
  | cons first later =>
    obtain ⟨starts, continues⟩ := Bool.and_eq_true_iff.mp valid
    have begins := startsWord_of_contains starts
    refine ⟨first, later, rfl, begins, ?_⟩
    rw [List.all_cons, continuesWord, begins, Bool.true_or, Bool.true_and, List.all_eq_true]
    exact fun c member => continuesWord_of_contains (List.all_eq_true.mp continues c member)

end PermissionNames.Identifier
