import PermissionNames.Proofs.Text.Identifier
import PermissionNames.Text.Casing
import PermissionNames.Token

/-! Tokens hold the first letters and numerals of a base64 text, with zeros behind them. -/

namespace PermissionNames

namespace Casing

/-- The capital form of a letter or a numeral is one as well, and a single one. -/
theorem upperMap_image_of_isAlphanum {c : Char} (plain : c.isAlphanum) :
    ∃ capital, upperMap.image c = [capital] ∧ capital.isAlphanum := by
  -- There are few enough characters in basic Latin to try all of them.
  have tried := Identifier.of_tried
    (fun c => !c.isAlphanum || upperMap.image c == [c.toUpper] && c.toUpper.isAlphanum)
    (by decide) (Identifier.toNat_lt_of_isAlphanum plain)
  simp only [plain, Bool.not_true, Bool.false_or, Bool.and_eq_true, beq_iff_eq] at tried
  exact ⟨c.toUpper, tried.1, tried.2⟩

/-- Letters and numerals are written in capitals one by one, and stay letters and numerals. -/
theorem upper_of_isAlphanum {text : List Char} (plain : ∀ c ∈ text, c.isAlphanum) :
    (upper text).length = text.length ∧ ∀ c ∈ upper text, c.isAlphanum := by
  -- The capital of a letter or numeral is one character, so the lengths agree step by step.
  induction text with
  | nil => simp [upper]
  | cons c later ih =>
    obtain ⟨capital, image, kept⟩ := upperMap_image_of_isAlphanum (plain c List.mem_cons_self)
    obtain ⟨length, others⟩ := ih fun d member => plain d (List.mem_cons_of_mem c member)
    have written : upper (c :: later) = capital :: upper later := by
      rw [upper, List.flatMap_cons, image, ← upper, List.singleton_append]
    rw [written, List.length_cons, List.length_cons, length, List.forall_mem_cons]
    exact ⟨rfl, kept, others⟩

end Casing

namespace Token

/-- A digit of base64 is a letter, a numeral, or one of the three marks that are left out. -/
theorem digit_cases (n : Nat) : (digit n).isAlphanum ∨ digit n ∈ ['+', '/', '='] := by
  -- A number that is too large for a digit is written like the end of a text.
  by_cases small : n < 64
  · have tried : ∀ n < 64, (digit n).isAlphanum ∨ digit n ∈ ['+', '/', '='] := by
      decide +kernel
    exact tried n small
  · have none : alphabet.length ≤ n := by
      have length : alphabet.length = 64 := rfl
      omega
    right
    simp [digit, List.getD_eq_getElem?_getD, List.getElem?_eq_none none]

/-- A base64 text holds letters, numerals and three marks. -/
theorem base64_cases {bytes : List UInt8} {c : Char} (member : c ∈ base64 bytes) :
    c.isAlphanum ∨ c ∈ ['+', '/', '='] := by
  -- Each block is made of digits, and the last one is padded.
  fun_induction base64 bytes with
  | case1 => simp at member
  | case2 a n =>
    simp only [List.mem_cons, List.not_mem_nil, or_false] at member
    rcases member with rfl | rfl | rfl | rfl
    · exact digit_cases _
    · exact digit_cases _
    · right
      simp
    · right
      simp
  | case3 a b n =>
    simp only [List.mem_cons, List.not_mem_nil, or_false] at member
    rcases member with rfl | rfl | rfl | rfl
    · exact digit_cases _
    · exact digit_cases _
    · exact digit_cases _
    · right
      simp
  | case4 a b c rest n ih =>
    simp only [List.mem_cons] at member
    rcases member with rfl | rfl | rfl | rfl | later
    · exact digit_cases _
    · exact digit_cases _
    · exact digit_cases _
    · exact digit_cases _
    · exact ih later

/-- What is left of a base64 text are its letters and numerals. -/
theorem strip_base64 (bytes : List UInt8) :
    strip (base64 bytes) = (base64 bytes).filter Char.isAlphanum := by
  refine List.filter_congr fun c member => ?_
  -- No mark is a letter or a numeral, so the two tests agree on everything that is there.
  rcases base64_cases member with kept | mark
  · have notMark : c ∉ ['+', '/', '='] := by
      intro listed
      simp only [List.mem_cons, List.not_mem_nil, or_false] at listed
      rcases listed with rfl | rfl | rfl <;> cases kept
    simp [kept, List.contains_eq_mem, notMark]
  · simp only [List.mem_cons, List.not_mem_nil, or_false] at mark
    rcases mark with rfl | rfl | rfl <;> rfl

/-- Long and short texts alike become their first characters with zeros behind them. -/
theorem fit_eq (text : List Char) : fit text = (text.take width).rightpad width '0' := by
  unfold fit
  split
  · -- A long text has enough characters, so no zero is added.
    rename_i long
    have full : (text.take width).length = width := by
      rw [List.length_take]
      simp only [cutThreshold, width] at long ⊢
      omega
    simp [List.rightpad, full]
  · by_cases enough : width ≤ text.length
    · have full : (text.take width).length = width := by
        rw [List.length_take]
        omega
      simp [List.rightpad, full, Nat.sub_eq_zero_of_le enough]
    · have short : text.length ≤ width := by omega
      have fits : (text ++ List.replicate (width - text.length) '0').length ≤ width := by
        simp
        omega
      rw [List.take_of_length_le fits, List.take_of_length_le short, List.rightpad]

/-- The token of a digest holds the first letters and numerals of its base64 text. -/
theorem ofDigest_eq (digest : List UInt8) :
    ofDigest digest =
      (((base64 digest).filter Char.isAlphanum).take width).rightpad width '0' := by
  rw [ofDigest, strip_base64, fit_eq]

/-- A token has a fixed width, however long its digest is. -/
@[simp] theorem length_ofDigest (digest : List UInt8) : (ofDigest digest).length = width := by
  -- What is missing to the width is filled.
  rw [ofDigest_eq, List.length_rightpad, List.length_take]
  omega

/-- A token consists of letters and numerals. -/
theorem isAlphanum_of_mem_ofDigest {digest : List UInt8} {c : Char} (member : c ∈ ofDigest digest) :
    c.isAlphanum := by
  -- A character was kept for being one, or it fills the width.
  rw [ofDigest_eq, List.rightpad, List.mem_append] at member
  rcases member with taken | filled
  · exact (List.mem_filter.mp (List.mem_of_mem_take taken)).2
  · rw [List.eq_of_mem_replicate filled]
    rfl

/-- Digests of marks alone, of one letter and of none have tokens like any other. -/
example : [[0xFB, 0xFF, 0xFF], [3, 0xFF, 0xFF], []].map ofDigest =
    ["00000".toList, "A0000".toList, "00000".toList] := by
  decide

end Token

end PermissionNames
