import PermissionNames.Text.Utf8

/-! What is encoded is decoded again, and the other way round; newlines alone stay as they are. -/

namespace PermissionNames

namespace Utf8

/-- A small number is the number of its byte. -/
theorem toNat_ofNat {number : Nat} (small : number < 256) :
    (UInt8.ofNat number).toNat = number :=
  UInt8.toNat_ofNat_of_lt' small

/-- A byte below the first continuation byte is a character by itself. -/
theorem decodeAt_one {a : Nat} (first : a < 0x80) (position : Nat) (rest : List UInt8) :
    decodeAt position (UInt8.ofNat a :: rest) =
      (decodeAt (position + 1) rest).map (Char.ofNat a :: ·) := by
  -- The byte is below the first continuation byte, so the first branch of the decoder reads it.
  have number := toNat_ofNat (show a < 256 by omega)
  rw [decodeAt.eq_def]
  simp [UInt8.lt_iff_toNat_lt, number, first]

/-- Two bytes hold five bits and six more. -/
theorem decodeAt_two {a b : Nat} (first : 0xC2 ≤ a ∧ a < 0xE0) (second : 0x80 ≤ b ∧ b < 0xC0)
    (position : Nat) (rest : List UInt8) :
    decodeAt position (UInt8.ofNat a :: UInt8.ofNat b :: rest) =
      (decodeAt (position + 2) rest).map (Char.ofNat ((a - 0xC0) * 64 + b % 64) :: ·) := by
  -- The bounds exclude all other first bytes, so that the decoder takes its second branch.
  have firstNumber := toNat_ofNat (show a < 256 by omega)
  have secondNumber := toNat_ofNat (show b < 256 by omega)
  have notOne : ¬ a < 0x80 := by omega
  have notTail : ¬ a < 0xC2 := by omega
  have notBeyond : ¬ 0xF5 ≤ a := by omega
  rw [decodeAt.eq_def]
  simp [isContinuation, payload, UInt8.lt_iff_toNat_lt, UInt8.le_iff_toNat_le, firstNumber,
    secondNumber, notOne, notTail, notBeyond, first, second]

/-- Three bytes hold four bits and twice six more, unless fewer bytes would do or the point is a surrogate. -/
theorem decodeAt_three {a b c : Nat} (first : 0xE0 ≤ a ∧ a < 0xF0) (second : 0x80 ≤ b ∧ b < 0xC0)
    (third : 0x80 ≤ c ∧ c < 0xC0) (long : a = 0xE0 → 0xA0 ≤ b) (scalar : a = 0xED → b < 0xA0)
    (position : Nat) (rest : List UInt8) :
    decodeAt position (UInt8.ofNat a :: UInt8.ofNat b :: UInt8.ofNat c :: rest) =
      (decodeAt (position + 3) rest).map
        (Char.ofNat (((a - 0xE0) * 64 + b % 64) * 64 + c % 64) :: ·) := by
  have firstNumber := toNat_ofNat (show a < 256 by omega)
  have secondNumber := toNat_ofNat (show b < 256 by omega)
  have thirdNumber := toNat_ofNat (show c < 256 by omega)
  have notOne : ¬ a < 0x80 := by omega
  have notTail : ¬ a < 0xC2 := by omega
  have notBeyond : ¬ 0xF5 ≤ a := by omega
  have notTwo : ¬ a < 0xE0 := by omega
  -- The second byte is allowed unless the first one is an end of its range.
  have allowed : allowsSecondOfThree (UInt8.ofNat a) (UInt8.ofNat b) = true := by
    simp only [allowsSecondOfThree, isContinuation, UInt8.lt_iff_toNat_lt, UInt8.le_iff_toNat_le,
      secondNumber, Bool.and_eq_true, decide_eq_true_eq]
    refine ⟨second, ?_⟩
    split
    -- After 0xE0 a low second byte would be overlong.
    · rename_i low
      have low : b < 0xA0 := low
      simp only [bne_iff_ne, ne_eq, ← UInt8.toNat_inj, firstNumber]
      show a ≠ 0xE0
      omega
    -- After 0xED a high one would make a surrogate.
    · rename_i high
      have high : ¬ b < 0xA0 := high
      simp only [bne_iff_ne, ne_eq, ← UInt8.toNat_inj, firstNumber]
      show a ≠ 0xED
      omega
  rw [decodeAt.eq_def]
  simp [isContinuation, allowed, payload, UInt8.lt_iff_toNat_lt, UInt8.le_iff_toNat_le,
    firstNumber, secondNumber, thirdNumber, notOne, notTail, notBeyond, notTwo, first, third]

/-- Four bytes hold three bits and three times six more, unless fewer bytes would do or the point lies past the last. -/
theorem decodeAt_four {a b c d : Nat} (first : 0xF0 ≤ a ∧ a < 0xF5)
    (second : 0x80 ≤ b ∧ b < 0xC0) (third : 0x80 ≤ c ∧ c < 0xC0) (fourth : 0x80 ≤ d ∧ d < 0xC0)
    (long : a = 0xF0 → 0x90 ≤ b) (scalar : a = 0xF4 → b < 0x90)
    (position : Nat) (rest : List UInt8) :
    decodeAt position
        (UInt8.ofNat a :: UInt8.ofNat b :: UInt8.ofNat c :: UInt8.ofNat d :: rest) =
      (decodeAt (position + 4) rest).map
        (Char.ofNat ((((a - 0xF0) * 64 + b % 64) * 64 + c % 64) * 64 + d % 64) :: ·) := by
  have firstNumber := toNat_ofNat (show a < 256 by omega)
  have secondNumber := toNat_ofNat (show b < 256 by omega)
  have thirdNumber := toNat_ofNat (show c < 256 by omega)
  have fourthNumber := toNat_ofNat (show d < 256 by omega)
  have notOne : ¬ a < 0x80 := by omega
  have notTail : ¬ a < 0xC2 := by omega
  have notBeyond : ¬ 0xF5 ≤ a := by omega
  have notTwo : ¬ a < 0xE0 := by omega
  have notThree : ¬ a < 0xF0 := by omega
  -- The second byte is allowed unless the first one is an end of its range.
  have allowed : allowsSecondOfFour (UInt8.ofNat a) (UInt8.ofNat b) = true := by
    simp only [allowsSecondOfFour, isContinuation, UInt8.lt_iff_toNat_lt, UInt8.le_iff_toNat_le,
      secondNumber, Bool.and_eq_true, decide_eq_true_eq]
    refine ⟨second, ?_⟩
    split
    -- After 0xF0 a low second byte would be overlong.
    · rename_i low
      have low : b < 0x90 := low
      simp only [bne_iff_ne, ne_eq, ← UInt8.toNat_inj, firstNumber]
      show a ≠ 0xF0
      omega
    -- After 0xF4 a high one would lie past the last point.
    · rename_i high
      have high : ¬ b < 0x90 := high
      simp only [bne_iff_ne, ne_eq, ← UInt8.toNat_inj, firstNumber]
      show a ≠ 0xF4
      omega
  rw [decodeAt.eq_def]
  simp [isContinuation, allowed, payload, UInt8.lt_iff_toNat_lt, UInt8.le_iff_toNat_le,
    firstNumber, secondNumber, thirdNumber, fourthNumber, notOne, notTail, notBeyond, notTwo,
    notThree, third, fourth]

/-- The bytes of a character are decoded as that character, whatever follows them. -/
theorem decodeAt_encodeChar (c : Char) (position : Nat) (rest : List UInt8) :
    ∃ later, decodeAt position (String.utf8EncodeChar c ++ rest) =
      (decodeAt later rest).map (c :: ·) := by
  -- The value of a character is below the surrogates or above them, and not past the last point.
  have valid : c.val.toNat < 0xD800 ∨ 0xDFFF < c.val.toNat ∧ c.val.toNat < 0x110000 := c.valid
  have itself : Char.ofNat c.val.toNat = c := Char.ofNat_toNat c
  unfold String.utf8EncodeChar
  generalize c.val.toNat = value at valid itself
  -- The bits that are spread over the bytes are those of the value again.
  dsimp only
  split
  · have first : value < 0x80 := by omega
    have read := decodeAt_one first position rest
    rw [itself] at read
    exact ⟨_, read⟩
  · split
    · have first : 0xC2 ≤ value / 64 % 32 + 0xC0 ∧ value / 64 % 32 + 0xC0 < 0xE0 := by omega
      have second : 0x80 ≤ value % 64 + 0x80 ∧ value % 64 + 0x80 < 0xC0 := by omega
      have bits : (value / 64 % 32 + 0xC0 - 0xC0) * 64 + (value % 64 + 0x80) % 64 = value := by
        omega
      have read := decodeAt_two first second position rest
      rw [bits, itself] at read
      exact ⟨_, read⟩
    · have last : 0x80 ≤ value % 64 + 0x80 ∧ value % 64 + 0x80 < 0xC0 := by omega
      have middle : 0x80 ≤ value / 64 % 64 + 0x80 ∧ value / 64 % 64 + 0x80 < 0xC0 := by omega
      split
      · have first : 0xE0 ≤ value / 4096 % 16 + 0xE0 ∧ value / 4096 % 16 + 0xE0 < 0xF0 := by
          omega
        have bits : ((value / 4096 % 16 + 0xE0 - 0xE0) * 64 + (value / 64 % 64 + 0x80) % 64) * 64 +
            (value % 64 + 0x80) % 64 = value := by omega
        have read := decodeAt_three first middle last (by omega) (by omega) position rest
        rw [bits, itself] at read
        exact ⟨_, read⟩
      · have first : 0xF0 ≤ value / 262144 % 8 + 0xF0 ∧ value / 262144 % 8 + 0xF0 < 0xF5 := by
          omega
        have second : 0x80 ≤ value / 4096 % 64 + 0x80 ∧ value / 4096 % 64 + 0x80 < 0xC0 := by
          omega
        have bits : (((value / 262144 % 8 + 0xF0 - 0xF0) * 64 +
            (value / 4096 % 64 + 0x80) % 64) * 64 + (value / 64 % 64 + 0x80) % 64) * 64 +
            (value % 64 + 0x80) % 64 = value := by omega
        have read := decodeAt_four first second middle last (by omega) (by omega) position rest
        rw [bits, itself] at read
        exact ⟨_, read⟩

/-- The bytes of a text are decoded as that text. -/
theorem decode_encode (text : List Char) : decode (encode text) = .ok text := by
  -- The position is only told in faults, so the induction leaves it open.
  have general : ∀ position, decodeAt position (encode text) = .ok text := by
    induction text with
    | nil =>
      intro position
      rfl
    | cons c rest ih =>
      intro position
      obtain ⟨later, read⟩ := decodeAt_encodeChar c position (encode rest)
      rw [encode, List.flatMap_cons, ← encode, read, ih later]
      rfl
  exact general 0

/-- Texts with the same bytes are the same. -/
theorem eq_of_encode_eq {first second : List Char} (same : encode first = encode second) :
    first = second := by
  -- Both texts are what the bytes are decoded to.
  have decoded := decode_encode first
  rw [same, decode_encode second] at decoded
  exact (Except.ok.inj decoded).symm

/-- The value of a character with a valid number is that number. -/
theorem value_ofNat {number : Nat} (valid : number.isValidChar) :
    (Char.ofNat number).val.toNat = number :=
  -- A valid number is stored as it is.
  congrArg (fun c : Char => c.val.toNat) (dif_pos valid)

/-- A character that a byte is decoded to is encoded as that byte. -/
theorem encodeChar_one {a : UInt8} (first : a.toNat < 0x80) :
    String.utf8EncodeChar (Char.ofNat a.toNat) = [a] := by
  -- The byte is the number of the character.
  have number : (Char.ofNat a.toNat).val.toNat = a.toNat := value_ofNat (.inl (by omega))
  unfold String.utf8EncodeChar
  dsimp only
  rw [number, if_pos (by omega), UInt8.ofNat_toNat]

/-- A character that two bytes are decoded to is encoded as these. -/
theorem encodeChar_two {a b : UInt8} (first : 0xC2 ≤ a.toNat ∧ a.toNat < 0xE0)
    (second : 0x80 ≤ b.toNat ∧ b.toNat < 0xC0) :
    String.utf8EncodeChar (Char.ofNat ((a.toNat - 0xC0) * 64 + payload b)) = [a, b] := by
  obtain ⟨value, held⟩ : ∃ value, value = (a.toNat - 0xC0) * 64 + b.toNat % 64 := ⟨_, rfl⟩
  have number : (Char.ofNat value).val.toNat = value := value_ofNat (.inl (by omega))
  -- Each byte is found again among the bits of the value.
  have lead : value / 64 % 32 + 0xC0 = a.toNat := by omega
  have last : value % 64 + 0x80 = b.toNat := by omega
  rw [payload, ← held]
  unfold String.utf8EncodeChar
  dsimp only
  rw [number, if_neg (by omega), if_pos (by omega), lead, last]
  simp only [UInt8.ofNat_toNat]

/-- A character that three bytes are decoded to is encoded as these, unless fewer bytes would do or the point is a surrogate. -/
theorem encodeChar_three {a b c : UInt8} (first : 0xE0 ≤ a.toNat ∧ a.toNat < 0xF0)
    (second : 0x80 ≤ b.toNat ∧ b.toNat < 0xC0) (third : 0x80 ≤ c.toNat ∧ c.toNat < 0xC0)
    (long : a.toNat = 0xE0 → 0xA0 ≤ b.toNat) (scalar : a.toNat = 0xED → b.toNat < 0xA0) :
    String.utf8EncodeChar
      (Char.ofNat (((a.toNat - 0xE0) * 64 + payload b) * 64 + payload c)) = [a, b, c] := by
  -- The value has at least twelve bits and is no surrogate, and its digits to the base 64 are the
  -- payloads.
  obtain ⟨value, held⟩ :
      ∃ value, value = ((a.toNat - 0xE0) * 64 + b.toNat % 64) * 64 + c.toNat % 64 := ⟨_, rfl⟩
  have valid : value.isValidChar := by
    rcases Nat.lt_or_ge value 0xD800 with below | above
    · exact .inl below
    · exact .inr ⟨by omega, by omega⟩
  have number : (Char.ofNat value).val.toNat = value := value_ofNat valid
  have lead : value / 4096 % 16 + 0xE0 = a.toNat := by omega
  have middle : value / 64 % 64 + 0x80 = b.toNat := by omega
  have last : value % 64 + 0x80 = c.toNat := by omega
  rw [payload, payload, ← held]
  unfold String.utf8EncodeChar
  dsimp only
  rw [number, if_neg (by omega), if_neg (by omega), if_pos (by omega), lead, middle, last]
  simp only [UInt8.ofNat_toNat]

/-- A character that four bytes are decoded to is encoded as these, unless fewer bytes would do or the point lies past the last. -/
theorem encodeChar_four {a b c d : UInt8} (first : 0xF0 ≤ a.toNat ∧ a.toNat < 0xF5)
    (second : 0x80 ≤ b.toNat ∧ b.toNat < 0xC0) (third : 0x80 ≤ c.toNat ∧ c.toNat < 0xC0)
    (fourth : 0x80 ≤ d.toNat ∧ d.toNat < 0xC0) (long : a.toNat = 0xF0 → 0x90 ≤ b.toNat)
    (scalar : a.toNat = 0xF4 → b.toNat < 0x90) :
    String.utf8EncodeChar (Char.ofNat
      ((((a.toNat - 0xF0) * 64 + payload b) * 64 + payload c) * 64 + payload d)) =
        [a, b, c, d] := by
  -- The value has at least seventeen bits, and its digits to the base 64 are the payloads.
  obtain ⟨value, held⟩ : ∃ value, value =
      (((a.toNat - 0xF0) * 64 + b.toNat % 64) * 64 + c.toNat % 64) * 64 + d.toNat % 64 := ⟨_, rfl⟩
  have number : (Char.ofNat value).val.toNat = value :=
    value_ofNat (.inr ⟨by omega, by omega⟩)
  have lead : value / 262144 % 8 + 0xF0 = a.toNat := by omega
  have next : value / 4096 % 64 + 0x80 = b.toNat := by omega
  have afterNext : value / 64 % 64 + 0x80 = c.toNat := by omega
  have last : value % 64 + 0x80 = d.toNat := by omega
  rw [payload, payload, payload, ← held]
  unfold String.utf8EncodeChar
  dsimp only
  rw [number, if_neg (by omega), if_neg (by omega), if_neg (by omega), lead, next, afterNext,
    last]
  simp only [UInt8.ofNat_toNat]

/-- A byte that continues a sequence lies in the range of these. -/
theorem bounds_of_isContinuation {byte : UInt8} (continues : isContinuation byte = true) :
    0x80 ≤ byte.toNat ∧ byte.toNat < 0xC0 := by
  simpa [isContinuation, UInt8.le_iff_toNat_le, UInt8.lt_iff_toNat_lt] using continues

/-- What is allowed as a second byte continues the first one: behind the least lead byte from a bound on, and behind the greatest one below it. -/
theorem bounds_of_allowsSecond {a b bound least greatest : UInt8}
    (allowed : (isContinuation b && (if b < bound then a != least else a != greatest)) = true) :
    (0x80 ≤ b.toNat ∧ b.toNat < 0xC0) ∧ (a.toNat = least.toNat → bound.toNat ≤ b.toNat) ∧
      (a.toNat = greatest.toNat → b.toNat < bound.toNat) := by
  obtain ⟨continues, allowed⟩ := Bool.and_eq_true_iff.mp allowed
  refine ⟨bounds_of_isContinuation continues, ?_⟩
  -- On either side of the bound one lead byte is excluded.
  split at allowed
  · rename_i low
    have low : b.toNat < bound.toNat := low
    have other : a.toNat ≠ least.toNat := fun same =>
      (bne_iff_ne.mp allowed) (UInt8.toNat_inj.mp same)
    omega
  · rename_i high
    have high : ¬ b.toNat < bound.toNat := high
    have other : a.toNat ≠ greatest.toNat := fun same =>
      (bne_iff_ne.mp allowed) (UInt8.toNat_inj.mp same)
    omega

/-- A byte that is neither below nor above the lead bytes is one. -/
theorem bounds_of_lead {byte : UInt8}
    (inside : ¬ (decide (byte < 0xC2) || decide (0xF5 ≤ byte)) = true) :
    0xC2 ≤ byte.toNat ∧ byte.toNat < 0xF5 := by
  simpa [UInt8.lt_iff_toNat_lt, UInt8.le_iff_toNat_le] using inside

/-- Bytes that are decoded to a character and those after it are the bytes of that text, if they are so for the character and for what comes after it. -/
theorem encode_of_map {c : Char} {lead rest : List UInt8} {text : List Char}
    {later : Except Fault (List Char)} (whole : String.utf8EncodeChar c = lead)
    (ih : ∀ {text}, later = .ok text → encode text = rest)
    (done : later.map (c :: ·) = .ok text) : encode text = lead ++ rest := by
  -- Nothing is decoded to a text if what comes later is not.
  cases later with
  | error fault => cases done
  | ok tail =>
    cases done
    rw [encode, List.flatMap_cons, whole, ← encode, ih rfl]

/-- Bytes that are decoded to a text are the bytes of that text. -/
theorem encode_of_decode {bytes : List UInt8} {text : List Char}
    (done : decode bytes = .ok text) : encode text = bytes := by
  -- A malformed sequence is a fault, and every other one is that of the character it stands for.
  have general : ∀ position text, decodeAt position bytes = .ok text → encode text = bytes := by
    clear done
    intro position text done
    fun_induction decodeAt position bytes generalizing text with
    | case1 =>
      cases done
      rfl
    | case2 position a rest one ih =>
      exact encode_of_map (encodeChar_one one) (ih _) done
    | case5 position a notOne inside b rest two second ih =>
      have bounds := bounds_of_lead inside
      exact encode_of_map (encodeChar_two ⟨bounds.1, two⟩ (bounds_of_isContinuation second))
        (ih _) done
    | case8 position a notOne inside b notTwo three allowed c rest third ih =>
      obtain ⟨second, long, scalar⟩ := bounds_of_allowsSecond allowed
      have first : 0xE0 ≤ a.toNat ∧ a.toNat < 0xF0 :=
        ⟨UInt8.le_iff_toNat_le.mp (UInt8.not_lt.mp notTwo), three⟩
      exact encode_of_map
        (encodeChar_three first second (bounds_of_isContinuation third) long scalar) (ih _) done
    | case13 position a notOne inside b notTwo notThree allowed c third d rest fourth ih =>
      obtain ⟨second, long, scalar⟩ := bounds_of_allowsSecond allowed
      have bounds := bounds_of_lead inside
      have first : 0xF0 ≤ a.toNat ∧ a.toNat < 0xF5 :=
        ⟨UInt8.le_iff_toNat_le.mp (UInt8.not_lt.mp notThree), bounds.2⟩
      exact encode_of_map
        (encodeChar_four first second (bounds_of_isContinuation third)
          (bounds_of_isContinuation fourth) long scalar) (ih _) done
    | _ => cases done
  exact general 0 text done

end Utf8

/-- A text without carriage returns keeps its newlines. -/
theorem unifyNewlines_eq_self {text : List Char} (plain : '\r' ∉ text) :
    unifyNewlines text = text := by
  -- Only a carriage return is looked at together with what follows it.
  induction text with
  | nil => rfl
  | cons c rest ih =>
    have notReturn : c ≠ '\r' := fun same => plain (by simp [same])
    have restPlain : '\r' ∉ rest := fun member => plain (List.mem_cons_of_mem c member)
    rw [unifyNewlines.eq_def]
    split
    · rename_i empty
      cases empty
    · rename_i same
      cases same
      exact absurd rfl notReturn
    · rename_i same
      cases same
      rw [if_neg notReturn, ih restPlain]

/-- Newlines are unified part by part, unless a part begins with a newline. -/
theorem unifyNewlines_append {later : List Char} (apart : '\n' ∉ later.head?) (text : List Char) :
    unifyNewlines (text ++ later) = unifyNewlines text ++ unifyNewlines later := by
  fun_induction unifyNewlines text with
  | case1 => rfl
  | case2 rest ih => rw [List.cons_append, List.cons_append, unifyNewlines, ih, List.cons_append]
  | case3 c rest unpaired ih =>
    -- A carriage return that has no newline in its own part has none behind it either.
    have alone : ∀ behind, c = '\r' → rest ++ later = '\n' :: behind → False := by
      intro behind isReturn same
      cases rest with
      | nil => exact apart (by rw [← List.nil_append later, same]; rfl)
      | cons next others => exact unpaired others isReturn (by rw [(List.cons.inj same).1])
    rw [List.cons_append, unifyNewlines.eq_3 _ _ alone, ih, List.cons_append]

/-- Besides newlines, unified text holds characters of the text only. -/
theorem mem_or_eq_of_mem_unifyNewlines {c : Char} {text : List Char}
    (member : c ∈ unifyNewlines text) : c ∈ text ∨ c = '\n' := by
  -- A pair of carriage return and newline becomes one newline, and any other character is kept or
  -- becomes one.
  fun_induction unifyNewlines text with
  | case1 => cases member
  | case2 rest ih =>
    rcases List.mem_cons.mp member with newline | inRest
    · exact .inr newline
    · exact (ih inRest).imp_left fun found => by simp [found]
  | case3 first rest unpaired ih =>
    rcases List.mem_cons.mp member with here | inRest
    · split at here
      · exact .inr here
      · exact .inl (here ▸ List.mem_cons_self)
    · exact (ih inRest).imp_left (List.mem_cons_of_mem first)

end PermissionNames
