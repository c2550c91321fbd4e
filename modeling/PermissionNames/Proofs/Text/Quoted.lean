import PermissionNames.Proofs.Source.Escape
import PermissionNames.Text.Quoted

/-! Quoted literals: they hold no control characters, and the escapes in them are read back as what was written. -/

namespace PermissionNames

/-- A digit is read back as its own value. -/
theorem hexValue?_hexDigit {value : Nat} (small : value < 16) :
    hexValue? (hexDigit value) = some value := by
  -- There are only sixteen digits.
  have tried : ∀ value < 16, hexValue? (hexDigit value) = some value := by decide
  exact tried value small

/-- Digits are those of numbers below sixteen. -/
theorem exists_of_mem_hexDigits {digit : Char} {width number : Nat}
    (member : digit ∈ hexDigits width number) : ∃ value < 16, digit = hexDigit value := by
  -- The last digit is split off, which is a remainder by sixteen.
  induction width generalizing number with
  | zero => simp [hexDigits] at member
  | succ width ih =>
    rw [hexDigits, List.mem_append, List.mem_singleton] at member
    rcases member with before | last
    · exact ih before
    · exact ⟨_, Nat.mod_lt number (by decide), last⟩

/-- Digits hold no control character. -/
theorem control_not_mem_hexDigits {c : Char} (control : c.toNat < 0x20) (width number : Nat) :
    c ∉ hexDigits width number := by
  -- There are sixteen digits, all of them printable.
  intro member
  obtain ⟨value, small, rfl⟩ := exists_of_mem_hexDigits member
  have tried : ∀ value < 16, 0x20 ≤ (hexDigit value).toNat := by decide
  have printable := tried value small
  omega

namespace Quoted

/-- No escape holds a control character. -/
theorem control_not_mem_escape {c : Char} (control : c.toNat < 0x20) (written : Char) :
    c ∉ escape written := by
  -- What is written in place of a character are marks, letters and digits.
  have printable : ∀ mark ∈ ['\\', '"', 'n', 'r', 't', 'b', 'f', 'u'], c ≠ mark := by
    rintro mark listed rfl
    have tried : ∀ mark ∈ ['\\', '"', 'n', 'r', 't', 'b', 'f', 'u'], 0x20 ≤ mark.toNat := by simp
    have large := tried c listed
    omega
  simp only [List.forall_mem_cons] at printable
  have digits := control_not_mem_hexDigits control 4 written.toNat
  unfold escape
  repeat' split
  all_goals try simp [printable, digits]
  -- A character that stands for itself is no control character.
  rintro rfl
  omega

/-- No body of a literal holds a control character. -/
theorem control_not_mem_body {c : Char} (control : c.toNat < 0x20) (value : List Char) :
    c ∉ body value := by
  -- The body is made of escapes, one for each character.
  rw [body, List.mem_flatMap]
  rintro ⟨written, -, member⟩
  exact control_not_mem_escape control written member

/-- Whether what stands behind a text is escaped: the text ends with a backslash that is not escaped itself. -/
def escapesNext (text : List Char) : Bool :=
  text.foldl (fun escaped c => c = '\\' && !escaped) false

/-- Nothing escapes the first character. -/
@[simp] theorem escapesNext_nil : escapesNext [] = false :=
  rfl

/-- Nothing behind digits is escaped. -/
theorem escapesNext_hexDigits (before : List Char) (width number : Nat) :
    escapesNext (before ++ hexDigits (width + 1) number) = false := by
  -- The last character is a digit, and no digit is a backslash.
  have tried : ∀ value < 16, hexDigit value ≠ '\\' := by decide
  have last := tried (number % 16) (Nat.mod_lt number (by decide))
  simp [escapesNext, hexDigits, last]

/-- No escape reaches beyond its own characters. -/
theorem escapesNext_escape (c : Char) : escapesNext (escape c) = false := by
  unfold escape
  -- Marks behind a backslash are escaped by it, so they escape nothing.
  repeat
    split
    · rfl
  split
  · exact escapesNext_hexDigits ['\\', 'u'] 3 c.toNat
  · simp_all [escapesNext]

/-- What an escape does not reach is escaped as if it stood alone. -/
theorem escapesNext_append {before : List Char} (ended : escapesNext before = false)
    (after : List Char) : escapesNext (before ++ after) = escapesNext after := by
  rw [escapesNext, List.foldl_append, ← escapesNext, ended, ← escapesNext]

/-- The quote behind a body is not escaped. -/
theorem escapesNext_body (value : List Char) : escapesNext (body value) = false := by
  -- No escape ends in an open backslash, so neither do several of them.
  induction value with
  | nil => rfl
  | cons c later ih =>
    rw [body, List.flatMap_cons, ← body, escapesNext_append (escapesNext_escape c), ih]

/-- The only quote in an escape stands behind a backslash. -/
theorem escape_eq_append {c : Char} {before after : List Char}
    (written : escape c = before ++ '"' :: after) : before = ['\\'] := by
  have quoteDigits : '"' ∉ hexDigits 4 c.toNat := by
    intro member
    obtain ⟨value, small, digit⟩ := exists_of_mem_hexDigits member
    have tried : ∀ value < 16, '"' ≠ hexDigit value := by decide
    exact tried value small digit
  have inside : '"' ∈ escape c := by simp [written]
  -- Only the escape of the quote itself holds one.
  have same : c = '"' := by
    refine Decidable.byContradiction fun other => ?_
    unfold escape at inside
    repeat' split at inside
    all_goals simp_all [Ne.symm other]
  rw [same] at written
  have marked : escape '"' = ['\\', '"'] := rfl
  rw [marked] at written
  match before, written with
  | [], written => cases written
  | [_], written => simpa using (List.cons.inj written).1.symm
  | _ :: _ :: _, written => simp at written

/-- Every quote in a body is escaped. -/
theorem escapesNext_of_body {value before after : List Char}
    (written : body value = before ++ '"' :: after) : escapesNext before = true := by
  induction value generalizing before with
  | nil => simp [body] at written
  | cons c later ih =>
    rw [body, List.flatMap_cons, ← body] at written
    -- The quote stands in the escape of the first character, or behind it in the body of the rest.
    rcases List.append_eq_append_iff.mp written with ⟨front, reached, behind⟩ | ⟨front, escaped, behind⟩
    · rw [reached, escapesNext_append (escapesNext_escape c)]
      exact ih behind
    · cases front with
      | nil =>
        have first : escapesNext [] = true := ih (by simpa using behind.symm)
        cases first
      | cons mark others =>
        obtain ⟨rfl, -⟩ := List.cons.inj behind
        rw [escape_eq_append escaped]
        rfl

/-- Behind a body the first quote that is not escaped is the one that ends the literal. -/
theorem escapesNext_iff {value before after : List Char}
    (written : body value ++ ['"'] = before ++ '"' :: after) :
    escapesNext before = true ↔ after ≠ [] := by
  -- The quote is either the last character or one inside the body, where it follows a backslash.
  rcases List.eq_nil_or_concat after with rfl | ⟨inside, last, rfl⟩
  · have whole : body value = before := List.append_inj_left' written rfl
    simp [← whole, escapesNext_body]
  · have inBody : body value = before ++ '"' :: inside := by
      have cut : body value ++ ['"'] = (before ++ '"' :: inside) ++ [last] := by simpa using written
      exact List.append_inj_left' cut rfl
    simp [escapesNext_of_body inBody]

end Quoted

/-- No literal holds a control character, as every one is escaped. -/
theorem control_not_mem_quoted {c : Char} (control : c.toNat < 0x20) (value : String) :
    c ∉ (quoted value).toList := by
  -- Around the body there are only the two quotes.
  have escaped := Quoted.control_not_mem_body control value.toList
  have notQuote : c ≠ '"' := by
    rintro rfl
    simp at control
  simp [quoted, Quoted.encode, escaped, notQuote]

namespace Source.Escape

/-- Four digits are read back as the number that they write. -/
theorem hexadecimal?_hexDigits {number : Nat} (small : number < 0x10000) (rest : List Char) :
    hexadecimal? 4 (hexDigits 4 number ++ rest) = some number := by
  -- The digits are those of the number from the highest to the lowest.
  have digit : ∀ value, hexValue? (hexDigit (value % 16)) = some (value % 16) :=
    fun value => hexValue?_hexDigit (Nat.mod_lt value (by decide))
  simp [hexadecimal?, hexDigits, digit]
  omega

/-- A sequence after a backslash is replaced by what it stands for. -/
theorem decodeFrom_sequence {found : Sequence} {rest : List Char}
    (sequence : ofText? rest = some found) :
    decodeFrom 0 ('\\' :: rest) = (decodeFrom found.consumed rest).map (found.value ++ ·) := by
  -- The backslash is passed, and what the sequence takes is skipped behind it.
  rw [decodeFrom, if_pos rfl, sequence, Option.bind_eq_bind, Option.bind_some]
  cases decodeFrom found.consumed rest <;> rfl

/-- A mark after a backslash is read as the character that it stands for. -/
theorem decodeFrom_mark {mark meant : Char}
    (sequence : ∀ rest, ofText? (mark :: rest) = some ⟨[.character meant], 1⟩)
    (rest : List Char) :
    decodeFrom 0 ('\\' :: mark :: rest) = (decodeFrom 0 rest).map (.character meant :: ·) := by
  -- The mark itself is skipped after it was read.
  rw [decodeFrom_sequence (sequence rest), decodeFrom]
  rfl

/-- A character after its number is read as that character. -/
theorem decodeFrom_number (c : Char) (small : c.toNat < 0x10000) (rest : List Char) :
    decodeFrom 0 ('\\' :: 'u' :: (hexDigits 4 c.toNat ++ rest)) =
      (decodeFrom 0 rest).map (.character c :: ·) := by
  have sequence : ofText? ('u' :: (hexDigits 4 c.toNat ++ rest)) = some ⟨[.character c], 5⟩ := by
    have inRange : c.toNat < 0x110000 := by omega
    simp [ofText?, numbered?, hexadecimal?_hexDigits small, inRange, CodePoint.ofNumber_toNat]
  -- The mark and its four digits are skipped after they were read.
  have skipped : decodeFrom 5 ('u' :: (hexDigits 4 c.toNat ++ rest)) = decodeFrom 0 rest := by
    simp [hexDigits, decodeFrom]
  rw [decodeFrom_sequence sequence, skipped]
  rfl

/-- An escape is read back as the character that it was written for. -/
theorem decodeFrom_escape (c : Char) (rest : List Char) :
    decodeFrom 0 (Quoted.escape c ++ rest) = (decodeFrom 0 rest).map (.character c :: ·) := by
  unfold Quoted.escape
  -- Quote, backslash and the named controls are written with a mark.
  repeat
    split
    · rename_i same
      rw [same]
      exact decodeFrom_mark (fun _ => rfl) rest
  split
  · exact decodeFrom_number c (by omega) rest
  · rename_i notBackslash _ _ _ _ _ _
    rw [List.singleton_append, decodeFrom, if_neg notBackslash]

/-- The sequences in the body of a literal yield the characters that were written. -/
theorem decodeFrom_body (value : List Char) :
    decodeFrom 0 (Quoted.body value) = some (value.map .character) := by
  -- Each character is read back from its own escape.
  induction value with
  | nil => rfl
  | cons c later ih =>
    rw [Quoted.body, List.flatMap_cons, ← Quoted.body, decodeFrom_escape, ih]
    rfl

/-- The body of a literal is read back as what was written. -/
theorem decode_body (value : String) : decode (Quoted.body value.toList) = some value :=
  decode_eq_plain_iff.mpr (decodeFrom_body value.toList)

end Source.Escape

/-- Different texts have different bodies. -/
theorem Quoted.body_injective : Function.Injective Quoted.body := by
  -- Reading back gives each text, so it cannot come from two of them.
  intro first second same
  have read := Source.Escape.decodeFrom_body first
  rw [same, Source.Escape.decodeFrom_body] at read
  exact List.map_injective_iff.mpr (fun _ _ => CodePoint.character.inj) (Option.some.inj read.symm)

/-- Different texts have different literals. -/
theorem quoted_injective : Function.Injective quoted := by
  -- The quotes around both bodies are the same, so the bodies are.
  intro first second same
  have bodies : Quoted.body first.toList = Quoted.body second.toList := by
    simpa [quoted, Quoted.encode] using congrArg String.toList same
  exact String.toList_injective (Quoted.body_injective bodies)

end PermissionNames
