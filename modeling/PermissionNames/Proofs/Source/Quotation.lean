import PermissionNames.Proofs.Text.Quoted
import PermissionNames.Source.Quotation

/-! Literals that are taken from source text as what was written. -/

namespace PermissionNames.Source

/-- A text without backslashes stands for itself. -/
theorem Escape.decode_plain {text : List Char} (plain : ∀ c ∈ text, c ≠ '\\') :
    Escape.decode text = some (.plain (String.ofList text)) := by
  -- No character of it begins a sequence.
  have read : Escape.decodeFrom 0 text = some (text.map .character) := by
    induction text with
    | nil => rfl
    | cons c later ih =>
      have others := ih fun other member => plain other (List.mem_cons_of_mem c member)
      rw [Escape.decodeFrom, if_neg (plain c List.mem_cons_self), others]
      rfl
  rw [decode_eq_plain_iff, String.toList_ofList, read]

namespace Quotation

/-- A mark behind a backslash is taken with it. -/
theorem takeShort_mark (quote mark : Char) (rest : List Char) :
    takeShort quote ('\\' :: mark :: rest) =
      (takeShort quote rest).map fun (body, rest) => ('\\' :: mark :: body, rest) := by
  rw [takeShort]

/-- Characters that end neither the literal nor the line are taken. -/
theorem takeShort_plain {quote : Char} {text : List Char}
    (plain : ∀ c ∈ text, c ≠ '\\' ∧ c ≠ quote ∧ c ≠ '\n') (rest : List Char) :
    takeShort quote (text ++ rest) =
      (takeShort quote rest).map fun (body, rest) => (text ++ body, rest) := by
  induction text with
  | nil => simp
  | cons c later ih =>
    obtain ⟨notBackslash, notQuote, notNewline⟩ := plain c List.mem_cons_self
    have others := ih fun other member => plain other (List.mem_cons_of_mem c member)
    -- Only the last branch of the reader takes a character that stands for itself.
    rw [List.cons_append, takeShort.eq_def]
    split
    · simp_all
    · simp_all
    · rename_i same
      cases same
      rw [if_neg notQuote, if_neg notNewline, others, Option.map_map]
      rfl

/-- An escape is taken as a whole. -/
theorem takeShort_escape (c : Char) (rest : List Char) :
    takeShort '"' (Quoted.escape c ++ rest) =
      (takeShort '"' rest).map fun (body, rest) => (Quoted.escape c ++ body, rest) := by
  -- No digit ends the literal.
  have digits : ∀ digit ∈ hexDigits 4 c.toNat, digit ≠ '\\' ∧ digit ≠ '"' ∧ digit ≠ '\n' := by
    intro digit member
    obtain ⟨value, small, rfl⟩ := exists_of_mem_hexDigits member
    have tried : ∀ value < 16,
        hexDigit value ≠ '\\' ∧ hexDigit value ≠ '"' ∧ hexDigit value ≠ '\n' := by
      decide
    exact tried value small
  unfold Quoted.escape
  -- Quote, backslash and the named controls are written with a mark.
  repeat
    split
    · exact takeShort_mark '"' _ rest
  split
  · rw [List.cons_append, List.cons_append, takeShort_mark, takeShort_plain digits, Option.map_map]
    rfl
  · refine takeShort_plain ?_ rest
    simp_all

/-- The body of a literal is taken up to the quote behind it. -/
theorem takeShort_body (value rest : List Char) :
    takeShort '"' (Quoted.body value ++ '"' :: rest) = some (Quoted.body value, rest) := by
  -- The escape of one character is taken as a whole, and the induction takes the rest.
  induction value with
  | nil => simp [Quoted.body, takeShort]
  | cons c later ih =>
    rw [Quoted.body, List.flatMap_cons, ← Quoted.body, List.append_assoc, takeShort_escape, ih]
    rfl

/-- No escape begins with a quote. -/
theorem escape_eq_cons (c : Char) : ∃ mark later, Quoted.escape c = mark :: later ∧ mark ≠ '"' := by
  -- The quote itself is escaped, so all cases begin with another mark.
  unfold Quoted.escape
  repeat' split
  all_goals simp_all

/-- A written literal is read as its text, unless another quote follows. -/
theorem take_quoted (value : String) {rest : List Char} (single : '"' ∉ rest.head?) :
    take [] '"' (Quoted.body value.toList ++ '"' :: rest) = some (.text value false, rest) := by
  -- Only three quotes in a row would begin a long literal.
  have notLong : ∀ b c later, Quoted.body value.toList ++ '"' :: rest = b :: c :: later →
      ¬ (b = '"' ∧ c = '"') := by
    rintro b c later whole ⟨rfl, rfl⟩
    cases written : value.toList with
    | nil =>
      rw [written] at whole
      obtain ⟨-, rfl⟩ := List.cons.inj whole
      simp at single
    | cons first others =>
      obtain ⟨mark, tail, escaped, notQuote⟩ := escape_eq_cons first
      rw [written, Quoted.body, List.flatMap_cons, escaped] at whole
      exact notQuote (List.cons.inj whole).1
  have body : takeBody '"' (Quoted.body value.toList ++ '"' :: rest) =
      some (Quoted.body value.toList, rest) := by
    unfold takeBody
    split
    · rename_i b c later same
      rw [if_neg (notLong b c later same), takeShort_body]
    · exact takeShort_body _ _
  have read : ofBody? [] (Quoted.body value.toList) = some (.text value false) := by
    simp [ofBody?, Escape.decode_body]
  simp [take, body, read]

/-- A character that begins no escape is taken, unless three closing quotes begin with it. -/
theorem takeLong_cons {quote c : Char} (notBackslash : c ≠ '\\') (rest : List Char) :
    takeLong quote (c :: rest) =
      if c = quote ∧ rest.take 2 = [quote, quote] then some ([], rest.drop 2)
      else (takeLong quote rest).map fun (body, rest) => (c :: body, rest) := by
  -- Only the two cases of a backslash are ruled out.
  rw [takeLong.eq_def]
  split
  · simp_all
  · simp_all
  · rename_i same
    cases same
    rfl

/-- Text without quotes and backslashes is taken up to three quotes behind it. -/
theorem takeLong_plain {text : List Char} (plain : ∀ c ∈ text, c ≠ '\\' ∧ c ≠ '"')
    (rest : List Char) :
    takeLong '"' (text ++ '"' :: '"' :: '"' :: rest) = some (text, rest) := by
  -- No character begins an escape, and none is a quote that could close early.
  induction text with
  | nil => simp [takeLong]
  | cons c later ih =>
    obtain ⟨notBackslash, notQuote⟩ := plain c List.mem_cons_self
    have others := ih fun other member => plain other (List.mem_cons_of_mem c member)
    rw [List.cons_append, takeLong_cons notBackslash, if_neg fun both => notQuote both.1, others]
    rfl

/-- What is taken up to three closing quotes holds at least these. -/
theorem three_le_of_takeLong {quote : Char} {text body rest : List Char}
    (taken : takeLong quote text = some (body, rest)) : 3 ≤ text.length := by
  -- Only the case that closes ends the recursion, and it has three quotes.
  fun_induction takeLong quote text generalizing body rest with
  | case1 => cases taken
  | case2 => cases taken
  | case3 c behind ih =>
    obtain ⟨_, found, -⟩ := Option.map_eq_some_iff.mp taken
    have long := ih found
    simp only [List.length_cons]
    omega
  | case4 c behind _ closed =>
    have two := congrArg List.length closed.2
    simp only [List.length_take, List.length_cons, List.length_nil] at two ⊢
    omega
  | case5 c behind _ _ ih =>
    obtain ⟨_, found, -⟩ := Option.map_eq_some_iff.mp taken
    have long := ih found
    simp only [List.length_cons]
    omega

/-- What is taken up to three closing quotes is taken in front of any other text. -/
theorem takeLong_append {quote : Char} {text body rest : List Char}
    (taken : takeLong quote text = some (body, rest)) (later : List Char) :
    takeLong quote (text ++ later) = some (body, rest ++ later) := by
  fun_induction takeLong quote text generalizing body rest with
  | case1 => cases taken
  | case2 => cases taken
  | case3 c behind ih =>
    obtain ⟨_, found, same⟩ := Option.map_eq_some_iff.mp taken
    cases same
    rw [List.cons_append, List.cons_append, takeLong, ih found]
    rfl
  | case4 c behind notBackslash closed =>
    cases taken
    have two := congrArg List.length closed.2
    simp only [List.length_take, List.length_cons, List.length_nil] at two
    have enough : 2 ≤ behind.length := by omega
    rw [List.cons_append, takeLong_cons notBackslash, List.take_append_of_le_length enough,
      if_pos closed, List.drop_append_of_le_length enough]
  | case5 c behind notBackslash unclosed ih =>
    obtain ⟨_, found, same⟩ := Option.map_eq_some_iff.mp taken
    cases same
    -- As the text behind is closed, no quotes of the text that is put there close it earlier.
    have enough : 2 ≤ behind.length := Nat.le_of_succ_le (three_le_of_takeLong found)
    rw [List.cons_append, takeLong_cons notBackslash, List.take_append_of_le_length enough,
      if_neg unclosed, ih found]
    rfl

/-- What a text between three quotes stands for, if it is one literal. -/
def longText? (text : List Char) : Option LiteralText :=
  match takeLong '"' (text ++ ['"', '"', '"']) with
  | some (body, []) => Escape.decode body
  | _ => none

/-- A text without quotes and backslashes stands for itself between three quotes. -/
theorem longText?_plain {text : List Char} (plain : ∀ c ∈ text, c ≠ '\\' ∧ c ≠ '"') :
    longText? text = some (.plain (String.ofList text)) := by
  -- The text is taken as a whole and decodes to itself.
  have decoded : Escape.decode text = some (.plain (String.ofList text)) :=
    Escape.decode_plain fun c member => (plain c member).1
  rw [longText?, takeLong_plain plain]
  exact decoded

/-- A text that is one literal between three quotes is read as that. -/
theorem take_long {text : List Char} {value : LiteralText} (whole : longText? text = some value)
    (rest : List Char) :
    take [] '"' ('"' :: '"' :: (text ++ '"' :: '"' :: '"' :: rest)) =
      some (.text value false, rest) := by
  -- What closes the text alone closes it before any rest.
  unfold longText? at whole
  split at whole
  · rename_i body taken
    have behind := takeLong_append taken rest
    simp only [List.append_assoc, List.cons_append, List.nil_append] at behind
    have read : ofBody? [] body = some (.text value false) := by
      simp [ofBody?, whole]
    simp [take, takeBody, behind, read]
  · cases whole

end Quotation

end PermissionNames.Source
