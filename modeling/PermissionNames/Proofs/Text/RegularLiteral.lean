import PermissionNames.Proofs.Text.Quoted
import PermissionNames.Text.RegularLiteral

/-! Quoted texts as regular literals, and where lines end in and around them. -/

namespace PermissionNames.RegularLiteral

-- What holds throughout a text is found out by trying its characters, not all characters there are.
attribute [local instance (high)] List.decidableBAll

section Literals

/-- The wide line ends lie beyond all controls below the blank. -/
theorem notMem_wideEnds {c : Char} (small : c.toNat < 0x80) : c ∉ wideEnds := by
  -- There are only a few wide line ends, so their numbers are compared.
  intro member
  have tried : ∀ c ∈ wideEnds, 0x80 ≤ c.toNat := by decide
  have large := tried c member
  omega

/-- Behind a backslash a mark is taken for its code unit. -/
theorem takeBody_mark {mark : Char} {unit : Nat} (marked : simple? mark = some unit)
    (rest : List Char) :
    takeBody ('\\' :: mark :: rest) = (takeBody rest).map (ahead [unit]) := by
  -- The mark is none of digits, so it is looked up by itself.
  have other : mark ≠ 'u' := by
    rintro rfl
    cases marked
  rw [takeBody, marked]
  · cases takeBody rest <;> rfl
  · intro _ _ _ _ _ same
    exact absurd same other

/-- Behind a backslash four digits are taken for the code unit that they write. -/
theorem takeBody_number {number : Nat} (small : number < 0x10000) (rest : List Char) :
    takeBody ('\\' :: 'u' :: (hexDigits 4 number ++ rest)) =
      (takeBody rest).map (ahead [number]) := by
  -- The four digits are read back as the number they were written from.
  have read := Source.Escape.hexadecimal?_hexDigits small []
  simp only [hexDigits, List.nil_append, List.cons_append, List.append_nil] at read ⊢
  rw [takeBody, read]
  cases takeBody rest <;> rfl

/-- What a character is written as is taken for its code units, unless the character is a wide line end, which breaks the literal. -/
theorem takeBody_escape (c : Char) (rest : List Char) :
    takeBody (Quoted.escape c ++ rest) =
      if c ∈ wideEnds then none else (takeBody rest).map (ahead (units c)) := by
  unfold Quoted.escape
  -- Quote, backslash and the named controls are written with a mark.
  repeat
    split
    · rename_i same
      rw [same]
      exact takeBody_mark rfl rest
  rename_i notQuote notBackslash notNewline notReturn _ _ _
  split
  · rename_i control
    have itself : units c = [c.toNat] := if_pos (by omega)
    rw [if_neg (notMem_wideEnds (by omega)), itself]
    exact takeBody_number (by omega) rest
  -- All other characters stand for themselves, wide line ends included.
  · have ends : endsLine c = decide (c ∈ wideEnds) := by simp [endsLine, notNewline, notReturn]
    rw [List.singleton_append, takeBody, ends]
    · simp [notBackslash]
    all_goals simp [notQuote, notBackslash]

/-- The body of a literal is taken for the code units of what was written, unless that holds a wide line end. -/
theorem takeBody_body (value rest : List Char) :
    takeBody (Quoted.body value ++ '"' :: rest) =
      if ∀ c ∈ value, c ∉ wideEnds then some (value.flatMap units, rest) else none := by
  -- Each character is taken from its own escape, unless it ends the line.
  induction value with
  | nil => simp [Quoted.body, takeBody]
  | cons c later ih =>
    rw [Quoted.body, List.flatMap_cons, ← Quoted.body, List.append_assoc, takeBody_escape, ih]
    by_cases breaks : c ∈ wideEnds
    · simp [breaks]
    · simp only [breaks, if_false, List.forall_mem_cons, not_false_eq_true, true_and]
      split <;> simp [ahead]

/-- A quoted text is a regular literal that denotes it, whatever stands behind, exactly if it holds no wide line end; with one it is no literal at all. -/
theorem take_quoted (value : String) (behind : List Char) :
    take ((quoted value).toList ++ behind) =
      if ∀ c ∈ value.toList, c ∉ wideEnds then some (unitsOf value, behind) else none := by
  -- The opening quote is taken, and then the body with the closing one.
  have written : (quoted value).toList ++ behind =
      '"' :: (Quoted.body value.toList ++ '"' :: behind) := by simp [quoted, Quoted.encode]
  rw [written, take, takeBody_body]
  rfl

example : take "\"own\\u00e9\\\\\";".toList = some ([0x6F, 0x77, 0x6E, 0xE9, 0x5C], [';']) := by
  decide

/-- Every character has a code unit. -/
theorem units_ne_nil (c : Char) : units c ≠ [] := by
  -- A character is one unit or two.
  unfold units
  split <;> simp

/-- The code units of a character tell it and where they end. -/
theorem units_append_inj {first second : Char} {later others : List Nat}
    (same : units first ++ later = units second ++ others) : first = second ∧ later = others := by
  have valid (c : Char) : c.toNat < 0xD800 ∨ 0xDFFF < c.toNat ∧ c.toNat < 0x110000 := c.valid
  have one := valid first
  have other := valid second
  -- Surrogates are no characters, so the first unit tells how many there are.
  unfold units at same
  split at same <;> split at same <;>
    simp only [List.cons_append, List.nil_append, List.cons.injEq] at same
  · exact ⟨Char.toNat_inj.mp same.1, same.2⟩
  · omega
  · omega
  · obtain ⟨high, low, rest⟩ := same
    exact ⟨Char.toNat_inj.mp (by omega), rest⟩

/-- Different texts have different code units. -/
theorem unitsOf_injective : Function.Injective unitsOf := by
  -- The units of the first characters are cut off on both sides and compared.
  have general : ∀ first second : List Char,
      first.flatMap units = second.flatMap units → first = second := by
    intro first
    induction first with
    | nil =>
      intro second same
      cases second with
      | nil => rfl
      | cons c others => simp [units_ne_nil] at same
    | cons c later ih =>
      intro second same
      cases second with
      | nil => simp [units_ne_nil] at same
      | cons other others =>
        obtain ⟨rfl, rest⟩ := units_append_inj (by simpa using same)
        rw [ih others rest]
  exact fun first second same => String.toList_injective (general _ _ same)

end Literals

section Lines

variable {line text : List Char}

/-- A text without line ends is one line in front of a newline. -/
theorem lexicalLines_append (clean : ∀ c ∈ line, endsLine c = false) (rest : List Char) :
    lexicalLines (line ++ '\n' :: rest) = line :: lexicalLines rest := by
  -- No character of the line ends it, so it goes on up to the newline.
  induction line with
  | nil => rfl
  | cons c later ih =>
    rw [List.forall_mem_cons] at clean
    have notReturn : c ≠ '\r' := by
      rintro rfl
      exact absurd clean.1 (by decide)
    rw [List.cons_append, lexicalLines, clean.1, ih clean.2]
    · rfl
    · intro _ same
      exact absurd same notReturn

/-- Behind a newline the lines are those of what follows. -/
theorem exists_lexicalLines_append (before rest : List Char) :
    ∃ first others, lexicalLines (before ++ '\n' :: rest) = first :: (others ++ lexicalLines rest) := by
  induction before using lexicalLines.induct with
  | case1 => exact ⟨[], [], rfl⟩
  | case2 later ih =>
    obtain ⟨first, others, lines⟩ := ih
    exact ⟨[], first :: others, by simp [lexicalLines, lines]⟩
  | case3 c later apart ends ih =>
    obtain ⟨first, others, lines⟩ := ih
    by_cases joined : c = '\r' ∧ later = []
    -- A carriage return right in front of the newline ends the line together with it.
    · obtain ⟨rfl, rfl⟩ := joined
      exact ⟨[], [], rfl⟩
    · refine ⟨[], first :: others, ?_⟩
      rw [List.cons_append, lexicalLines, if_pos ends, lines]
      · rfl
      · rintro _ rfl same
        cases later with
        | nil => exact joined ⟨rfl, rfl⟩
        | cons d more =>
          obtain ⟨rfl, -⟩ := List.cons.inj same
          exact apart more rfl rfl
  | case4 c later apart inside ih =>
    obtain ⟨first, others, lines⟩ := ih
    refine ⟨c :: first, others, ?_⟩
    rw [List.cons_append, lexicalLines, if_neg inside, lines]
    · rfl
    · rintro _ rfl
      exact absurd rfl inside

/-- No line holds a line end. -/
theorem endsLine_of_mem_lexicalLines (listed : line ∈ lexicalLines text) :
    ∀ c ∈ line, endsLine c = false := by
  induction text using lexicalLines.induct generalizing line with
  | case1 =>
    rw [List.mem_singleton.mp listed]
    simp
  | case2 later ih =>
    rw [lexicalLines] at listed
    rcases List.mem_cons.mp listed with rfl | behind
    · simp
    · exact ih behind
  | case3 c later apart ends ih =>
    rw [lexicalLines.eq_3 c later apart, if_pos ends] at listed
    rcases List.mem_cons.mp listed with rfl | behind
    · simp
    · exact ih behind
  | case4 c later apart inside ih =>
    rw [lexicalLines.eq_3 c later apart, if_neg inside] at listed
    -- The character stands at the start of the first line.
    cases lines : lexicalLines later with
    | nil => simp [lines] at listed
    | cons first others =>
      rw [lines] at listed ih
      rcases List.mem_cons.mp listed with rfl | behind
      · exact List.forall_mem_cons.mpr ⟨by simpa using inside, ih List.mem_cons_self⟩
      · exact ih (List.mem_cons_of_mem first behind)

/-- One of the texts that newlines end is a line exactly if it holds no line end. -/
theorem mem_lexicalLines_iff {texts : List (List Char)} (listed : line ∈ texts) :
    line ∈ lexicalLines (texts.flatMap fun text => text ++ ['\n']) ↔
      ∀ c ∈ line, endsLine c = false := by
  -- A line with a line end inside is cut, and one without is found where its newline ends it.
  refine ⟨endsLine_of_mem_lexicalLines, fun clean => ?_⟩
  induction texts with
  | nil => cases listed
  | cons first later ih =>
    rw [List.flatMap_cons, List.append_assoc, List.singleton_append]
    rcases List.mem_cons.mp listed with rfl | behind
    · rw [lexicalLines_append clean]
      exact List.mem_cons_self
    · obtain ⟨begin, others, lines⟩ := exists_lexicalLines_append first
        (later.flatMap fun text => text ++ ['\n'])
      rw [lines]
      exact List.mem_cons_of_mem begin (List.mem_append_right others (ih behind))

/-- Of the wide line ends, what a character is written as holds only that character itself. -/
theorem mem_escape_iff {wide : Char} (listed : wide ∈ wideEnds) (c : Char) :
    wide ∈ Quoted.escape c ↔ wide = c := by
  have beyond : ∀ mark : Char, mark.toNat < 0x80 → wide ≠ mark := by
    rintro mark small rfl
    exact notMem_wideEnds small listed
  have digits : wide ∉ hexDigits 4 c.toNat := by
    intro member
    obtain ⟨value, small, digit⟩ := exists_of_mem_hexDigits member
    have tried : ∀ value < 16, (hexDigit value).toNat < 0x80 := by decide
    exact beyond _ (tried value small) digit
  unfold Quoted.escape
  repeat' split
  all_goals simp_all
  -- A control below the blank is no wide line end.
  exact beyond c (by omega)

/-- A literal holds line ends exactly if what is quoted holds wide ones. -/
theorem endsLine_quoted_iff (value : String) :
    (∀ c ∈ (quoted value).toList, endsLine c = false) ↔ ∀ c ∈ value.toList, c ∉ wideEnds := by
  -- The narrow line ends are escaped in literals, and the wide ones are not.
  have newline := control_not_mem_quoted (c := '\n') (by decide) value
  have carriageReturn := control_not_mem_quoted (c := '\r') (by decide) value
  have wide : ∀ c ∈ wideEnds, c ∈ (quoted value).toList ↔ c ∈ value.toList := by
    intro c listed
    have notQuote : c ≠ '"' := by
      rintro rfl
      exact notMem_wideEnds (by decide) listed
    simp [quoted, Quoted.encode, Quoted.body, mem_escape_iff listed, notQuote]
  constructor
  · intro clean c member listed
    have ends := clean c ((wide c listed).mpr member)
    simp [endsLine, listed] at ends
  · intro narrow c member
    have notNewline : c ≠ '\n' := ne_of_mem_of_not_mem member newline
    have notReturn : c ≠ '\r' := ne_of_mem_of_not_mem member carriageReturn
    have notWide : c ∉ wideEnds := fun listed => narrow c ((wide c listed).mp member) listed
    simp [endsLine, notNewline, notReturn, notWide]

end Lines

end PermissionNames.RegularLiteral
