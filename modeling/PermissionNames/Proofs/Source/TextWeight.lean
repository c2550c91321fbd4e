import PermissionNames.Proofs.Source.Escape
import PermissionNames.Proofs.Source.ExpressionWeight
import PermissionNames.Proofs.Source.LongLiteral
import PermissionNames.Source.Reading

/-! What the lexemes of a text weigh together is no more than the text, so a type in quotes is shorter than the text that quotes it. -/

namespace PermissionNames.Source

/-- The length of a quoted text, and one for its quotes. -/
def Quotation.weight : Quotation → Nat
  | .text value _ => value.length + 1
  | _ => 0

/-- What a lexeme weighs, which is nothing if it quotes no text. -/
def Lexeme.weight : Lexeme → Nat
  | .quotation value => value.weight
  | _ => 0

/-- What the text weighs that stands where an expression goes on as a type: in an index, and first in a tuple. -/
def Expression.weight : Expression → Nat
  | .constant (.text value _) => value.length + 1
  | .subscript _ index => weight index
  | .tuple (first :: _) => weight first
  | _ => 0

/-- Texts that are joined are no longer than what the literals weigh without the quotes. -/
theorem length_join_plainTexts {literals : List Quotation} {texts : List LiteralText}
    (plain : Grammar.plainTexts literals = some texts) :
    (LiteralText.join texts).length + literals.length ≤ total Quotation.weight literals := by
  -- Each literal weighs the length of its text and one more.
  induction literals generalizing texts with
  | nil =>
    cases plain
    exact Nat.le_refl _
  | cons first rest ih =>
    cases first with
    | text value marked =>
      obtain ⟨others, behind, rfl⟩ := Option.map_eq_some_iff.mp plain
      have shorter := ih behind
      rw [LiteralText.length_join_cons, List.length_cons, total_cons, Quotation.weight]
      omega
    | bytes value => cases plain
    | template raw body => cases plain

/-- The scale on which quoted texts count. -/
def Scale.ofTexts : Scale where
  lexeme := Lexeme.weight
  expression := Expression.weight
  light {value} light := by
    unfold Expression.mayWeigh at light
    split at light
    · cases light
    · cases light
    · cases light
    · cases light
    · rw [Expression.weight] <;> assumption
  name spelling := Nat.le_refl _
  text {literals texts} marked plain several := by
    have shorter := length_join_plainTexts plain
    have counted := List.length_pos_iff.mpr several
    change (LiteralText.join texts).length + 1 ≤ total Quotation.weight literals
    omega
  subscript operand index := Nat.le_refl _
  tuple first rest := Nat.le_refl _

namespace Numeral

/-- Digits leave no more than what is in front. -/
theorem length_takeDigits_le {base : Nat} {text digits rest : List Char}
    (taken : takeDigits base text = some (digits, rest)) : rest.length ≤ text.length := by
  -- The digits are taken one by one, with or without an underscore in front, so the cases are
  -- those of the reader.
  fun_induction takeDigits base text generalizing digits rest with
  | case1 => simp_all
  | case2 => cases taken
  | case3 c later digit ih =>
    obtain ⟨⟨others, behind⟩, first, same⟩ := Option.map_eq_some_iff.mp taken
    cases same
    have shorter := ih first
    simp only [List.length_cons]
    omega
  | case4 => cases taken
  | case5 c later _ digit ih =>
    obtain ⟨⟨others, behind⟩, first, same⟩ := Option.map_eq_some_iff.mp taken
    cases same
    have shorter := ih first
    simp only [List.length_cons]
    omega
  | case6 => simp_all

/-- A value that is closed leaves what follows it. -/
theorem closed_eq_some {α : Type} {value found : α} {text rest : List Char}
    (taken : closed value text = some (found, rest)) : rest = text := by
  -- What closes a number is looked at only, and not taken.
  unfold closed at taken
  split at taken
  · cases taken
    rfl
  · cases taken

/-- A number in a base leaves no more than what is in front. -/
theorem length_takeBased_le {base : Nat} {text rest : List Char} {value : Numeral}
    (taken : takeBased base text = some (value, rest)) : rest.length ≤ text.length := by
  -- The digits are taken from the text, and closing them takes nothing.
  obtain ⟨⟨digits, behind⟩, first, taken⟩ := Option.bind_eq_some_iff.mp taken
  dsimp only at taken
  split at taken
  · cases taken
  · cases closed_eq_some taken
    exact length_takeDigits_le first

/-- Digits that may be missing leave no more than what is in front. -/
theorem length_takeFraction_le {text digits rest : List Char}
    (taken : takeFraction text = some (digits, rest)) : rest.length ≤ text.length := by
  -- A fraction that is missing takes nothing.
  unfold takeFraction at taken
  split at taken
  · split at taken
    · exact length_takeDigits_le taken
    · cases taken
      exact le_rfl
  · cases taken
    exact le_rfl

/-- An exponent leaves no more than what is in front. -/
theorem length_takeExponent_le {text rest : List Char} {power : Option Int}
    (taken : takeExponent text = some (power, rest)) : rest.length ≤ text.length := by
  -- Behind the mark of an exponent stand digits, with a sign or without; else nothing is taken.
  unfold takeExponent at taken
  split at taken
  · split at taken
    · split at taken
      · cases taken
        exact le_rfl
      · split at taken
        · split at taken
          · cases taken
          · split at taken
            · obtain ⟨⟨digits, behind⟩, first, same⟩ := Option.bind_eq_some_iff.mp taken
              cases same
              have shorter := length_takeDigits_le first
              simp only [List.length_cons] at shorter ⊢
              omega
            · cases taken
        · split at taken
          · obtain ⟨⟨digits, behind⟩, first, same⟩ := Option.bind_eq_some_iff.mp taken
            cases same
            have shorter := length_takeDigits_le first
            simp only [List.length_cons] at shorter ⊢
            omega
          · cases taken
            exact le_rfl
    · cases taken
      exact le_rfl
  · cases taken
    exact le_rfl

/-- A decimal number leaves no more than what is in front. -/
theorem length_takeDecimal_le {text rest : List Char} {value : Numeral}
    (taken : takeDecimal text = some (value, rest)) : rest.length ≤ text.length := by
  obtain ⟨⟨whole, behindWhole⟩, first, taken⟩ := Option.bind_eq_some_iff.mp taken
  have afterWhole := length_takeFraction_le first
  dsimp only at taken
  split at taken
  -- With a fraction or without, an exponent and the mark of an imaginary number may follow.
  all_goals
    obtain ⟨⟨hasPoint, fraction, behind⟩, second, taken⟩ := Option.bind_eq_some_iff.mp taken
    obtain ⟨⟨power, behindPower⟩, third, taken⟩ := Option.bind_eq_some_iff.mp taken
    have afterPower := length_takeExponent_le third
    have shorter : rest.length ≤ behindPower.length := by
      dsimp only at taken
      split at taken
      · cases closed_eq_some taken
        exact Nat.le_succ _
      · cases closed_eq_some taken
        exact Nat.le_succ _
      · split at taken
        · exact (congrArg List.length (closed_eq_some taken)).le
        · obtain ⟨digits, -, taken⟩ := Option.bind_eq_some_iff.mp taken
          exact (congrArg List.length (closed_eq_some taken)).le
  · obtain ⟨⟨digits, later⟩, digitsTaken, same⟩ := Option.map_eq_some_iff.mp second
    cases same
    have afterFraction := length_takeFraction_le digitsTaken
    simp only [List.length_cons] at afterWhole afterPower
    omega
  · cases second
    exact shorter.trans (afterPower.trans afterWhole)

/-- A number leaves no more than what is in front. -/
theorem length_take_le {text rest : List Char} {value : Numeral}
    (taken : take text = some (value, rest)) : rest.length ≤ text.length := by
  -- The letter behind a zero tells the base; all other numbers are decimal.
  unfold take at taken
  split at taken
  · have based : ∀ base later, takeBased base later = some (value, rest) →
        rest.length ≤ later.length + 2 :=
      fun base later taken => Nat.le_add_right_of_le (length_takeBased_le taken)
    split at taken
    · exact based _ _ taken
    · split at taken
      · exact based _ _ taken
      · split at taken
        · exact based _ _ taken
        · exact length_takeDecimal_le taken
  · exact length_takeDecimal_le taken

end Numeral

namespace Quotation

variable {quote : Char} {text body rest : List Char}

/-- A short literal and what follows it are shorter than the text with its closing quote. -/
theorem length_takeShort_lt (taken : takeShort quote text = some (body, rest)) :
    body.length + rest.length < text.length := by
  -- Every character is counted when it is taken, and the closing quote is one more.
  fun_induction takeShort quote text generalizing body rest with
  | case1 => cases taken
  | case2 => cases taken
  | case3 c later ih =>
    obtain ⟨⟨others, behind⟩, first, same⟩ := Option.map_eq_some_iff.mp taken
    cases same
    have shorter := ih first
    simp only [List.length_cons]
    omega
  | case4 =>
    cases taken
    simp
  | case5 => cases taken
  | case6 c later _ _ _ ih =>
    obtain ⟨⟨others, behind⟩, first, same⟩ := Option.map_eq_some_iff.mp taken
    cases same
    have shorter := ih first
    simp only [List.length_cons]
    omega

/-- A long literal and what follows it are shorter than the text with its closing quotes. -/
theorem length_takeLong_lt (taken : takeLong quote text = some (body, rest)) :
    body.length + rest.length < text.length := by
  -- Every character is counted when it is taken, and the three closing quotes are more.
  fun_induction takeLong quote text generalizing body rest with
  | case1 => cases taken
  | case2 => cases taken
  | case3 c later ih =>
    obtain ⟨⟨others, behind⟩, first, same⟩ := Option.map_eq_some_iff.mp taken
    cases same
    have shorter := ih first
    simp only [List.length_cons]
    omega
  | case4 =>
    cases taken
    simp only [List.length_nil, List.length_drop, List.length_cons]
    omega
  | case5 c later _ _ ih =>
    obtain ⟨⟨others, behind⟩, first, same⟩ := Option.map_eq_some_iff.mp taken
    cases same
    have shorter := ih first
    simp only [List.length_cons]
    omega

/-- The inside of a literal and what follows it are shorter than the text behind the first quote. -/
theorem length_takeBody_lt (taken : takeBody quote text = some (body, rest)) :
    body.length + rest.length < text.length := by
  -- Two more quotes at the start make a long literal, else it is a short one.
  unfold takeBody at taken
  split at taken
  · split at taken
    · have shorter := length_takeLong_lt taken
      simp only [List.length_cons]
      omega
    · exact length_takeShort_lt taken
  · exact length_takeShort_lt taken

/-- A literal weighs no more than its inside and one quote. -/
theorem weight_le_of_ofBody? {letters : List Char} {value : Quotation}
    (read : ofBody? letters body = some value) : value.weight ≤ body.length + 1 := by
  unfold ofBody? at read
  dsimp only at read
  split at read
  · cases read
    exact Nat.zero_le _
  · split at read
    · split at read
      · obtain ⟨bytes, -, rfl⟩ := Option.map_eq_some_iff.mp read
        exact Nat.zero_le _
      · cases read
    · obtain ⟨decoded, meant, rfl⟩ := Option.map_eq_some_iff.mp read
      simp only [weight, Nat.add_le_add_iff_right]
      -- A raw literal is its inside, and any other decodes to no more than that.
      split at meant
      · cases meant
        simp [LiteralText.length]
      · exact Escape.length_decode_le meant

/-- A literal weighs no more than the text that is taken behind its first quote. -/
theorem weight_take_le {letters : List Char} {value : Quotation}
    (taken : take letters quote text = some (value, rest)) :
    value.weight + rest.length ≤ text.length := by
  -- The value weighs what stands between the quotes, which is shorter than the text with its end.
  obtain ⟨⟨inside, behind⟩, first, taken⟩ := Option.bind_eq_some_iff.mp taken
  obtain ⟨read, meant, same⟩ := Option.bind_eq_some_iff.mp taken
  cases same
  have shorter := length_takeBody_lt first
  have lighter := weight_le_of_ofBody? meant
  omega

end Quotation

namespace Piece

/-- A measured indentation leaves no more than what is in front. -/
theorem length_takeColumn_le {start column : Column} {kept : Nat} {text rest : List Char}
    (taken : takeColumn start kept text = some (column, rest)) : rest.length ≤ text.length := by
  -- Blanks, comments and joined lines are passed one by one until something else begins the line.
  fun_induction takeColumn start kept text with
  | case1 _ _ _ ih => exact Nat.le_succ_of_le (ih taken)
  | case2 _ _ _ ih => exact Nat.le_succ_of_le (ih taken)
  | case3 _ _ _ ih => exact Nat.le_succ_of_le (ih taken)
  | case4 => cases taken
  | case5 _ _ _ _ ih => exact Nat.le_succ_of_le (Nat.le_succ_of_le (ih taken))
  | case6 => cases taken
  | case7 =>
    cases taken
    exact le_rfl

/-- The start of a line weighs nothing and leaves no more than what is in front. -/
theorem weight_takeLine_le {text rest : List Char} {piece : Piece}
    (taken : takeLine text = some (piece, rest)) :
    piece.weight Lexeme.weight + rest.length ≤ text.length := by
  -- The indentation is all that is taken, and it weighs nothing.
  obtain ⟨⟨column, behind⟩, measured, same⟩ := Option.map_eq_some_iff.mp taken
  cases same
  simpa [weight] using length_takeColumn_le measured

/-- A word is a lexeme that weighs nothing. -/
theorem weight_ofWord? {word : Identifier.Word} {found : Lexeme}
    (read : Lexeme.ofWord? word = some found) : found.weight = 0 := by
  -- Keywords and names weigh nothing, as only literals do.
  unfold Lexeme.ofWord? at read
  dsimp only at read
  split at read
  · cases read
    rfl
  · split at read <;> cases read
    rfl

/-- A word, or the literal that it introduces, weighs no more than the text that is taken. -/
theorem weight_takeWord_le {text rest : List Char} {piece : Piece}
    (taken : takeWord text = some (piece, rest)) :
    piece.weight Lexeme.weight + rest.length ≤ text.length := by
  have behind : (text.dropWhile Identifier.continuesWord).length ≤ text.length :=
    (List.dropWhile_suffix _).length_le
  unfold takeWord at taken
  dsimp only at taken
  split at taken
  · rename_i c later same
    rw [same, List.length_cons] at behind
    -- Quotes behind the word make it the mark of a literal.
    split at taken
    · obtain ⟨⟨value, remaining⟩, literal, same⟩ := Option.bind_eq_some_iff.mp taken
      cases same
      have lighter := Quotation.weight_take_le literal
      simp only [weight, Lexeme.weight]
      omega
    · obtain ⟨found, word, same⟩ := Option.bind_eq_some_iff.mp taken
      cases same
      rw [weight, weight_ofWord? word, same, List.length_cons]
      omega
  · obtain ⟨found, word, same⟩ := Option.bind_eq_some_iff.mp taken
    cases same
    simp [weight, weight_ofWord? word]

/-- A piece weighs no more than the text that is taken. -/
theorem weight_take_le {c : Char} {text rest : List Char} {piece : Piece}
    (taken : take c text = some (piece, rest)) :
    piece.weight Lexeme.weight + rest.length ≤ text.length + 1 := by
  -- The cases are a line end, a comment, a word, a number, a literal and a sign, in this order.
  unfold take at taken
  split at taken
  · exact Nat.le_succ_of_le (weight_takeLine_le taken)
  · split at taken
    · cases taken
      have behind := (List.dropWhile_suffix (· ≠ '\n') (l := text)).length_le
      simp only [weight]
      omega
    · split at taken
      · exact weight_takeWord_le taken
      · split at taken
        · obtain ⟨⟨value, behind⟩, number, same⟩ := Option.map_eq_some_iff.mp taken
          cases same
          simpa [weight, Lexeme.weight] using Numeral.length_take_le number
        · split at taken
          · obtain ⟨⟨value, behind⟩, literal, same⟩ := Option.map_eq_some_iff.mp taken
            cases same
            exact Nat.le_succ_of_le (Quotation.weight_take_le literal)
          · obtain ⟨sign, -, same⟩ := Option.map_eq_some_iff.mp taken
            cases same
            simp only [weight, Lexeme.weight, List.length_drop, List.length_cons]
            omega

/-- The pieces of a text that does not start a line weigh no more than it. -/
theorem weight_within_le {limit : Nat} {text : List Char} {pieces : List Piece}
    (cut : within limit text = some pieces) :
    total (weight Lexeme.weight) pieces ≤ text.length := by
  -- The pieces are cut off one after the other, each weighing no more than the characters it
  -- takes.
  fun_induction within limit text generalizing pieces with
  | case1 =>
    cases cut
    exact le_rfl
  | case2 => cases cut
  | case3 limit c rest _ ih => exact Nat.le_succ_of_le (ih cut)
  | case4 limit next later _ ih =>
    have lighter := ih cut
    simp only [List.length_cons] at lighter ⊢
    omega
  | case5 => cases cut
  | case6 limit c rest _ _ ih =>
    obtain ⟨⟨piece, behind⟩, first, cut⟩ := Option.bind_eq_some_iff.mp cut
    obtain ⟨others, later, same⟩ := Option.bind_eq_some_iff.mp cut
    cases same
    have lighter := weight_take_le first
    have others := ih _ later
    simp only [total_cons, List.length_cons]
    omega

/-- The pieces of a text weigh no more than it. -/
theorem weight_ofText?_le {text : List Char} {pieces : List Piece}
    (cut : ofText? text = some pieces) : total (weight Lexeme.weight) pieces ≤ text.length := by
  -- The first piece is the start of a line, and the others are cut from what is behind it.
  obtain ⟨⟨first, rest⟩, line, cut⟩ := Option.bind_eq_some_iff.mp cut
  obtain ⟨others, later, same⟩ := Option.bind_eq_some_iff.mp cut
  cases same
  have lighter := weight_takeLine_le line
  have others := weight_within_le later
  simp only [total_cons]
  omega

end Piece

/-- The lexemes of a text weigh no more than it. -/
theorem total_lexemes?_le {text : List Char} {lexemes : List Lexeme}
    (lexed : lexemes? text = some lexemes) : total Lexeme.weight lexemes ≤ text.length := by
  -- Resolving the layout adds only lexemes that weigh nothing to the pieces of the text.
  obtain ⟨pieces, cut, resolved⟩ := Option.bind_eq_some_iff.mp lexed
  exact (Layout.total_resolveFrom_le ⟨rfl, rfl, rfl⟩ resolved).trans (Piece.weight_ofText?_le cut)

/-- The text in which the type of an expression goes on is shorter, by its quotes, than the text that the expression is read from. -/
theorem weight_le_of_readExpression {text : String} {value : Expression}
    (read : readExpression text = .ok value) : value.weight ≤ text.length := by
  -- Parsing, resolving the layout, cutting and unifying newlines each leave no more than they get.
  unfold readExpression readWhole at read
  split at read
  · cases read
  · split at read
    · rename_i found rest taken
      cases read
      obtain ⟨lexemes, lexed, parsed⟩ := Option.bind_eq_some_iff.mp taken
      have kept : value.weight + total Lexeme.weight rest ≤ 0 + total Lexeme.weight lexemes :=
        @Grammar.keeps_wholeExpression .ofTexts _ _ _ _ parsed
      have lighter := total_lexemes?_le lexed
      have shorter := length_unifyNewlines_le text.toList
      rw [String.length_toList] at shorter
      omega
    · cases read

end PermissionNames.Source
