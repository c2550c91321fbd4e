import Mathlib.Data.List.Find
import Mathlib.Data.List.TakeWhile
import PermissionNames.Proofs.Source.Quotation
import PermissionNames.Proofs.Text.Identifier
import PermissionNames.Source.Piece

/-! Words, signs and literals that are cut from source text as what was written. -/

namespace PermissionNames.Source

/-- Whether a character is neither a blank nor what continues a line. -/
def Piece.isVisible (c : Char) : Bool :=
  c ≠ ' ' && c ≠ '\t' && c ≠ '\x0C' && c ≠ '\\'

namespace Lexeme

/-- Keywords are spelled like identifiers. -/
theorem isValid_of_keyword : ∀ word ∈ keywords, Identifier.isValid word.toList := by
  decide

/-- No sign hides behind another one. -/
theorem find?_signs : ∀ sign ∈ signs, signs.find? (·.isPrefixOf sign) = some sign := by
  decide

/-- Whether a character begins neither a line, a comment, a word, a number, a literal nor a blank. -/
def standsInSign (c : Char) : Bool :=
  c ≠ '\n' && c ≠ '#' && !Identifier.continuesWord c && c ≠ '"' && c ≠ '\'' && Piece.isVisible c

/-- Signs consist of characters of their own. -/
theorem standsInSign_of_mem : ∀ sign ∈ signs, sign ≠ [] ∧ sign.all standsInSign := by
  decide

/-- The lexeme of a spelling that is a keyword or a valid identifier. -/
def ofSpelling (text : String) : Lexeme :=
  if keywords.contains text then .keyword text
  else .name (Identifier.Word.leading text.toList)

/-- Whether a sign is told apart from every longer one by the character behind it. -/
def isApart (sign : List Char) (next : Char) : Bool :=
  signs.all fun longer => !(sign ++ [next]).isPrefixOf longer

end Lexeme

namespace Piece

/-- The word at the start of a text ends where no character continues it. -/
theorem leading_append {word rest : List Char} (continues : word.all Identifier.continuesWord)
    (ended : rest.head?.all fun c => !Identifier.continuesWord c) :
    Identifier.Word.leading (word ++ rest) = Identifier.Word.leading word ∧
      (word ++ rest).dropWhile Identifier.continuesWord = rest := by
  -- All of the word is taken, and nothing behind it.
  have each := List.all_eq_true.mp continues
  have stop : rest.takeWhile Identifier.continuesWord = [] ∧
      rest.dropWhile Identifier.continuesWord = rest := by
    cases rest with
    | nil => simp
    | cons c later => simp_all
  constructor
  · simp only [Identifier.Word.leading, Identifier.Word.mk.injEq]
    rw [List.takeWhile_append_of_pos each, stop.1, List.append_nil,
      List.takeWhile_eq_self_iff.mpr each]
  · rw [List.dropWhile_append_of_pos each, stop.2]

/-- A spelling that is valid makes its lexeme. -/
theorem ofWord?_leading {spelling : String} (valid : Identifier.isValid spelling.toList) :
    Lexeme.ofWord? (.leading spelling.toList) = some (Lexeme.ofSpelling spelling) := by
  -- A keyword is told by its spelling, and any other word has to be valid, as it is.
  obtain ⟨-, -, -, -, continues⟩ := Identifier.exists_of_isValid valid
  have itself : (Identifier.Word.leading spelling.toList).text = spelling := by
    simp [Identifier.Word.leading,
      List.takeWhile_eq_self_iff.mpr (List.all_eq_true.mp continues)]
  rw [Lexeme.ofWord?, itself, Lexeme.ofSpelling]
  split
  · rfl
  · rw [if_pos (by simp [valid])]

/-- A valid identifier or a keyword is taken as a word. -/
theorem take_word {spelling : String} {first : Char} {later rest : List Char}
    (valid : Identifier.isValid spelling.toList) (written : spelling.toList = first :: later)
    (ended : rest.head?.all fun c => !Identifier.continuesWord c && c ≠ '"' && c ≠ '\'') :
    take first (later ++ rest) = some (lexeme (.ofSpelling spelling), rest) := by
  obtain ⟨other, others, same, starts, continues⟩ := Identifier.exists_of_isValid valid
  rw [written] at same
  cases same
  have stopped : rest.head?.all fun c => !Identifier.continuesWord c := by
    cases rest with
    | nil => rfl
    | cons c behind => simp_all
  obtain ⟨leading, dropped⟩ := leading_append continues stopped
  have taken : takeWord (spelling.toList ++ rest) =
      some (lexeme (.ofSpelling spelling), rest) := by
    unfold takeWord
    simp only [leading, dropped, ofWord?_leading valid]
    cases rest with
    | nil => rfl
    | cons c behind =>
      have notQuote : ¬ (c = '"' ∨ c = '\'') := by
        simp_all
      simp [notQuote]
  rw [written, List.cons_append] at taken
  -- What begins a word begins neither a line nor a comment.
  have notNewline : first ≠ '\n' := by
    rintro rfl
    cases starts
  have notComment : first ≠ '#' := by
    rintro rfl
    cases starts
  rw [take, if_neg notNewline, if_neg notComment, if_pos starts, taken]

/-- A sign is found in front of a character that does not make it a longer one. -/
theorem takeSign_append {sign : String} {c : Char} (listed : sign.toList ∈ Lexeme.signs)
    (apart : Lexeme.isApart sign.toList c) (rest : List Char) :
    takeSign (sign.toList ++ c :: rest) = some (lexeme (.sign sign), c :: rest) := by
  -- The signs that fit are those that fit the sign alone.
  have fits : ∀ other ∈ Lexeme.signs,
      other.isPrefixOf (sign.toList ++ c :: rest) = other.isPrefixOf sign.toList := by
    intro other member
    have notLonger : ¬ sign.toList ++ [c] <+: other := by
      have tried := List.all_eq_true.mp apart other member
      rw [← List.isPrefixOf_iff_prefix, Bool.not_eq_true]
      simpa only [Bool.not_eq_true'] using tried
    rw [Bool.eq_iff_iff, List.isPrefixOf_iff_prefix, List.isPrefixOf_iff_prefix]
    constructor
    · intro fits
      have withNext : sign.toList ++ [c] <+: sign.toList ++ c :: rest := ⟨rest, by simp⟩
      rcases List.prefix_or_prefix_of_prefix fits withNext with shorter | longer
      · rcases List.prefix_concat_iff.mp shorter with same | within
        · exact absurd (same ▸ List.prefix_rfl) notLonger
        · exact within
      · exact absurd longer notLonger
    · exact fun fits => fits.trans (List.prefix_append _ _)
  have found : Lexeme.signs.find? (·.isPrefixOf (sign.toList ++ c :: rest)) = some sign.toList := by
    rw [← Lexeme.find?_signs sign.toList listed]
    exact List.find?_congr fits
  simp [takeSign, found]

/-- A sign is taken if the character behind it makes it neither a longer one nor a number. -/
theorem take_sign {sign : String} {first c : Char} {later rest : List Char}
    (listed : sign.toList ∈ Lexeme.signs) (written : sign.toList = first :: later)
    (apart : Lexeme.isApart sign.toList c) (notDigit : Identifier.isDigit c = false) :
    take first (later ++ c :: rest) = some (lexeme (.sign sign), c :: rest) := by
  have stands := (Lexeme.standsInSign_of_mem sign.toList listed).2
  have taken := takeSign_append listed apart rest
  rw [written] at stands taken
  simp only [List.all_cons, Lexeme.standsInSign, Identifier.continuesWord, Bool.and_eq_true,
    decide_eq_true_eq, Bool.not_eq_true', Bool.or_eq_false_iff] at stands
  obtain ⟨⟨⟨⟨⟨⟨notNewline, notComment⟩, notWord, notNumber⟩, notDouble⟩, notSingle⟩, -⟩, others⟩ := stands
  -- No digit stands behind the first character.
  have plain : startsNumber first (later ++ c :: rest) = false := by
    cases later with
    | nil => simp [startsNumber, notNumber, notDigit]
    | cons second behind =>
      simp_all [startsNumber, Lexeme.standsInSign, Identifier.continuesWord]
  rw [take, if_neg notNewline, if_neg notComment, if_neg (by simp [notWord]), if_neg (by simp [plain]),
    if_neg (by simp [notDouble, notSingle]), ← List.cons_append, taken]

/-- A literal is taken as the text that was written. -/
theorem take_literal (value : String) {rest : List Char} (single : '"' ∉ rest.head?) :
    take '"' (Quoted.body value.toList ++ '"' :: rest) =
      some (lexeme (.quotation (.text value false)), rest) := by
  -- A quote begins neither a word nor a number.
  simp [take, Identifier.startsWord, Identifier.isLetter, startsNumber, Identifier.isDigit,
    Quotation.take_quoted value single]

/-- A text that is one literal between three quotes is taken as that. -/
theorem take_longLiteral {text : List Char} {value : LiteralText}
    (whole : Quotation.longText? text = some value) (rest : List Char) :
    take '"' ('"' :: '"' :: (text ++ '"' :: '"' :: '"' :: rest)) =
      some (lexeme (.quotation (.text value false)), rest) := by
  -- A quote begins neither a word nor a number.
  simp [take, Identifier.startsWord, Identifier.isLetter, startsNumber, Identifier.isDigit,
    Quotation.take_long whole]

/-- A comment is taken up to the end of its line. -/
theorem take_comment {text : List Char} (inLine : '\n' ∉ text) (rest : List Char) :
    take '#' (text ++ '\n' :: rest) = some (comment, '\n' :: rest) := by
  -- No character of the comment ends the line.
  have others : ∀ c ∈ text, decide (c ≠ '\n') = true :=
    fun c member => decide_eq_true (ne_of_mem_of_not_mem member inLine)
  rw [take, if_neg (by decide), if_pos rfl, List.dropWhile_append_of_pos others]
  simp

/-- The indentation of a line is counted by its blanks. -/
theorem takeColumn_replicate {rest : List Char}
    (visible : rest.head?.all isVisible)
    (depth : Nat) (column : Column) :
    takeColumn column 0 (List.replicate depth ' ' ++ rest) =
      some (⟨column.wide + depth, column.narrow + depth⟩, rest) := by
  -- Every blank moves both columns by one, and what is visible ends the count.
  induction depth generalizing column with
  | zero =>
    cases rest with
    | nil => simp [takeColumn]
    | cons c later =>
      rw [List.replicate_zero, List.nil_append, takeColumn.eq_def]
      split <;> simp_all [isVisible]
  | succ depth ih =>
    rw [List.replicate_succ, List.cons_append, takeColumn, ih]
    simp [Nat.add_assoc, Nat.add_comm 1]

/-- The start of a line is taken with its indentation. -/
theorem takeLine_replicate {rest : List Char}
    (visible : rest.head?.all isVisible)
    (depth : Nat) :
    takeLine (List.replicate depth ' ' ++ rest) = some (line ⟨depth, depth⟩, rest) := by
  simp [takeLine, takeColumn_replicate visible]

end Piece

end PermissionNames.Source
