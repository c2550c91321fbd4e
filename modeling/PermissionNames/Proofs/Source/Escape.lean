import Mathlib.Data.List.Chain
import PermissionNames.Proofs.Text.CodePoint
import PermissionNames.Source.Escape

/-! Escape sequences never stand for more than is written, and text stands for itself exactly if no sequence in it is known. -/

namespace PermissionNames.Source.Escape

/-- Whether a backslash in front of the character begins a sequence that is known. -/
def isMark (c : Char) : Bool :=
  c == '\n' || ['x', 'u', 'U', 'N'].contains c || isOctal c || (simple? c).isSome

/-- A text in which no backslash begins a known sequence. -/
def IsPlain (text : List Char) : Prop :=
  text.IsChain fun c next => c = '\\' → isMark next = false

/-- Digits after a backslash are taken, at least the first. -/
theorem one_le_consumed_octal {c : Char} (digit : isOctal c = true) (rest : List Char) :
    1 ≤ (octal (c :: rest)).consumed := by
  simp [octal, digit]

/-- A sequence at the end stands for the backslash, an unknown one for itself, and a known one for one character at most, which takes at least its mark. -/
theorem ofText?_cases {rest : List Char} {found : Sequence} (read : ofText? rest = some found) :
    (rest = [] ∧ found = ⟨[.character '\\'], 0⟩) ∨
    (∃ c later, rest = c :: later ∧ isMark c = false ∧
      found = ⟨[.character '\\', .character c], 1⟩) ∨
    ∃ c later, rest = c :: later ∧ isMark c = true ∧ found.value.length ≤ 1 ∧
      1 ≤ found.consumed := by
  -- A character by its number takes the digits and the letter in front of them.
  have numbered : ∀ {width text}, numbered? width text = some found →
      found.value.length ≤ 1 ∧ 1 ≤ found.consumed := by
    intro width text numbered
    obtain ⟨number, -, given⟩ := Option.bind_eq_some_iff.mp numbered
    split at given
    · cases given
      simp
    · cases given
  unfold ofText? at read
  split at read
  · cases read
    exact .inl ⟨rfl, rfl⟩
  · cases read
    exact .inr (.inr ⟨_, _, rfl, rfl, by simp, by simp⟩)
  · exact .inr (.inr ⟨_, _, rfl, rfl, numbered read⟩)
  · exact .inr (.inr ⟨_, _, rfl, rfl, numbered read⟩)
  · exact .inr (.inr ⟨_, _, rfl, rfl, numbered read⟩)
  · -- A character by its name takes the name with its braces.
    unfold named? at read
    dsimp only at read
    split at read
    · cases read
    · obtain ⟨c, -, rfl⟩ := Option.map_eq_some_iff.mp read
      exact .inr (.inr ⟨_, _, rfl, rfl, by simp, by simp⟩)
  · cases read
  · rename_i c later newline short long longer _ name
    split at read
    · rename_i digit
      cases read
      exact .inr (.inr ⟨_, _, rfl, by simp [isMark, digit], by simp [octal],
        one_le_consumed_octal digit later⟩)
    · rename_i noDigit
      split at read
      · rename_i meant known
        cases read
        exact .inr (.inr ⟨_, _, rfl, by simp [isMark, known], by simp, by simp⟩)
      · rename_i unknown
        cases read
        refine .inr (.inl ⟨_, _, rfl, ?_, rfl⟩)
        simp_all [isMark]

/-- A backslash in front of a character that is no mark stands for itself. -/
theorem ofText?_of_not_isMark {c : Char} (unknown : isMark c = false) (rest : List Char) :
    ofText? (c :: rest) = some ⟨[.character '\\', .character c], 1⟩ := by
  -- All sequences begin with a mark, apart from the last case.
  simp only [isMark, List.contains_cons, List.contains_nil, Bool.or_eq_false_iff,
    beq_eq_false_iff_ne, Option.isSome_eq_false_iff, Option.isNone_iff_eq_none] at unknown
  obtain ⟨⟨⟨newline, notShort, notLong, notLonger, notName, -⟩, noDigit⟩, noMark⟩ := unknown
  rw [ofText?.eq_def]
  split <;> simp_all

/-- What is read behind the characters that are skipped is no longer than these, and only as long if it is the same and no sequence in it is known. -/
theorem length_decodeFrom_le {skipped : Nat} {text : List Char} {value : List CodePoint}
    (decoded : decodeFrom skipped text = some value) :
    value.length ≤ (text.drop skipped).length ∧
      ((text.drop skipped).length ≤ value.length →
        value = (text.drop skipped).map .character ∧ IsPlain (text.drop skipped)) := by
  -- Skipped characters are counted down, so the induction is for any number of them.
  induction text generalizing skipped value with
  | nil =>
    cases skipped <;> cases decoded <;> simp [IsPlain]
  | cons c rest ih =>
    cases skipped with
    | succ skipped => exact ih decoded
    | zero =>
      rw [decodeFrom] at decoded
      rw [List.drop_zero]
      split at decoded
      · rename_i isBackslash
        subst isBackslash
        obtain ⟨found, read, decoded⟩ := Option.bind_eq_some_iff.mp decoded
        obtain ⟨later, behind, given⟩ := Option.bind_eq_some_iff.mp decoded
        cases given
        obtain ⟨short, same⟩ := ih behind
        rcases ofText?_cases read with ⟨rfl, rfl⟩ | ⟨next, others, rfl, unknown, rfl⟩ |
          ⟨next, others, rfl, -, one, taken⟩
        · simp_all [IsPlain]
        · -- The character behind the backslash is skipped, and the rest goes on.
          simp only [List.drop_succ_cons, List.drop_zero, List.length_append, List.length_cons,
            List.length_nil] at short same ⊢
          refine ⟨by omega, fun long => ?_⟩
          obtain ⟨rfl, plain⟩ := same (by omega)
          refine ⟨rfl, ?_⟩
          have notBackslash : next ≠ '\\' := by
            rintro rfl
            cases unknown
          cases others with
          | nil => simpa [IsPlain] using unknown
          | cons first last => simp_all [IsPlain]
        · simp only [List.length_append, List.length_cons, List.length_drop] at short ⊢
          exact ⟨by omega, fun long => by omega⟩
      · rename_i notBackslash
        obtain ⟨later, behind, rfl⟩ := Option.map_eq_some_iff.mp decoded
        obtain ⟨short, same⟩ := ih behind
        simp only [List.drop_zero, List.length_cons, Nat.add_le_add_iff_right] at short same ⊢
        refine ⟨short, fun long => ?_⟩
        obtain ⟨rfl, plain⟩ := same long
        refine ⟨rfl, ?_⟩
        cases rest with
        | nil => simp [IsPlain]
        | cons first last => simp_all [IsPlain]

/-- What the inside of a literal stands for is no longer than that. -/
theorem length_decode_le {body : List Char} {value : LiteralText}
    (decoded : decode body = some value) : value.length ≤ body.length := by
  -- Every sequence is at least as long as what it stands for.
  obtain ⟨points, read, rfl⟩ := Option.map_eq_some_iff.mp decoded
  rw [LiteralText.length_ofPoints]
  exact (length_decodeFrom_le read).1

/-- A text without known sequences stands for itself, behind the characters that are skipped. -/
theorem IsPlain.decodeFrom {skipped : Nat} {text : List Char}
    (plain : IsPlain (text.drop skipped)) :
    decodeFrom skipped text = some ((text.drop skipped).map .character) := by
  -- Skipped characters are counted down, so the induction is for any number of them.
  induction text generalizing skipped with
  | nil => cases skipped <;> rfl
  | cons c rest ih =>
    cases skipped with
    | succ skipped => exact ih plain
    | zero =>
      rw [List.drop_zero] at plain ⊢
      rw [Escape.decodeFrom]
      split
      · rename_i isBackslash
        subst isBackslash
        cases rest with
        | nil => rfl
        | cons next later =>
          obtain ⟨unknown, behind⟩ := List.isChain_cons_cons.mp plain
          have rest : Escape.decodeFrom 1 (next :: later) = some (later.map .character) :=
            ih behind.tail
          rw [ofText?_of_not_isMark (unknown rfl)]
          simp [rest]
      · have rest : Escape.decodeFrom 0 rest = some (rest.map .character) := ih plain.tail
        rw [rest]
        rfl

/-- The inside of a literal stands for a string exactly if its sequences yield the characters of that. -/
theorem decode_eq_plain_iff {body : List Char} {text : String} :
    decode body = some (.plain text) ↔
      Escape.decodeFrom 0 body = some (text.toList.map .character) := by
  -- The points make up a string if they are its characters.
  rw [decode, Option.map_eq_some_iff]
  simp only [LiteralText.ofPoints_eq_plain_iff, exists_eq_right]

/-- A text that stands for a string of its own length at least stands for itself, and no sequence in it is known. -/
theorem decode_eq_some_iff {body text : List Char} (long : body.length ≤ text.length) :
    decode body = some (.plain (String.ofList text)) ↔ text = body ∧ IsPlain body := by
  -- A known sequence would make the result shorter than the body.
  rw [decode_eq_plain_iff, String.toList_ofList]
  constructor
  · intro decoded
    obtain ⟨same, plain⟩ := (length_decodeFrom_le decoded).2 (by simpa using long)
    exact ⟨List.map_injective_iff.mpr (fun _ _ => CodePoint.character.inj) same, plain⟩
  · rintro ⟨rfl, plain⟩
    exact @IsPlain.decodeFrom 0 text plain

end PermissionNames.Source.Escape
