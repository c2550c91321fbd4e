import PermissionNames.Proofs.Source.StatementWeight
import PermissionNames.Proofs.Source.TextWeight

/-! Every name that a module declares is the normal form of a word in its text, so none is empty. -/

namespace PermissionNames.Source

/-- The scale on which a name alone counts, in whatever form it is spelled. -/
def Scale.ofName (word : Identifier.Word) : Scale where
  lexeme
    | .name spelling => if spelling.normalize = word then 1 else 0
    | _ => 0
  expression
    | .name found => if found = word then 1 else 0
    | _ => 0
  light {value} light := by
    cases value with
    | name found => cases light
    | _ => rfl
  name spelling := Nat.le_refl _
  text marked plain several := Nat.zero_le _
  subscript operand index := Nat.zero_le _
  tuple first rest := Nat.zero_le _

/-- Values that weigh something together include one that does. -/
theorem exists_of_total_pos {α : Type} {weight : α → Nat} {values : List α}
    (weighs : 0 < total weight values) : ∃ value ∈ values, 0 < weight value := by
  -- The first one weighs something, or all of the weight is in the rest.
  induction values with
  | nil => cases weighs
  | cons first rest ih =>
    rw [total_cons] at weighs
    by_cases light : weight first = 0
    · obtain ⟨value, member, positive⟩ := ih (by omega)
      exact ⟨value, List.mem_cons_of_mem first member, positive⟩
    · exact ⟨first, List.mem_cons_self, Nat.pos_of_ne_zero light⟩

/-- A value among others weighs no more than all of them. -/
theorem le_total {α : Type} (weight : α → Nat) {values : List α} {value : α}
    (member : value ∈ values) : weight value ≤ total weight values := by
  -- The weights of the others only add to it.
  induction values with
  | nil => cases member
  | cons first rest ih =>
    rw [total_cons]
    rcases List.mem_cons.mp member with rfl | later
    · omega
    · have lighter := ih later
      omega

namespace Piece

/-- A piece that is a name holds the word that it was read from, which is not empty. -/
def HoldsWord (piece : Piece) : Prop :=
  ∀ spelling, piece = .lexeme (.name spelling) → spelling.text ≠ ""

variable {text rest : List Char} {piece : Piece}

/-- The start of a line holds no word. -/
theorem holdsWord_takeLine (taken : takeLine text = some (piece, rest)) : piece.HoldsWord := by
  -- A line begins with its columns, which are no name.
  obtain ⟨⟨column, behind⟩, -, same⟩ := Option.map_eq_some_iff.mp taken
  cases same
  rintro spelling ⟨⟩

/-- A word starts with the character that announces it. -/
theorem holdsWord_takeWord {c : Char} (starts : Identifier.startsWord c)
    (taken : takeWord (c :: text) = some (piece, rest)) : piece.HoldsWord := by
  -- The character that starts a word also continues it, so the word in front is not empty.
  have spelled : (Identifier.Word.leading (c :: text)).text ≠ "" := by
    have continues : Identifier.continuesWord c := by simp [Identifier.continuesWord, starts]
    simp [Identifier.Word.leading, continues]
  have ofWord : ∀ found, Lexeme.ofWord? (Identifier.Word.leading (c :: text)) = some found →
      HoldsWord (.lexeme found) := by
    intro found read spelling same
    unfold Lexeme.ofWord? at read
    dsimp only at read
    split at read
    · cases read
      cases same
    · split at read <;> cases read
      cases same
      exact spelled
  unfold takeWord at taken
  dsimp only at taken
  split at taken
  · split at taken
    · obtain ⟨⟨value, remaining⟩, -, same⟩ := Option.bind_eq_some_iff.mp taken
      cases same
      rintro spelling ⟨⟩
    · obtain ⟨found, read, same⟩ := Option.bind_eq_some_iff.mp taken
      cases same
      exact ofWord found read
  · obtain ⟨found, read, same⟩ := Option.bind_eq_some_iff.mp taken
    cases same
    exact ofWord found read

/-- A piece that is a name comes from a word. -/
theorem holdsWord_take {c : Char} (taken : take c text = some (piece, rest)) :
    piece.HoldsWord := by
  -- Among all kinds of pieces, only words are names.
  unfold take at taken
  split at taken
  · exact holdsWord_takeLine taken
  · split at taken
    · cases taken
      rintro spelling ⟨⟩
    · split at taken
      · exact holdsWord_takeWord ‹_› taken
      · split at taken
        · obtain ⟨⟨value, behind⟩, -, same⟩ := Option.map_eq_some_iff.mp taken
          cases same
          rintro spelling ⟨⟩
        · split at taken
          · obtain ⟨⟨value, behind⟩, -, same⟩ := Option.map_eq_some_iff.mp taken
            cases same
            rintro spelling ⟨⟩
          · obtain ⟨sign, -, same⟩ := Option.map_eq_some_iff.mp taken
            cases same
            rintro spelling ⟨⟩

/-- All pieces of a text that are names come from words. -/
theorem holdsWord_of_mem_within {limit : Nat} {pieces : List Piece}
    (cut : within limit text = some pieces) (member : piece ∈ pieces) : piece.HoldsWord := by
  -- The cases are those of the cutter, and only the last one adds a piece.
  fun_induction within limit text generalizing pieces with
  | case1 =>
    cases cut
    cases member
  | case2 => cases cut
  | case3 limit c rest _ ih => exact ih cut member
  | case4 limit next later _ ih => exact ih cut member
  | case5 => cases cut
  | case6 limit c rest _ _ ih =>
    obtain ⟨⟨first, behind⟩, taken, cut⟩ := Option.bind_eq_some_iff.mp cut
    obtain ⟨others, later, same⟩ := Option.bind_eq_some_iff.mp cut
    cases same
    rcases List.mem_cons.mp member with rfl | member
    · exact holdsWord_take taken
    · exact ih _ later member

/-- All pieces of a text with its first line that are names come from words. -/
theorem holdsWord_of_mem_ofText? {pieces : List Piece} (cut : ofText? text = some pieces)
    (member : piece ∈ pieces) : piece.HoldsWord := by
  -- The first piece is the start of a line.
  obtain ⟨⟨first, rest⟩, line, cut⟩ := Option.bind_eq_some_iff.mp cut
  obtain ⟨others, later, same⟩ := Option.bind_eq_some_iff.mp cut
  cases same
  rcases List.mem_cons.mp member with rfl | member
  · exact holdsWord_takeLine line
  · exact holdsWord_of_mem_within later member

end Piece

/-- A piece that weighs something on the scale of a name is a spelling of it. -/
theorem exists_spelling {word : Identifier.Word} {piece : Piece}
    (weighs : 0 < piece.weight (Scale.ofName word).lexeme) :
    ∃ spelling : Identifier.Word, piece = .lexeme (.name spelling) ∧ spelling.normalize = word := by
  -- Names alone weigh anything, and only if their normal form is the word.
  cases piece with
  | lexeme value =>
    cases value with
    | name spelling =>
      change 0 < if spelling.normalize = word then 1 else 0 at weighs
      split at weighs
      · exact ⟨spelling, rfl, ‹_›⟩
      · cases weighs
    | _ => cases weighs
  | _ => cases weighs

/-- A word with a spelling that is not empty is not empty in its normal form either. -/
theorem text_normalize_ne_empty {spelling : Identifier.Word} (spelled : spelling.text ≠ "") :
    spelling.normalize.text ≠ "" := by
  -- Normalizing never removes the last character.
  have characters : spelling.text.toList ≠ [] := by simpa using spelled
  have kept := Compatibility.normalize_ne_nil characters
  simpa [Identifier.Word.normalize, Identifier.normalize] using kept

/-- A name that statements of a module declare, in classes at whatever depth, is not empty. -/
theorem text_ne_empty_of_readModule {source : String} {body : List Statement}
    (read : readModule source = .ok body) {word : Identifier.Word}
    (declared : 0 < total (Statement.weight (Scale.ofName word).expression) body) :
    word.text ≠ "" := by
  unfold readModule readWhole at read
  split at read
  · cases read
  · split at read
    · rename_i found rest taken
      cases read
      obtain ⟨lexemes, lexed, parsed⟩ := Option.bind_eq_some_iff.mp taken
      obtain ⟨pieces, cut, resolved⟩ := Option.bind_eq_some_iff.mp lexed
      have kept := @Grammar.keepsAll_statements (Scale.ofName word) _ _ _ _ parsed
      have lighter := @Layout.total_resolveFrom_le (Scale.ofName word).lexeme ⟨rfl, rfl, rfl⟩
        _ _ _ _ resolved
      -- What the name weighs in a declaration, it weighs in a piece of the text.
      obtain ⟨piece, member, weighs⟩ :=
        @exists_of_total_pos _ (Piece.weight (Scale.ofName word).lexeme) pieces (by omega)
      obtain ⟨spelling, rfl, rfl⟩ := exists_spelling weighs
      exact text_normalize_ne_empty (Piece.holdsWord_of_mem_ofText? cut member spelling rfl)
    · cases read

end PermissionNames.Source
