import PermissionNames.Proofs.Source.Piece
import PermissionNames.Source.Layout

/-! Source text that is written line by line, and the lexemes that are read from it. -/

namespace PermissionNames.Source

/-- What lines are written with. -/
inductive Item
  | word (spelling : String)
  | sign (text : String)
  | literal (value : String)
  /-- A text between three quotes, as it stands. -/
  | longLiteral (text : String)
  | comment (text : String)
  | blank
  deriving DecidableEq, Repr

namespace Item

/-- The characters of an item. -/
def text : Item → List Char
  | word spelling => spelling.toList
  | sign text => text.toList
  | literal value => (quoted value).toList
  | longLiteral text => '"' :: '"' :: '"' :: (text.toList ++ ['"', '"', '"'])
  | comment text => '#' :: text.toList
  | blank => [' ']

/-- The characters of items one after the other. -/
def joined (items : List Item) : List Char :=
  items.flatMap text

/-- The lexeme that an item is read as, if it is one. -/
def lexeme? : Item → Option Lexeme
  | word spelling => some (.ofSpelling spelling)
  | sign text => some (.sign text)
  | literal value => some (.quotation (.text value false))
  | longLiteral text =>
    (Quotation.longText? text.toList).map fun value => .quotation (.text value false)
  | comment _ => none
  | blank => none

/-- The pieces that an item is cut into. -/
def pieces : Item → List Piece
  | comment _ => [.comment]
  | item => (item.lexeme?.map .lexeme).toList

/-- Whether an item can be written where one of its kind may stand. -/
def IsValid : Item → Prop
  | word spelling => Identifier.isValid spelling.toList
  | sign text => text.toList ∈ Lexeme.signs
  | longLiteral text => (Quotation.longText? text.toList).isSome
  | comment text => '\n' ∉ text.toList
  | literal _ => True
  | blank => True

instance : DecidablePred IsValid
  | word spelling => inferInstanceAs (Decidable (Identifier.isValid spelling.toList = true))
  | sign text => inferInstanceAs (Decidable (text.toList ∈ Lexeme.signs))
  | longLiteral text =>
    inferInstanceAs (Decidable ((Quotation.longText? text.toList).isSome = true))
  | comment text => inferInstanceAs (Decidable ('\n' ∉ text.toList))
  | literal _ => .isTrue trivial
  | blank => .isTrue trivial

/-- Whether nothing of what stands behind an item in its line belongs to it. -/
def endsBefore (later : List Item) (item : Item) : Bool :=
  let next := (joined later).headD '\n'
  match item with
  | word _ => !Identifier.continuesWord next && next ≠ '"' && next ≠ '\''
  | sign text => Lexeme.isApart text.toList next && !Identifier.isDigit next
  | literal _ => next ≠ '"'
  | comment _ => later.isEmpty
  | longLiteral _ => true
  | blank => true

/-- Whether all items of a line are told apart. -/
def areApart : List Item → Bool
  | [] => true
  | item :: later => item.endsBefore later && areApart later

/-- Opens or closes a bracket, if an item does that. -/
def noteBracket (layout : Layout) : Item → Option Layout
  | sign text => layout.afterSign text
  | _ => some layout

variable {item : Item} {later : List Item}

/-- Only blanks begin with what is not visible. -/
theorem exists_of_isValid (valid : item.IsValid) (notBlank : item ≠ blank) :
    ∃ first others, item.text = first :: others ∧ Piece.isVisible first := by
  cases item with
  | word spelling =>
    obtain ⟨first, others, written, starts, -⟩ := Identifier.exists_of_isValid valid
    refine ⟨first, others, written, ?_⟩
    -- What is not visible starts no word.
    simp only [Piece.isVisible, Bool.and_eq_true, decide_eq_true_eq]
    refine ⟨⟨⟨?_, ?_⟩, ?_⟩, ?_⟩ <;> rintro rfl <;> cases starts
  | sign text =>
    obtain ⟨full, stands⟩ := Lexeme.standsInSign_of_mem _ valid
    obtain ⟨first, others, written⟩ := List.exists_cons_of_ne_nil full
    rw [written] at stands
    refine ⟨first, others, written, ?_⟩
    simp_all [Lexeme.standsInSign]
  | literal value => exact ⟨'"', _, by simp [Item.text, quoted, Quoted.encode]; rfl, by decide⟩
  | longLiteral text => exact ⟨'"', _, rfl, by decide⟩
  | comment text => exact ⟨'#', _, rfl, by decide⟩
  | blank => exact absurd rfl notBlank

/-- An item is taken as its piece, in front of a line that goes on with other items. -/
theorem take_text (valid : item.IsValid) (ends : item.endsBefore later) (notBlank : item ≠ blank)
    (rest : List Char) :
    ∃ first others piece, item.text = first :: others ∧ item.pieces = [piece] ∧
      Piece.isVisible first ∧
      Piece.take first (others ++ (joined later ++ '\n' :: rest)) =
        some (piece, joined later ++ '\n' :: rest) := by
  obtain ⟨first, others, written, visible⟩ := exists_of_isValid valid notBlank
  -- The character behind the item is that of the next item, or the end of the line.
  obtain ⟨behind, same⟩ : ∃ behind, joined later ++ '\n' :: rest =
      (joined later).headD '\n' :: behind := by
    cases joined later with
    | nil => exact ⟨_, rfl⟩
    | cons c others => exact ⟨_, rfl⟩
  rw [same]
  cases item with
  | word spelling =>
    refine ⟨first, others, _, written, rfl, visible, Piece.take_word valid written ?_⟩
    simpa [endsBefore] using ends
  | sign text =>
    obtain ⟨apart, notDigit⟩ := Bool.and_eq_true_iff.mp ends
    refine ⟨first, others, _, written, rfl, visible, Piece.take_sign valid written apart ?_⟩
    simpa using notDigit
  | literal value =>
    refine ⟨'"', Quoted.body value.toList ++ ['"'], _, ?_, rfl, by decide, ?_⟩
    · simp [Item.text, quoted, Quoted.encode]
    · have notQuote : (joined later).headD '\n' ≠ '"' := of_decide_eq_true ends
      rw [List.append_assoc, List.singleton_append]
      exact Piece.take_literal value (by simpa using notQuote)
  | longLiteral text =>
    obtain ⟨value, whole⟩ := Option.isSome_iff_exists.mp valid
    have cut : (longLiteral text).pieces = [.lexeme (.quotation (.text value false))] := by
      simp [pieces, lexeme?, whole]
    refine ⟨'"', '"' :: '"' :: (text.toList ++ ['"', '"', '"']), _, rfl, cut, by decide, ?_⟩
    simp only [List.cons_append, List.append_assoc, List.nil_append]
    exact Piece.take_longLiteral whole _
  | comment text =>
    have last : later = [] := List.isEmpty_iff.mp ends
    refine ⟨'#', text.toList, _, rfl, rfl, by decide, ?_⟩
    rw [← same, last]
    exact Piece.take_comment valid rest
  | blank => exact absurd rfl notBlank

end Item

namespace Piece

/-- Text inside a line that is cut into pieces, whatever its room as long as it has some for every character. -/
def Spells (text : List Char) (pieces : List Piece) : Prop :=
  ∀ limit, text.length ≤ limit → within limit text = some pieces

/-- Nothing is cut into nothing. -/
theorem spells_nil : Spells [] [] := by
  -- Nothing is cut with any room.
  intro limit _
  cases limit <;> rfl

variable {text rest : List Char} {pieces : List Piece}

/-- Blanks are left out. -/
theorem Spells.blank (spelled : Spells rest pieces) : Spells (' ' :: rest) pieces := by
  -- A blank takes one step and leaves no piece.
  intro limit room
  obtain ⟨limit, rfl⟩ := Nat.exists_eq_add_of_le' (Nat.le_of_add_left_le room : 1 ≤ limit)
  rw [within.eq_def]
  exact spelled limit (by simpa using room)

/-- A character that is neither a blank nor a backslash begins a piece. -/
theorem Spells.piece {c : Char} {later : List Char} {first : Piece} (visible : isVisible c)
    (taken : take c later = some (first, rest)) (shorter : rest.length ≤ later.length)
    (spelled : Spells rest pieces) : Spells (c :: later) (first :: pieces) := by
  intro limit room
  obtain ⟨limit, rfl⟩ := Nat.exists_eq_add_of_le' (Nat.le_of_add_left_le room : 1 ≤ limit)
  have fits : rest.length ≤ limit := by
    simp only [List.length_cons] at room
    omega
  simp only [isVisible, Bool.and_eq_true, decide_eq_true_eq] at visible
  obtain ⟨⟨⟨notBlank, notTab⟩, notFeed⟩, notBackslash⟩ := visible
  -- Of the branches of the reader only the one for pieces is left.
  rw [within.eq_def]
  dsimp only
  rw [if_neg (by simp [notBlank, notTab, notFeed]), if_neg notBackslash, taken]
  simp [spelled limit fits]

/-- Items that are told apart are cut into their pieces, up to the end of the line. -/
theorem Spells.items {items : List Item} (valid : ∀ item ∈ items, item.IsValid)
    (apart : Item.areApart items) (spelled : Spells ('\n' :: rest) pieces) :
    Spells (Item.joined items ++ '\n' :: rest) (items.flatMap Item.pieces ++ pieces) := by
  -- The induction takes one item at a time, in front of all that the rest of the line is cut into.
  induction items with
  | nil => exact spelled
  | cons item later ih =>
    obtain ⟨ends, others⟩ := Bool.and_eq_true_iff.mp apart
    have behind := ih (fun other member => valid other (List.mem_cons_of_mem item member)) others
    rw [Item.joined, List.flatMap_cons, ← Item.joined, List.flatMap_cons, List.append_assoc,
      List.append_assoc]
    by_cases blank : item = .blank
    · rw [blank]
      exact behind.blank
    · obtain ⟨first, others, piece, written, cut, visible, taken⟩ :=
        Item.take_text (valid item List.mem_cons_self) ends blank rest
      rw [written, cut]
      exact behind.piece visible taken (by simp)

end Piece

/-- A line of source text: its indentation, and what is written in it. -/
structure Line where
  depth : Nat := 0
  items : List Item := []
  deriving DecidableEq, Repr

namespace Line

/-- The characters of a line with its end. -/
def text (line : Line) : List Char :=
  List.replicate line.depth ' ' ++ Item.joined line.items ++ ['\n']

/-- The pieces that a line is cut into. -/
def pieces (line : Line) : List Piece :=
  .line ⟨line.depth, line.depth⟩ :: line.items.flatMap Item.pieces

/-- The lexemes in a line. -/
def lexemes (line : Line) : List Lexeme :=
  line.items.filterMap Item.lexeme?

/-- A line of valid items that are told apart, whose indentation is all that stands before them, and which closes the brackets that it opens. -/
structure IsWritten (line : Line) : Prop where
  valid : ∀ item ∈ line.items, item.IsValid
  apart : Item.areApart line.items
  indented : line.items.head? ≠ some .blank
  balanced : ∀ blocks, line.items.foldlM Item.noteBracket ⟨blocks, []⟩ = some ⟨blocks, []⟩

/-- A blank line is written. -/
theorem isWritten_blank : IsWritten ⟨0, []⟩ :=
  ⟨by simp, rfl, by simp, fun _ => rfl⟩

variable {line : Line} {lines : List Line}

/-- The first character behind the indentation of a line is visible. -/
theorem IsWritten.visible (written : line.IsWritten) (rest : List Char) :
    (Item.joined line.items ++ '\n' :: rest).head?.all Piece.isVisible := by
  have valid := written.valid
  have indented := written.indented
  -- An empty line ends at once, and any other one begins with an item that is no blank.
  cases present : line.items with
  | nil => rfl
  | cons item later =>
    rw [present] at valid indented
    have notBlank : item ≠ .blank := by simpa using indented
    obtain ⟨first, others, same, visible⟩ :=
      Item.exists_of_isValid (valid item List.mem_cons_self) notBlank
    simp [Item.joined, same, visible]

/-- Written lines behind another line are cut into their pieces. -/
theorem spells_lines (written : ∀ line ∈ lines, line.IsWritten) :
    Piece.Spells ('\n' :: lines.flatMap text)
      (lines.flatMap pieces ++ [Piece.line ⟨0, 0⟩]) := by
  -- The newline in front of a line takes its indentation, and its items run up to the next newline.
  induction lines with
  | nil =>
    exact Piece.spells_nil.piece (by decide) rfl (by simp)
  | cons line later ih =>
    have behind := ih fun other member => written other (List.mem_cons_of_mem line member)
    have itself := written line List.mem_cons_self
    have taken := Piece.takeLine_replicate (itself.visible (later.flatMap text)) line.depth
    have cut := (Piece.Spells.items itself.valid itself.apart behind).piece (c := '\n') (by decide)
      (by rw [Piece.take, if_pos rfl, taken]) (by simp)
    simpa [text, pieces] using cut

/-- Written lines are cut into their pieces, and the end of the text starts another line. -/
theorem ofText?_lines (written : ∀ line ∈ lines, line.IsWritten) :
    Piece.ofText? (lines.flatMap text) =
      some (lines.flatMap pieces ++ [Piece.line ⟨0, 0⟩]) := by
  -- The first line has no newline in front of it, and all others are cut behind it.
  cases lines with
  | nil => rfl
  | cons line later =>
    have behind := spells_lines fun other member => written other (List.mem_cons_of_mem line member)
    have itself := written line List.mem_cons_self
    have taken := Piece.takeLine_replicate (itself.visible (later.flatMap text)) line.depth
    have cut := Piece.Spells.items itself.valid itself.apart behind _ le_rfl
    simp only [List.flatMap_cons, text, List.append_assoc, List.singleton_append] at taken ⊢
    rw [Piece.ofText?, taken, Option.bind_eq_bind, Option.bind_some]
    dsimp only
    rw [cut]
    simp [pieces]

end Line

end PermissionNames.Source
