import PermissionNames.Proofs.Source.Line

/-! The lexemes of written lines, with the blocks that their indentations open and close. -/

namespace PermissionNames.Source.Line

variable {line : Line} {lines : List Line}

/-- The lexemes of lines inside open blocks; lines without lexemes count for nothing, and the end of the text closes all blocks. -/
def lexemesFrom (blocks : List Column) : List Line → Option (List Lexeme)
  | [] => (Layout.closeTo ⟨0, 0⟩ blocks).map (·.1)
  | line :: later =>
    if line.lexemes = [] then lexemesFrom blocks later
    else do
      let (changes, layout) ← Layout.afterLine ⟨blocks, []⟩ ⟨line.depth, line.depth⟩
      return changes ++ line.lexemes ++ .newline :: (← lexemesFrom layout.blocks later)

/-- An item is resolved to its lexeme, and the bracket that it opens or closes is noted. -/
theorem resolveFrom_item (layout : Layout) (inLine : Bool) (item : Item) (rest : List Piece) :
    Layout.resolveFrom layout inLine (item.pieces ++ rest) =
      (item.noteBracket layout).bind fun after =>
        (Layout.resolveFrom after (inLine || item.lexeme?.isSome) rest).map
          (item.lexeme?.toList ++ ·) := by
  -- Only signs change the brackets, and only comments and blanks leave no lexeme.
  cases item with
  | word spelling =>
    have piece : (Item.word spelling).pieces = [.lexeme (.ofSpelling spelling)] := rfl
    simp only [piece, Item.noteBracket, Item.lexeme?, Lexeme.ofSpelling, Option.bind_some]
    split <;> cases found : Layout.resolveFrom layout true rest <;>
      simp [Layout.resolveFrom, found]
  | sign text =>
    simp only [Item.pieces, Item.lexeme?, Item.noteBracket, Option.map_some, Option.toList_some,
      List.singleton_append, Layout.resolveFrom]
    cases layout.afterSign text with
    | none => rfl
    | some after =>
      cases found : Layout.resolveFrom after true rest <;> simp [found]
  | literal value =>
    cases found : Layout.resolveFrom layout true rest <;>
      simp [Item.pieces, Item.lexeme?, Item.noteBracket, Layout.resolveFrom, found]
  | longLiteral text =>
    cases whole : Quotation.longText? text.toList <;>
      cases found : Layout.resolveFrom layout true rest <;>
      simp [Item.pieces, Item.lexeme?, Item.noteBracket, Layout.resolveFrom, whole, found]
  | comment text =>
    simp [Item.pieces, Item.lexeme?, Item.noteBracket, Layout.resolveFrom]
  | blank =>
    simp [Item.pieces, Item.lexeme?, Item.noteBracket]

/-- Items are resolved to their lexemes, and the brackets that they open or close are noted. -/
theorem resolveFrom_items (items : List Item) (layout : Layout) (inLine : Bool)
    (rest : List Piece) :
    Layout.resolveFrom layout inLine (items.flatMap Item.pieces ++ rest) =
      (items.foldlM Item.noteBracket layout).bind fun after =>
        (Layout.resolveFrom after (inLine || !(items.filterMap Item.lexeme?).isEmpty) rest).map
          (items.filterMap Item.lexeme? ++ ·) := by
  -- The brackets of one item are those in front of the next one, and a lexeme is never taken back.
  induction items generalizing layout inLine with
  | nil => simp
  | cons item later ih =>
    rw [List.flatMap_cons, List.append_assoc, resolveFrom_item, List.foldlM_cons]
    cases item.noteBracket layout with
    | none => rfl
    | some middle =>
      simp only [Option.bind_some, ih, Option.bind_eq_bind]
      cases later.foldlM Item.noteBracket middle with
      | none => rfl
      | some after =>
        cases read : item.lexeme? <;> simp [read, Function.comp_def, Option.map_map]

/-- A line without lexemes leaves nothing but a comment in front of the next line. -/
theorem leavesBlank_iff (apart : Item.areApart line.items) (start : Column) (rest : List Piece) :
    Layout.leavesBlank (line.items.flatMap Item.pieces ++ .line start :: rest) =
      decide (line.lexemes = []) := by
  unfold lexemes
  generalize line.items = items at apart
  induction items with
  | nil => rfl
  | cons item later ih =>
    cases item with
    | blank => exact ih (Bool.and_eq_true_iff.mp apart).2
    | comment text =>
      -- A comment is the last item of its line.
      have last : later = [] := List.isEmpty_iff.mp (Bool.and_eq_true_iff.mp apart).1
      rw [last]
      rfl
    | longLiteral text =>
      have behind := ih (Bool.and_eq_true_iff.mp apart).2
      cases whole : Quotation.longText? text.toList with
      | none => simpa [Item.pieces, Item.lexeme?, whole] using behind
      | some value => simp [Item.pieces, Item.lexeme?, Layout.leavesBlank, whole]
    | _ => rfl

/-- The start of a line ends the one before it, and opens or closes blocks unless the line is blank. -/
theorem resolveFrom_line (blocks : List Column) (inLine : Bool) (column : Column)
    (rest : List Piece) :
    Layout.resolveFrom ⟨blocks, []⟩ inLine (.line column :: rest) =
      (if Layout.leavesBlank rest then Layout.resolveFrom ⟨blocks, []⟩ false rest
      else (Layout.afterLine ⟨blocks, []⟩ column).bind fun (changes, after) =>
        (Layout.resolveFrom after false rest).map (changes ++ ·)).map
          ((if inLine then [.newline] else []) ++ ·) := by
  rw [Layout.resolveFrom, if_neg (by simp)]
  dsimp only
  -- Outside brackets a line counts if a lexeme follows before the next line.
  by_cases blank : Layout.leavesBlank rest
  · rw [if_pos blank, if_pos blank]
    cases Layout.resolveFrom ⟨blocks, []⟩ false rest <;> rfl
  · rw [if_neg blank, if_neg blank]
    cases Layout.afterLine ⟨blocks, []⟩ column with
    | none => rfl
    | some found =>
      simp only [Option.bind_eq_bind, Option.bind_some]
      cases Layout.resolveFrom found.2 false rest <;> simp

/-- The start of a line opens and closes no brackets. -/
theorem afterLine_brackets {layout after : Layout} {column : Column} {changes : List Lexeme}
    (found : Layout.afterLine layout column = some (changes, after)) :
    after.brackets = layout.brackets := by
  unfold Layout.afterLine at found
  dsimp only at found
  -- A line further to the right opens a block, and any other one may close some.
  split at found
  · split at found
    · cases found
    · split at found <;> cases found
      rfl
  · cases closed : Layout.closeTo column layout.blocks with
    | none =>
      rw [closed] at found
      cases found
    | some ends =>
      rw [closed] at found
      cases found
      rfl

/-- At the first column blocks are closed, and none is opened. -/
theorem afterLine_top (blocks : List Column) : Layout.afterLine ⟨blocks, []⟩ ⟨0, 0⟩ =
    (Layout.closeTo ⟨0, 0⟩ blocks).map fun (ends, blocks) => (ends, ⟨blocks, []⟩) := by
  simp [Layout.afterLine]

/-- Written lines are resolved to their lexemes; the line before them is ended first if it holds a lexeme. -/
theorem resolveFrom_lines (written : ∀ line ∈ lines, line.IsWritten) (blocks : List Column)
    (inLine : Bool) :
    Layout.resolveFrom ⟨blocks, []⟩ inLine (lines.flatMap pieces ++ [Piece.line ⟨0, 0⟩]) =
      (lexemesFrom blocks lines).map ((if inLine then [.newline] else []) ++ ·) := by
  -- The end of the text is a last line at the first column, which closes all blocks.
  induction lines generalizing blocks inLine with
  | nil =>
    have notBlank : Layout.leavesBlank [] = false := rfl
    rw [lexemesFrom, List.flatMap_nil, List.nil_append, resolveFrom_line, notBlank,
      if_neg Bool.false_ne_true]
    congr 1
    rw [afterLine_top]
    cases Layout.closeTo ⟨0, 0⟩ blocks with
    | none => rfl
    | some found => simp [Layout.resolveFrom]
  | cons line later ih =>
    have itself := written line List.mem_cons_self
    have others := ih fun other member => written other (List.mem_cons_of_mem line member)
    -- What follows the line starts another one.
    obtain ⟨start, rest, behind⟩ : ∃ start rest,
        later.flatMap pieces ++ [Piece.line ⟨0, 0⟩] = .line start :: rest := by
      cases later <;> exact ⟨_, _, rfl⟩
    rw [List.flatMap_cons, List.append_assoc, pieces, List.cons_append, resolveFrom_line, lexemesFrom]
    congr 1
    by_cases blank : line.lexemes = []
    · rw [if_pos blank, behind, leavesBlank_iff itself.apart, decide_eq_true blank, if_pos rfl,
        ← behind]
      unfold lexemes at blank
      rw [resolveFrom_items, itself.balanced, Option.bind_some, others, blank]
      simp
    · rw [if_neg blank, behind, leavesBlank_iff itself.apart, decide_eq_false blank, if_neg (by simp),
        ← behind]
      cases found : Layout.afterLine ⟨blocks, []⟩ ⟨line.depth, line.depth⟩ with
      | none => rfl
      | some change =>
        obtain ⟨changes, after⟩ := change
        have same : after = ⟨after.blocks, []⟩ := by
          have kept := afterLine_brackets found
          cases after
          simp_all
        simp only [Option.bind_eq_bind, Option.bind_some]
        rw [same, resolveFrom_items, itself.balanced, Option.bind_some, others]
        have full : (line.items.filterMap Item.lexeme?).isEmpty = false := by
          simpa [lexemes] using blank
        cases lexemesFrom after.blocks later <;> simp [full, lexemes]

/-- The lexemes of a text of written lines. -/
theorem lexemes?_text (written : ∀ line ∈ lines, line.IsWritten) :
    lexemes? (lines.flatMap text) = lexemesFrom [] lines := by
  -- The pieces of each line are those that it was written with.
  rw [lexemes?, ofText?_lines written, Option.bind_eq_bind, Option.bind_some,
    resolveFrom_lines written]
  cases lexemesFrom [] lines <;> rfl

end PermissionNames.Source.Line

namespace PermissionNames.Source

/-- A written literal is one lexeme. -/
theorem lexemes?_quoted (value : String) :
    lexemes? (quoted value).toList = some [.quotation (.text value false)] := by
  have written : (quoted value).toList = '"' :: (Quoted.body value.toList ++ ['"']) := by
    simp [quoted, Quoted.encode]
  -- The first quote begins the line, and the literal is taken up to the end of the text.
  have start : Piece.takeLine ('"' :: (Quoted.body value.toList ++ ['"'])) =
      some (.line ⟨0, 0⟩, '"' :: (Quoted.body value.toList ++ ['"'])) := rfl
  have taken : Piece.take '"' (Quoted.body value.toList ++ '"' :: []) =
      some (.lexeme (.quotation (.text value false)), []) := Piece.take_literal value (by simp)
  have cut := Piece.spells_nil.piece (by decide) taken (by simp)
  have pieces : Piece.ofText? (quoted value).toList =
      some [.line ⟨0, 0⟩, .lexeme (.quotation (.text value false))] := by
    rw [Piece.ofText?, written, start, Option.bind_eq_bind, Option.bind_some]
    dsimp only
    rw [cut _ le_rfl]
    rfl
  rw [lexemes?, pieces]
  rfl

end PermissionNames.Source
