import PermissionNames.Ignore.Line
import PermissionNames.Proofs.Ignore.Shape

/-! Lines of an ignore file in parts: what stripping leaves of them, and where a directory is put. -/

namespace PermissionNames.Ignore

/-! White space at the end of a line. -/

/-- White space at the end stays behind the last visible character. -/
theorem trimEnd_append {c : Char} (visible : isBlank c = false) (before inner : List Char) :
    trimEnd (before ++ c :: inner) = before ++ c :: trimEnd inner := by
  -- Read from its end, the text is blank up to the visible character at the latest.
  unfold trimEnd
  rw [List.reverse_append, List.reverse_cons, List.append_assoc, List.dropWhile_append]
  split
  · rename_i blank
    simp [List.isEmpty_iff.mp blank, visible]
  · simp

/-- Stripping a line leaves what stands before a visible character that is no escape. -/
theorem strip_append {c : Char} (visible : isBlank c = false) (other : c ≠ '\\')
    (before inner : List Char) : strip (before ++ c :: inner) = before ++ c :: strip inner := by
  have notBlank : c ≠ ' ' := by
    rintro rfl
    exact absurd visible (by decide)
  -- An escaped blank at the end of the line is one at the end of what stands behind the character.
  have same : ['\\', ' '].isSuffixOf (before ++ c :: inner) = ['\\', ' '].isSuffixOf inner := by
    have reversed : (before ++ c :: inner).reverse = inner.reverse ++ c :: before.reverse := by simp
    rw [List.isSuffixOf, List.isSuffixOf, reversed]
    generalize inner.reverse = behind
    match behind with
    | [] => simp [List.isPrefixOf, Ne.symm notBlank]
    | [last] => simp [List.isPrefixOf, Ne.symm other]
    | last :: next :: rest => simp [List.isPrefixOf]
  unfold strip
  rw [same]
  split
  · rfl
  · exact trimEnd_append visible before inner

/-- What is left of a stripped text is its start. -/
theorem strip_starts (text : List Char) : strip text <+: text := by
  -- Characters are taken away at the end only, or none are.
  unfold strip
  split
  · exact List.prefix_refl text
  · unfold trimEnd
    obtain ⟨front, split⟩ := List.dropWhile_suffix isBlank (l := text.reverse)
    refine ⟨front.reverse, ?_⟩
    rw [← List.reverse_append, split, List.reverse_reverse]

/-- A stripped text starts as the text does, if anything is left of it. -/
theorem head?_strip {text : List Char} (full : strip text ≠ []) :
    (strip text).head? = text.head? := by
  -- What is left is a start of the text that is not empty.
  obtain ⟨rest, split⟩ := strip_starts text
  obtain ⟨c, others, spelling⟩ := List.exists_cons_of_ne_nil full
  rw [spelling] at split ⊢
  rw [← split]
  rfl

/-! Lines in parts. -/

/-- Whether a line stays as it is, wherever its file stands. -/
def isKept (line : List Char) : Bool :=
  (trimStart line).head? == some '#' || ['\\', '!'].isPrefixOf line || ['\\', '#'].isPrefixOf line

/-- Whether a line keeps what its pattern matches. -/
def isNegated (line : List Char) : Bool :=
  line.head? == some '!'

/-- A line behind its negation. -/
def patternOf (line : List Char) : List Char :=
  if isNegated line then line.tail else line

/-- Whether the pattern of a line starts with a slash. -/
def isAnchored (line : List Char) : Bool :=
  (patternOf line).head? == some '/'

/-- The pattern of a line behind its anchor. -/
def innerOf (line : List Char) : List Char :=
  if isAnchored line then (patternOf line).tail else patternOf line

/-- The negation of a line. -/
def negation (line : List Char) : List Char :=
  if isNegated line then ['!'] else []

/-- The anchor of a line. -/
def anchor (line : List Char) : List Char :=
  if isAnchored line then ['/'] else []

/-- A text that starts with a character is that character and the rest. -/
theorem cons_tail {text : List Char} {c : Char} (start : (text.head? == some c) = true) :
    c :: text.tail = text :=
  List.cons_head?_tail (by simpa using start)

/-- A line is its negation and its pattern. -/
theorem negation_append (line : List Char) : negation line ++ patternOf line = line := by
  -- The mark is put back where it was taken off.
  unfold negation patternOf
  split
  · rename_i negated
    exact cons_tail negated
  · rfl

/-- A pattern is its anchor and what stands behind it. -/
theorem anchor_append (line : List Char) : anchor line ++ innerOf line = patternOf line := by
  -- The slash is put back where it was taken off.
  unfold anchor innerOf
  split
  · rename_i anchored
    exact cons_tail anchored
  · rfl

/-- A directory is put between the anchor of a pattern and the rest. -/
theorem place_patternOf (base line : List Char) :
    place base (patternOf line) =
      anchor line ++ base ++ (if innerOf line = [] then [] else '/' :: innerOf line) := by
  -- Placing a directory looks at the first character alone.
  unfold anchor innerOf isAnchored
  cases patternOf line with
  | nil => rfl
  | cons c inner =>
    by_cases slash : c = '/'
    · subst slash
      rfl
    · unfold place
      split
      · rename_i same
        exact absurd (List.cons.inj same).1 slash
      · simp [slash]

/-- A line that does not stay as it is gets the directory of its file between its marks and the rest. -/
theorem rebase_eq {base line : List Char} (baseFull : base ≠ []) (full : line ≠ [])
    (moved : isKept line = false) :
    rebase base line = negation line ++ anchor line ++ base ++
      (if innerOf line = [] then [] else '/' :: innerOf line) := by
  simp only [isKept, Bool.or_eq_false_iff, beq_eq_false_iff_ne] at moved
  obtain ⟨⟨noComment, noMark⟩, noHash⟩ := moved
  unfold rebase
  rw [if_neg (by simp [baseFull, full]), if_neg noComment]
  split
  · simp [List.isPrefixOf] at noMark
  · simp [List.isPrefixOf] at noHash
  · -- A negated line gets the directory behind its mark.
    rename_i pattern
    have behind : patternOf ('!' :: pattern) = pattern := rfl
    have placed := place_patternOf base ('!' :: pattern)
    rw [behind] at placed
    rw [placed]
    rfl
  · -- Any other line is its own pattern.
    rename_i notNegated
    have whole : isNegated line = false := by
      refine beq_eq_false_iff_ne.mpr fun start => ?_
      obtain ⟨pattern, rfl⟩ := List.head?_eq_some_iff.mp start
      exact notNegated pattern rfl
    have behind : patternOf line = line := by simp [patternOf, whole]
    have placed := place_patternOf base line
    rw [behind] at placed
    rw [placed, negation, whole]
    rfl

/-- A line that stays as it is keeps no directory in front. -/
theorem rebase_of_isKept {line : List Char} (kept : isKept line = true) (base : List Char) :
    rebase base line = line := by
  simp only [isKept, Bool.or_eq_true, beq_iff_eq, List.isPrefixOf_iff_prefix] at kept
  unfold rebase
  split
  · rfl
  · split
    · rfl
    · -- What is no comment is kept for the mark that it escapes.
      rename_i noComment
      rcases kept with (comment | ⟨rest, rfl⟩) | ⟨rest, rfl⟩
      · exact absurd comment noComment
      · rfl
      · rfl

/-- An empty line gets no directory in front. -/
theorem rebase_nil (base : List Char) : rebase base [] = [] := by
  simp [rebase]

/-- Comments stay as they are. -/
theorem isKept_of_comment {line : List Char} (comment : line.head? = some '#') :
    isKept line = true := by
  -- The mark of a comment is visible, so it is still first without the blanks in front.
  obtain ⟨text, rfl⟩ := List.head?_eq_some_iff.mp comment
  have visible : isBlank '#' = false := by decide
  simp [isKept, trimStart, visible]

/-- A line that does not stay as it is is no comment. -/
theorem head?_of_moved {line : List Char} (moved : isKept line = false) :
    line.head? ≠ some '#' := by
  -- All comments stay as they are.
  intro comment
  rw [isKept_of_comment comment] at moved
  cases moved

/-- Stripping a line leaves its negation. -/
theorem strip_negation (line text : List Char) :
    strip (negation line ++ text) = negation line ++ strip text := by
  -- The mark is visible, so nothing is stripped in front of it.
  unfold negation
  split
  · exact strip_append (by decide) (by decide) [] text
  · rfl

/-- Only a negated line has a negation mark in front of its pattern. -/
theorem head?_patternOf {line : List Char} (whole : isNegated line = false) :
    patternOf line = line ∧ (patternOf line).head? ≠ some '!' := by
  -- Without a mark nothing is taken off.
  have same : patternOf line = line := by simp [patternOf, whole]
  exact ⟨same, by simpa [same, isNegated] using whole⟩

/-- Only an anchored pattern starts with a slash. -/
theorem head?_innerOf {line : List Char} (loose : isAnchored line = false) :
    innerOf line = patternOf line ∧ (innerOf line).head? ≠ some '/' := by
  -- Without a slash nothing is taken off.
  have same : innerOf line = patternOf line := by simp [innerOf, loose]
  exact ⟨same, by simpa [same, isAnchored] using loose⟩

end PermissionNames.Ignore
