import PermissionNames.Proofs.Ignore.Mark

/-! Lines of an ignore file that stay as they are, whatever the directory of the file. -/

namespace PermissionNames.Ignore

variable {base : List String} {line : List Char}

/-- White space is no visible character. -/
theorem ne_of_isBlank {blank visible : Char} (white : isBlank blank = true)
    (shown : isBlank visible = false) : blank ≠ visible := by
  -- They differ in being white space.
  rintro rfl
  rw [white] at shown
  cases shown

/-- A text whose first place accepts a single character, one that no plain directory holds. -/
inductive AsksFirst (mark : Char) : List Char → Prop
  | blank (white : isBlank mark = true) (rest : List Char) : AsksFirst mark (mark :: rest)
  | escaped (special : mark = '!' ∨ mark = '#') (rest : List Char) :
    AsksFirst mark ('\\' :: mark :: rest)

namespace AsksFirst

variable {mark : Char} {text : List Char}

/-- The character that is asked for first is in no plain directory. -/
theorem not_mem_directoryText (asks : AsksFirst mark text) (plain : ∀ part ∈ base, IsPlain part) :
    mark ∉ directoryText base := by
  -- A plain name holds neither white space nor marks, and the slashes between names are neither.
  cases asks with
  | blank white rest =>
    have other : mark ≠ '/' := ne_of_isBlank white (by decide)
    exact Ignore.not_mem_directoryText plain (.inr white) other
  | escaped special rest =>
    rcases special with rfl | rfl <;>
      exact Ignore.not_mem_directoryText plain (.inl (by decide)) (by decide)

/-- Such a text starts neither with a slash nor with a mark of its own. -/
theorem head?_ne (asks : AsksFirst mark text) :
    text.head? ≠ some '/' ∧ text.head? ≠ some '*' ∧ text.head? ≠ some '#' ∧
      text.head? ≠ some '!' := by
  -- None of these marks is white space, and an escaped one begins with a backslash.
  cases asks with
  | blank white rest =>
    have slash : mark ≠ '/' := ne_of_isBlank white (by decide)
    have star : mark ≠ '*' := ne_of_isBlank white (by decide)
    have hash : mark ≠ '#' := ne_of_isBlank white (by decide)
    have negation : mark ≠ '!' := ne_of_isBlank white (by decide)
    simp [slash, star, hash, negation]
  | escaped special rest => simp

/-- A slash at the end is not what is asked for first. -/
theorem of_append_slash (asks : AsksFirst mark (text ++ ['/'])) : AsksFirst mark text := by
  -- The text is not the slash alone, and a mark that is escaped is no slash.
  match text, asks.head?_ne.1 with
  | [], start => exact absurd rfl start
  | [c], _ =>
    cases asks with
    | blank white rest => exact .blank white []
    | escaped special rest => rcases special with same | same <;> cases same
  | c :: d :: others, _ =>
    cases asks with
    | blank white rest => exact .blank white _
    | escaped special rest => exact .escaped special others

/-- The steps of such a segment ask first for the character. -/
theorem ownSteps_eq (asks : AsksFirst mark text) :
    ∃ later : Except SegmentFault (List Step),
      ownSteps text = later.map (.one (.exactly mark) :: ·) := by
  have notSegment : text ≠ ['*'] := by
    rintro rfl
    exact asks.head?_ne.2.1 rfl
  -- Neither white space nor a character behind a backslash is read in a way of its own.
  rw [ownSteps, if_neg notSegment]
  cases asks with
  | blank white rest =>
    have escape : mark ≠ '\\' := ne_of_isBlank white (by decide)
    have star : mark ≠ '*' := ne_of_isBlank white (by decide)
    have single : mark ≠ '?' := ne_of_isBlank white (by decide)
    have bracket : mark ≠ '[' := ne_of_isBlank white (by decide)
    exact ⟨readSegment rest.length rest, by simp [readSegment, escape, star, single, bracket]⟩
  | escaped special rest =>
    exact ⟨readSegment (rest.length + 1) rest, by simp [readSegment]⟩

end AsksFirst

/-- A line that stays as it is and is no comment asks first for a character foreign to plain directories. -/
theorem asksFirst_of_isKept (kept : isKept line = true) (noComment : line.head? ≠ some '#') :
    ∃ mark, AsksFirst mark (strip line) := by
  simp only [isKept, Bool.or_eq_true, beq_iff_eq, List.isPrefixOf_iff_prefix] at kept
  rcases kept with (comment | ⟨rest, rfl⟩) | ⟨rest, rfl⟩
  · -- White space stands before the comment, and stays there.
    obtain ⟨rest, behind⟩ := List.head?_eq_some_iff.mp comment
    have split : line = line.takeWhile isBlank ++ '#' :: rest := by
      rw [← behind]
      exact (List.takeWhile_append_dropWhile).symm
    cases white : line.takeWhile isBlank with
    | nil =>
      rw [white, List.nil_append] at split
      rw [split] at noComment
      exact absurd rfl noComment
    | cons c others =>
      have blank : isBlank c = true :=
        List.all_eq_true.mp (List.all_takeWhile) c (by rw [white]; exact List.mem_cons_self)
      rw [split, white, strip_append (by decide) (by decide)]
      exact ⟨c, .blank blank _⟩
  · have stripped := strip_append (by decide : isBlank '!' = false) (by decide) ['\\'] rest
    exact ⟨'!', stripped ▸ .escaped (.inl rfl) _⟩
  · have stripped := strip_append (by decide : isBlank '#' = false) (by decide) ['\\'] rest
    exact ⟨'#', stripped ▸ .escaped (.inr rfl) _⟩

/-- A pattern at any depth that asks first for a character foreign to a plain directory says below it what it says at the root. -/
theorem shapeMarks_below_of_asksFirst (full : base ≠ []) (plain : ∀ part ∈ base, IsPlain part)
    {mark c : Char} {only : List Char} {behind : List (List Char)} (asks : AsksFirst mark only)
    (other : c ≠ '/') (rest : List Char) (ignores directoryOnly : Bool) :
    shapeMarks ignores (shapeOf directoryOnly (anyDepth :: only :: behind))
        (directoryText base ++ '/' :: c :: rest) =
      shapeMarks ignores (shapeOf directoryOnly (anyDepth :: only :: behind)) (c :: rest) := by
  have noStar := asks.head?_ne.2.1
  have notAll : standForAll (anyDepth :: only :: behind) = false := by
    simp only [standForAll, Bool.or_eq_false_iff, beq_eq_false_iff_ne, ne_eq, List.cons.injEq,
      true_and]
    refine ⟨by simp, ?_⟩
    rintro ⟨rfl, -⟩
    exact noStar rfl
  have notNested : only :: behind ≠ [['*'], anyDepth] := by
    rintro same
    cases same
    exact noStar rfl
  have ordinary : only ≠ anyDepth := by
    rintro rfl
    exact noStar rfl
  -- So the pattern is directories for any depth, and behind them the mark.
  obtain ⟨own, steps⟩ := asks.ownSteps_eq
  rw [shapeOf_anyDepth notAll notNested, readSegments_cons ordinary, steps]
  cases own with
  | error fault => cases fault <;> rfl
  | ok own =>
    cases readSegments directoryOnly true behind with
    | error fault => cases fault <;> rfl
    | ok later =>
      have matched : ∀ steps,
          (Shape.along (.leadingDirectories :: .one (.exactly mark) :: steps)).match?
              (directoryText base ++ '/' :: c :: rest) =
            (Shape.along (.leadingDirectories :: .one (.exactly mark) :: steps)).match?
              (c :: rest) := fun steps =>
        follow_leadingDirectories_below full plain (asks.not_mem_directoryText plain) other steps
          rest
      exact shapeMarks_congr rfl (matched _) ignores

/-- A line that stays as it is and applies at any depth says below a plain directory what it says at the root. -/
theorem lineMarks_below_of_isKept (full : base ≠ []) (plain : ∀ part ∈ base, IsPlain part)
    (kept : isKept line = true) (loose : floats (strip line) = true) {c : Char} (other : c ≠ '/')
    (rest : List Char) :
    lineMarks (String.ofList line) (directoryText base ++ '/' :: c :: rest) =
      lineMarks (String.ofList line) (c :: rest) := by
  by_cases comment : line.head? = some '#'
  · rw [lineMarks_comment comment, lineMarks_comment comment]
  · obtain ⟨mark, asks⟩ := asksFirst_of_isKept kept comment
    obtain ⟨noSlash, -, noHash, noMark⟩ := asks.head?_ne
    have someText : strip line ≠ [] := by
      intro none
      rw [none] at asks
      cases asks
    -- The line is one segment, perhaps with a slash at its end, and that asks for the mark.
    obtain ⟨only, -, cut⟩ := splitAt_of_floats loose
    have joined := Path.intercalate_splitAt '/' (strip line)
    have asksOnly : AsksFirst mark only := by
      rcases cut with cut | cut <;> rw [cut] at joined
      · have same : only = strip line := by simpa using joined
        rwa [same]
      · have same : only ++ ['/'] = strip line := by simpa using joined
        exact AsksFirst.of_append_slash (same ▸ asks)
    have ordinary : only ≠ anyDepth := by
      rintro rfl
      exact asksOnly.head?_ne.2.1 rfl
    have onlyFull : only ≠ [] := by
      rintro rfl
      cases asksOnly
    -- At the root it stands behind a segment for any depth.
    obtain ⟨behind, segments⟩ :
        ∃ behind, rootSegments (strip line) = anyDepth :: only :: behind := by
      rw [rootSegments_of_floats onlyFull ordinary cut]
      rcases cut with cut | cut <;> rw [cut]
      · exact ⟨[], by simp [settle, collapse, ordinary, onlyFull]⟩
      · exact ⟨[anyDepth], by simp [settle, collapse, ordinary]⟩
    have notSlash : strip line ≠ ['/'] := fun same => noSlash (by rw [same]; rfl)
    have said := @lineMarks_eq line (strip line) _ false rfl someText notSlash
      (fun _ => ⟨noHash, noMark⟩) segments (by simp)
    rw [said, said, shapeMarks_below_of_asksFirst full plain asksOnly other]

end PermissionNames.Ignore
