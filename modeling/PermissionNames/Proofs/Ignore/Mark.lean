import PermissionNames.Ignore.Rules
import PermissionNames.Proofs.Ignore.Line

/-! What a line of an ignore file says of a path: below the directory of the file it is what a pinned line says at the root, and elsewhere it is nothing. -/

namespace PermissionNames.Ignore

variable {base : List String} {line : List Char}

/-- A match of a path: what it asks for, and whether it is one of a directory. -/
structure Mark where
  ignores : Bool
  asDirectory : Bool
  deriving DecidableEq, Repr

/-- What a pattern says of a path. -/
def Pattern.marks (pattern : Pattern) (path : List Char) : List Mark :=
  ((pattern.shape.match? path).map (Mark.mk pattern.ignores)).toList

/-- What a line says of a path, if the line can be read. -/
def lineMarks (line : String) (path : List Char) : Option (List Mark) :=
  match Pattern.read line with
  | .error _ => none
  | .ok pattern => some (pattern.toList.flatMap (·.marks path))

/-- What a shape says of a path; a shape that cannot be read says nothing, or makes the line unreadable. -/
def shapeMarks (ignores : Bool) (shape : Except SegmentFault Shape) (path : List Char) :
    Option (List Mark) :=
  match shape with
  | .ok shape => if shape.runsBackwards then none else some (Pattern.marks ⟨ignores, shape⟩ path)
  | .error .openBracket => some []
  | .error .openEscape => none

/-- A line without a pattern says nothing. -/
theorem lineMarks_of_no_pattern
    (none : strip line = [] ∨ (strip line).head? = some '#' ∨ strip line = ['/'])
    (path : List Char) : lineMarks (String.ofList line) path = some [] := by
  -- The three cases are those of the reader that yield no pattern.
  unfold lineMarks Pattern.read
  simp only [String.toList_ofList]
  rw [if_pos none]
  rfl

/-- Reads the pattern of a line behind its negation. -/
def readBehind (line : String) (ignores : Bool) (pattern : List Char) :
    Except PatternError (Option Pattern) :=
  let parts := rootSegments pattern
  if parts = [] then .error (.invalid line)
  else
    match shapeOf (pattern = [] ∨ pattern.getLast? = some '/') parts with
    | .ok shape =>
      if shape.runsBackwards then .error (.badRange line) else .ok (some ⟨ignores, shape⟩)
    | .error .openBracket => .ok none
    | .error .openEscape => .error (.invalid line)

/-- A line is read as its pattern behind its negation. -/
theorem read_eq {pattern : List Char} {negated : Bool}
    (text : strip line = (if negated then ['!'] else []) ++ pattern) (full : pattern ≠ [])
    (notSlash : pattern ≠ ['/'])
    (start : negated = false → pattern.head? ≠ some '#' ∧ pattern.head? ≠ some '!') :
    Pattern.read (String.ofList line) = readBehind (String.ofList line) (!negated) pattern := by
  have hasPattern :
      ¬ (strip line = [] ∨ (strip line).head? = some '#' ∨ strip line = ['/']) := by
    rw [text]
    cases negated with
    | true => simp
    | false => simpa [full, notSlash] using (start rfl).1
  unfold Pattern.read
  simp only [String.toList_ofList]
  rw [if_neg hasPattern, text]
  cases negated with
  | true => rfl
  | false =>
    -- Without a negation mark in front, the text is the pattern.
    obtain ⟨c, rest, rfl⟩ := List.exists_cons_of_ne_nil full
    split
    · rename_i same
      exact absurd (congrArg List.head? same) (start rfl).2
    · rfl

/-- A line with a pattern says what the shape of its segments says. -/
theorem lineMarks_eq {pattern : List Char} {parts : List (List Char)} {negated : Bool}
    (text : strip line = (if negated then ['!'] else []) ++ pattern) (full : pattern ≠ [])
    (notSlash : pattern ≠ ['/'])
    (start : negated = false → pattern.head? ≠ some '#' ∧ pattern.head? ≠ some '!')
    (segments : rootSegments pattern = parts) (someParts : parts ≠ []) (path : List Char) :
    lineMarks (String.ofList line) path =
      shapeMarks (!negated) (shapeOf (pattern.getLast? == some '/') parts) path := by
  -- A pattern that is not empty is one of directories if it ends with a slash.
  have asked : decide (pattern = [] ∨ pattern.getLast? = some '/') =
      (pattern.getLast? == some '/') := by
    simp [full, Bool.beq_eq_decide_eq]
  unfold lineMarks
  rw [read_eq text full notSlash start, readBehind, asked, segments, if_neg someParts]
  cases shapeOf (pattern.getLast? == some '/') parts with
  | error fault => cases fault <;> rfl
  | ok shape =>
    cases backwards : shape.runsBackwards <;> simp [shapeMarks, backwards]

/-- The segments of a line behind its anchor, in their place below a root. -/
def innerSegments (line : List Char) : List (List Char) :=
  settle (Path.splitAt '/' (strip (innerOf line)))

/-- Whether the pattern of a line is one of directories. -/
def asksDirectory (line : List Char) : Bool :=
  ('/' :: strip (innerOf line)).getLast? == some '/'

/-- Some segments stand behind the anchor of every line. -/
theorem innerSegments_ne_nil (line : List Char) : innerSegments line ≠ [] :=
  settle_ne_nil (Path.splitAt_ne_nil _ _)

/-- A plain directory is cut into its components. -/
theorem splitAt_below (full : base ≠ []) (plain : ∀ part ∈ base, IsPlain part) (text : List Char) :
    Path.splitAt '/' (directoryText base ++ '/' :: text) =
      base.map String.toList ++ Path.splitAt '/' text := by
  -- No component holds a slash, so the text is cut between them and nowhere else.
  have clean : ∀ part ∈ base.map String.toList, '/' ∉ part := by
    intro part member slash
    obtain ⟨name, listed, rfl⟩ := List.mem_map.mp member
    exact (plain name listed).unmarked '/' slash (by decide)
  rw [Path.splitAt_append, directoryText,
    Path.splitAt_intercalate_eq_self (by simpa using full) clean]

/-- A directory of several components holds a slash. -/
theorem slash_mem_directoryText (several : 1 < base.length) : '/' ∈ directoryText base := by
  -- The slash is the one between the first two.
  match base, several with
  | first :: second :: rest, _ => simp [directoryText, List.intercalate_cons_cons]

/-- A line that is rewritten to the root stands for its own segments below its directory. -/
theorem lineMarks_rebase (baseFull : base ≠ []) (plain : ∀ part ∈ base, IsPlain part)
    (moved : isKept line = false) (innerFull : innerOf line ≠ [])
    (placed : strip (innerOf line) ≠ [] ∨ isAnchored line = true ∨ 1 < base.length)
    (path : List Char) :
    lineMarks (String.ofList (rebase (directoryText base) line)) path =
      shapeMarks (!isNegated line)
        (shapeOf (asksDirectory line) (base.map String.toList ++ innerSegments line)) path := by
  obtain ⟨c, rest, spelling, unmarked, -⟩ := directoryText_eq_cons baseFull plain
  have full : line ≠ [] := by
    rintro rfl
    exact innerFull rfl
  have directoryFull : directoryText base ≠ [] := by simp [spelling]
  have text : strip (rebase (directoryText base) line) =
      (if isNegated line then ['!'] else []) ++
        (anchor line ++ directoryText base ++ '/' :: strip (innerOf line)) := by
    rw [rebase_eq directoryFull full moved, if_neg innerFull,
      strip_append (by decide) (by decide)]
    simp [negation]
  -- With the directory in front the pattern applies from the root on, not at any depth.
  have segments : rootSegments (anchor line ++ directoryText base ++ '/' :: strip (innerOf line)) =
      base.map String.toList ++ innerSegments line := by
    have settled := settle_below plain (Path.splitAt_ne_nil '/' (strip (innerOf line)))
    rw [← splitAt_below baseFull plain] at settled
    unfold anchor
    split
    · exact (rootSegments_anchored _).trans settled
    · rename_i loose
      rw [List.nil_append, rootSegments_of_not_floats _ _, settled, innerSegments]
      · -- The slash behind the directory is not the last character, or one stands within it.
        rcases placed with someInner | anchored | several
        · obtain ⟨d, others, inner⟩ := List.exists_cons_of_ne_nil someInner
          simp [floats, inner, List.dropLast_append_of_ne_nil]
        · exact absurd anchored loose
        · have inside := slash_mem_directoryText several
          simp [floats, List.dropLast_append_of_ne_nil, inside]
      · rw [spelling]
        rintro same
        cases same
        exact unmarked (by decide)
  have said := lineMarks_eq text (by simp) ?_ ?_ segments (by simp [baseFull]) path
  · rw [said, asksDirectory, List.getLast?_append_of_ne_nil _ (by simp)]
  · unfold anchor
    split <;> simp [spelling]
  · intro whole
    unfold anchor
    split
    · simp
    · rw [spelling]
      simp only [List.nil_append, List.cons_append, List.head?_cons, ne_eq, Option.some.injEq]
      refine ⟨?_, ?_⟩
      · rintro rfl
        exact unmarked (by decide)
      · rintro rfl
        exact unmarked (by decide)

/-- A line with a slash in front of its pattern, if that would apply at any depth without one. -/
def pinned (line : List Char) : List Char :=
  if line = [] || isKept line then line
  else
    negation line ++ (if isAnchored line || floats (strip (innerOf line)) then ['/'] else []) ++
      innerOf line

/-- A line stays as it is when it is pinned, if its pattern has a slash at its start or within. -/
theorem pinned_eq_self (fixed : isAnchored line = true ∨ floats (strip (innerOf line)) = false) :
    pinned line = line := by
  unfold pinned
  split
  · rfl
  · have parts : negation line ++ (anchor line ++ innerOf line) = line := by
      rw [anchor_append, negation_append]
    rw [List.append_assoc]
    convert parts using 3
    -- What pinning puts in front is the anchor that the pattern has, or nothing.
    unfold anchor
    rcases fixed with anchored | slash
    · rw [anchored]
      rfl
    · rw [slash, Bool.or_false]

/-- What stripping leaves of a pattern without an anchor starts as the pattern does, and not with a slash. -/
theorem head?_strip_innerOf (loose : isAnchored line = false)
    (someInner : strip (innerOf line) ≠ []) :
    (strip (innerOf line)).head? = (patternOf line).head? ∧
      (strip (innerOf line)).head? ≠ some '/' := by
  -- Stripping only takes blanks from the end, so the first character is that of the inner text.
  obtain ⟨same, noSlash⟩ := head?_innerOf loose
  rw [head?_strip someInner]
  exact ⟨by rw [same], noSlash⟩

/-- A pinned line stands for its own segments at the root. -/
theorem lineMarks_pinned (moved : isKept line = false) (someInner : strip (innerOf line) ≠ [])
    (path : List Char) :
    lineMarks (String.ofList (pinned line)) path =
      shapeMarks (!isNegated line) (shapeOf (asksDirectory line) (innerSegments line)) path := by
  have full : line ≠ [] := by
    rintro rfl
    exact someInner rfl
  have pinning : pinned line = negation line ++
      ((if isAnchored line || floats (strip (innerOf line)) then ['/'] else []) ++
        innerOf line) := by
    rw [pinned, if_neg (by simp [full, moved]), List.append_assoc]
  have ends : (strip (innerOf line)).getLast? = ('/' :: strip (innerOf line)).getLast? := by
    rw [← List.singleton_append, List.getLast?_append_of_ne_nil _ someInner]
  by_cases slash : isAnchored line || floats (strip (innerOf line))
  · -- The pattern starts with a slash, its own or the one that pins it.
    have text : strip (pinned line) =
        (if isNegated line then ['!'] else []) ++ '/' :: strip (innerOf line) := by
      rw [pinning, if_pos slash, strip_negation, List.singleton_append]
      exact congrArg (negation line ++ ·) (strip_append (by decide) (by decide) [] _)
    exact lineMarks_eq text (by simp) (by simpa using someInner) (by simp)
      (rootSegments_anchored _) (innerSegments_ne_nil line) path
  · -- The pattern has a slash, but not at its start.
    have fixed := slash
    simp only [Bool.or_eq_true, not_or, Bool.not_eq_true] at fixed
    have text : strip (pinned line) =
        (if isNegated line then ['!'] else []) ++ strip (innerOf line) := by
      rw [pinning, if_neg slash, List.nil_append, strip_negation]
      rfl
    obtain ⟨start, noSlash⟩ := head?_strip_innerOf fixed.1 someInner
    have said := lineMarks_eq text someInner ?_ ?_ (rootSegments_of_not_floats fixed.2 noSlash)
      (innerSegments_ne_nil line) path
    · rw [said, ends]
      rfl
    · intro same
      rw [same] at noSlash
      exact noSlash rfl
    · intro whole
      obtain ⟨samePattern, noMark⟩ := head?_patternOf whole
      rw [start]
      exact ⟨by simpa [samePattern] using head?_of_moved moved, noMark⟩

/-- Shapes say the same of two paths if they match them alike. -/
theorem shapeMarks_congr {shape other : Shape} {path otherPath : List Char}
    (backwards : shape.runsBackwards = other.runsBackwards)
    (matched : shape.match? path = other.match? otherPath) (ignores : Bool) :
    shapeMarks ignores (.ok shape) path = shapeMarks ignores (.ok other) otherPath := by
  simp only [shapeMarks, Pattern.marks, backwards, matched]

/-- Steps behind a spelled text say behind that text what they say alone. -/
theorem shapeMarks_spelled (ignores : Bool) (text rest : List Char) (steps : List Step) :
    shapeMarks ignores (.ok (.along (spelled text ++ steps))) (text ++ rest) =
      shapeMarks ignores (.ok (.along steps)) rest := by
  -- Spelled steps follow their own text, and they never run backwards.
  have backwards : (Shape.along (spelled text ++ steps)).runsBackwards =
      (Shape.along steps).runsBackwards := by
    rw [Shape.runsBackwards, List.any_append, runsBackwards_spelled, Bool.false_or]
    rfl
  have matched : (Shape.along (spelled text ++ steps)).match? (text ++ rest) =
      (Shape.along steps).match? rest := follow_spelled_append text rest steps
  exact shapeMarks_congr backwards matched ignores

/-- Segments below a plain directory say there what they say at the root. -/
theorem shapeMarks_below (full : base ≠ []) (plain : ∀ part ∈ base, IsPlain part)
    {parts : List (List Char)} (someParts : parts ≠ [])
    (notAll : standForAll (settle parts) = false) {c : Char} (other : c ≠ '/') (rest : List Char)
    (ignores directoryOnly : Bool) :
    shapeMarks ignores (shapeOf directoryOnly (base.map String.toList ++ settle parts))
        (directoryText base ++ '/' :: c :: rest) =
      shapeMarks ignores (shapeOf directoryOnly (settle parts)) (c :: rest) := by
  rw [shapeOf_below full plain (settle_ne_nil someParts)]
  rcases shapeOf_settle someParts notAll with
    ⟨fault, read, shaped⟩ | ⟨steps, shape, read, shaped, follows⟩
  · rw [read, shaped]
    cases fault <;> rfl
  · rw [read, shaped]
    -- Behind the directory the steps stand at its slash, and the shape follows them from there.
    have backwards : (Shape.along steps).runsBackwards = shape.runsBackwards :=
      follows.runsBackwards_eq.symm
    have matched : (Shape.along steps).match? ('/' :: c :: rest) = shape.match? (c :: rest) :=
      (follows.match_eq c rest other).symm
    exact (shapeMarks_spelled ignores _ _ steps).trans (shapeMarks_congr backwards matched ignores)

/-- Segments that stand for all paths stand below a plain directory for all paths on one line. -/
theorem shapeMarks_below_of_all (full : base ≠ []) (plain : ∀ part ∈ base, IsPlain part)
    {parts : List (List Char)} (all : standForAll parts = true) {c : Char} {rest : List Char}
    (other : c ≠ '/') (oneLine : '\n' ∉ c :: rest) (ends : (c :: rest).getLast? ≠ some '/')
    (ignores : Bool) :
    shapeMarks ignores (shapeOf false (base.map String.toList ++ parts))
        (directoryText base ++ '/' :: c :: rest) =
      shapeMarks ignores (shapeOf false parts) (c :: rest) := by
  have notNewline : c ≠ '\n' := fun same => oneLine (by simp [same])
  have everything : shapeMarks ignores (.ok .everything) (c :: rest) = some [⟨ignores, false⟩] := by
    simp [shapeMarks, Shape.runsBackwards, Pattern.marks, Shape.match?, notNewline]
  -- Steps that lead to the end of the path below the directory say the same.
  have below : ∀ steps, readSegments false true parts = .ok steps →
      steps.any (·.runsBackwards) = false → follow steps ('/' :: c :: rest) = some false →
      shapeMarks ignores (shapeOf false (base.map String.toList ++ parts))
        (directoryText base ++ '/' :: c :: rest) = some [⟨ignores, false⟩] := by
    intro steps read forwards matched
    have someParts : parts ≠ [] := by
      rintro rfl
      cases all
    rw [shapeOf_below full plain someParts, read]
    refine (shapeMarks_spelled ignores _ _ steps).trans ?_
    simp [shapeMarks, Shape.runsBackwards, forwards, Pattern.marks, Shape.match?, matched]
  simp only [standForAll, Bool.or_eq_true, beq_iff_eq] at all
  rcases all with rfl | rfl
  · exact (below [.descent false] rfl rfl rfl).trans everything.symm
  · -- The last name is matched, behind the directories before it.
    have behind := (followsSlash_leadingDirectories [.segment, .finish]).match_eq c rest other
    refine (below _ rfl rfl (behind.symm.trans ?_)).trans everything.symm
    exact follow_leadingDirectories_segment other oneLine ends

/-- Segments below a plain directory say nothing of a path that is not below it. -/
theorem shapeMarks_outside (full : base ≠ []) (plain : ∀ part ∈ base, IsPlain part)
    {parts : List (List Char)} (someParts : parts ≠ []) {path : List Char}
    (outside : ¬ directoryText base ++ ['/'] <+: path) (ignores directoryOnly : Bool) :
    (shapeMarks ignores (shapeOf directoryOnly (base.map String.toList ++ parts)) path).getD [] =
      [] := by
  rw [shapeOf_below full plain someParts]
  cases read : readSegments directoryOnly true parts with
  | error fault => cases fault <;> rfl
  | ok steps =>
    -- The path does not start with the directory, or no slash stands behind it.
    have nothing : follow (spelled (directoryText base) ++ steps) path = none := by
      by_cases inside : directoryText base <+: path
      · obtain ⟨rest, rfl⟩ := inside
        rw [follow_spelled_append]
        refine follow_readSegments_of_head someParts read ?_
        intro slash
        obtain ⟨after, rfl⟩ := List.head?_eq_some_iff.mp slash
        exact outside ⟨after, by simp⟩
      · exact follow_spelled_of_apart inside steps
    simp only [Except.map, shapeMarks, Pattern.marks, Shape.match?, nothing]
    split <;> rfl

/-- An empty line says nothing. -/
theorem lineMarks_nil (path : List Char) : lineMarks (String.ofList []) path = some [] :=
  lineMarks_of_no_pattern (.inl rfl) path

/-- A comment says nothing. -/
theorem lineMarks_comment (comment : line.head? = some '#') (path : List Char) :
    lineMarks (String.ofList line) path = some [] := by
  -- Stripping leaves the mark in front.
  obtain ⟨rest, rfl⟩ := List.head?_eq_some_iff.mp comment
  have stripped : strip ('#' :: rest) = '#' :: strip rest :=
    strip_append (by decide) (by decide) [] rest
  exact lineMarks_of_no_pattern (by simp [stripped]) path

end PermissionNames.Ignore
