import PermissionNames.Proofs.Ignore.Segments

/-! Shapes below a plain directory: they match there what the shapes of the same segments match from the root. -/

namespace PermissionNames.Ignore

variable {base : List String} {parts : List (List Char)} {directoryOnly : Bool}

/-- A run goes on over an accepted character, or else stops before it. -/
theorem longestRun_cons (accepts : Char → Bool) (next : List Char → Option Bool) (c : Char)
    (rest : List Char) :
    longestRun accepts next (c :: rest) =
      if accepts c then (longestRun accepts next rest).or (next (c :: rest))
      else next (c :: rest) := by
  -- The longer run is tried first, so the shorter one counts only where that leads nowhere.
  rw [longestRun]
  cases longestRun accepts next rest <;> rfl

/-- A run that leads on has stopped at some rest of the text. -/
theorem exists_of_longestRun {accepts : Char → Bool} {next : List Char → Option Bool}
    {text : List Char} {result : Bool} (found : longestRun accepts next text = some result) :
    ∃ rest, rest <:+ text ∧ next rest = some result := by
  induction text with
  | nil => exact ⟨[], List.suffix_refl _, found⟩
  | cons c text ih =>
    rw [longestRun_cons] at found
    split at found
    · -- The run goes on if that leads anywhere, and stops here otherwise.
      rcases Option.or_eq_some_iff.mp found with further | ⟨-, here⟩
      · obtain ⟨rest, inside, stopped⟩ := ih further
        exact ⟨rest, inside.trans (List.suffix_cons c text), stopped⟩
      · exact ⟨c :: text, List.suffix_refl _, here⟩
    · exact ⟨c :: text, List.suffix_refl _, found⟩

/-- A run passes over accepted characters to where something leads on. -/
theorem longestRun_append_of_some {accepts : Char → Bool} {next : List Char → Option Bool}
    {front rest : List Char} {result : Bool} (accepted : ∀ c ∈ front, accepts c = true)
    (onward : longestRun accepts next rest = some result) :
    longestRun accepts next (front ++ rest) = some result := by
  -- Each accepted character in front hands on what is found behind it.
  induction front with
  | nil => exact onward
  | cons c front ih =>
    have later := ih fun d member => accepted d (List.mem_cons_of_mem c member)
    rw [List.cons_append, longestRun_cons, if_pos (accepted c List.mem_cons_self), later,
      Option.some_or]

/-- A run passes over accepted characters from where nothing leads on. -/
theorem longestRun_append {accepts : Char → Bool} {next : List Char → Option Bool}
    {front rest : List Char} (accepted : ∀ c ∈ front, accepts c = true)
    (closed : ∀ c after, c :: after <:+ front → next (c :: after ++ rest) = none) :
    longestRun accepts next (front ++ rest) = longestRun accepts next rest := by
  induction front with
  | nil => rfl
  | cons c front ih =>
    -- The run does not stop here, as nothing leads on from here.
    have here := closed c front (List.suffix_refl _)
    have later := ih (fun d member => accepted d (List.mem_cons_of_mem c member))
      fun d after inside => closed d after (inside.trans (List.suffix_cons c front))
    rw [List.cons_append] at here ⊢
    rw [longestRun_cons, if_pos (accepted c List.mem_cons_self), later, here, Option.or_none]

/-- A slash with what follows it is a spelled slash in front of that. -/
theorem follow_slash (later : List Step) :
    (fun text => match text with
      | '/' :: rest => follow later rest
      | _ => none) = follow (spelled ['/'] ++ later) := by
  -- Either the text begins with a slash, or neither side leads on.
  funext text
  split
  · exact (follow_spelled_append ['/'] _ later).symm
  · rename_i noSlash
    refine (follow_spelled_of_apart ?_ later).symm
    rintro ⟨after, rfl⟩
    exact noSlash after rfl

/-- Leading directories run up to a slash, as long as they can, or else they are none. -/
theorem follow_leadingDirectories (later : List Step) (c : Char) (rest : List Char) :
    follow (.leadingDirectories :: later) (c :: rest) =
      (if c = '\n' then none
        else longestRun (· != '\n') (follow (spelled ['/'] ++ later)) rest).or
          (follow later (c :: rest)) := by
  -- The first character is no part of the run, so only a newline there rules the run out.
  rw [← follow_slash, follow]
  by_cases newline : c = '\n'
  · simp [newline]
  · simp only [bne_iff_ne, ne_eq, newline, not_false_eq_true, if_true, if_false]
    split
    · rename_i found
      exact (congrArg (Option.or · _) found).symm
    · rename_i nothing
      exact (congrArg (Option.or · _) nothing).symm

/-- Inner directories run on behind a slash, as long as they can, or else they are none. -/
theorem follow_innerDirectories (later : List Step) (c : Char) (rest : List Char) :
    follow (.innerDirectories :: later) ('/' :: c :: rest) =
      (if c = '\n' then none else longestRun (· != '\n') (follow later) rest).or
        (follow later ('/' :: c :: rest)) := by
  -- Behind the slash at least one character is needed, and a newline is none.
  rw [follow]
  by_cases newline : c = '\n'
  · simp [newline]
  · simp only [bne_iff_ne, ne_eq, newline, not_false_eq_true, if_true, if_false]
    cases longestRun (· != '\n') (follow later) rest <;> rfl

/-- What is found through leading directories is found at some rest of the path. -/
theorem exists_of_leadingDirectories {later : List Step} {c : Char} {rest : List Char}
    {result : Bool} (found : follow (.leadingDirectories :: later) (c :: rest) = some result) :
    ∃ after, after <:+ c :: rest ∧ follow later after = some result := by
  rw [follow_leadingDirectories, Option.or_eq_some_iff] at found
  rcases found with deeper | ⟨-, here⟩
  · -- Through directories the rest is the one behind their last slash.
    split at deeper
    · cases deeper
    · obtain ⟨text, inside, stopped⟩ := exists_of_longestRun deeper
      obtain ⟨after, rfl⟩ : ['/'] <+: text := by
        by_contra apart
        rw [follow_spelled_of_apart apart] at stopped
        cases stopped
      rw [follow_spelled_append] at stopped
      exact ⟨after, ((List.suffix_cons '/' after).trans inside).trans (List.suffix_cons c rest),
        stopped⟩
  · exact ⟨c :: rest, List.suffix_refl _, here⟩

/-- A shape says of a path what steps say behind a slash, and runs backwards where they do. -/
structure FollowsSlash (shape : Shape) (steps : List Step) : Prop where
  runsBackwards_eq : shape.runsBackwards = steps.any (·.runsBackwards)
  match_eq : ∀ c rest, c ≠ '/' → shape.match? (c :: rest) = follow steps ('/' :: c :: rest)

/-- Steps say of a path what they say behind a slash when that is put in front of them. -/
theorem followsSlash_along (steps : List Step) :
    FollowsSlash (.along steps) (spelled ['/'] ++ steps) where
  runsBackwards_eq := rfl
  match_eq _ _ _ := (follow_spelled_append ['/'] _ steps).symm

/-- Directories in front of steps are directories behind a slash. -/
theorem followsSlash_leadingDirectories (steps : List Step) :
    FollowsSlash (.along (.leadingDirectories :: steps))
      (.innerDirectories :: (spelled ['/'] ++ steps)) where
  runsBackwards_eq := rfl
  match_eq c rest _ := by
  -- The run behind the slash begins where the leading directories do.
    have start : follow (spelled ['/'] ++ steps) ('/' :: c :: rest) = follow steps (c :: rest) :=
      follow_spelled_append ['/'] _ steps
    show follow (.leadingDirectories :: steps) (c :: rest) = _
    rw [follow_leadingDirectories, follow_innerDirectories, start]

/-- A path with a slash is one that leads through some directory to something in it. -/
theorem followsSlash_nested (marks : Bool) :
    FollowsSlash (.nested marks)
      (.innerDirectories :: (spelled ['/'] ++ [Step.segment, .descent marks])) where
  runsBackwards_eq := rfl
  match_eq c rest other := by
    rw [← (followsSlash_leadingDirectories [.segment, .descent marks]).match_eq c rest other]
    show (if (c :: rest).contains '/' then some marks else none) =
      follow (.leadingDirectories :: [.segment, .descent marks]) (c :: rest)
    -- Whatever leads on ends before a slash, and then it says what is asked.
    have said : ∀ text result, follow [.segment, .descent marks] text = some result →
        result = marks ∧ '/' ∈ text := by
      intro text result found
      cases text with
      | nil => cases found
      | cons d text =>
        rw [follow] at found
        split at found
        · obtain ⟨after, inside, stopped⟩ := exists_of_longestRun found
          rw [follow] at stopped
          split at stopped
          · rename_i slash
            cases stopped
            exact ⟨rfl, List.mem_cons_of_mem d (inside.subset (List.mem_of_mem_head? slash))⟩
          · cases stopped
        · cases found
    by_cases slash : '/' ∈ rest
    · -- The first directory leads to its slash, if no longer way does.
      obtain ⟨front, after, rfl, clean⟩ := List.eq_append_cons_of_mem slash
      have first : follow [.segment, .descent marks] (c :: (front ++ '/' :: after)) =
          some marks := by
        rw [follow, if_pos (by simpa using other)]
        refine longestRun_append_of_some ?_ (by simp [longestRun_cons, follow])
        intro d member
        have notSlash : d ≠ '/' := fun same => clean (same ▸ member)
        simpa using notSlash
      cases found : follow (.leadingDirectories :: [.segment, .descent marks])
          (c :: (front ++ '/' :: after)) with
      | none =>
        rw [follow_leadingDirectories, first] at found
        simp at found
      | some result =>
        obtain ⟨text, -, stopped⟩ := exists_of_leadingDirectories found
        rw [(said text result stopped).1]
        simp
    · have absent : '/' ∉ c :: rest := by simp [slash, Ne.symm other]
      cases found : follow (.leadingDirectories :: [.segment, .descent marks]) (c :: rest) with
      | none => simp [slash, Ne.symm other]
      | some result =>
        obtain ⟨text, inside, stopped⟩ := exists_of_leadingDirectories found
        exact absurd (inside.subset (said text result stopped).2) absent

/-- The last name of a path is a segment up to its end. -/
theorem follow_segment {name : List Char} (full : name ≠ []) (noSlash : '/' ∉ name) :
    follow [.segment, .finish] name = some false := by
  obtain ⟨c, rest, rfl⟩ := List.exists_cons_of_ne_nil full
  simp only [List.mem_cons, not_or] at noSlash
  -- No slash stops the segment before the end.
  have toEnd : longestRun (· != '/') (follow [.finish]) (rest ++ []) = some false := by
    refine longestRun_append_of_some ?_ rfl
    intro d member
    have other : d ≠ '/' := fun same => noSlash.2 (same ▸ member)
    simpa using other
  rw [List.append_nil] at toEnd
  rw [follow, if_pos (by simpa using Ne.symm noSlash.1), toEnd]

/-- A run leads on to no slash where there is none. -/
theorem longestRun_slash_of_not_mem {accepts : Char → Bool} {text : List Char}
    (noSlash : '/' ∉ text) (later : List Step) :
    longestRun accepts (follow (spelled ['/'] ++ later)) text = none := by
  -- A run that leads on ends in front of a slash of the text.
  by_contra found
  obtain ⟨result, found⟩ := Option.ne_none_iff_exists'.mp found
  obtain ⟨after, inside, stopped⟩ := exists_of_longestRun found
  obtain ⟨rest, rfl, -⟩ := exists_of_follow_spelled stopped
  exact noSlash (inside.subset (by simp))

/-- The longest run on one line to a slash leads to the last one, behind which the last name stands. -/
theorem longestRun_lastSlash {text : List Char} (slash : '/' ∈ text) (oneLine : '\n' ∉ text)
    (ends : text.getLast? ≠ some '/') :
    longestRun (· != '\n') (follow (spelled ['/'] ++ [Step.segment, .finish])) text =
      some false := by
  induction text with
  | nil => cases slash
  | cons c rest ih =>
    simp only [List.mem_cons, not_or] at slash oneLine
    rw [longestRun_cons, if_pos (by simpa using Ne.symm oneLine.1)]
    -- The run goes on to a later slash, if there is one, and else this is the last.
    by_cases further : '/' ∈ rest
    · obtain ⟨d, others, rfl⟩ := List.exists_cons_of_ne_nil (List.ne_nil_of_mem further)
      rw [ih further oneLine.2 (by simpa using ends), Option.some_or]
    · obtain rfl : '/' = c := slash.resolve_right further
      have someName : rest ≠ [] := by
        rintro rfl
        exact ends rfl
      have here : follow (spelled ['/'] ++ [Step.segment, .finish]) ('/' :: rest) =
          follow [.segment, .finish] rest := follow_spelled_append ['/'] rest _
      rw [longestRun_slash_of_not_mem further, Option.none_or, here,
        follow_segment someName further]

/-- A path on one line is its last name in some directories. -/
theorem follow_leadingDirectories_segment {c : Char} {rest : List Char} (other : c ≠ '/')
    (oneLine : '\n' ∉ c :: rest) (ends : (c :: rest).getLast? ≠ some '/') :
    follow [.leadingDirectories, .segment, .finish] (c :: rest) = some false := by
  -- The run takes all directories up to the last slash, or there are none.
  simp only [List.mem_cons, not_or] at oneLine
  rw [follow_leadingDirectories, if_neg (Ne.symm oneLine.1)]
  by_cases slash : '/' ∈ rest
  · obtain ⟨d, others, rfl⟩ := List.exists_cons_of_ne_nil (List.ne_nil_of_mem slash)
    rw [longestRun_lastSlash slash oneLine.2 (by simpa using ends), Option.some_or]
  · rw [longestRun_slash_of_not_mem slash, Option.none_or,
      follow_segment (by simp) (by simp [slash, Ne.symm other])]

/-- Segments that stand for every path. -/
def standForAll (parts : List (List Char)) : Bool :=
  parts == [anyDepth] || parts == [anyDepth, ['*']]

/-- The shape of segments that start with one for any depth, where no whole-path rule applies. -/
theorem shapeOf_anyDepth {rest : List (List Char)}
    (notAll : standForAll (anyDepth :: rest) = false) (notNested : rest ≠ [['*'], anyDepth]) :
    shapeOf directoryOnly (anyDepth :: rest) =
      (readSegments directoryOnly false rest).map fun steps =>
        .along (.leadingDirectories :: steps) := by
  -- The rules on whole paths are asked first, and none of them applies.
  have notAll : ¬ (anyDepth :: rest = [anyDepth] ∨ anyDepth :: rest = [anyDepth, ['*']]) := by
    simpa [standForAll] using notAll
  rw [shapeOf, if_neg notAll, if_neg (by simpa using notNested), if_pos rfl]

/-- The shape of segments that start with another one follows them from the start. -/
theorem shapeOf_cons {part : List Char} {rest : List (List Char)} (other : part ≠ anyDepth) :
    shapeOf directoryOnly (part :: rest) =
      (readSegments directoryOnly false (part :: rest)).map .along := by
  rw [shapeOf, if_neg (by simp [other]), if_neg (by simp [other]), if_neg other]

/-- The shape of settled segments says what they say behind a slash, unless they stand for all paths; where one cannot be read, neither can the other. -/
theorem shapeOf_settle (full : parts ≠ []) (notAll : standForAll (settle parts) = false) :
    (∃ fault, readSegments directoryOnly true (settle parts) = .error fault ∧
      shapeOf directoryOnly (settle parts) = .error fault) ∨
    ∃ steps shape, readSegments directoryOnly true (settle parts) = .ok steps ∧
      shapeOf directoryOnly (settle parts) = .ok shape ∧ FollowsSlash shape steps := by
  have settled : ∀ next others, settle parts = anyDepth :: next :: others → next ≠ anyDepth :=
    fun next others => collapse_cons_cons
  obtain ⟨first, rest, split⟩ := List.exists_cons_of_ne_nil (settle_ne_nil full)
  rw [split] at notAll settled ⊢
  by_cases wild : first = anyDepth
  · subst wild
    cases rest with
    | nil => simp [standForAll] at notAll
    | cons next others =>
      -- The segment behind one for any depth is another one, so a slash is due before it.
      have other : next ≠ anyDepth := settled next others rfl
      rw [readSegments, if_pos rfl, if_neg (by simp), readSegments_slash other]
      by_cases nested : next :: others = [['*'], anyDepth]
      · refine .inr ⟨_, .nested directoryOnly, ?_, ?_, followsSlash_nested directoryOnly⟩
        · rw [nested]
          rfl
        · rw [nested]
          rfl
      · rw [shapeOf_anyDepth notAll nested]
        cases readSegments directoryOnly false (next :: others) with
        | error fault => exact .inl ⟨fault, rfl, rfl⟩
        | ok steps => exact .inr ⟨_, _, rfl, rfl, followsSlash_leadingDirectories steps⟩
  · rw [readSegments_slash wild, shapeOf_cons wild]
    cases readSegments directoryOnly false (first :: rest) with
    | error fault => exact .inl ⟨fault, rfl, rfl⟩
    | ok steps => exact .inr ⟨_, _, rfl, rfl, followsSlash_along steps⟩

/-- The shape of segments below a plain directory spells the directory first. -/
theorem shapeOf_below (full : base ≠ []) (plain : ∀ part ∈ base, IsPlain part)
    (partsFull : parts ≠ []) :
    shapeOf directoryOnly (base.map String.toList ++ parts) =
      (readSegments directoryOnly true parts).map
        fun steps => .along (spelled (directoryText base) ++ steps) := by
  -- The directory is plain, so its segments are spelled before anything else is read.
  have below := readSegments_below full plain partsFull directoryOnly false
  obtain ⟨name, others, rfl⟩ := List.exists_cons_of_ne_nil full
  rw [List.map_cons, List.cons_append] at below ⊢
  rw [shapeOf_cons (plain name List.mem_cons_self).toList_ne.1, below]
  cases readSegments directoryOnly true parts <;> rfl

/-- A pattern for any depth that starts with a character foreign to a directory matches below the directory what it matches from the root. -/
theorem follow_leadingDirectories_below (full : base ≠ []) (plain : ∀ part ∈ base, IsPlain part)
    {mark c : Char} (foreign : mark ∉ directoryText base) (other : c ≠ '/')
    (later : List Step) (rest : List Char) :
    follow (.leadingDirectories :: .one (.exactly mark) :: later)
        (directoryText base ++ '/' :: c :: rest) =
      follow (.leadingDirectories :: .one (.exactly mark) :: later) (c :: rest) := by
  have noNewline : '\n' ∉ directoryText base :=
    not_mem_directoryText plain (.inr (by decide)) (by decide)
  have noSlashAtEnd := getLast?_directoryText full plain
  obtain ⟨start, behind, spelling, -, -⟩ := directoryText_eq_cons full plain
  rw [spelling] at foreign noNewline noSlashAtEnd ⊢
  simp only [List.mem_cons, not_or] at foreign noNewline
  -- No slash within the directory leads on, as the mark never stands behind one.
  have passed : longestRun (· != '\n') (follow (spelled ['/'] ++ .one (.exactly mark) :: later))
      (behind ++ '/' :: c :: rest) =
      longestRun (· != '\n') (follow (spelled ['/'] ++ .one (.exactly mark) :: later))
        ('/' :: c :: rest) := by
    refine longestRun_append ?_ ?_
    · intro d member
      have notNewline : d ≠ '\n' := fun same => noNewline.2 (same ▸ member)
      simpa using notNewline
    · intro d after inside
      have spelledOut : spelled ['/'] ++ .one (.exactly mark) :: later =
          spelled ['/', mark] ++ later := rfl
      rw [spelledOut]
      refine follow_spelled_of_apart ?_ later
      cases after with
      | nil =>
        -- The directory does not end with a slash.
        rintro ⟨text, same⟩
        obtain ⟨front, rfl⟩ := inside
        obtain rfl : '/' = d := by simpa using (List.cons.inj same).1
        have ends : (start :: front ++ ['/']).getLast? = some '/' := List.getLast?_concat
        exact noSlashAtEnd ends
      | cons e after =>
        rintro ⟨text, same⟩
        obtain ⟨-, rfl, -⟩ : '/' = d ∧ mark = e ∧ _ := by simpa using same
        exact foreign.2 (inside.subset (by simp))
  have atStart : follow (.one (.exactly mark) :: later) (start :: (behind ++ '/' :: c :: rest)) =
      none :=
    @follow_spelled_of_apart [mark] _ (by simp [foreign.1]) later
  have atSlash : follow (spelled ['/'] ++ .one (.exactly mark) :: later) ('/' :: c :: rest) =
      follow (.one (.exactly mark) :: later) (c :: rest) :=
    follow_spelled_append ['/'] _ _
  have notBefore : follow (spelled ['/'] ++ .one (.exactly mark) :: later) (c :: rest) = none :=
    follow_spelled_of_apart (by simp [Ne.symm other]) _
  rw [List.cons_append, follow_leadingDirectories, follow_leadingDirectories, atStart,
    if_neg (Ne.symm noNewline.1), passed, longestRun_cons, if_pos (by decide), atSlash,
    Option.or_none, longestRun_cons, notBefore]
  -- Behind the directory the run is the one from the root.
  by_cases newline : c = '\n' <;> simp [newline]

end PermissionNames.Ignore
