import Mathlib.Data.List.Basic
import PermissionNames.Ignore.Pattern
import PermissionNames.Proofs.Text.Identifier
import PermissionNames.Proofs.Text.Pieces

/-! Patterns with a plain directory in front: they match below that directory what the rest of them matches from the root. -/

namespace PermissionNames.Ignore

/-- Characters that a pattern reads in a way of its own, somewhere. -/
def specialMarks : List Char := ['/', '*', '?', '[', '\\', '!', '#']

/-- A directory name that stands for itself in every pattern. -/
structure IsPlain (part : String) : Prop where
  full : part ≠ ""
  notPeriod : part ≠ "."
  unmarked : ∀ c ∈ part.toList, c ∉ specialMarks
  visible : ∀ c ∈ part.toList, isBlank c = false

/-- Names of basic Latin letters and digits are plain. -/
theorem IsPlain.of_isAlphanum {part : String} (full : part ≠ "")
    (alphanumeric : ∀ c ∈ part.toList, c.isAlphanum = true) : IsPlain part := by
  -- These characters lie below the 128th, where each can be looked at.
  have each : ∀ c ∈ part.toList, c ∉ specialMarks ∧ isBlank c = false := by
    intro c member
    have tried := Identifier.of_tried
      (fun c => !c.isAlphanum || decide (c ∉ specialMarks ∧ isBlank c = false)) (by decide)
      (Identifier.toNat_lt_of_isAlphanum (alphanumeric c member))
    simpa [alphanumeric c member] using tried
  refine ⟨full, ?_, fun c member => (each c member).1, fun c member => (each c member).2⟩
  rintro rfl
  exact absurd (alphanumeric '.' (by decide)) (by decide)

/-- The text of a directory by its components. -/
def directoryText (base : List String) : List Char :=
  ['/'].intercalate (base.map String.toList)

/-- A plain directory starts with a character that stands for itself. -/
theorem directoryText_eq_cons {base : List String} (full : base ≠ [])
    (plain : ∀ part ∈ base, IsPlain part) :
    ∃ c rest, directoryText base = c :: rest ∧ c ∉ specialMarks ∧ isBlank c = false := by
  -- The character is the first one of the first component.
  obtain ⟨part, others, rfl⟩ := List.exists_cons_of_ne_nil full
  have here := plain part List.mem_cons_self
  obtain ⟨c, letters, spelling⟩ := List.exists_cons_of_ne_nil
    (by simpa using here.full : part.toList ≠ [])
  have member : c ∈ part.toList := by simp [spelling]
  refine ⟨c, ?_, ?_, here.unmarked c member, here.visible c member⟩
  · exact letters ++ if others = [] then [] else '/' :: directoryText others
  · cases others with
    | nil => simp [directoryText, spelling]
    | cons next others => simp [directoryText, List.intercalate_cons_cons, spelling]

/-- A plain directory holds neither white space nor any mark but slashes. -/
theorem not_mem_directoryText {base : List String} (plain : ∀ part ∈ base, IsPlain part) {c : Char}
    (special : c ∈ specialMarks ∨ isBlank c = true) (other : c ≠ '/') :
    c ∉ directoryText base := by
  intro member
  -- A character of the text is a separator or one of a component.
  rcases mem_of_mem_intercalate member with slash | ⟨text, listed, inside⟩
  · exact other (List.mem_singleton.mp slash)
  · obtain ⟨part, inBase, rfl⟩ := List.mem_map.mp listed
    have here := plain part inBase
    rcases special with marked | blank
    · exact here.unmarked c inside marked
    · rw [here.visible c inside] at blank
      cases blank

/-- A plain directory does not end with a slash. -/
theorem getLast?_directoryText {base : List String} (full : base ≠ [])
    (plain : ∀ part ∈ base, IsPlain part) : (directoryText base).getLast? ≠ some '/' := by
  induction base with
  | nil => exact absurd rfl full
  | cons part rest ih =>
    cases rest with
    | nil =>
      have here := plain part List.mem_cons_self
      intro last
      refine here.unmarked '/' (List.mem_of_getLast? ?_) (by decide)
      simpa [directoryText] using last
    | cons next rest =>
      -- The end is that of the components behind the first one.
      have later := ih (by simp) fun part member => plain part (List.mem_cons_of_mem _ member)
      obtain ⟨c, behind, spelling, -, -⟩ := directoryText_eq_cons
        (List.cons_ne_nil next rest) fun part member => plain part (List.mem_cons_of_mem _ member)
      have joined : directoryText (part :: next :: rest) =
          (part.toList ++ ['/']) ++ directoryText (next :: rest) := by
        simp [directoryText, List.intercalate_cons_cons]
      rw [joined, List.getLast?_append_of_ne_nil _ (by simp [spelling])]
      exact later

/-- Steps that accept exactly these characters. -/
def spelled (text : List Char) : List Step :=
  text.map fun c => .one (.exactly c)

/-- Spelled characters are passed over where they stand. -/
theorem follow_spelled_append (text rest : List Char) (later : List Step) :
    follow (spelled text ++ later) (text ++ rest) = follow later rest := by
  -- Each spelled character is taken by its own test.
  induction text with
  | nil => rfl
  | cons c text ih => simpa [spelled, follow, CharTest.accepts] using ih

/-- Spelled characters lead nowhere in a path that does not start with them. -/
theorem follow_spelled_of_apart {text path : List Char} (apart : ¬ text <+: path)
    (later : List Step) : follow (spelled text ++ later) path = none := by
  -- The first character that differs, or is missing, stops the match.
  induction text generalizing path with
  | nil => exact absurd List.nil_prefix apart
  | cons c text ih =>
    cases path with
    | nil => rfl
    | cons d path =>
      by_cases same : d = c
      · subst same
        have further : ¬ text <+: path := fun inside =>
          apart (List.cons_prefix_cons.mpr ⟨rfl, inside⟩)
        simpa [spelled, follow, CharTest.accepts] using ih further
      · simp [spelled, follow, CharTest.accepts, same]

/-- Spelled characters lead on only behind themselves. -/
theorem exists_of_follow_spelled {text path : List Char} {later : List Step} {result : Bool}
    (found : follow (spelled text ++ later) path = some result) :
    ∃ rest, path = text ++ rest ∧ follow later rest = some result := by
  -- A path that does not begin with the spelling leads nowhere.
  by_cases inside : text <+: path
  · obtain ⟨rest, rfl⟩ := inside
    rw [follow_spelled_append] at found
    exact ⟨rest, rfl, found⟩
  · rw [follow_spelled_of_apart inside] at found
    cases found

/-- No spelled character is a range that runs backwards. -/
theorem runsBackwards_spelled (text : List Char) :
    (spelled text).any (·.runsBackwards) = false := by
  simp [spelled, Step.runsBackwards]

/-- A segment without special characters is spelled. -/
theorem readSegment_of_unmarked {text : List Char} {bound : Nat} (within : text.length ≤ bound)
    (unmarked : ∀ c ∈ text, c ∉ specialMarks) : readSegment bound text = .ok (spelled text) := by
  induction text generalizing bound with
  | nil => cases bound <;> rfl
  | cons c rest ih =>
    -- The bound covers every character, so it is not used up before the text is.
    obtain ⟨bound, rfl⟩ : ∃ n, bound = n + 1 := ⟨bound - 1, by simp at within; omega⟩
    have here : c ∉ specialMarks := unmarked c List.mem_cons_self
    simp only [specialMarks, List.mem_cons, not_or] at here
    have later : readSegment bound rest = .ok (spelled rest) :=
      ih (by simpa using within) fun d member => unmarked d (List.mem_cons_of_mem c member)
    simp only [readSegment, here, if_false, later]
    rfl

variable {base : List String} {parts : List (List Char)}

/-- A plain name is no wildcard. -/
theorem IsPlain.toList_ne {part : String} (plain : IsPlain part) :
    part.toList ≠ anyDepth ∧ part.toList ≠ ['*'] ∧ part.toList ≠ [] := by
  -- All wildcards hold a star.
  have noStar : '*' ∉ part.toList := fun member => plain.unmarked '*' member (by decide)
  refine ⟨?_, ?_, by simpa using plain.full⟩
  · intro same
    exact noStar (by rw [same]; decide)
  · intro same
    exact noStar (by rw [same]; decide)

/-- The steps of a segment that is not one for any depth. -/
def ownSteps (part : List Char) : Except SegmentFault (List Step) :=
  if part = ['*'] then .ok [.segment] else readSegment part.length part

/-- A segment is read between the slash that is due before it and the segments behind it. -/
theorem readSegments_cons {part : List Char} (other : part ≠ anyDepth)
    (directoryOnly slash : Bool) :
    readSegments directoryOnly slash (part :: parts) =
      (ownSteps part).bind fun own =>
        (readSegments directoryOnly true parts).map fun later =>
          (if slash then spelled ['/'] else []) ++ own ++
            (if parts = [] then [Step.finish] else []) ++ later := by
  -- A segment of a single star is the only one that is not read character by character.
  rw [readSegments, if_neg other, ownSteps]
  by_cases segment : part = ['*']
  · rw [if_pos segment, if_pos segment]
    cases readSegments directoryOnly true parts <;> rfl
  · rw [if_neg segment, if_neg segment]
    cases readSegment part.length part with
    | error fault => rfl
    | ok own => cases readSegments directoryOnly true parts <;> rfl

/-- A plain name in front of other segments is spelled. -/
theorem readSegments_cons_of_plain {part : String} (plain : IsPlain part) (full : parts ≠ [])
    (directoryOnly slash : Bool) :
    readSegments directoryOnly slash (part.toList :: parts) =
      (readSegments directoryOnly true parts).map
        ((if slash then spelled ['/'] else []) ++ spelled part.toList ++ ·) := by
  -- A plain name is neither of the two wildcards and has no marks inside.
  obtain ⟨notAnyDepth, notSegment, -⟩ := plain.toList_ne
  have own : ownSteps part.toList = .ok (spelled part.toList) := by
    rw [ownSteps, if_neg notSegment, readSegment_of_unmarked (Nat.le_refl _) plain.unmarked]
  rw [readSegments_cons notAnyDepth, own]
  simp only [Except.bind, full, if_false, List.append_nil]

/-- A plain directory in front of other segments is spelled, and a slash is due behind it. -/
theorem readSegments_below (full : base ≠ []) (plain : ∀ part ∈ base, IsPlain part)
    (partsFull : parts ≠ []) (directoryOnly slash : Bool) :
    readSegments directoryOnly slash (base.map String.toList ++ parts) =
      (readSegments directoryOnly true parts).map
        ((if slash then spelled ['/'] else []) ++ spelled (directoryText base) ++ ·) := by
  -- Each component is spelled behind the slash that is due.
  induction base generalizing slash with
  | nil => exact absurd rfl full
  | cons part rest ih =>
    have here := plain part List.mem_cons_self
    cases rest with
    | nil =>
      rw [List.map_cons, List.map_nil, List.singleton_append,
        readSegments_cons_of_plain here partsFull]
      simp [directoryText]
    | cons next rest =>
      have onward : (next :: rest).map String.toList ++ parts ≠ [] := by simp
      rw [List.map_cons, List.cons_append, readSegments_cons_of_plain here onward,
        ih (by simp) (fun part member => plain part (List.mem_cons_of_mem _ member))]
      have joined : directoryText (part :: next :: rest) =
          part.toList ++ '/' :: directoryText (next :: rest) := by
        simp [directoryText, List.intercalate_cons_cons]
      rw [joined]
      cases readSegments directoryOnly true parts with
      | error fault => rfl
      | ok steps => simp [Except.map, spelled]

/-- A slash that is due stands in front of any segment but one for any depth. -/
theorem readSegments_slash {part : List Char} (other : part ≠ anyDepth) (directoryOnly : Bool) :
    readSegments directoryOnly true (part :: parts) =
      (readSegments directoryOnly false (part :: parts)).map (spelled ['/'] ++ ·) := by
  -- The slash is the first thing that a segment contributes, so it can be put in front later.
  rw [readSegments_cons other, readSegments_cons other]
  cases ownSteps part with
  | error fault => rfl
  | ok own => cases readSegments directoryOnly true parts <;> rfl

/-- Segments behind a slash that is due lead nowhere without one. -/
theorem follow_readSegments_of_head {directoryOnly : Bool} {steps : List Step} {text : List Char}
    (full : parts ≠ []) (read : readSegments directoryOnly true parts = .ok steps)
    (noSlash : text.head? ≠ some '/') : follow steps text = none := by
  induction parts generalizing steps with
  | nil => exact absurd rfl full
  | cons part rest ih =>
    by_cases wild : part = anyDepth
    · -- A segment for any depth asks for a slash too, or leaves it to those behind it.
      rw [readSegments, if_pos wild] at read
      split at read
      · cases read
        simp [follow, noSlash]
      · rename_i onward
        cases later : readSegments directoryOnly true rest with
        | error fault =>
          rw [later] at read
          cases read
        | ok further =>
          rw [later] at read
          cases read
          rw [follow, ih onward later]
          rintro c text rfl
          exact noSlash rfl
    · rw [readSegments_slash wild] at read
      cases own : readSegments directoryOnly false (part :: rest) with
      | error fault =>
        rw [own] at read
        cases read
      | ok further =>
        rw [own] at read
        cases read
        refine follow_spelled_of_apart ?_ further
        rintro ⟨text, rfl⟩
        exact noSlash rfl

/-- A collapsed list starts as the list does. -/
theorem head?_collapse (parts : List (List Char)) : (collapse parts).head? = parts.head? := by
  -- What is merged is merged into an equal segment behind it.
  induction parts with
  | nil => rfl
  | cons part rest ih =>
    rw [collapse]
    split
    · rename_i merged
      rw [ih, merged.2, merged.1, List.head?_cons]
    · rfl

/-- No segment for any depth stands behind another one in a collapsed list. -/
theorem collapse_cons_cons {parts rest : List (List Char)} {next : List Char}
    (collapsed : collapse parts = anyDepth :: next :: rest) : next ≠ anyDepth := by
  induction parts with
  | nil => cases collapsed
  | cons part others ih =>
    -- The list starts where collapsing keeps its first segment, and there the next one is another.
    rw [collapse] at collapsed
    split at collapsed
    · exact ih collapsed
    · rename_i single
      obtain ⟨rfl, later⟩ := List.cons.inj collapsed
      rintro rfl
      refine single ⟨rfl, ?_⟩
      rw [← head?_collapse, later, List.head?_cons]

/-- Segments that are no wildcards for any depth stay in front of a collapsed list. -/
theorem collapse_append {front : List (List Char)} (ordinary : ∀ part ∈ front, part ≠ anyDepth)
    (parts : List (List Char)) : collapse (front ++ parts) = front ++ collapse parts := by
  -- Only wildcards for any depth are merged, and there are none in front.
  induction front with
  | nil => rfl
  | cons part rest ih =>
    have single : ¬ (part = anyDepth ∧ (rest ++ parts).head? = some anyDepth) :=
      fun merged => ordinary part List.mem_cons_self merged.1
    rw [List.cons_append, collapse, if_neg single,
      ih fun other member => ordinary other (List.mem_cons_of_mem part member)]
    rfl

/-- Segments in their place below a root: an empty one at the end asks for what lies below, and neighbours for any depth are one. -/
def settle (parts : List (List Char)) : List (List Char) :=
  collapse (if parts.getLast? = some [] then parts.dropLast ++ [anyDepth] else parts)

/-- Some segments are left when segments are settled. -/
theorem settle_ne_nil (full : parts ≠ []) : settle parts ≠ [] := by
  -- Merging keeps the first segment, and nothing else is dropped.
  have start : ∀ list : List (List Char), list ≠ [] → collapse list ≠ [] := by
    intro list listed empty
    have same := head?_collapse list
    rw [empty] at same
    exact listed (List.head?_eq_none_iff.mp same.symm)
  unfold settle
  split
  · exact start _ (by simp)
  · exact start _ full

/-- A plain directory stays in front of the segments that are settled behind it. -/
theorem settle_below (plain : ∀ part ∈ base, IsPlain part) (full : parts ≠ []) :
    settle (base.map String.toList ++ parts) = base.map String.toList ++ settle parts := by
  have ordinary : ∀ part ∈ base.map String.toList, part ≠ anyDepth := by
    intro part member
    obtain ⟨name, listed, rfl⟩ := List.mem_map.mp member
    exact (plain name listed).toList_ne.1
  -- The last segment is one of those behind the directory.
  unfold settle
  rw [List.getLast?_append_of_ne_nil _ full, List.dropLast_append_of_ne_nil full]
  split
  · rw [List.append_assoc, collapse_append ordinary]
  · exact collapse_append ordinary parts

/-- The segments of an anchored pattern are those behind its slash. -/
theorem rootSegments_anchored (pattern : List Char) :
    rootSegments ('/' :: pattern) = settle (Path.splitAt '/' pattern) := by
  -- The slash in front cuts off an empty segment, which marks the root.
  have cut : Path.splitAt '/' ('/' :: pattern) = [] :: Path.splitAt '/' pattern := rfl
  unfold rootSegments settle
  rw [cut]

/-- Whether a pattern has no slash, but perhaps one at its end. -/
def floats (pattern : List Char) : Bool :=
  !pattern.dropLast.contains '/'

/-- A pattern that floats is one segment, perhaps with an empty one behind it. -/
theorem splitAt_of_floats {pattern : List Char} (loose : floats pattern = true) :
    ∃ only, only <+: pattern ∧
      (Path.splitAt '/' pattern = [only] ∨ Path.splitAt '/' pattern = [only, []]) := by
  -- The only slash there may be is the last character.
  rcases List.eq_nil_or_concat pattern with rfl | ⟨front, last, rfl⟩
  · exact ⟨[], List.nil_prefix, .inl rfl⟩
  · have clean : '/' ∉ front := by simpa [floats] using loose
    rw [List.concat_eq_append]
    by_cases slash : last = '/'
    · subst slash
      refine ⟨front, List.prefix_append _ _, .inr ?_⟩
      rw [Path.splitAt_append, Path.splitAt_eq_singleton clean]
      rfl
    · refine ⟨front ++ [last], List.prefix_refl _, .inl (Path.splitAt_eq_singleton ?_)⟩
      simp [clean, Ne.symm slash]

/-- A pattern that floats applies at any depth. -/
theorem rootSegments_of_floats {pattern only : List Char} (full : only ≠ [])
    (ordinary : only ≠ anyDepth)
    (cut : Path.splitAt '/' pattern = [only] ∨ Path.splitAt '/' pattern = [only, []]) :
    rootSegments pattern = settle (anyDepth :: Path.splitAt '/' pattern) := by
  -- A single name, with or without a slash behind it, gets the wildcard in front.
  unfold rootSegments settle
  rcases cut with cut | cut <;> rw [cut] <;> dsimp only <;> split <;> simp_all

/-- A pattern with a slash before its end applies from the root on. -/
theorem rootSegments_of_not_floats {pattern : List Char} (fixed : floats pattern = false)
    (start : pattern.head? ≠ some '/') :
    rootSegments pattern = settle (Path.splitAt '/' pattern) := by
  -- The slash cuts the pattern, and something stands on both sides of it.
  obtain ⟨before, after, rfl, beforeFull, afterFull⟩ : ∃ before after,
      pattern = before ++ '/' :: after ∧ before ≠ [] ∧ after ≠ [] := by
    rcases List.eq_nil_or_concat pattern with rfl | ⟨front, last, rfl⟩
    · simp [floats] at fixed
    · rw [List.concat_eq_append] at start ⊢
      obtain ⟨before, after, rfl⟩ := List.append_of_mem
        (by simpa [floats] using fixed : '/' ∈ front)
      refine ⟨before, after ++ [last], by simp, ?_, by simp⟩
      rintro rfl
      exact start rfl
  obtain ⟨c, rest, rfl⟩ := List.exists_cons_of_ne_nil beforeFull
  have other : c ≠ '/' := by simpa using start
  obtain ⟨first, later, -, pieces⟩ := Path.splitAt_cons_of_ne other rest
  -- What stands behind the slash is not a single empty segment.
  have behind : Path.splitAt '/' after ≠ [[]] := by
    intro single
    have joined := Path.intercalate_splitAt '/' after
    rw [single] at joined
    exact afterFull joined.symm
  have someBehind := Path.splitAt_ne_nil '/' after
  have cut : Path.splitAt '/' (c :: rest ++ '/' :: after) =
      (c :: first) :: (later ++ Path.splitAt '/' after) := by
    rw [Path.splitAt_append, pieces, List.cons_append]
  unfold rootSegments settle
  rw [cut]
  dsimp only
  split
  · rename_i same
    cases same
  · rename_i same
    simp [someBehind] at same
  · rename_i same
    obtain ⟨-, ends⟩ := List.cons.inj same
    rcases List.append_eq_singleton_iff.mp ends with ⟨-, single⟩ | ⟨-, empty⟩
    · exact absurd single behind
    · exact absurd empty someBehind
  · rfl

end PermissionNames.Ignore
