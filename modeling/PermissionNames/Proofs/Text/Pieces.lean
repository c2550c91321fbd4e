import PermissionNames.Path

/-! Texts cut at a separator, and texts joined by one. -/

namespace PermissionNames

/-- Two nonempty lists of texts are joined with one separator between them. -/
theorem intercalate_append_of_ne_nil {α : Type} {separator : List α} {first second : List (List α)}
    (firstFull : first ≠ []) (secondFull : second ≠ []) :
    separator.intercalate (first ++ second) =
      separator.intercalate first ++ separator ++ separator.intercalate second := by
  -- Only the last text of the first list has the second list behind its separator.
  induction first with
  | nil => exact absurd rfl firstFull
  | cons text rest ih =>
    cases rest with
    | nil => simp [List.intercalate_cons_of_ne_nil secondFull]
    | cons next rest =>
      have tail := ih (by simp)
      simp only [List.cons_append] at tail ⊢
      rw [List.intercalate_cons_cons, tail, List.intercalate_cons_cons]
      simp [List.append_assoc]

/-- What a joined text holds comes from the separator or from one of the texts. -/
theorem mem_of_mem_intercalate {α : Type} {separator : List α} {texts : List (List α)} {c : α}
    (member : c ∈ separator.intercalate texts) : c ∈ separator ∨ ∃ text ∈ texts, c ∈ text := by
  -- Two texts are kept apart, as only then a separator stands between them.
  induction texts with
  | nil => simp at member
  | cons text rest ih =>
    cases rest with
    | nil => exact .inr ⟨text, by simp, by simpa using member⟩
    | cons next rest =>
      rw [List.intercalate_cons_cons, List.mem_append, List.mem_append] at member
      rcases member with (inText | inSeparator) | later
      · exact .inr ⟨text, by simp, inText⟩
      · exact .inl inSeparator
      · rcases ih later with inSeparator | ⟨other, listed, inOther⟩
        · exact .inl inSeparator
        · exact .inr ⟨other, List.mem_cons_of_mem _ listed, inOther⟩

/-- Joining groups of texts joins the joined groups. -/
theorem intercalate_flatten {α : Type} {separator : List α} {groups : List (List (List α))}
    (full : ∀ group ∈ groups, group ≠ []) :
    separator.intercalate groups.flatten =
      separator.intercalate (groups.map separator.intercalate) := by
  -- A group that holds anything is joined to the rest by exactly one separator.
  induction groups with
  | nil => rfl
  | cons group rest ih =>
    cases rest with
    | nil => simp
    | cons next rest =>
      have tail := ih fun other member => full other (List.mem_cons_of_mem _ member)
      have nextFull : (next :: rest).flatten ≠ [] := by simp [full next (by simp)]
      rw [List.flatten_cons, intercalate_append_of_ne_nil (full group (by simp)) nextFull, tail]
      simp only [List.map_cons, List.intercalate_cons_cons]

namespace Path

/-- Cutting leaves at least one piece. -/
theorem splitAt_ne_nil (separator : Char) (text : List Char) : splitAt separator text ≠ [] := by
  -- A text without characters is one empty piece.
  cases text with
  | nil => simp [splitAt]
  | cons c rest =>
    unfold splitAt
    split
    · simp
    · split <;> simp

/-- A character that is no separator joins the first piece. -/
theorem splitAt_cons_of_ne {separator c : Char} (other : c ≠ separator) (rest : List Char) :
    ∃ first later, splitAt separator rest = first :: later ∧
      splitAt separator (c :: rest) = (c :: first) :: later := by
  -- There is a first piece always.
  cases pieces : splitAt separator rest with
  | nil => exact absurd pieces (splitAt_ne_nil separator rest)
  | cons first later => exact ⟨first, later, rfl, by simp [splitAt, other, pieces]⟩

/-- A text without the separator joins the first piece of what follows. -/
theorem splitAt_append_of_not_mem {separator : Char} {front : List Char} (absent : separator ∉ front)
    (rest : List Char) :
    ∃ first later, splitAt separator rest = first :: later ∧
      splitAt separator (front ++ rest) = (front ++ first) :: later := by
  -- Its characters join that piece one by one, from the last to the first.
  induction front with
  | nil =>
    obtain ⟨first, later, pieces⟩ := List.exists_cons_of_ne_nil (splitAt_ne_nil separator rest)
    exact ⟨first, later, pieces, pieces⟩
  | cons c front ih =>
    simp only [List.mem_cons, not_or] at absent
    obtain ⟨first, later, pieces, joined⟩ := ih absent.2
    obtain ⟨next, others, cut, extended⟩ := splitAt_cons_of_ne (Ne.symm absent.1) (front ++ rest)
    rw [joined, List.cons.injEq] at cut
    exact ⟨first, later, pieces, by rw [List.cons_append, extended, ← cut.1, ← cut.2]; rfl⟩

/-- A separator ends the last piece before it. -/
theorem splitAt_append (separator : Char) (before after : List Char) :
    splitAt separator (before ++ separator :: after) =
      splitAt separator before ++ splitAt separator after := by
  induction before with
  | nil => simp [splitAt]
  | cons c rest ih =>
    -- A separator before the last one ends a piece of its own, and others join the next piece.
    by_cases same : c = separator
    · simp [splitAt, same, ih]
    · obtain ⟨first, later, pieces, joined⟩ := splitAt_cons_of_ne same rest
      rw [joined, List.cons_append, splitAt, if_neg same, ih, pieces]
      rfl

/-- A text without the separator is one piece. -/
theorem splitAt_eq_singleton {separator : Char} {text : List Char} (absent : separator ∉ text) :
    splitAt separator text = [text] := by
  -- No character ends a piece, so all of them join the last one.
  induction text with
  | nil => rfl
  | cons c rest ih =>
    simp only [List.mem_cons, not_or] at absent
    simp [splitAt, Ne.symm absent.1, ih absent.2]

/-- Joining the pieces gives the text back. -/
theorem intercalate_splitAt (separator : Char) (text : List Char) :
    [separator].intercalate (splitAt separator text) = text := by
  induction text with
  | nil => rfl
  | cons c rest ih =>
    -- The separator comes back before the rest, and any other character in the first piece.
    by_cases same : c = separator
    · rw [splitAt, if_pos same, List.intercalate_cons_of_ne_nil (splitAt_ne_nil _ _), ih]
      simp [same]
    · obtain ⟨first, later, pieces, joined⟩ := splitAt_cons_of_ne same rest
      rw [joined, List.intercalate_cons_cons_left, ← pieces, ih]

/-- A piece holds no separator. -/
theorem not_mem_of_mem_splitAt {separator : Char} {text piece : List Char}
    (member : piece ∈ splitAt separator text) : separator ∉ piece := by
  induction text generalizing piece with
  | nil => simp_all [splitAt]
  | cons c rest ih =>
    -- Only characters that are no separators are put in front of a piece.
    by_cases same : c = separator
    · rw [splitAt, if_pos same, List.mem_cons] at member
      rcases member with rfl | later
      · simp
      · exact ih later
    · obtain ⟨first, later, pieces, joined⟩ := splitAt_cons_of_ne same rest
      rw [joined, List.mem_cons] at member
      rcases member with rfl | inLater
      · have listed : first ∈ splitAt separator rest := by simp [pieces]
        have clean := ih listed
        simp [Ne.symm same, clean]
      · exact ih (by simp [pieces, inLater])

/-- What a piece holds is part of the text. -/
theorem mem_of_mem_splitAt {separator c : Char} {text piece : List Char}
    (listed : piece ∈ splitAt separator text) (member : c ∈ piece) : c ∈ text := by
  induction text generalizing piece with
  | nil => simp_all [splitAt]
  | cons d rest ih =>
    -- A piece is one of the rest, or the first of the rest with this character in front.
    by_cases same : d = separator
    · rw [splitAt, if_pos same, List.mem_cons] at listed
      rcases listed with rfl | later
      · simp at member
      · exact List.mem_cons_of_mem _ (ih later member)
    · obtain ⟨first, later, pieces, joined⟩ := splitAt_cons_of_ne same rest
      rw [joined, List.mem_cons] at listed
      rcases listed with rfl | inLater
      · rcases List.mem_cons.mp member with here | inFirst
        · simp [here]
        · have firstPiece : first ∈ splitAt separator rest := by simp [pieces]
          exact List.mem_cons_of_mem _ (ih firstPiece inFirst)
      · exact List.mem_cons_of_mem _ (ih (by simp [pieces, inLater]) member)

/-- Cutting a joined text cuts every one of the texts. -/
theorem splitAt_intercalate {separator : Char} {texts : List (List Char)} (full : texts ≠ []) :
    splitAt separator ([separator].intercalate texts) = texts.flatMap (splitAt separator) := by
  induction texts with
  | nil => exact absurd rfl full
  | cons text rest ih =>
    cases rest with
    | nil => simp
    | cons next rest =>
      -- The separator after the first text ends its last piece.
      rw [List.intercalate_cons_cons, List.append_assoc, List.singleton_append, splitAt_append,
        ih (by simp)]
      rfl

/-- Texts that were joined are told apart again if none of them holds the separator. -/
theorem splitAt_intercalate_eq_self {separator : Char} {texts : List (List Char)}
    (full : texts ≠ []) (clean : ∀ text ∈ texts, separator ∉ text) :
    splitAt separator ([separator].intercalate texts) = texts := by
  -- Each text is one piece, so cutting them all gives the texts.
  have pieces : ∀ texts : List (List Char), (∀ text ∈ texts, separator ∉ text) →
      texts.flatMap (splitAt separator) = texts := by
    intro texts
    induction texts with
    | nil => intro _; rfl
    | cons text rest ih =>
      intro clean
      rw [List.flatMap_cons, splitAt_eq_singleton (clean text List.mem_cons_self),
        ih fun other member => clean other (List.mem_cons_of_mem text member)]
      rfl
  rw [splitAt_intercalate full, pieces texts clean]

/-- A text whose characters are replaced one by one is cut into the replaced pieces, if the separator alone is replaced by the separator. -/
theorem splitAt_flatMap {separator : Char} {image : Char → List Char}
    (kept : image separator = [separator]) (alone : ∀ c, separator ∈ image c → c = separator)
    (text : List Char) :
    splitAt separator (text.flatMap image) =
      (splitAt separator text).map fun piece => piece.flatMap image := by
  induction text with
  | nil => rfl
  | cons c rest ih =>
    -- A separator ends a piece on both sides, and what replaces another character joins the next piece.
    by_cases same : c = separator
    · rw [List.flatMap_cons, same, kept, List.singleton_append, splitAt, if_pos rfl, splitAt,
        if_pos rfl, ih]
      rfl
    · have absent : separator ∉ image c := fun member => same (alone c member)
      obtain ⟨first, later, pieces, joined⟩ := splitAt_cons_of_ne same rest
      obtain ⟨front, others, cut, extended⟩ := splitAt_append_of_not_mem absent (rest.flatMap image)
      rw [ih, pieces, List.map_cons, List.cons.injEq] at cut
      rw [List.flatMap_cons, extended, joined, ← cut.1, ← cut.2]
      rfl

end Path

end PermissionNames
