import PermissionNames.Proofs.Path

/-! Paths whose components lack a character, and what is made of them. -/

namespace PermissionNames

variable {c : Char}

/-- Texts joined by a text lack a character if all of them do. -/
theorem lacks_intercalate {separator : String} {texts : List String}
    (between : c ∉ separator.toList) (lacks : ∀ text ∈ texts, c ∉ text.toList) :
    c ∉ (separator.intercalate texts).toList := by
  -- Every character comes from the separator or from one of the texts.
  intro member
  rw [String.toList_intercalate] at member
  rcases mem_of_mem_intercalate member with inSeparator | ⟨text, listed, inText⟩
  · exact between inSeparator
  · obtain ⟨original, inTexts, rfl⟩ := List.mem_map.mp listed
    exact lacks original inTexts inText

/-- The components of a text lack what the text lacks. -/
theorem lacks_components {text : List Char} (lacks : c ∉ text) :
    ∀ part ∈ Path.components text, c ∉ part.toList := by
  -- Every component is a piece between two separators.
  intro part member
  obtain ⟨piece, listed, rfl⟩ := List.mem_map.mp member
  rw [String.toList_ofList]
  exact fun inside => lacks (Path.mem_of_mem_splitAt (List.mem_filter.mp listed).1 inside)

namespace Path

/-- A path whose components all lack a character. -/
def Lacks (c : Char) (path : Path) : Prop :=
  ∀ part ∈ path.parts, c ∉ part.toList

instance (c : Char) (path : Path) : Decidable (path.Lacks c) :=
  inferInstanceAs (Decidable (∀ part ∈ path.parts, c ∉ part.toList))

variable {path base directory : Path}

/-- A path that is read from a text lacks what the text lacks. -/
theorem lacks_ofString {text : String} (lacks : c ∉ text.toList) : (ofString text).Lacks c :=
  lacks_components lacks

/-- A path below another one lacks what both lack. -/
theorem Lacks.join (inBase : base.Lacks c) (inPath : path.Lacks c) : (base.join path).Lacks c := by
  -- A path with an anchor of its own drops the base.
  unfold Path.join
  split
  · intro part member
    rcases List.mem_append.mp member with above | below
    · exact inBase part above
    · exact inPath part below
  · exact inPath

/-- Climbing drops components and adds none. -/
theorem mem_of_mem_climb {done parts : List String} {part : String}
    (member : part ∈ climb done parts) : part ∈ done ∨ part ∈ parts := by
  induction parts generalizing done with
  | nil => exact .inl (List.mem_reverse.mp member)
  | cons first rest ih =>
    unfold climb at member
    -- A climb takes the last component away, and any other component is put there.
    split at member
    · rcases ih member with inDone | inRest
      · exact .inl (List.mem_of_mem_tail inDone)
      · exact .inr (List.mem_cons_of_mem first inRest)
    · rcases ih member with inDone | inRest
      · rcases List.mem_cons.mp inDone with rfl | earlier
        · exact .inr List.mem_cons_self
        · exact .inl earlier
      · exact .inr (List.mem_cons_of_mem first inRest)

/-- A resolved path lacks what the path and the directory lack. -/
theorem Lacks.resolve (inPath : path.Lacks c) (inDirectory : directory.Lacks c) :
    (path.resolve directory).Lacks c := by
  -- Climbing out adds no component.
  intro part member
  rcases mem_of_mem_climb member with nothing | joined
  · cases nothing
  · exact inDirectory.join inPath part joined

/-- The path above another one lacks what that one lacks. -/
theorem Lacks.parent (lacks : path.Lacks c) : path.parent.Lacks c :=
  fun part member => lacks part ((List.dropLast_sublist _).subset member)

/-- What remains of a path below a base lacks what the path lacks. -/
theorem Lacks.relativeTo? {rest : Path} (lacks : path.Lacks c)
    (below : path.relativeTo? base = some rest) : rest.Lacks c := by
  -- What remains is the end of the path.
  unfold Path.relativeTo? at below
  split at below
  · cases below
    exact fun part member => lacks part (List.mem_of_mem_drop member)
  · cases below

/-- The name of a path lacks what all components lack. -/
theorem Lacks.name (lacks : path.Lacks c) : c ∉ path.name.toList := by
  -- The name is the last component, or empty.
  unfold Path.name
  cases last : path.parts.getLast? with
  | none => simp
  | some part => exact lacks part (List.mem_of_getLast? last)

/-- The stem of a path lacks what all components lack. -/
theorem Lacks.stem (lacks : path.Lacks c) : c ∉ path.stem.toList := by
  -- The stem is the beginning of the name.
  rw [Path.stem, String.toList_ofList]
  exact fun member => lacks.name (mem_of_mem_stem member)

/-- A written path lacks what its components lack, apart from slashes and periods. -/
theorem Lacks.toString (lacks : path.Lacks c) (notSlash : c ≠ '/') (notPeriod : c ≠ '.') :
    c ∉ path.toString.toList := by
  unfold Path.toString
  -- The empty path is written as a period, and any other one as its anchor and its components.
  split
  · simp [notPeriod]
  · have anchor : c ∉ path.anchor.text.toList := by
      cases path.anchor <;> simp [Anchor.text, notSlash]
    have parts : c ∉ ("/".intercalate path.parts).toList :=
      lacks_intercalate (by simp [notSlash]) lacks
    rw [String.toList_append, List.mem_append, not_or]
    exact ⟨anchor, parts⟩

end Path

end PermissionNames
