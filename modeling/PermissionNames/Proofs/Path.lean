import PermissionNames.Path
import PermissionNames.Proofs.Text.Pieces

/-! Paths made of names: they are read back as they are written, and they resolve to themselves. -/

namespace PermissionNames.Path

/-- A component that names an entry of a directory. -/
structure IsName (part : String) : Prop where
  full : part ≠ ""
  notHere : part ≠ "."
  level : part ≠ ".."
  single : '/' ∉ part.toList

instance (part : String) : Decidable (IsName part) :=
  decidable_of_iff (part ≠ "" ∧ part ≠ "." ∧ part ≠ ".." ∧ '/' ∉ part.toList)
    ⟨fun ⟨full, notHere, level, single⟩ => ⟨full, notHere, level, single⟩,
      fun named => ⟨named.full, named.notHere, named.level, named.single⟩⟩

/-- A text that starts with no slash is relative. -/
theorem anchorOf_eq_relative {text : List Char} (start : text.head? ≠ some '/') :
    anchorOf text = .relative := by
  -- The other two cases begin with a slash.
  cases text with
  | nil => rfl
  | cons c rest =>
    have other : c ≠ '/' := by simpa using start
    unfold anchorOf
    split <;> simp_all

/-- The components of joined names are the names. -/
theorem components_intercalate {parts : List String} (full : parts ≠ [])
    (named : ∀ part ∈ parts, IsName part) :
    components ("/".intercalate parts).toList = parts := by
  have separator : "/".toList = ['/'] := by simp
  -- Joined names are cut at the slashes between them only.
  have clean : ∀ piece ∈ parts.map String.toList, '/' ∉ piece := by
    intro piece member
    obtain ⟨part, listed, rfl⟩ := List.mem_map.mp member
    exact (named part listed).single
  -- No name is empty or a period, so every piece is kept.
  have kept : ∀ piece ∈ parts.map String.toList,
      decide (piece ≠ [] ∧ piece ≠ ['.']) = true := by
    intro piece member
    obtain ⟨part, listed, rfl⟩ := List.mem_map.mp member
    have filled : part.toList ≠ [] := by simpa using (named part listed).full
    have notHere : part.toList ≠ ['.'] := fun same =>
      (named part listed).notHere (String.toList_inj.mp same)
    simp [filled, notHere]
  rw [components, String.toList_intercalate, separator,
    splitAt_intercalate_eq_self (by simpa using full) clean, List.filter_eq_self.mpr kept]
  simp

/-- A relative path of names is read back as it is written. -/
theorem ofString_toString {parts : List String} (full : parts ≠ [])
    (named : ∀ part ∈ parts, IsName part) :
    ofString (toString ⟨.relative, parts⟩) = ⟨.relative, parts⟩ := by
  have written : toString ⟨.relative, parts⟩ = "/".intercalate parts := by
    simp [toString, full, Anchor.text]
  -- The text starts with the first name, which is not empty and holds no slash.
  have start : ("/".intercalate parts).toList.head? ≠ some '/' := by
    obtain ⟨first, rest, rfl⟩ := List.exists_cons_of_ne_nil full
    obtain ⟨c, others, spelled⟩ := List.exists_cons_of_ne_nil
      (by simpa using (named first List.mem_cons_self).full : first.toList ≠ [])
    have other : c ≠ '/' := by
      rintro rfl
      exact (named first List.mem_cons_self).single (by simp [spelled])
    cases rest with
    | nil => simp [spelled, other]
    | cons next rest => simp [String.intercalate_cons_cons, spelled, other]
  rw [written, ofString, anchorOf_eq_relative start, components_intercalate full named]

/-- A name is read as a path of one component. -/
theorem ofString_name {part : String} (named : IsName part) :
    ofString part = ⟨.relative, [part]⟩ := by
  -- A single component is shown as itself and read back.
  have whole := ofString_toString (List.cons_ne_nil part []) (by simpa using named)
  simpa [toString, Anchor.text] using whole

/-- Where nothing climbs, all components stay. -/
theorem climb_eq_append {parts : List String} (level : ".." ∉ parts) (done : List String) :
    climb done parts = done.reverse ++ parts := by
  -- Every component is stacked up, and the stack is reversed at the end.
  induction parts generalizing done with
  | nil => simp [climb]
  | cons part rest ih =>
    have here : part ≠ ".." := fun same => level (by simp [same])
    have later : ".." ∉ rest := fun member => level (List.mem_cons_of_mem part member)
    rw [climb, if_neg here, ih later]
    simp

/-- Nothing climbs after climbing. -/
theorem level_climb {done : List String} (level : ".." ∉ done) (parts : List String) :
    ".." ∉ climb done parts := by
  -- A climb only takes from the stack, and everything else that is stacked is no climb.
  induction parts generalizing done with
  | nil => simpa [climb] using level
  | cons part rest ih =>
    rw [climb]
    split
    · exact ih fun member => level (List.mem_of_mem_tail member)
    · rename_i here
      exact ih (by simp [level, Ne.symm here])

/-- Nothing climbs in a resolved path. -/
theorem level_resolve (path directory : Path) : ".." ∉ (path.resolve directory).parts :=
  level_climb (by simp) _

/-- A stem holds only what the name holds. -/
theorem mem_of_mem_stem {name : List Char} {c : Char} (member : c ∈ (splitSuffix name).1) :
    c ∈ name := by
  unfold splitSuffix at member
  dsimp only at member
  -- Without a suffix the stem is the name, and else it is a part of it.
  split at member
  · exact member
  · have inRest := List.mem_of_mem_drop (List.mem_of_mem_drop (List.mem_reverse.mp member))
    exact List.mem_reverse.mp inRest

end PermissionNames.Path
