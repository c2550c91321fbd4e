import Mathlib.Data.List.Forall2
import PermissionNames.Proofs.FileTree.Agreement

/-! Trees with the same places that differ in the contents of some files: what does not read these files is the same. -/

namespace PermissionNames.FileTree

variable {tree other : FileTree} {places : List String → Prop}

/-- The same entry, or a file with another content at one of some places. -/
def SameButContent (places : List String → Prop) (entry changed : List String × FileEntry) : Prop :=
  changed.1 = entry.1 ∧
    (changed.2 = entry.2 ∨
      places entry.1 ∧ ∃ old new, entry.2 = .file old ∧ changed.2 = .file new)

/-- Two trees list the same places in the same order, with the same there but for the contents of files at some places. -/
def DifferAt (places : List String → Prop) (tree other : FileTree) : Prop :=
  List.Forall₂ (SameButContent places) tree.entries other.entries

/-- Both trees list the same places. -/
theorem DifferAt.places_eq (differ : DifferAt places tree other) :
    other.entries.map (·.1) = tree.entries.map (·.1) := by
  -- Entries are compared pair by pair, always at the same place.
  unfold DifferAt at differ
  generalize tree.entries = entries, other.entries = others at differ
  induction differ with
  | nil => rfl
  | cons same _ ih => rw [List.map_cons, List.map_cons, same.1, ih]

/-- At each place stands the same, or it is one of the places and a file with another content. -/
theorem DifferAt.entry?_cases (differ : DifferAt places tree other) (place : List String) :
    other.entry? place = tree.entry? place ∨
      places place ∧ ∃ old new, tree.entry? place = some (.file old) ∧
        other.entry? place = some (.file new) := by
  unfold entry?
  split
  · exact .inl rfl
  · unfold DifferAt at differ
    generalize tree.entries = entries, other.entries = others at differ
    -- Both lookups pass over the same entries and stop at the same one.
    induction differ with
    | nil => exact .inl rfl
    | @cons entry changed entries others same _ ih =>
      obtain ⟨key, value⟩ := entry
      obtain ⟨otherKey, otherValue⟩ := changed
      obtain ⟨rfl, content⟩ : otherKey = key ∧ _ := same
      rw [List.lookup_cons, List.lookup_cons]
      by_cases here : place = otherKey
      · subst here
        simp only [beq_self_eq_true]
        rcases content with rfl | ⟨inside, old, new, rfl, rfl⟩
        · exact .inl rfl
        · exact .inr ⟨inside, old, new, rfl, rfl⟩
      · simp only [beq_eq_false_iff_ne.mpr here]
        exact ih

/-- Trees that differ in contents only have the same shape. -/
theorem DifferAt.sameShape (differ : DifferAt places tree other) : SameShape tree other := by
  -- What differs is a file in both trees.
  intro place
  rcases differ.entry?_cases place with same | ⟨-, old, new, standing, alike⟩
  · rw [same]
  · rw [standing, alike]
    rfl

/-- A file that is at none of the places has the same text in both trees. -/
theorem DifferAt.readText_eq (differ : DifferAt places tree other) {path : Path}
    (level : ".." ∉ path.parts) (outside : ¬ places path.parts) :
    other.readText path = tree.readText path := by
  -- Without a step upwards the walk ends where the path says.
  refine differ.sameShape.readText_eq fun place walked => ?_
  have arrived : place = path.parts := by simpa using (walk_eq_ok level walked).1
  rw [arrived]
  exact (differ.entry?_cases path.parts).resolve_right fun inside => outside inside.1

/-- The trees agree at all kinds of places but those. -/
theorem DifferAt.agreeAt {kind : List String → Bool} (differ : DifferAt places tree other)
    (apart : ∀ place, places place → kind place = false) : AgreeAt kind tree other := by
  -- A place of that kind is not among those that differ.
  intro place listed
  refine (differ.entry?_cases place).resolve_right fun inside => ?_
  rw [apart place inside.1] at listed
  cases listed

/-- A path leads to the same in trees of the same shape, but for the content of a file. -/
theorem SameShape.status_cases (same : SameShape tree other) (path : Path) :
    other.status path = tree.status path ∨
      ∃ old new, tree.status path = .ok (.file old) ∧ other.status path = .ok (.file new) := by
  unfold status
  rw [same.walk_eq]
  cases tree.walk [] path.parts with
  | error problem => exact .inl rfl
  | ok place =>
    -- At the place stands the same kind of entry, or nothing.
    rcases same.cases place with
      ⟨standing, alike⟩ | ⟨standing, alike⟩ | ⟨old, new, standing, alike⟩ <;>
      simp [standing, alike]

/-- Something stands at a path in both of two trees of the same shape, or in none. -/
theorem SameShape.exists?_eq (same : SameShape tree other) (path : Path) :
    other.exists? path = tree.exists? path := by
  -- Both stand alike, or both are files.
  unfold exists?
  rcases same.status_cases path with alike | ⟨old, new, found, alike⟩
  · rw [alike]
  · rw [found, alike]

/-- A path leads to a directory in both of two trees of the same shape, or in none. -/
theorem SameShape.isDirectory_eq (same : SameShape tree other) (path : Path) :
    other.isDirectory path = tree.isDirectory path := by
  -- Both stand alike, or both are files.
  unfold isDirectory
  rcases same.status_cases path with alike | ⟨old, new, found, alike⟩
  · rw [alike]
  · rw [found, alike]

end PermissionNames.FileTree
