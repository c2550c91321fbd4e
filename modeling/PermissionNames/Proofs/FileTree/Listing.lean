import Mathlib.Data.List.Nodup
import PermissionNames.Proofs.FileTree.Agreement

/-! Trees that list every place once: their entries are what stands at the places, and every operation leaves them so. -/

namespace PermissionNames.FileTree

variable {tree after : FileTree}

/-- Every place is listed at most once, and the root, which is always there, is not listed. -/
def ListsOnce (tree : FileTree) : Prop :=
  ([] :: tree.entries.map (·.1)).Nodup

instance (tree : FileTree) : Decidable tree.ListsOnce :=
  inferInstanceAs (Decidable ([] :: tree.entries.map (·.1)).Nodup)

/-- A listed place is not the root. -/
theorem ListsOnce.ne_nil (once : tree.ListsOnce) {place : List String} {entry : FileEntry}
    (listed : (place, entry) ∈ tree.entries) : place ≠ [] := by
  -- The root is listed in front of all entries, and once only.
  rintro rfl
  exact (List.nodup_cons.mp once).1 (List.mem_map_of_mem listed)

/-- An entry is listed exactly where it stands. -/
theorem ListsOnce.mem_iff (once : tree.ListsOnce) {place : List String} {entry : FileEntry} :
    (place, entry) ∈ tree.entries ↔ place ≠ [] ∧ tree.entry? place = some entry := by
  constructor
  · intro listed
    refine ⟨once.ne_nil listed, ?_⟩
    have inside := once.ne_nil listed
    obtain ⟨before, behind, split⟩ := List.append_of_mem listed
    -- No entry before this one has the same place.
    have single := (List.nodup_cons.mp once).2
    rw [split, List.map_append, List.map_cons, List.nodup_append] at single
    unfold entry?
    rw [if_neg inside, List.lookup_eq_some_iff]
    refine ⟨before, behind, split, fun other earlier => bne_iff_ne.mpr ?_⟩
    exact Ne.symm (single.2.2 other.1 (List.mem_map_of_mem earlier) place List.mem_cons_self)
  · rintro ⟨inside, standing⟩
    unfold entry? at standing
    rw [if_neg inside, List.lookup_eq_some_iff] at standing
    obtain ⟨before, behind, split, -⟩ := standing
    simp [split]

/-- A file is changed exactly if it stands there afterwards and did not before. -/
theorem ListsOnce.mem_changes_iff (once : after.ListsOnce) {place : List String}
    {bytes : List UInt8} :
    (place, bytes) ∈ tree.changes after ↔
      after.entry? place = some (.file bytes) ∧ tree.entry? place ≠ some (.file bytes) := by
  unfold changes
  rw [List.mem_filterMap]
  constructor
  -- Only files are told, and those that stood there before with the same bytes are not.
  · rintro ⟨⟨found, entry⟩, listed, picked⟩
    cases entry with
    | directory => cases picked
    | file content =>
      dsimp only at picked
      split at picked
      · cases picked
      · rename_i changed
        cases picked
        exact ⟨(once.mem_iff.mp listed).2, changed⟩
  · rintro ⟨standing, changed⟩
    have inside : place ≠ [] := by
      rintro rfl
      cases standing
    exact ⟨(place, .file bytes), once.mem_iff.mpr ⟨inside, standing⟩, if_neg changed⟩

/-- Between a tree and itself no file is changed. -/
theorem ListsOnce.not_mem_changes_self (once : tree.ListsOnce)
    {written : List String × List UInt8} : written ∉ tree.changes tree := by
  -- A changed file differs from the one that stands there.
  intro member
  obtain ⟨standing, changed⟩ := once.mem_changes_iff.mp member
  exact changed standing

/-- An entry that is put below the root leaves every place listed once. -/
theorem ListsOnce.put (once : tree.ListsOnce) {place : List String} (inside : place ≠ [])
    (entry : FileEntry) : (tree.put place entry).ListsOnce := by
  by_cases listed : place ∈ tree.entries.map (·.1)
  · rw [ListsOnce, places_put listed]
    exact once
  · -- A new place is listed last, and it is none of those before it.
    have absent : tree.entries.any (·.1 == place) = false := by
      rw [Bool.eq_false_iff]
      intro found
      obtain ⟨found, member, same⟩ := List.any_eq_true.mp found
      exact listed (List.mem_map.mpr ⟨found, member, by simpa using same⟩)
    have places : (tree.put place entry).entries.map (·.1) = tree.entries.map (·.1) ++ [place] := by
      rw [FileTree.put, if_neg (by simp [absent])]
      simp
    have apart : place ∉ [] :: tree.entries.map (·.1) := by
      rw [List.mem_cons, not_or]
      exact ⟨inside, listed⟩
    rw [ListsOnce, places, ← List.cons_append]
    exact List.nodup_append.mpr ⟨once, List.nodup_singleton place, by
      rintro first member second last rfl
      exact apart (List.mem_singleton.mp last ▸ member)⟩

/-- What is taken away leaves every other place listed once. -/
theorem ListsOnce.remove (once : tree.ListsOnce) (place : List String) :
    (tree.remove place).ListsOnce :=
  once.sublist ((List.filter_sublist.map _).cons_cons _)

/-- A directory is made below the root. -/
theorem ListsOnce.makeDirectory (once : tree.ListsOnce) {path : Path}
    (made : tree.makeDirectory path = .ok after) : after.ListsOnce := by
  unfold FileTree.makeDirectory at made
  cases found : tree.target path with
  | error problem =>
    rw [found] at made
    cases made
  | ok place =>
    rw [found] at made
    dsimp only at made
    split at made
    · cases made
    · -- Nothing stands at the place yet, so it is not the root.
      rename_i vacant
      cases made
      refine once.put ?_ _
      rintro rfl
      exact vacant rfl

/-- Directories are made below the root, as many as can be made. -/
theorem ListsOnce.makeAll (once : tree.ListsOnce) (reversed : List String) :
    (tree.makeAll reversed).1.ListsOnce := by
  induction reversed generalizing tree with
  | nil => exact once
  | cons part above ih =>
    rw [FileTree.makeAll]
    cases first : tree.makeDirectory ⟨.root, (part :: above).reverse⟩ with
    | ok made => exact once.makeDirectory first
    | error problem =>
      cases problem with
      | notFound =>
        -- The directories above are made, and then the directory itself is tried again.
        have inner := ih once
        cases reached : tree.makeAll above with
        | mk middle outcome =>
          rw [reached] at inner
          cases outcome with
          | error fault => exact inner
          | ok done =>
            dsimp only
            cases second : middle.makeDirectory ⟨.root, (part :: above).reverse⟩ with
            | ok made => exact inner.makeDirectory second
            | error problem => cases problem <;> exact inner
      | _ => exact once

/-- Directories are made below the root, if the path can be one. -/
theorem ListsOnce.makeDirectories (once : tree.ListsOnce) (path : Path) :
    (tree.makeDirectories path).1.ListsOnce := by
  -- Either nothing is made, or each directory on the way is.
  unfold FileTree.makeDirectories
  split
  · exact once
  split
  · exact once
  · exact once.makeAll _

/-- A file is written below the root. -/
theorem ListsOnce.writeFile (once : tree.ListsOnce) {path : Path} {bytes : List UInt8}
    (written : tree.writeFile path bytes = .ok after) : after.ListsOnce := by
  unfold FileTree.writeFile at written
  split at written
  · cases written
  split at written
  · cases written
  · cases found : tree.target path with
    | error problem =>
      rw [found] at written
      cases written
    | ok place =>
      rw [found] at written
      dsimp only at written
      split at written
      · cases written
      · -- The root is a directory, so no file is written to it.
        rename_i noDirectory
        cases written
        refine once.put ?_ _
        rintro rfl
        exact noDirectory rfl

/-- A file is moved below the root. -/
theorem ListsOnce.moveFile (once : tree.ListsOnce) {source destination : Path}
    (moved : tree.moveFile source destination = .ok after) : after.ListsOnce := by
  unfold FileTree.moveFile at moved
  split at moved
  · cases moved
  · cases moved
  · rename_i origin place _ _
    split at moved
    · cases moved
    · -- No file is moved to a directory, so none to the root.
      rename_i noDirectory
      split at moved
      · cases moved
        exact once
      · cases moved
        refine (once.remove origin).put ?_ _
        rintro rfl
        exact noDirectory rfl
    · cases moved

end PermissionNames.FileTree
