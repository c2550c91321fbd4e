import Mathlib.Data.List.Induction
import PermissionNames.Proofs.FileTree

/-! Trees in which every entry stands in a directory: what is listed can be reached, unless a name on the way is too long. -/

namespace PermissionNames.FileTree

variable {tree other : FileTree}

/-- Every entry stands in a directory, as in any tree that a file system holds. -/
def IsClosed (tree : FileTree) : Prop :=
  ∀ entry ∈ tree.entries, tree.entry? entry.1.dropLast = some .directory

instance (tree : FileTree) : Decidable tree.IsClosed :=
  inferInstanceAs (Decidable (∀ entry ∈ tree.entries, tree.entry? entry.1.dropLast = some .directory))

/-- What stands at a place below the root is one of the entries. -/
theorem mem_entries_of_standing {place : List String} {entry : FileEntry} (inside : place ≠ [])
    (standing : tree.entry? place = some entry) : (place, entry) ∈ tree.entries := by
  -- What is looked up stands somewhere in the list.
  unfold entry? at standing
  rw [if_neg inside, List.lookup_eq_some_iff] at standing
  obtain ⟨before, behind, split, -⟩ := standing
  simp [split]

/-- In a closed tree directories stand all along the way to an entry. -/
theorem IsClosed.entry?_above (closed : tree.IsClosed) {place : List String} {entry : FileEntry}
    (standing : tree.entry? place = some entry) {front : List String} (above : front <+: place)
    (strict : front ≠ place) : tree.entry? front = some .directory := by
  -- The induction goes up from the place, one directory after the other.
  induction place using List.reverseRecOn generalizing entry with
  | nil => exact absurd (List.prefix_nil.mp above) strict
  | append_singleton parent name ih =>
    have directory := closed _ (mem_entries_of_standing (by simp) standing)
    rw [List.dropLast_concat] at directory
    rcases List.prefix_concat_iff.mp above with same | further
    · exact absurd same strict
    · by_cases same : front = parent
      · rw [same, directory]
      · exact ih directory further same

/-- No name on the way to what stands at a path without climbs is too long. -/
theorem short_of_status {path : Path} {entry : FileEntry} (level : ".." ∉ path.parts)
    (found : tree.status path = .ok entry) {name : String} (member : name ∈ path.parts) :
    name.utf8ByteSize ≤ longestName := by
  obtain ⟨front, rest, split⟩ := List.append_of_mem member
  have here : name ≠ ".." := fun same => level (by simp [split, same])
  unfold status at found
  rw [split, walk_append] at found
  -- The walk goes on from the directory above the name, so it has looked at the name.
  cases walked : tree.walk [] front with
  | error problem => simp [walked, Except.bind] at found
  | ok place =>
    simp only [walked, Except.bind, walk, if_neg here] at found
    refine Nat.le_of_not_lt fun long => ?_
    cases standing : tree.entry? place with
    | none => simp [standing] at found
    | some entry =>
      cases entry with
      | file bytes => simp [standing] at found
      | directory => simp [standing, long] at found

/-- A path that leads to a file in one tree leads to the file that stands there in a closed one. -/
theorem IsClosed.hasFile_of_standing (closed : tree.IsClosed) {path : Path} {bytes old : List UInt8}
    (level : ".." ∉ path.parts) (file : other.HasFile path bytes)
    (standing : tree.entry? path.parts = some (.file old)) : tree.HasFile path old := by
  refine ⟨file.openable, ?_⟩
  -- The path is not empty, as the root is no file.
  have full : path.parts ≠ [] := by
    intro top
    simp [top, entry?] at standing
  obtain ⟨front, last, split⟩ : ∃ front last, path.parts = front ++ [last] :=
    ⟨path.parts.dropLast, path.parts.getLast full, (List.dropLast_concat_getLast full).symm⟩
  have frontLevel : ".." ∉ front := fun member => level (by simp [split, member])
  have strict : ∀ above : List String, above <+: front → above ≠ path.parts := by
    rintro above inside rfl
    have shorter := inside.length_le
    rw [split, List.length_append, List.length_singleton] at shorter
    omega
  have onWay : ∀ above, above <+: front → above <+: path.parts := fun above inside =>
    inside.trans (by rw [split]; exact List.prefix_append _ _)
  have directories : ∀ above, above <+: front → tree.entry? above = some .directory :=
    fun above inside => closed.entry?_above standing (onWay above inside) (strict above inside)
  -- In both trees directories stand on the way, so that both are walked alike.
  have same : tree.walk [] front = other.walk [] front := by
    refine walk_congr frontLevel fun above inside => ?_
    rw [List.nil_append, directories above inside,
      entry?_above_of_status level file.status (onWay above inside) (strict above inside)]
  have walked : tree.walk [] front = .ok front := by
    rw [same]
    have reached := file.status
    unfold status at reached
    rw [split, walk_append] at reached
    cases there : other.walk [] front with
    | error problem => simp [there, Except.bind] at reached
    | ok place =>
      obtain ⟨rfl, -⟩ := walk_eq_ok frontLevel there
      simp
  exact status_eq_ok split level walked (directories front (List.prefix_refl front))
    (short_of_status level file.status (by simp [split])) standing

end PermissionNames.FileTree
