import Mathlib.Data.List.Lex
import Mathlib.Data.String.Basic
import PermissionNames.Path

/-! The order of paths is that of their components, so sorting depends only on which paths there are. -/

namespace PermissionNames.Path

/-- Components come before others if they do so in lexicographic order. -/
theorem partsPrecede_iff {first second : List String} :
    partsPrecede first second = true ↔ first < second := by
  -- Equal components are passed over together, and the first that differ decide.
  fun_induction partsPrecede first second with
  | case1 first => simp
  | case2 head rest => simp
  | case3 rest head others ih => simp [ih]
  | case4 head rest other others differ => simp [List.cons_lt_cons_iff, differ]

/-- A path comes before another one if its components do. -/
theorem precedes_iff {path other : Path} :
    path.precedes other = true ↔ path.sortKey < other.sortKey :=
  partsPrecede_iff

/-- Paths are in rising order once they are sorted. -/
theorem pairwise_sort (paths : List Path) :
    (sort paths).Pairwise fun first second => first.sortKey ≤ second.sortKey := by
  -- What is not after a path is at or before it, and this order is transitive and total.
  have notAfter : ∀ first second : Path,
      (!second.precedes first) = true ↔ first.sortKey ≤ second.sortKey := by
    intro first second
    rw [Bool.not_eq_true', ← Bool.not_eq_true, precedes_iff, not_lt]
  have sorted : (sort paths).Pairwise fun first second => (!second.precedes first) = true := by
    refine List.pairwise_mergeSort ?_ ?_ paths
    · intro first second third
      simp only [notAfter]
      exact le_trans
    · intro first second
      simp only [Bool.or_eq_true, notAfter]
      exact le_total _ _
  exact sorted.imp fun {first second} => (notAfter first second).mp

/-- Paths of one anchor come in the order of their components. -/
theorem sortKey_lt_of_lt (anchor : Anchor) {first second : List String} (less : first < second) :
    (Path.mk anchor first).sortKey < (Path.mk anchor second).sortKey := by
  -- An anchor is one more component in front of both.
  unfold sortKey
  dsimp only
  split
  · exact less
  · exact List.cons_lt_cons_iff.mpr (.inr ⟨rfl, less⟩)

/-- Of two sorted paths the one that comes first in the order stands before the other. -/
theorem exists_split_of_lt {paths : List Path} {first second : Path} (listed : first ∈ sort paths)
    (alsoListed : second ∈ sort paths) (comesFirst : first.sortKey < second.sortKey) :
    ∃ before between after, sort paths = before ++ first :: (between ++ second :: after) := by
  -- The second path stands before the first, at it or behind it, and the order leaves the last
  -- case.
  have sorted := pairwise_sort paths
  obtain ⟨before, behind, split⟩ := List.append_of_mem listed
  rw [split, List.pairwise_append] at sorted
  rw [split, List.mem_append, List.mem_cons] at alsoListed
  rcases alsoListed with earlier | same | later
  · exact absurd comesFirst (not_lt.mpr (sorted.2.2 second earlier first List.mem_cons_self))
  · exact absurd comesFirst (by rw [same]; exact lt_irrefl _)
  · obtain ⟨between, after, further⟩ := List.append_of_mem later
    exact ⟨before, between, after, by rw [split, further]⟩

/-- Paths that the order tells apart from each other. -/
def ToldApart (paths : List Path) : Prop :=
  ∀ first ∈ paths, ∀ second ∈ paths, first.sortKey = second.sortKey → first = second

/-- Sorted paths that are told apart are the same list whenever they are the same paths. -/
theorem eq_of_perm_of_pairwise {first second : List Path} (apart : ToldApart first)
    (same : first.Perm second)
    (sorted : first.Pairwise fun path other => path.sortKey ≤ other.sortKey)
    (alsoSorted : second.Pairwise fun path other => path.sortKey ≤ other.sortKey) :
    first = second := by
  -- Two paths that are below each other have the same key.
  refine List.Perm.eq_of_pairwise ?_ sorted alsoSorted same
  intro path other listed alsoListed below above
  exact apart path listed other (same.mem_iff.mpr alsoListed) (le_antisymm below above)

/-- The order in which paths are given does not matter once they are sorted. -/
theorem sort_eq_of_perm {first second : List Path} (apart : ToldApart first)
    (same : first.Perm second) : sort first = sort second := by
  -- Both sorted lists have the same paths in rising order.
  refine eq_of_perm_of_pairwise ?_ ?_ (pairwise_sort first) (pairwise_sort second)
  · intro path listed other alsoListed
    exact apart path (List.mem_mergeSort.mp listed) other (List.mem_mergeSort.mp alsoListed)
  · exact (List.mergeSort_perm first _).trans (same.trans (List.mergeSort_perm second _).symm)

/-- Paths may be picked before or after they are sorted. -/
theorem filter_sort {paths : List Path} (apart : ToldApart paths) (kept : Path → Bool) :
    (sort paths).filter kept = sort (paths.filter kept) := by
  -- Picking from a sorted list leaves it sorted, and both lists hold the same paths.
  have listed : ∀ path ∈ (sort paths).filter kept, path ∈ paths := fun path member =>
    List.mem_mergeSort.mp (List.mem_of_mem_filter member)
  refine eq_of_perm_of_pairwise ?_ ?_ ((pairwise_sort paths).filter kept) (pairwise_sort _)
  · intro path member other alsoMember
    exact apart path (listed path member) other (listed other alsoMember)
  · exact ((List.mergeSort_perm paths _).filter kept).trans (List.mergeSort_perm _ _).symm

/-- Paths with one anchor are told apart. -/
theorem toldApart_of_anchor {paths : List Path} {anchor : Anchor}
    (anchored : ∀ path ∈ paths, path.anchor = anchor) : ToldApart paths := by
  -- Without the anchor in front the key is the components.
  rintro ⟨firstAnchor, firstParts⟩ member ⟨secondAnchor, secondParts⟩ alsoMember same
  obtain rfl : firstAnchor = anchor := anchored _ member
  obtain rfl : secondAnchor = firstAnchor := anchored _ alsoMember
  unfold sortKey at same
  dsimp only at same
  split at same
  · rw [same]
  · rw [(List.cons.inj same).2]

/-- A path that is cut at its slashes, as every path that is read from a text. -/
def IsCut (path : Path) : Prop :=
  ∀ part ∈ path.parts, '/' ∉ part.toList

/-- Paths that are cut at their slashes are told apart. -/
theorem toldApart_of_isCut {paths : List Path} (cut : ∀ path ∈ paths, path.IsCut) :
    ToldApart paths := by
  rintro ⟨firstAnchor, firstParts⟩ member ⟨secondAnchor, secondParts⟩ alsoMember same
  have firstCut := cut _ member
  have secondCut := cut _ alsoMember
  -- No component is the text of an anchor, which holds a slash.
  cases firstAnchor <;> cases secondAnchor <;>
    simp only [sortKey, reduceCtorEq, if_true, if_false, Anchor.text, List.cons.injEq] at same
  case relative.relative => rw [same]
  case relative.root =>
    subst same
    exact absurd (firstCut "/" (by simp)) (by simp)
  case relative.doubleRoot =>
    subst same
    exact absurd (firstCut "//" (by simp)) (by simp)
  case root.relative =>
    subst same
    exact absurd (secondCut "/" (by simp)) (by simp)
  case root.root => rw [same.2]
  case root.doubleRoot => exact absurd same.1 (by decide)
  case doubleRoot.relative =>
    subst same
    exact absurd (secondCut "//" (by simp)) (by simp)
  case doubleRoot.root => exact absurd same.1 (by decide)
  case doubleRoot.doubleRoot => rw [same.2]

end PermissionNames.Path
