import Mathlib.Data.List.Forall2
import PermissionNames.Proofs.Command.Storing

/-! Storing sources one after the other: what each of them keeps is kept by all, up to the first that fails. -/

namespace PermissionNames.Command

open TreeAction

variable {tree after : FileTree}

/-- Storing at a target changes nothing at another path and at its temporary file. -/
structure Spares (target other : Path) : Prop where
  path : Misses target other.parts
  beside : Misses target (temporary other).parts

/-- The path that a source is stored at. -/
def targetOf (output : Path) (source : GeneratedSource) : Path :=
  output.join (.ofString source.path)

/-- A path that names a file without climbing. -/
structure Settled (target : Path) : Prop where
  split : ∃ front last, target.parts = front ++ [last]
  level : ".." ∉ target.parts

section Sources

variable {output : Path} {sources : List GeneratedSource}

/-- Storing one source is storing its text, and then the others are stored. -/
theorem storeAll_cons (source : GeneratedSource) (later : List GeneratedSource) :
    storeAll output (source :: later) = do
      let first ← storeText (targetOf output source) source.text source.isEncodable
      let others ← storeAll output later
      return first :: others :=
  List.mapM_cons

/-- What storing ends in when the first source is stored is what it ends in for the others, with the first in front. -/
theorem on_storeAll_cons {source : GeneratedSource} {later : List GeneratedSource}
    {storage : Storage} {middle : FileTree}
    (first : (storeText (targetOf output source) source.text source.isEncodable).on tree =
      (.ok storage, middle)) :
    (storeAll output (source :: later)).on tree =
      (((storeAll output later).on middle).1.map (storage :: ·),
        ((storeAll output later).on middle).2) := by
  -- What follows ends in a fault or with its storages.
  rw [storeAll_cons, on_bind, first]
  dsimp only
  rw [on_bind]
  cases (storeAll output later).on middle with
  | mk outcome final => cases outcome <;> rfl

/-- Storing stops at the first source if that fails. -/
theorem on_storeAll_cons_of_error {source : GeneratedSource} {later : List GeneratedSource}
    {fault : FileFault} {middle : FileTree}
    (first : (storeText (targetOf output source) source.text source.isEncodable).on tree =
      (.error fault, middle)) :
    (storeAll output (source :: later)).on tree = (.error fault, middle) := by
  rw [storeAll_cons, on_bind, first]

/-- Sources that are stored one after the other are stored one by one. -/
theorem on_storeAll_cons_eq_ok {source : GeneratedSource} {later : List GeneratedSource}
    {stored : List Storage}
    (done : (storeAll output (source :: later)).on tree = (.ok stored, after)) :
    ∃ storage middle others, stored = storage :: others ∧
      (storeText (targetOf output source) source.text source.isEncodable).on tree =
        (.ok storage, middle) ∧
        (storeAll output later).on middle = (.ok others, after) := by
  -- Neither the first text nor the others have failed.
  cases first : (storeText (targetOf output source) source.text source.isEncodable).on tree with
  | mk outcome middle =>
    cases outcome with
    | error fault =>
      rw [on_storeAll_cons_of_error first] at done
      cases done
    | ok storage =>
      rw [on_storeAll_cons first] at done
      cases rest : (storeAll output later).on middle with
      | mk outcome final =>
        rw [rest] at done
        cases outcome with
        | error fault => cases done
        | ok others =>
          cases done
          exact ⟨storage, middle, others, rfl, rfl, rest⟩

/-- Storing that fails has stored the sources before one at which it stopped. -/
theorem exists_stopped {fault : FileFault}
    (done : (storeAll output sources).on tree = (.error fault, after)) :
    ∃ before source later stored middle, sources = before ++ source :: later ∧
      (storeAll output before).on tree = (.ok stored, middle) ∧
      (storeText (targetOf output source) source.text source.isEncodable).on middle =
        (.error fault, after) := by
  -- The induction passes over the sources that were stored, up to the one with the fault.
  induction sources generalizing tree with
  | nil => cases done
  | cons source later ih =>
    cases first : (storeText (targetOf output source) source.text source.isEncodable).on tree with
    | mk outcome middle =>
      cases outcome with
      | error found =>
        rw [on_storeAll_cons_of_error first] at done
        cases done
        exact ⟨[], source, later, [], tree, rfl, rfl, first⟩
      | ok storage =>
        -- The first source is stored, so it is among the others that storing stops.
        rw [on_storeAll_cons first] at done
        cases rest : (storeAll output later).on middle with
        | mk outcome final =>
          rw [rest] at done
          cases outcome with
          | ok others => cases done
          | error found =>
            cases done
            obtain ⟨before, stopped, beyond, stored, reached, split, complete, failed⟩ := ih rest
            refine ⟨source :: before, stopped, beyond, storage :: stored, reached, ?_, ?_, failed⟩
            · rw [split, List.cons_append]
            · rw [on_storeAll_cons first, complete]
              rfl

/-- Storing stops at a source that fails when those before it are stored. -/
theorem on_storeAll_append_of_error {before later : List GeneratedSource} {source : GeneratedSource}
    {stored : List Storage} {middle : FileTree} {fault : FileFault}
    (complete : (storeAll output before).on tree = (.ok stored, middle))
    (failed : (storeText (targetOf output source) source.text source.isEncodable).on middle =
      (.error fault, after)) :
    (storeAll output (before ++ source :: later)).on tree = (.error fault, after) := by
  -- The sources in front are stored one after the other.
  induction before generalizing tree stored with
  | nil =>
    cases complete
    exact on_storeAll_cons_of_error failed
  | cons first rest ih =>
    obtain ⟨storage, reached, others, -, here, beyond⟩ := on_storeAll_cons_eq_ok complete
    rw [List.cons_append, on_storeAll_cons here, ih beyond]
    rfl

/-- Only sources that can be encoded are all stored. -/
theorem isEncodable_of_storeAll {stored : List Storage}
    (done : (storeAll output sources).on tree = (.ok stored, after)) :
    ∀ source ∈ sources, source.isEncodable = true := by
  -- Each source is stored by itself, which its encoding is needed for.
  induction sources generalizing tree stored with
  | nil => simp
  | cons source later ih =>
    obtain ⟨storage, middle, others, -, first, rest⟩ := on_storeAll_cons_eq_ok done
    exact List.forall_mem_cons.mpr ⟨isEncodable_of_storeText first, ih rest⟩

/-- Sources whose texts are there and can be encoded are not stored again. -/
theorem on_storeAll (encodable : ∀ source ∈ sources, source.isEncodable = true)
    (read : ∀ source ∈ sources,
      tree.readText (targetOf output source) = .ok source.text.toList) :
    (storeAll output sources).on tree =
      (.ok (List.replicate sources.length .unchanged), tree) := by
  -- The first text is there, and storing it leaves the tree of the others as it was.
  induction sources with
  | nil => rfl
  | cons source later ih =>
    have here := on_storeText (read source List.mem_cons_self)
    rw [← encodable source List.mem_cons_self] at here
    have rest := ih (fun other member => encodable other (List.mem_cons_of_mem source member))
      fun other member => read other (List.mem_cons_of_mem source member)
    rw [on_storeAll_cons here, rest]
    rfl

/-- What holds of a tree and stays through the storing of each source holds when storing ends, in whatever way. -/
theorem holds_of_storeAll (good : FileTree → Prop) {outcome : Except FileFault (List Storage)}
    (step : ∀ source ∈ sources, ∀ {tree after : FileTree} {outcome : Except FileFault Storage},
      good tree →
      (storeText (targetOf output source) source.text source.isEncodable).on tree = (outcome, after) →
        good after)
    (start : good tree) (done : (storeAll output sources).on tree = (outcome, after)) :
    good after := by
  -- A fault ends storing with the step it occurs in, so every step is looked at whatever it ends in.
  induction sources generalizing tree outcome with
  | nil =>
    cases done
    exact start
  | cons source later ih =>
    cases first : (storeText (targetOf output source) source.text source.isEncodable).on tree with
    | mk found middle =>
      have next := step source List.mem_cons_self start first
      cases found with
      | error fault =>
        rw [on_storeAll_cons_of_error first] at done
        cases done
        exact next
      | ok storage =>
        rw [on_storeAll_cons first] at done
        cases done
        exact ih (fun other member => step other (List.mem_cons_of_mem source member)) next rfl

/-- Whatever storing sources ends in, it keeps all entries of a kind that every one of them stays clear of. -/
theorem keeps_storeAll {kind : List String → Bool} {outcome : Except FileFault (List Storage)}
    (settled : ∀ source ∈ sources, Settled (targetOf output source))
    (clear : ∀ source ∈ sources, Clears kind tree (targetOf output source))
    (done : (storeAll output sources).on tree = (outcome, after)) :
    FileTree.Keeps kind tree after := by
  -- What was kept so far is still clear of the next source.
  refine holds_of_storeAll (FileTree.Keeps kind tree) ?_ (.refl kind tree) done
  intro source member middle final found kept stored
  obtain ⟨⟨front, last, split⟩, level⟩ := settled source member
  exact kept.trans (keeps_storeText split level stored ((clear source member).of_keeps kept))

/-- A place that all sources miss stays as it is, whatever storing them ends in. -/
theorem entry?_storeAll {place : List String} {outcome : Except FileFault (List Storage)}
    (settled : ∀ source ∈ sources, Settled (targetOf output source))
    (misses : ∀ source ∈ sources, Misses (targetOf output source) place)
    (done : (storeAll output sources).on tree = (outcome, after)) :
    after.entry? place = tree.entry? place :=
  (keeps_storeAll settled (fun source member => (misses source member).clears tree) done).entry?_eq
    (by simp)

/-- A file that is neither a target nor a temporary file of any source stays as it is, whatever storing them ends in. -/
theorem hasFile_storeAll {path : Path} {bytes : List UInt8}
    {outcome : Except FileFault (List Storage)} (level : ".." ∉ path.parts)
    (settled : ∀ source ∈ sources, Settled (targetOf output source))
    (apart : ∀ source ∈ sources, path.parts ≠ (targetOf output source).parts ∧
      path.parts ≠ (temporary (targetOf output source)).parts)
    (file : tree.HasFile path bytes)
    (done : (storeAll output sources).on tree = (outcome, after)) : after.HasFile path bytes := by
  -- The file stays through storing each of the sources.
  refine holds_of_storeAll (fun tree => tree.HasFile path bytes) ?_ file done
  intro source member middle final result standing stored
  obtain ⟨⟨front, last, split⟩, settledLevel⟩ := settled source member
  exact hasFile_storeText split settledLevel level (apart source member).1 (apart source member).2
    standing stored

/-- A text in place stays so through storing sources that spare its target, whatever that ends in. -/
theorem InPlace.stays_storeAll {target : Path} {text : String} {storage : Storage}
    {middle : FileTree} {outcome : Except FileFault (List Storage)} (level : ".." ∉ target.parts)
    (settled : ∀ source ∈ sources, Settled (targetOf output source))
    (spared : ∀ source ∈ sources, Spares (targetOf output source) target)
    (inPlace : InPlace target text tree middle storage)
    (done : (storeAll output sources).on middle = (outcome, after)) :
    InPlace target text tree after storage := by
  -- Neither the file at the target nor the places beside it are touched.
  refine inPlace.stays ?_ ?_ ?_
  · intro bytes file
    refine hasFile_storeAll level settled ?_ file done
    intro source member
    have misses := (spared source member).path
    exact ⟨misses.notTarget, fun same => misses.notTemporary (same ▸ List.prefix_rfl)⟩
  · exact entry?_storeAll settled (fun source member => (spared source member).path) done
  · exact entry?_storeAll settled (fun source member => (spared source member).beside) done

/-- All sources that were stored are in place, if storing each of them spares the others. -/
theorem inPlace_of_storeAll {stored : List Storage}
    (settled : ∀ source ∈ sources, Settled (targetOf output source))
    (spared : sources.Pairwise fun first second =>
      Spares (targetOf output first) (targetOf output second) ∧
        Spares (targetOf output second) (targetOf output first))
    (done : (storeAll output sources).on tree = (.ok stored, after)) :
    List.Forall₂ (fun source storage =>
      InPlace (targetOf output source) source.text tree after storage) sources stored := by
  -- Each source is put in place in the tree that the sources before it leave.
  induction sources generalizing tree stored with
  | nil =>
    cases done
    exact .nil
  | cons source later ih =>
    obtain ⟨storage, middle, others, rfl, first, rest⟩ := on_storeAll_cons_eq_ok done
    obtain ⟨⟨front, last, split⟩, level⟩ := settled source List.mem_cons_self
    obtain ⟨spares, laterSpared⟩ := List.pairwise_cons.mp spared
    have laterSettled : ∀ other ∈ later, Settled (targetOf output other) :=
      fun other member => settled other (List.mem_cons_of_mem source member)
    refine .cons ?_ ?_
    · -- What is stored later spares the first source, which is in place by then.
      exact (inPlace_of_storeText split level first).stays_storeAll level laterSettled
        (fun other member => (spares other member).2) rest
    · -- The first source was stored without a change for the later ones.
      obtain ⟨lengths, each⟩ := List.forall₂_iff_zip.mp (ih laterSettled laterSpared rest)
      refine List.forall₂_iff_zip.mpr ⟨lengths, fun {other storage} paired => ?_⟩
      have spare := (spares other (List.of_mem_zip paired).1).1
      exact (each paired).of_same (entry?_storeText split level spare.path first)
        (entry?_storeText split level spare.beside first)

/-- What is paired with the members of a list is paired with each of them. -/
theorem exists_of_forall₂ {α β : Type} {relation : α → β → Prop} {first : List α} {second : List β}
    (paired : List.Forall₂ relation first second) {a : α} (member : a ∈ first) :
    ∃ b ∈ second, relation a b := by
  -- The member is the head with its partner, or it is among the rest.
  induction paired with
  | nil => cases member
  | @cons head partner _ _ related _ ih =>
    rcases List.mem_cons.mp member with rfl | later
    · exact ⟨partner, List.mem_cons_self, related⟩
    · obtain ⟨b, listed, found⟩ := ih later
      exact ⟨b, List.mem_cons_of_mem _ listed, found⟩

/-- Every stored source is read back, if storing each of them spares the others and no carriage return is taken for a newline. -/
theorem readText_of_storeAll {stored : List Storage}
    (settled : ∀ source ∈ sources, Settled (targetOf output source))
    (spared : sources.Pairwise fun first second =>
      Spares (targetOf output first) (targetOf output second) ∧
        Spares (targetOf output second) (targetOf output first))
    (plain : ∀ source ∈ sources, '\r' ∉ source.text.toList)
    (done : (storeAll output sources).on tree = (.ok stored, after)) :
    ∀ source ∈ sources, after.readText (targetOf output source) = .ok source.text.toList := by
  -- The source is in place when all are stored, and is read as it was written.
  intro source member
  obtain ⟨storage, -, inPlace⟩ := exists_of_forall₂ (inPlace_of_storeAll settled spared done) member
  exact inPlace.readText_eq (plain source member)

end Sources

end PermissionNames.Command
