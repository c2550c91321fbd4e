import Mathlib.Data.List.Forall2
import PermissionNames.Batch
import PermissionNames.Proofs.Transform

/-! The options that a flat container declares are idle: names, sources, batches and notices are the same without them. -/

namespace PermissionNames

namespace Container

variable {container first second : Container}

/-- The container that declares exactly the options that apply to it. -/
def settled (container : Container) : Container :=
  { container with flags := container.effectiveFlags }

/-- Settling a container changes none of the options that apply. -/
@[simp] theorem effectiveFlags_settled (container : Container) :
    container.settled.effectiveFlags = container.effectiveFlags := by
  -- A store applies what it declares, and a flat container applies nothing either way.
  unfold settled effectiveFlags
  cases container.kind <;> rfl

/-- What a container becomes depends on its options only as far as they apply. -/
theorem transform_settled (container : Container) (used : String) :
    container.settled.transform used = (container.transform used).map settled := by
  -- The stages are selected by the options that apply, and only the slots are replaced.
  rw [transform, transform, effectiveFlags_settled]
  show (Slot.transformAll _ container.slots).map _ = _
  cases Slot.transformAll (Stage.select container.effectiveFlags used) container.slots <;> rfl

/-- The enumeration of a container depends on its options only as far as they apply. -/
theorem enumeration_settled (container : Container) (dialect : Dialect) :
    container.settled.enumeration dialect = container.enumeration dialect := by
  -- Only the options that apply are asked for.
  rw [enumeration, enumeration, effectiveFlags_settled]
  rfl

/-- The source of a container depends on its options only as far as they apply. -/
theorem source_settled (container : Container) (dialect : Dialect) :
    container.settled.source dialect = container.source dialect := by
  -- Of all that is written only the enumeration is asked for by an option.
  simp only [source, enumeration_settled]
  cases dialect <;> rfl

/-- The collisions of a container depend on its options only as far as they apply. -/
theorem collisions_settled (container : Container) :
    container.settled.collisions = container.collisions := by
  -- Only the options that apply are asked for.
  rw [collisions, collisions, effectiveFlags_settled]
  rfl

/-- Whether two containers are flat and differ in nothing but the options that they declare. -/
structure DiffersInIdleFlags (first second : Container) : Prop where
  flat : first.kind = .repo
  same : second = { first with flags := second.flags }

/-- Flat containers that differ in their options alone are settled alike. -/
theorem DiffersInIdleFlags.settled_eq (differ : first.DiffersInIdleFlags second) :
    second.settled = first.settled := by
  -- No option applies to either of them.
  rw [differ.same]
  simp only [settled, effectiveFlags, differ.flat]

/-- No option applies to a flat container. -/
theorem effectiveFlags_flat (flat : container.kind = .repo) : container.effectiveFlags = .none := by
  rw [effectiveFlags, flat]

/-- The slots that a container comes to depend on the options that apply and on its slots alone. -/
theorem map_slots_transform (container : Container) (used : String) :
    (container.transform used).map (·.slots) =
      Slot.transformAll (Stage.select container.effectiveFlags used) container.slots := by
  -- The stages are selected by the options that apply, and the slots are all they work on.
  rw [transform]
  cases Slot.transformAll (Stage.select container.effectiveFlags used) container.slots <;> rfl

/-- A flat container reports no collision, whatever its slots are called. -/
theorem collisions_of_transform_flat {finished : Container} {used : String}
    (flat : container.kind = .repo) (done : container.transform used = .ok finished) :
    finished.collisions = [] := by
  -- The kind is kept, so names are not obfuscated.
  have kept : finished.kind = .repo := by
    rw [eq_of_transform done]
    exact flat
  rw [collisions, effectiveFlags_flat kept]
  rfl

/-- The source of a transformed container depends on its options only as far as they apply. -/
theorem map_source_transform_settled (container : Container) (used : String) (dialect : Dialect) :
    (container.settled.transform used).map (·.source dialect) =
      (container.transform used).map (·.source dialect) := by
  -- Settling commutes with the transformation, and the source does not notice it.
  rw [transform_settled]
  cases container.transform used with
  | error cause => rfl
  | ok finished => simp only [Except.map, source_settled]

/-- The source in a dialect of some name depends on the options of its container only as far as they apply. -/
theorem sourceNamed_settled (container : Container) (dialect : String) :
    container.settled.sourceNamed dialect = container.sourceNamed dialect := by
  simp only [sourceNamed, source_settled]

/-- The source of a flat container has no enumeration. -/
theorem enumeration_of_sourceNamed_flat {dialect : String} {source : GeneratedSource}
    (flat : container.kind = .repo) (written : container.sourceNamed dialect = .ok source) :
    source.enumeration = none := by
  -- The option for an enumeration does not apply to a flat container.
  unfold sourceNamed at written
  split at written
  · rename_i found _
    cases written
    show container.enumeration found = none
    rw [enumeration, effectiveFlags_flat flat]
    rfl
  · cases written

end Container

namespace Batch

variable {options : Options}

/-- A result whose container is settled. -/
def settledResult (result : Container × GeneratedSource) : Container × GeneratedSource :=
  (result.1.settled, result.2)

/-- A settled container has the result of the container, and fails like it. -/
theorem process_settled (options : Options) (container : Container) :
    process options container.settled = (process options container).map settledResult := by
  -- The transformation is that of the container, and the source does not notice the difference.
  rw [process, process, Container.transform_settled]
  cases container.transform options.algorithm.name with
  | error cause => rfl
  | ok finished =>
    simp only [Except.map, settledResult, Container.source_settled]

/-- Settled containers are collected like the containers themselves, step by step. -/
theorem collect_settled (options : Options) (containers : List Container)
    (cancelledAt : Nat → Bool) (order : List Nat) (check : Nat)
    (places : List (Option (Container × GeneratedSource))) :
    collect options (containers.map Container.settled) cancelledAt check order
        (places.map (Option.map settledResult)) =
      (collect options containers cancelledAt check order places).map
        (List.map (Option.map settledResult)) := by
  -- Both collections are cancelled, fail and fill a place at the same steps.
  induction order generalizing check places with
  | nil => rfl
  | cons position later ih =>
    rw [collect, collect]
    by_cases cancelled : cancelledAt check = true
    · simp [cancelled, Except.map]
    · rw [if_neg cancelled, if_neg cancelled, List.getElem?_map]
      cases containers[position]? with
      | none => exact ih (check + 1) places
      | some container =>
        simp only [Option.map_some, process_settled]
        cases process options container with
        | error cause => rfl
        | ok result =>
          have next := ih (check + 1) (places.set position (some result))
          rw [List.map_set] at next
          exact next

/-- Settled containers are selected like the containers themselves. -/
theorem selected_settled (containers : List Container) :
    selected (containers.map Container.settled) = (selected containers).map Container.settled := by
  -- Settling keeps the mark that is selected by.
  rw [selected, selected, List.filter_map]
  rfl

/-- Settled containers are left out like the containers themselves. -/
theorem leftOut_settled (containers : List Container) :
    leftOut (containers.map Container.settled) = (leftOut containers).map Container.settled := by
  -- Settling keeps the mark that is selected by.
  rw [leftOut, leftOut, List.filter_map]
  rfl

/-- A batch of settled containers has the settled results of the batch. -/
theorem results_settled (schedule : Schedule) (containers : List Container) (options : Options) :
    results schedule (containers.map Container.settled) options =
      (results schedule containers options).map (List.map settledResult) := by
  rw [results, results]
  by_cases cancelled : schedule.cancelledAt 0 = true
  · simp [cancelled, Except.map]
  · rw [if_neg cancelled, if_neg cancelled]
    have empty : List.replicate (selected (containers.map Container.settled)).length none =
        (List.replicate (selected containers).length none).map (Option.map settledResult) := by
      rw [selected_settled, List.length_map, List.map_replicate, Option.map_none]
    have collected := collect_settled options (selected containers) schedule.cancelledAt
      schedule.order 1 (List.replicate (selected containers).length none)
    rw [← empty, ← selected_settled] at collected
    simp only [collected]
    cases collect options (selected containers) schedule.cancelledAt 1 schedule.order
        (List.replicate (selected containers).length none) with
    | error cause => rfl
    | ok done =>
      -- The sources are the same, so their paths are compared with the same outcome.
      have kept : (done.map (Option.map settledResult)).filterMap id =
          (done.filterMap id).map settledResult := by
        rw [List.filterMap_map, List.map_filterMap]
        rfl
      have sources : ((done.filterMap id).map settledResult).map (·.2) =
          (done.filterMap id).map (·.2) := by
        rw [List.map_map]
        rfl
      simp only [Except.map, kept, sources]
      cases takenPath? [] ((done.filterMap id).map (·.2)) <;> rfl

/-- Settled containers have the collisions of the containers. -/
theorem collisionNotices_settled (finished : List Container) :
    collisionNotices (finished.map Container.settled) = collisionNotices finished := by
  simp only [collisionNotices, List.flatMap_map, Container.collisions_settled]

/-- The finding for a settled container is that for the container. -/
theorem finding_settled (container : Container) : finding container.settled = finding container := by
  -- A finding shows the names and the path, and settling changes neither.
  have name : container.settled.name = container.name := rfl
  have qualified : container.settled.qualifiedName = container.qualifiedName := rfl
  have path : container.settled.sourcePath = container.sourcePath := rfl
  simp only [finding, name, qualified, path]

/-- A batch depends on the options of its containers only as far as they apply. -/
theorem generateUnder_settled (schedule : Schedule) (containers : List Container)
    (options : Options) :
    generateUnder schedule (containers.map Container.settled) options =
      generateUnder schedule containers options := by
  have skips : (leftOut (containers.map Container.settled)).map (fun container =>
        Notice.skipped .nonPartialContainer container.qualifiedName) =
      (leftOut containers).map fun container =>
        Notice.skipped .nonPartialContainer container.qualifiedName := by
    rw [leftOut_settled, List.map_map]
    rfl
  have findings : (leftOut (containers.map Container.settled)).map finding =
      (leftOut containers).map finding := by
    rw [leftOut_settled, List.map_map]
    exact List.map_congr_left fun container _ => finding_settled container
  simp only [generateUnder, results_settled, skips, findings]
  -- A finished container still carries its options, but neither its source nor its notices show them.
  cases results schedule containers options with
  | error cause => rfl
  | ok finished =>
    have containersOf : (finished.map settledResult).map (·.1) =
        (finished.map (·.1)).map Container.settled := by
      simp only [List.map_map]
      rfl
    have sourcesOf : (finished.map settledResult).map (·.2) = finished.map (·.2) := by
      rw [List.map_map]
      rfl
    simp only [Except.map, containersOf, sourcesOf, collisionNotices_settled]

/-- Batches whose containers are the same, or flat and different in their options alone, have the same outcome and the same notices. -/
theorem generateUnder_congr {containers others : List Container}
    (alike : List.Forall₂ (fun first second => second = first ∨ first.DiffersInIdleFlags second)
      containers others) (schedule : Schedule) (options : Options) :
    generateUnder schedule others options = generateUnder schedule containers options := by
  -- Containers that differ in idle options are settled to the same, and settling does not change a
  -- batch.
  have settledAlike : others.map Container.settled = containers.map Container.settled := by
    induction alike with
    | nil => rfl
    | cons here _ ih =>
      rw [List.map_cons, List.map_cons, ih]
      rcases here with rfl | differ
      · rfl
      · rw [differ.settled_eq]
  rw [← generateUnder_settled, settledAlike, generateUnder_settled]

end Batch

/-- Of two flat containers that differ in their options alone, slots or errors, sources and collisions are the same, and so is every batch that one stands in instead of the other.
The slots are those of a store without options. -/
theorem flags_idle_in_flat_container {first second : Container}
    (differ : first.DiffersInIdleFlags second) :
    (∀ used, (second.transform used).map (·.slots) = (first.transform used).map (·.slots) ∧
      (first.transform used).map (·.slots) =
        (Container.transform { first with kind := .store, flags := .none } used).map (·.slots)) ∧
    (∀ used dialect, (second.transform used).map (·.source dialect) =
      (first.transform used).map (·.source dialect)) ∧
    (∀ used finished, first.transform used = .ok finished ∨ second.transform used = .ok finished →
      finished.collisions = []) ∧
    (∀ dialect, second.sourceNamed dialect = first.sourceNamed dialect ∧
      ∀ source, first.sourceNamed dialect = .ok source → source.enumeration = none) ∧
    ∀ (before after earlier later : List Container),
      List.Forall₂ (fun one other => other = one ∨ one.DiffersInIdleFlags other) before earlier →
      List.Forall₂ (fun one other => other = one ∨ one.DiffersInIdleFlags other) after later →
      ∀ schedule options,
        Batch.generateUnder schedule (earlier ++ second :: later) options =
          Batch.generateUnder schedule (before ++ first :: after) options := by
  have flat := differ.flat
  have alsoFlat : second.kind = .repo := by
    rw [differ.same]
    exact flat
  have sameSlots : second.slots = first.slots := by rw [differ.same]
  refine ⟨?_, ?_, ?_, ?_, ?_⟩
  -- No option applies to either container, and none to a store that declares none.
  · intro used
    constructor
    · rw [Container.map_slots_transform, Container.map_slots_transform,
        Container.effectiveFlags_flat flat, Container.effectiveFlags_flat alsoFlat, sameSlots]
    · rw [Container.map_slots_transform, Container.map_slots_transform,
        Container.effectiveFlags_flat flat]
      rfl
  -- All else is the same when both containers are settled, and settling changes nothing of it.
  · intro used dialect
    rw [← Container.map_source_transform_settled, differ.settled_eq,
      Container.map_source_transform_settled]
  · intro used finished done
    rcases done with done | done
    · exact Container.collisions_of_transform_flat flat done
    · exact Container.collisions_of_transform_flat alsoFlat done
  · intro dialect
    constructor
    · rw [← Container.sourceNamed_settled, differ.settled_eq, Container.sourceNamed_settled]
    · exact fun source written => Container.enumeration_of_sourceNamed_flat flat written
  · intro before after earlier later front back schedule options
    exact Batch.generateUnder_congr (List.rel_append front (.cons (.inr differ) back)) schedule
      options

/-- A flat container with and without all options, in a batch behind a store that is the same in both. -/
theorem flags_idle_in_flat_container_allFlags :
    let read : Slot := ⟨"Read", .publicAccess, true, [], "read", false, by decide⟩
    let plain : Container :=
  -- The store stands in front of both containers, unchanged.
      { name := "Api", namespacePath := "app", slots := [read, read], kind := .repo }
    let flagged : Container := { plain with flags := ⟨true, true, true, true⟩ }
    let store : Container := { name := "Store", namespacePath := "app", slots := [read] }
    plain.DiffersInIdleFlags flagged ∧
      (flagged.transform "sha256").map (·.slots) = (plain.transform "sha256").map (·.slots) ∧
      ∀ schedule options, Batch.generateUnder schedule [store, flagged] options =
        Batch.generateUnder schedule [store, plain] options := by
  intro read plain flagged store
  have differ : plain.DiffersInIdleFlags flagged := ⟨rfl, rfl⟩
  obtain ⟨slots, -, -, -, batch⟩ := flags_idle_in_flat_container differ
  exact ⟨differ, (slots "sha256").1,
    batch [store] [] [store] [] (.cons (.inl rfl) .nil) .nil⟩

end PermissionNames
