import PermissionNames.Command.Run
import PermissionNames.Proofs.BatchOutcome

/-! What a run generates for the containers that it finds: what their batch yields, where a source can be encoded if the names in its container can. -/

namespace PermissionNames.Command

open Discovery

variable {found : List Found} {options : Options} {result : BatchResult}

/-- The source of a container that is found. -/
def sourceOf (options : Options) (one : Found) : GeneratedSource :=
  encodedAs one (Batch.finished options one.container).2

/-- The containers of a batch are the partial ones that are found. -/
theorem selected_map_container (found : List Found) :
    Batch.selected (found.map (·.container)) =
      (found.filter (·.container.reEmittable)).map (·.container) :=
  List.filter_map

/-- What is generated are the findings of the batch, and the sources of what is found. -/
theorem exists_batch_of_generate (generated : generate found options = .ok result) :
    ∃ batch, (Batch.generate (found.map (·.container)) options).outcome = .ok batch ∧
      result.diagnostics = batch.diagnostics ∧
      result.sources = (found.filter (·.container.reEmittable)).map (sourceOf options) := by
  unfold generate at generated
  cases done : (Batch.generate (found.map (·.container)) options).outcome with
  | error cause =>
    rw [done] at generated
    cases generated
  | ok batch =>
    rw [done] at generated
    cases generated
    refine ⟨batch, rfl, rfl, ?_⟩
    -- The sources of a batch are those of its containers, in their order.
    dsimp only
    rw [(Batch.sources_of_generate done).1, selected_map_container, List.map_map,
      List.zipWith_map_right, List.zipWith_self]
    rfl

/-- Generation fails for what the batch fails for. -/
theorem generate_eq_error_iff {cause : BatchError} :
    generate found options = .error cause ↔
      (Batch.generate (found.map (·.container)) options).outcome = .error cause := by
  -- What follows the batch cannot fail.
  unfold generate
  cases (Batch.generate (found.map (·.container)) options).outcome <;> simp [Except.map]

/-- Each source that is generated is that of a container that is found. -/
theorem exists_found_of_mem_sources (generated : generate found options = .ok result) :
    ∀ source ∈ result.sources, ∃ one ∈ found, source = sourceOf options one := by
  -- Each source is made from a container that the filter kept.
  obtain ⟨batch, -, -, sources⟩ := exists_batch_of_generate generated
  intro source member
  rw [sources] at member
  obtain ⟨one, listed, rfl⟩ := List.mem_map.mp member
  exact ⟨one, (List.mem_filter.mp listed).1, rfl⟩

/-- There are as many sources as partial containers. -/
theorem length_sources_of_generate (generated : generate found options = .ok result) :
    result.sources.length = (Batch.selected (found.map (·.container))).length := by
  -- Making a source of each container keeps their number.
  obtain ⟨batch, -, -, sources⟩ := exists_batch_of_generate generated
  rw [sources, selected_map_container, List.length_map, List.length_map]

/-- No two sources that are generated have the same path. -/
theorem distinct_of_generate (generated : generate found options = .ok result) :
    result.sources.Pairwise fun first second => first.path ≠ second.path := by
  obtain ⟨batch, done, -, sources⟩ := exists_batch_of_generate generated
  obtain ⟨-, distinct⟩ := Batch.sources_of_generate done
  rw [selected_map_container, List.map_map] at distinct
  rw [sources, List.pairwise_map]
  -- The same path would be the same when its case is folded.
  exact (List.pairwise_map.mp distinct).imp fun apart same => apart (congrArg caseFolded same)

/-- There is a finding for each container that is not partial, and no other one. -/
theorem diagnostics_of_generate (generated : generate found options = .ok result) :
    result.diagnostics = (Batch.leftOut (found.map (·.container))).map Batch.finding := by
  -- The findings are those of the batch.
  obtain ⟨batch, done, diagnostics, -⟩ := exists_batch_of_generate generated
  rw [diagnostics, Batch.diagnostics_of_generate done]

/-- There are errors among the findings exactly if some container is not partial. -/
theorem hasErrors_of_generate (generated : generate found options = .ok result) :
    result.hasErrors = true ↔
      ∃ container ∈ found.map (·.container), container.reEmittable = false := by
  -- The batch decides it by the same findings.
  obtain ⟨batch, done, diagnostics, -⟩ := exists_batch_of_generate generated
  rw [← Batch.hasErrors_of_generate done, BatchResult.hasErrors, BatchResult.hasErrors,
    diagnostics]

end PermissionNames.Command
