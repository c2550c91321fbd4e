import Mathlib.Data.List.Pairwise
import PermissionNames.Proofs.BatchOutcome
import PermissionNames.Proofs.GeneratedSource.OutputPath

/-! The dialect of a batch changes how its sources are written, and not which sources there are or what they declare. -/

namespace PermissionNames

/-- What a source declares, apart from the words of its dialect. -/
structure Content where
  /-- The qualified name of the container. -/
  container : String
  declarations : List Declaration
  /-- The literals of the enumeration, if there is one. -/
  literals : Option (List String)
  deriving DecidableEq, Repr

/-- The content of a source. -/
def GeneratedSource.content (source : GeneratedSource) : Content where
  container := source.container
  declarations := source.declarations
  literals := source.enumeration.map (·.literals)

/-- A container has the same content in all dialects. -/
theorem Container.content_source (container : Container) (dialect other : Dialect) :
    (container.source dialect).content = (container.source other).content := by
  -- Only the name of the enumeration depends on the dialect.
  simp only [GeneratedSource.content, source, enumeration]
  split <;> rfl

namespace Batch

variable {containers : List Container}

/-- Plain containers have distinct paths in one dialect if they have them in another. -/
theorem nodup_foldedPath_iff (plain : ∀ container ∈ containers, container.IsPlain)
    (dialect other : Dialect) :
    (containers.map (·.foldedPath dialect)).Nodup ↔ (containers.map (·.foldedPath other)).Nodup := by
  -- The paths of two containers are compared by their folded names in both dialects.
  simp only [List.Nodup, List.pairwise_map]
  refine List.Pairwise.iff_of_mem fun {first second} member alsoMember => ?_
  have here := plain first member
  have there := plain second alsoMember
  rw [Ne, Ne, here.foldedPath_inj there, here.foldedPath_inj there]

/-- A batch of plain containers is finished in one dialect exactly if it is in another, with the same findings and with sources of the same content.
Two containers collide in one dialect exactly if they do in the other. -/
theorem outcome_across_dialects (plain : ∀ container ∈ containers, container.IsPlain)
    (options other : Options) (sameNames : other.algorithm = options.algorithm)
    {schedule otherSchedule : Schedule} (complete : schedule.Complete (selected containers).length)
    (otherComplete : otherSchedule.Complete (selected containers).length)
    (calm : ∀ check, schedule.cancelledAt check = false)
    (otherCalm : ∀ check, otherSchedule.cancelledAt check = false) :
    let outcome := (generateUnder schedule containers options).outcome
    let otherOutcome := (generateUnder otherSchedule containers other).outcome
    ((∃ result, outcome = .ok result) ↔ ∃ result, otherOutcome = .ok result) ∧
      (∀ result otherResult, outcome = .ok result → otherOutcome = .ok otherResult →
        result.diagnostics = otherResult.diagnostics ∧
          result.sources.map (·.content) = otherResult.sources.map (·.content)) ∧
      ∀ first ∈ containers, ∀ second ∈ containers,
        (first.foldedPath options.dialect = second.foldedPath options.dialect ↔
          first.foldedPath other.dialect = second.foldedPath other.dialect) ∧
        (first.foldedPath options.dialect = second.foldedPath options.dialect ↔
          caseFolded first.namespacePath = caseFolded second.namespacePath ∧
            caseFolded first.name = caseFolded second.name) := by
  have finishes := outcome_eq_ok_iff options complete calm
  have otherFinishes := outcome_eq_ok_iff other otherComplete otherCalm
  refine ⟨?_, ?_, ?_⟩
  · -- Whether containers are open does not depend on options, and their paths are distinct together.
    have chosen : ∀ container ∈ selected containers, container.IsPlain :=
      fun container member => plain container (List.mem_filter.mp member).1
    have distinct := nodup_foldedPath_iff chosen options.dialect other.dialect
    simp [finishes, otherFinishes, distinct]
  · intro result otherResult done otherDone
    obtain ⟨-, -, rfl⟩ := (finishes result).mp done
    obtain ⟨-, -, rfl⟩ := (otherFinishes otherResult).mp otherDone
    refine ⟨rfl, ?_⟩
    rw [List.map_map, List.map_map]
    refine List.map_congr_left fun container _ => ?_
    simp only [Function.comp_apply, finished, sameNames]
    exact Container.content_source _ _ _
  · intro first member second alsoMember
    have here := plain first member
    have there := plain second alsoMember
    exact ⟨by rw [here.foldedPath_inj there, here.foldedPath_inj there], here.foldedPath_inj there _⟩

/-- A store with an enumeration, finished in both dialects beside a class that is left out. -/
theorem outcome_across_dialects_enumerated :
    let read : Slot := ⟨"Read", .publicAccess, false, [], "read", false, by decide⟩
    let api : Container :=
      { name := "Api", namespacePath := "app.core", slots := [read],
        flags := { emitEnumeration := true } }
    let other : Container := { name := "Other", namespacePath := "", reEmittable := false }
    let schedule : Schedule := ⟨[0], fun _ => false⟩
    (∀ container ∈ [api, other], container.IsPlain) ∧
      schedule.Complete (selected [api, other]).length ∧
      ∃ result otherResult,
        (generateUnder schedule [api, other] { dialect := .python }).outcome = .ok result ∧
        (generateUnder schedule [api, other] { dialect := .csharp }).outcome = .ok otherResult ∧
        result.diagnostics = otherResult.diagnostics ∧
        result.sources.map (·.content) = otherResult.sources.map (·.content) := by
  intro read api other schedule
  have plain : ∀ container ∈ [api, other], container.IsPlain := by decide
  have complete : schedule.Complete (selected [api, other]).length :=
    show [0].Perm [0] by decide
  have calm : ∀ check, schedule.cancelledAt check = false := fun _ => rfl
  obtain ⟨together, same, -⟩ := outcome_across_dialects plain { dialect := .python }
    { dialect := .csharp } rfl complete complete calm calm
  have done : ∃ result, (generateUnder schedule [api, other] { dialect := .python }).outcome =
      .ok result :=
    ⟨_, (outcome_eq_ok_iff _ complete calm _).mpr ⟨by decide, by decide, rfl⟩⟩
  -- It is enough that the batch is finished in the one dialect.
  obtain ⟨result, finished⟩ := done
  obtain ⟨otherResult, otherFinished⟩ := together.mp ⟨result, finished⟩
  obtain ⟨findings, contents⟩ := same result otherResult finished otherFinished
  exact ⟨plain, complete, result, otherResult, finished, otherFinished, findings, contents⟩

/-- Names that only differ in their case fold alike, also where folding makes them longer. -/
example : caseFolded "app.Straße" = caseFolded "App.STRASSE" := by
  decide

end Batch

end PermissionNames
