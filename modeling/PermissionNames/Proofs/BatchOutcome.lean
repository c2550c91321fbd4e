import PermissionNames.Proofs.Batch

/-! What a batch comes to: its outcome follows from its containers, whatever order finishes them. -/

namespace PermissionNames.Batch

/-- Whether a container has a slot with its final name. -/
def Locked (container : Container) : Prop :=
  ∃ slot ∈ container.slots, slot.finalized = true

/-- A container is open if no slot of it is found finalized. -/
theorem not_locked_iff {container : Container} :
    ¬ Locked container ↔ container.finalizedSlot? = none := by
  simp [Locked, Container.finalizedSlot?]

/-- The sources of containers one after another, each container for itself. -/
def sequentialSources (options : Options) (containers : List Container) :
    List (Except TransformError GeneratedSource) :=
  containers.map fun container =>
    (container.transform options.algorithm.name).map (·.source options.dialect)

/-- The sources of open containers are those of their results. -/
theorem sequentialSources_eq {options : Options} {containers : List Container}
    (allOpen : ∀ container ∈ containers, container.finalizedSlot? = none) :
    sequentialSources options containers =
      ((containers.map (finished options)).map (·.2)).map .ok := by
  simp only [sequentialSources, List.map_map]
  -- Each container is transformed for itself, and an open one is finished.
  apply List.map_congr_left
  intro container member
  rw [Container.transform_eq fun _ => Algorithm.lookUp_name options.algorithm,
    allOpen container member]
  rfl

/-- The outcome of a batch is that of its results, with a finding for each container left out. -/
theorem outcome_generateUnder (schedule : Schedule) (containers : List Container)
    (options : Options) :
    (generateUnder schedule containers options).outcome =
      (results schedule containers options).map fun done =>
        ⟨done.map (·.2), (leftOut containers).map finding⟩ := by
  -- The findings are the same whatever the results are.
  unfold generateUnder
  cases results schedule containers options <;> rfl

/-- A slot that is found finalized is one of its container's slots. -/
theorem locked_slot {container : Container} {slot : Slot}
    (final : container.finalizedSlot? = some slot) : slot ∈ container.slots ∧ slot.finalized = true :=
  ⟨List.mem_of_find?_eq_some final, List.find?_some final⟩

/-- A batch has the results of its marked containers, whatever else stands among them. -/
theorem results_congr {containers others : List Container}
    (same : selected others = selected containers) (schedule : Schedule) (options : Options) :
    results schedule others options = results schedule containers options := by
  -- Only the marked containers are given to the schedule.
  unfold results
  rw [same]

/-- The sources that a finished batch yields are those of its results. -/
theorem map_sources_outcome (schedule : Schedule) (containers : List Container)
    (options : Options) :
    (generateUnder schedule containers options).outcome.map (·.sources) =
      (results schedule containers options).map fun done => done.map (·.2) := by
  -- The findings are dropped again.
  rw [outcome_generateUnder]
  cases results schedule containers options <;> rfl

/-- Where no check sees a cancellation and at most one marked container is locked, all complete schedules have the same results. -/
theorem results_eq_of_calm {containers : List Container} {schedule other : Schedule}
    (complete : schedule.Complete (selected containers).length)
    (otherComplete : other.Complete (selected containers).length)
    (calm : ∀ check, schedule.cancelledAt check = false)
    (otherCalm : ∀ check, other.cancelledAt check = false)
    (few : ((selected containers).filter (·.finalizedSlot?.isSome)).length ≤ 1)
    (options : Options) :
    results other containers options = results schedule containers options := by
  -- Both schedules fail for the one locked container, or compare the paths of open ones.
  rcases results_cases complete options with
    ⟨check, -, set, -⟩ | ⟨container, member, slot, final, failed⟩ | ⟨allOpen, settled⟩
  · rw [calm check] at set
    cases set
  all_goals
    rcases results_cases otherComplete options with
      ⟨check, -, set, -⟩ | ⟨neighbour, listed, found, locked, stopped⟩ | ⟨noneLocked, compared⟩
    · rw [otherCalm check] at set
      cases set
  -- At most one container is locked, so both schedules failed for the same one.
  · have same : neighbour = container := by
      have first : container ∈ (selected containers).filter (·.finalizedSlot?.isSome) := by
        simp [member, final]
      have second : neighbour ∈ (selected containers).filter (·.finalizedSlot?.isSome) := by
        simp [listed, locked]
      obtain ⟨only, single⟩ : ∃ only,
          (selected containers).filter (·.finalizedSlot?.isSome) = [only] :=
        List.length_eq_one_iff.mp (Nat.le_antisymm few (List.length_pos_of_mem first))
      rw [single, List.mem_singleton] at first second
      rw [first, second]
    subst same
    rw [final] at locked
    cases locked
    rw [failed, stopped]
  · rw [noneLocked container member] at final
    cases final
  · rw [allOpen neighbour listed] at locked
    cases locked
  · rw [settled, compared]

/-- Open containers with distinct paths yield all their sources, in order, and findings for all the others. -/
theorem outcome_of_open {schedule : Schedule} {containers : List Container} {options : Options}
    (allOpen : ∀ container ∈ selected containers, container.finalizedSlot? = none)
    (done : results schedule containers options =
      .ok ((selected containers).map (finished options))) :
    ∃ result, (generateUnder schedule containers options).outcome = .ok result ∧
      result.sources.map .ok = sequentialSources options (selected containers) ∧
      result.diagnostics.map .ok = (leftOut containers).map fun container =>
        DiagnosticRule.nonPartialContainer.report container.qualifiedName [container.name]
          container.sourcePath := by
  -- The results are those of the containers in order, and so are their sources.
  refine ⟨_, by rw [outcome_generateUnder, done]; rfl, ?_, ?_⟩
  · exact (sequentialSources_eq allOpen).symm
  · simp only [List.map_map, report_finding]
    rfl

/-- A batch that nobody cancels is finished exactly if all its marked containers are open and have distinct paths.
Then it yields their sources, and a finding for each other container. -/
theorem outcome_eq_ok_iff {schedule : Schedule} {containers : List Container} (options : Options)
    (complete : schedule.Complete (selected containers).length)
    (calm : ∀ check, schedule.cancelledAt check = false) (result : BatchResult) :
    (generateUnder schedule containers options).outcome = .ok result ↔
      (∀ container ∈ selected containers, container.finalizedSlot? = none) ∧
        ((selected containers).map (·.foldedPath options.dialect)).Nodup ∧
        result = ⟨(selected containers).map fun container => (finished options container).2,
          (leftOut containers).map finding⟩ := by
  rw [outcome_generateUnder]
  rcases results_cases complete options with
    ⟨check, -, seen, -⟩ | ⟨container, member, slot, final, failed⟩ | ⟨allOpen, settled⟩
  · rw [calm check] at seen
    cases seen
  -- A locked container leaves no result.
  · rw [failed]
    refine ⟨by rintro ⟨⟩, fun ⟨allOpen, _⟩ => ?_⟩
    rw [allOpen container member] at final
    cases final
  · rcases compared_cases options (selected containers) with
      ⟨distinct, all⟩ | ⟨owner, source, clash, failed⟩
    · rw [settled, all]
      simp only [Except.map, Except.ok.injEq, List.map_map, Function.comp_def]
      exact ⟨fun same => ⟨allOpen, distinct, same.symm⟩, fun ⟨_, _, same⟩ => same.symm⟩
    · rw [settled, failed]
      exact ⟨by rintro ⟨⟩, fun ⟨_, distinct, _⟩ => absurd distinct clash.not_nodup⟩

/-- A batch that fails for a path names the first two marked containers that share it. -/
theorem firstClash_of_samePath {schedule : Schedule} {containers : List Container}
    {options : Options} {first second path : String}
    (complete : schedule.Complete (selected containers).length)
    (failed : (generateUnder schedule containers options).outcome =
      .error (.samePath first second path)) :
    ∃ owner source, FirstClash options.dialect (selected containers) owner source ∧
      first = owner.qualifiedName ∧ second = source.qualifiedName ∧
      path = source.outputPath options.dialect := by
  rw [outcome_generateUnder] at failed
  -- A cancellation and a locked container are other failures.
  rcases results_cases complete options with
    ⟨check, -, -, cancelled⟩ | ⟨container, -, slot, -, locked⟩ | ⟨-, settled⟩
  · rw [cancelled] at failed
    cases failed
  · rw [locked] at failed
    cases failed
  · rcases compared_cases options (selected containers) with
      ⟨-, all⟩ | ⟨owner, source, clash, named⟩
    · rw [settled, all] at failed
      cases failed
    · rw [settled, named] at failed
      cases failed
      exact ⟨owner, source, clash, rfl, rfl, rfl⟩

/-- The own order of a batch is a complete schedule. -/
theorem complete_sequential (count : Nat) (cancelled : Bool) :
    (Schedule.sequential count cancelled).Complete count :=
  List.Perm.refl _

/-- A batch that is generated in its own order yields the sources of its marked containers, whose paths are distinct. -/
theorem sources_of_generate {containers : List Container} {options : Options}
    {result : BatchResult} (done : (generate containers options).outcome = .ok result) :
    result.sources = (selected containers).map (fun container => (finished options container).2) ∧
      ((selected containers).map (·.foldedPath options.dialect)).Nodup := by
  -- Nothing is cancelled, so what is finished is told by the general outcome.
  obtain ⟨-, distinct, rfl⟩ :=
    (outcome_eq_ok_iff options (complete_sequential _ false) (fun _ => rfl) result).mp done
  exact ⟨rfl, distinct⟩

/-- A batch that is generated in its own order finds something about every container that it leaves out, and nothing else. -/
theorem diagnostics_of_generate {containers : List Container} {options : Options}
    {result : BatchResult} (done : (generate containers options).outcome = .ok result) :
    result.diagnostics = (leftOut containers).map finding := by
  -- Nothing is cancelled, so what is found is told by the general outcome.
  obtain ⟨-, -, rfl⟩ :=
    (outcome_eq_ok_iff options (complete_sequential _ false) (fun _ => rfl) result).mp done
  rfl

/-- Every container of a batch is selected or left out. -/
theorem length_selected_add_length_leftOut (containers : List Container) :
    (selected containers).length + (leftOut containers).length = containers.length := by
  -- The mark of a container decides which of both it is.
  simp only [selected, leftOut, ← List.countP_eq_length_filter]
  rw [List.length_eq_countP_add_countP (·.reEmittable)]
  simp

/-- A batch that is generated in its own order fails exactly for a locked container or for a path that is taken twice. -/
theorem exists_error_of_generate_iff (containers : List Container) (options : Options) :
    (∃ cause, (generate containers options).outcome = .error cause) ↔
      (∃ container ∈ selected containers, Locked container) ∨
        ¬ ((selected containers).map (·.foldedPath options.dialect)).Nodup := by
  have finishes := outcome_eq_ok_iff options
    (complete_sequential (selected containers).length false) fun _ => rfl
  have noneLocked : (∀ container ∈ selected containers, container.finalizedSlot? = none) ↔
      ¬ ∃ container ∈ selected containers, Locked container := by
    simp [← not_locked_iff]
  rw [noneLocked] at finishes
  unfold generate
  -- A batch fails if it does not finish.
  cases ended : (generateUnder (.sequential (selected containers).length false) containers
      options).outcome with
  | error cause =>
    refine ⟨fun _ => ?_, fun _ => ⟨cause, rfl⟩⟩
    by_cases locked : ∃ container ∈ selected containers, Locked container
    · exact .inl locked
    · refine .inr fun distinct => ?_
      have done := (finishes _).mpr ⟨locked, distinct, rfl⟩
      rw [ended] at done
      cases done
  | ok result =>
    obtain ⟨allOpen, distinct, -⟩ := (finishes result).mp ended
    simp [allOpen, distinct]

/-- A batch has errors among its findings exactly if some container of it is left out. -/
theorem hasErrors_of_generate {containers : List Container} {options : Options}
    {result : BatchResult} (done : (generate containers options).outcome = .ok result) :
    result.hasErrors = true ↔ ∃ container ∈ containers, container.reEmittable = false := by
  -- There is one finding for every container left out, and each of them is an error.
  have isError : ∀ container, (finding container).isError = true := fun _ => rfl
  simp [BatchResult.hasErrors, diagnostics_of_generate done, leftOut, isError]

/-- Without a cancellation a batch fails exactly for a finalized slot or a path that is taken twice.
Else every marked container yields its own source, in order, and every other one a finding. -/
theorem uncancelled_outcome (containers : List Container) (options : Options)
    {schedule : Schedule} (complete : schedule.Complete (selected containers).length)
    (calm : ∀ check, schedule.cancelledAt check = false) :
    let chosen := selected containers
    let outcome := (generateUnder schedule containers options).outcome
    let distinct := (chosen.map (·.foldedPath options.dialect)).Nodup
    ((∃ cause, outcome = .error cause) ↔
        (∃ container ∈ chosen, Locked container) ∨ ¬ distinct) ∧
      (∀ cause, outcome = .error cause →
        (∃ container ∈ chosen, ∃ slot ∈ container.slots, slot.finalized = true ∧
          cause = .container container.qualifiedName (.alreadyTransformed slot.identity)) ∨
        ∃ first second path, cause = .samePath first second path) ∧
      ((∀ container ∈ chosen, ¬ Locked container) → ¬ distinct →
        ∃ owner source, FirstClash options.dialect chosen owner source ∧
          outcome = .error (.samePath owner.qualifiedName source.qualifiedName
            (source.outputPath options.dialect))) ∧
      ((∀ container ∈ chosen, ¬ Locked container) → distinct →
        ∃ result, outcome = .ok result ∧
          result.sources.map .ok = sequentialSources options chosen ∧
          result.diagnostics.map .ok = (leftOut containers).map fun container =>
            DiagnosticRule.nonPartialContainer.report container.qualifiedName [container.name]
              container.sourcePath) ∧
      ∀ others, selected others = chosen →
        (generateUnder schedule others options).outcome.map (·.sources) =
          outcome.map (·.sources) := by
  intro chosen outcome distinct
  have shown : outcome = _ := outcome_generateUnder schedule containers options
  -- Only the marked containers are looked at, so others may stand among them.
  have unaffected : ∀ others, selected others = chosen →
      (generateUnder schedule others options).outcome.map (·.sources) =
        outcome.map (·.sources) := by
    intro others same
    rw [map_sources_outcome, map_sources_outcome, results_congr same]
  -- No check sees a cancellation, so a container is locked, two paths clash, or all is well.
  rcases results_cases complete options with
    ⟨check, -, set, -⟩ | ⟨container, member, slot, final, failed⟩ | ⟨allOpen, settled⟩
  · rw [calm check] at set
    cases set
  -- A locked container makes the batch fail for its slot.
  · obtain ⟨belongs, finalized⟩ := locked_slot final
    have locked : Locked container := ⟨slot, belongs, finalized⟩
    rw [failed] at shown
    refine ⟨⟨fun _ => .inl ⟨container, member, locked⟩, fun _ => ⟨_, shown⟩⟩, ?_,
      fun noneLocked => absurd locked (noneLocked container member),
      fun noneLocked => absurd locked (noneLocked container member), unaffected⟩
    intro cause given
    rw [shown] at given
    cases given
    exact .inl ⟨container, member, slot, belongs, finalized, rfl⟩
  -- No container is locked, so the verdict lies with the paths alone.
  · have noneLocked : ¬ ∃ container ∈ chosen, Locked container := by
      rintro ⟨container, member, locked⟩
      exact not_locked_iff.mpr (allOpen container member) locked
    rcases compared_cases options (selected containers) with
      ⟨apart, done⟩ | ⟨owner, source, clash, failed⟩
    -- Distinct paths: the batch yields all sources.
    · obtain ⟨result, yielded, sources, findings⟩ := outcome_of_open allOpen (settled.trans done)
      have noError : ∀ cause, outcome ≠ .error cause := by
        intro cause given
        rw [show outcome = .ok result from yielded] at given
        cases given
      refine ⟨⟨fun ⟨cause, given⟩ => absurd given (noError cause), ?_⟩,
        fun cause given => absurd given (noError cause), fun _ twice => absurd apart twice,
        fun _ _ => ⟨result, yielded, sources, findings⟩, unaffected⟩
      rintro (locked | twice)
      · exact absurd locked noneLocked
      · exact absurd apart twice
    -- A path is taken twice: the batch fails for the first clash.
    · rw [settled, failed] at shown
      have named : outcome = .error (.samePath owner.qualifiedName source.qualifiedName
          (source.outputPath options.dialect)) := shown
      refine ⟨⟨fun _ => .inr clash.not_nodup, fun _ => ⟨_, named⟩⟩, ?_,
        fun _ _ => ⟨owner, source, clash, named⟩, fun _ apart => absurd apart clash.not_nodup,
        unaffected⟩
      intro cause given
      rw [named] at given
      cases given
      exact .inr ⟨_, _, _, rfl⟩

/-- Two marked containers finished in reverse order around one that is left out. -/
theorem uncancelled_outcome_reversed :
    let read : Slot := ⟨"Read", .publicAccess, false, [], "read", false, by decide⟩
    let api : Container := { name := "Api", namespacePath := "app", slots := [read] }
    let plain : Container := { name := "Plain", namespacePath := "app", reEmittable := false }
    let zoo : Container := { name := "Zoo", namespacePath := "app", slots := [read, read] }
    let schedule : Schedule := ⟨[1, 0], fun _ => false⟩
    schedule.Complete (selected [api, plain, zoo]).length ∧
      (∀ check, schedule.cancelledAt check = false) ∧
      ∃ result, (generateUnder schedule [api, plain, zoo] {}).outcome = .ok result ∧
        result.sources.map .ok = sequentialSources {} [api, zoo] ∧
        result.diagnostics.map .ok =
          [DiagnosticRule.nonPartialContainer.report "app.Plain" ["Plain"] none] := by
  -- The order is complete and nothing is cancelled, and no slot is finalized.
  intro read api plain zoo schedule
  have complete : schedule.Complete (selected [api, plain, zoo]).length :=
    show [1, 0].Perm [0, 1] by decide
  have calm : ∀ check, schedule.cancelledAt check = false := fun _ => rfl
  obtain ⟨-, -, -, yields, -⟩ := uncancelled_outcome [api, plain, zoo] {} complete calm
  refine ⟨complete, calm, yields ?_ (by decide +kernel)⟩
  simp [selected, Locked, api, plain, zoo, read]

/-- Under every schedule a batch is seen as cancelled, or fails for a real cause, or yields the sources of all marked containers in order.
One that is cancelled before its start yields nothing.
Without cancellations the order counts only between finalized slots. -/
theorem scheduled_outcome (containers : List Container) (options : Options)
    {schedule : Schedule} (complete : schedule.Complete (selected containers).length) :
    let chosen := selected containers
    let outcome := (generateUnder schedule containers options).outcome
    (match outcome with
      | .error .cancelled => ∃ check ≤ chosen.length, schedule.cancelledAt check = true
      | .error (.container name cause) =>
        ∃ container ∈ chosen, name = container.qualifiedName ∧
          ∃ slot ∈ container.slots, slot.finalized = true ∧
            cause = .alreadyTransformed slot.identity
      | .error (.samePath first second path) =>
        ∃ owner source, FirstClash options.dialect chosen owner source ∧
          first = owner.qualifiedName ∧ second = source.qualifiedName ∧
          path = source.outputPath options.dialect
      | .ok result => result.sources.map .ok = sequentialSources options chosen) ∧
      (schedule.cancelledAt 0 = true → outcome = .error .cancelled) ∧
      ((∀ check, schedule.cancelledAt check = false) →
        (chosen.filter (·.finalizedSlot?.isSome)).length ≤ 1 →
        ∀ other : Schedule, other.Complete chosen.length →
          (∀ check, other.cancelledAt check = false) →
          generateUnder other containers options = generateUnder schedule containers options) := by
  intro chosen outcome
  have shown : outcome = _ := outcome_generateUnder schedule containers options
  refine ⟨?_, ?_, ?_⟩
  -- Every schedule ends in one of three ways, and each answers for its own outcome.
  · rcases results_cases complete options with
      ⟨check, within, set, stopped⟩ | ⟨container, member, slot, final, failed⟩ | ⟨allOpen, settled⟩
    · rw [shown, stopped]
      exact ⟨check, within, set⟩
    · obtain ⟨belongs, finalized⟩ := locked_slot final
      rw [shown, failed]
      exact ⟨container, member, rfl, slot, belongs, finalized, rfl⟩
    · rcases compared_cases options (selected containers) with
        ⟨-, done⟩ | ⟨owner, source, clash, failed⟩
      · obtain ⟨result, yielded, sources, -⟩ := outcome_of_open allOpen (settled.trans done)
        rw [show outcome = .ok result from yielded]
        exact sources
      · rw [shown, settled, failed]
        exact ⟨owner, source, clash, rfl, rfl, rfl⟩
  -- A cancellation before the start is seen by the very first check.
  · intro set
    rw [shown, results, if_pos set]
    rfl
  -- Without cancellations only the order among locked containers could matter.
  · intro calm few other otherComplete otherCalm
    have agree := results_eq_of_calm complete otherComplete calm otherCalm few options
    unfold generateUnder
    rw [agree]

/-- A batch whose second container is locked is given up in the same way, whichever container is finished first. -/
theorem scheduled_outcome_oneLocked :
    let fresh : Slot := ⟨"Read", .publicAccess, false, [], "read", false, by decide⟩
    let used : Slot := ⟨"Write", .publicAccess, false, [], "write", true, by decide⟩
    let api : Container := { name := "Api", namespacePath := "app", slots := [fresh] }
    let zoo : Container := { name := "Zoo", namespacePath := "app", slots := [fresh, used] }
    let forward : Schedule := ⟨[0, 1], fun _ => false⟩
    let backward : Schedule := ⟨[1, 0], fun _ => false⟩
    forward.Complete (selected [api, zoo]).length ∧
      backward.Complete (selected [api, zoo]).length ∧
      generateUnder backward [api, zoo] {} = generateUnder forward [api, zoo] {} := by
  -- Only one container is locked, so the order cannot decide which one is blamed.
  intro fresh used api zoo forward backward
  have complete : forward.Complete (selected [api, zoo]).length :=
    show [0, 1].Perm [0, 1] by decide
  have reversed : backward.Complete (selected [api, zoo]).length :=
    show [1, 0].Perm [0, 1] by decide
  obtain ⟨-, -, agree⟩ := scheduled_outcome [api, zoo] {} complete
  refine ⟨complete, reversed, agree (fun _ => rfl) ?_ backward reversed fun _ => rfl⟩
  decide

end PermissionNames.Batch
