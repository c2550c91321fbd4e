import PermissionNames.Batch
import PermissionNames.Proofs.Transform

/-! Laws of a batch: how finished containers fill their places, and how paths are compared. -/

namespace PermissionNames

/-- Finishing a container leaves the path of its source in place. -/
@[simp] theorem Container.outputPath_finish (container : Container) (algorithm : Algorithm)
    (dialect : Dialect) :
    (container.finish algorithm).outputPath dialect = container.outputPath dialect :=
  rfl

/-- The path of a source in the form in which paths are compared. -/
def GeneratedSource.foldedPath (source : GeneratedSource) : String :=
  caseFolded source.path

/-- The path of a container's source in the form in which paths are compared. -/
def Container.foldedPath (dialect : Dialect) (container : Container) : String :=
  caseFolded (container.outputPath dialect)

/-- A schedule that finishes each of so many containers once, in whatever order. -/
def Schedule.Complete (schedule : Schedule) (count : Nat) : Prop :=
  schedule.order.Perm (List.range count)

/-- Text without braces stands in a template for itself. -/
theorem Template.fillFrom_plain {plain : List Char} (free : ∀ c ∈ plain, c ≠ '\x7b' ∧ c ≠ '\x7d')
    (values : List String) (numbering : Numbering) (rest : List Char) :
    fillFrom values numbering none (plain ++ rest) =
      (fillFrom values numbering none rest).map (plain ++ ·) := by
  -- Each character is written out and leaves the state of the reading as it was.
  induction plain with
  | nil => cases read : fillFrom values numbering none rest <;> simp [Except.map, read]
  | cons c plain ih =>
    have later := ih fun other member => free other (List.mem_cons_of_mem c member)
    obtain ⟨notOpening, notClosing⟩ := free c List.mem_cons_self
    rw [List.cons_append, fillFrom.eq_def]
    simp only [notOpening, notClosing, if_false, later]
    cases fillFrom values numbering none rest <;> rfl

/-- The first field of a template stands for the first value. -/
theorem Template.fillFrom_first (value : String) (values : List String) (rest : List Char) :
    fillFrom (value :: values) .undecided none ('\x7b' :: '0' :: '\x7d' :: rest) =
      (fillFrom (value :: values) .manual none rest).map (value.toList ++ ·) := by
  -- The field is numbered by hand, and from there the rest is filled.
  have numbered : fieldIndex .undecided ['0'] = .ok (0, .manual) := by rfl
  simp [fillFrom, numbered, Bind.bind, Except.bind, Pure.pure, Except.pure]
  cases fillFrom (value :: values) .manual none rest <;> rfl

/-- The message about a container that is not partial can be written whatever its name is. -/
theorem Template.fill_nonPartialContainer (name : String) :
    Template.fill DiagnosticRule.nonPartialContainer.template [name] =
      .ok (String.ofList ("Class '".toList ++ (name.toList ++
        "' should derive from Partial to support permissions generation".toList))) := by
  -- The template is plain text around one field.
  have parts : DiagnosticRule.nonPartialContainer.template.toList =
      "Class '".toList ++ ('\x7b' :: '0' :: '\x7d' ::
        ("' should derive from Partial to support permissions generation".toList ++ [])) := by
    simp [DiagnosticRule.nonPartialContainer]
  have before : ∀ c ∈ "Class '".toList, c ≠ '\x7b' ∧ c ≠ '\x7d' := by simp
  have after : ∀ c ∈ "' should derive from Partial to support permissions generation".toList,
      c ≠ '\x7b' ∧ c ≠ '\x7d' := by simp
  rw [fill, parts, fillFrom_plain before, fillFrom_first, fillFrom_plain after]
  simp only [fillFrom, Except.map, List.append_nil]

namespace Batch

variable {options : Options} {containers : List Container} {cancelledAt : Nat → Bool}

/-- A container with its final names, and its source. -/
def finished (options : Options) (container : Container) : Container × GeneratedSource :=
  let final := container.finish options.algorithm
  (final, final.source options.dialect)

/-- A container is finished, unless one of its slots has its final name already. -/
theorem process_eq (options : Options) (container : Container) :
    process options container =
      match container.finalizedSlot? with
      | some slot =>
        .error (.container container.qualifiedName (.alreadyTransformed slot.identity))
      | none => .ok (finished options container) := by
  -- The algorithm of the options is always looked up, so only a finalized slot stops the
  -- container.
  rw [process, Container.transform_eq fun _ => Algorithm.lookUp_name options.algorithm]
  cases container.finalizedSlot? <;> rfl

/-- Every container that is left out can be reported. -/
theorem report_finding (container : Container) :
    DiagnosticRule.nonPartialContainer.report container.qualifiedName [container.name]
        container.sourcePath =
      .ok (finding container) := by
  simp [DiagnosticRule.report, finding, Template.fill_nonPartialContainer, Except.map]

/-- The places of the finished containers hold their results, and all other places are empty. -/
structure Filled (options : Options) (containers : List Container) (seen : List Nat)
    (places : List (Option (Container × GeneratedSource))) : Prop where
  /-- Every container has one place. -/
  length_eq : places.length = containers.length
  /-- What stands at the place of each container. -/
  holds : ∀ position container, containers[position]? = some container →
    places[position]? = some (if position ∈ seen then some (finished options container) else none)

/-- Before the first container is finished, all places are empty. -/
theorem Filled.empty (options : Options) (containers : List Container) :
    Filled options containers [] (List.replicate containers.length none) := by
  refine ⟨by simp, ?_⟩
  -- No position is seen yet, so every place has to be empty.
  intro position container found
  have below : position < containers.length := (List.getElem?_eq_some_iff.mp found).1
  simp [below]

/-- Finishing one container fills its place and no other. -/
theorem Filled.set {seen : List Nat} {places : List (Option (Container × GeneratedSource))}
    (held : Filled options containers seen places) {position : Nat} {container : Container}
    (found : containers[position]? = some container) :
    Filled options containers (position :: seen)
      (places.set position (some (finished options container))) := by
  refine ⟨by simp [held.length_eq], ?_⟩
  intro other neighbour listed
  have below : position < places.length := by
    rw [held.length_eq]
    exact (List.getElem?_eq_some_iff.mp found).1
  -- The place of the finished container is filled, and every other is read as before.
  by_cases same : position = other
  · subst same
    rw [found] at listed
    cases listed
    simp [below]
  · have distinct : other ≠ position := fun eq => same eq.symm
    rw [List.getElem?_set_ne same, held.holds other neighbour listed]
    simp [distinct]

/-- Once all positions are seen, the places hold the results in the order of the containers. -/
theorem Filled.complete {seen : List Nat} {places : List (Option (Container × GeneratedSource))}
    (held : Filled options containers seen places)
    (all : ∀ position < containers.length, position ∈ seen) :
    places.filterMap id = containers.map (finished options) := by
  -- Position by position every place holds the result of its container.
  have full : places = containers.map (fun container => some (finished options container)) := by
    apply List.ext_getElem?
    intro position
    cases found : containers[position]? with
    | none =>
      have past : containers.length ≤ position := List.getElem?_eq_none_iff.mp found
      rw [List.getElem?_eq_none (by simpa [held.length_eq] using past)]
      simp [found]
    | some container =>
      have member := all position (List.getElem?_eq_some_iff.mp found).1
      rw [held.holds position container found, if_pos member]
      simp [found]
  rw [full, List.filterMap_map]
  show List.filterMap (some ∘ finished options) containers = _
  rw [List.filterMap_eq_map]

/-- A position without a container has no place to fill. -/
theorem Filled.skip {seen : List Nat} {places : List (Option (Container × GeneratedSource))}
    (held : Filled options containers seen places) {position : Nat}
    (missing : containers[position]? = none) :
    Filled options containers (position :: seen) places := by
  refine ⟨held.length_eq, ?_⟩
  intro other neighbour listed
  -- A position with a container is another one than this.
  have distinct : other ≠ position := by
    intro same
    rw [same, missing] at listed
    cases listed
  rw [held.holds other neighbour listed]
  simp [distinct]

/-- A collection that ends well has filled the places of all containers of its order, and each of them could be finished. -/
theorem collect_ok {order : List Nat} {check : Nat} {seen : List Nat}
    {places filled : List (Option (Container × GeneratedSource))}
    (held : Filled options containers seen places)
    (folded : collect options containers cancelledAt check order places = .ok filled) :
    Filled options containers (order.reverse ++ seen) filled ∧
      ∀ position ∈ order, ∀ container, containers[position]? = some container →
        container.finalizedSlot? = none := by
  -- The places seen so far are the invariant, and every step of the order adds one position to them.
  induction order generalizing check seen places with
  | nil =>
    cases folded
    exact ⟨held, by simp⟩
  | cons position later ih =>
    have shifted : (position :: later).reverse ++ seen = later.reverse ++ (position :: seen) := by
      simp
    rw [shifted]
    unfold collect at folded
    split at folded
    · cases folded
    · split at folded
      -- Nothing stands at this position, so its place is skipped.
      · rename_i missing
        obtain ⟨ended, openLater⟩ := ih (held.skip missing) folded
        refine ⟨ended, ?_⟩
        intro other member container found
        rcases List.mem_cons.mp member with same | member
        · rw [same, missing] at found
          cases found
        · exact openLater other member container found
      · rename_i container found
        -- The container at this position is finished, and its place is filled.
        rw [process_eq] at folded
        cases final : container.finalizedSlot? with
        | some slot => simp [final] at folded
        | none =>
          simp only [final] at folded
          obtain ⟨ended, openLater⟩ := ih (held.set found) folded
          refine ⟨ended, ?_⟩
          intro other member neighbour listed
          rcases List.mem_cons.mp member with same | member
          · rw [same, found] at listed
            cases listed
            exact final
          · exact openLater other member neighbour listed

/-- A collection is given up for a cancellation that one of its checks sees, or for a container whose slots are not all open. -/
theorem collect_error {order : List Nat} {check : Nat}
    {places : List (Option (Container × GeneratedSource))} {cause : BatchError}
    (failed : collect options containers cancelledAt check order places = .error cause) :
    (∃ later, check ≤ later ∧ later < check + order.length ∧ cancelledAt later = true ∧
        cause = .cancelled) ∨
      ∃ container ∈ containers, ∃ slot, container.finalizedSlot? = some slot ∧
        cause = .container container.qualifiedName (.alreadyTransformed slot.identity) := by
  -- The failure is that of the first check, of the first container, or of the rest.
  induction order generalizing check places with
  | nil => cases failed
  | cons position later ih =>
    -- The checks of the rest are among the checks of the whole order.
    have widen : (∃ seen, check + 1 ≤ seen ∧ seen < check + 1 + later.length ∧
          cancelledAt seen = true ∧ cause = .cancelled) →
        ∃ seen, check ≤ seen ∧ seen < check + (position :: later).length ∧
          cancelledAt seen = true ∧ cause = .cancelled := by
      rintro ⟨seen, above, below, set⟩
      exact ⟨seen, by omega, by simp only [List.length_cons]; omega, set⟩
    unfold collect at failed
    split at failed
    · rename_i set
      cases failed
      exact .inl ⟨check, Nat.le_refl check, by simp, set, rfl⟩
    · split at failed
      · exact (ih failed).imp_left widen
      · rename_i container found
        rw [process_eq] at failed
        cases final : container.finalizedSlot? with
        | some slot =>
          simp only [final] at failed
          cases failed
          exact .inr ⟨container, List.mem_of_getElem? found, slot, final, rfl⟩
        | none =>
          simp only [final] at failed
          exact (ih failed).imp_left widen

/-- Sources under the paths that they take. -/
def owned (sources : List GeneratedSource) : List (String × GeneratedSource) :=
  sources.map fun source => (source.foldedPath, source)

/-- The owner of a path is the earliest source that takes it. -/
theorem lookup_owned (sources : List GeneratedSource) (path : String) :
    (owned sources).lookup path = sources.find? (·.foldedPath == path) := by
  -- Both searches stop at the first source with the path.
  induction sources with
  | nil => rfl
  | cons source later ih =>
    simp only [owned, List.map_cons, List.lookup_cons, List.find?_cons] at ih ⊢
    rw [Bool.beq_comm, ih]

/-- Beyond sources with distinct paths, either all paths are distinct or the first that is taken is found. -/
theorem takenPath?_owned {taken : List GeneratedSource}
    (apart : (taken.map (·.foldedPath)).Nodup) (sources : List GeneratedSource) :
    match takenPath? (owned taken) sources with
    | none => ((taken ++ sources).map (·.foldedPath)).Nodup
    | some (owner, source) => ∃ before after, taken ++ sources = before ++ source :: after ∧
        (before.map (·.foldedPath)).Nodup ∧
        before.find? (·.foldedPath == source.foldedPath) = some owner := by
  -- The sources looked at so far have distinct paths, which the next one keeps or breaks.
  induction sources generalizing taken with
  | nil => simpa [takenPath?] using apart
  | cons source later ih =>
    rw [takenPath?, ← GeneratedSource.foldedPath, lookup_owned]
    cases found : taken.find? (·.foldedPath == source.foldedPath) with
    | some owner => exact ⟨taken, later, rfl, apart, found⟩
    | none =>
      -- The new path joins those that are taken, and the rest is looked through with it.
      have fresh : ((taken ++ [source]).map (·.foldedPath)).Nodup := by
        simp only [List.find?_eq_none, beq_iff_eq] at found
        simp only [List.map_append, List.nodup_append, List.map_cons, List.map_nil]
        refine ⟨apart, by simp, ?_⟩
        simpa using found
      have joined : owned taken ++ [(source.foldedPath, source)] = owned (taken ++ [source]) := by
        simp [owned]
      have moved : taken ++ source :: later = taken ++ [source] ++ later := by simp
      rw [moved]
      simp only [joined]
      exact ih fresh

/-- The second container is the first whose path is taken, and the first container is the earliest that takes it. -/
def FirstClash (dialect : Dialect) (containers : List Container) (owner source : Container) :
    Prop :=
  ∃ before after, containers = before ++ source :: after ∧
    (before.map (·.foldedPath dialect)).Nodup ∧
    before.find? (·.foldedPath dialect == source.foldedPath dialect) = some owner

/-- The containers of a clash are two of the list, and their folded paths are the same. -/
theorem FirstClash.spec {dialect : Dialect} {owner source : Container}
    (clash : FirstClash dialect containers owner source) :
    ∃ before after, containers = before ++ source :: after ∧ owner ∈ before ∧
      owner.foldedPath dialect = source.foldedPath dialect := by
  -- The owner is the first container found with the path.
  obtain ⟨before, after, split, -, found⟩ := clash
  exact ⟨before, after, split, List.mem_of_find?_eq_some found, by simpa using List.find?_some found⟩

/-- Where one path is taken twice, paths are not distinct. -/
theorem FirstClash.not_nodup {dialect : Dialect} {owner source : Container}
    (clash : FirstClash dialect containers owner source) :
    ¬ (containers.map (·.foldedPath dialect)).Nodup := by
  -- Owner and source stand on both sides of the split.
  obtain ⟨before, after, split, earlier, taken⟩ := clash.spec
  intro distinct
  rw [split, List.map_append, List.nodup_append] at distinct
  refine distinct.2.2 _ (List.mem_map_of_mem earlier) _ ?_ taken
  simp

/-- What the paths of open containers make of their batch. -/
def compared (options : Options) (containers : List Container) :
    Except BatchError (List (Container × GeneratedSource)) :=
  let results := containers.map (finished options)
  match takenPath? [] (results.map (·.2)) with
  | some (owner, source) => .error (.samePath owner.container source.container source.path)
  | none => .ok results

/-- Open containers yield all their results, or the first clash of their paths is named. -/
theorem compared_cases (options : Options) (containers : List Container) :
    ((containers.map (·.foldedPath options.dialect)).Nodup ∧
        compared options containers = .ok (containers.map (finished options))) ∨
      ∃ owner source, FirstClash options.dialect containers owner source ∧
        compared options containers =
          .error (.samePath owner.qualifiedName source.qualifiedName
            (source.outputPath options.dialect)) := by
  have sources : (containers.map (finished options)).map (·.2) =
      containers.map fun container => (finished options container).2 := by
    simp
  have none : (([] : List GeneratedSource).map (·.foldedPath)).Nodup := List.nodup_nil
  -- The scan starts without sources, whose paths are trivially distinct.
  have scan := takenPath?_owned none
    (containers.map fun container => (finished options container).2)
  simp only [owned, List.map_nil, List.nil_append] at scan
  unfold compared
  simp only [sources]
  cases found : takenPath? [] (containers.map fun container => (finished options container).2) with
  | none =>
    rw [found] at scan
    simp only [List.map_map] at scan
    exact .inl ⟨scan, rfl⟩
  | some pair =>
    obtain ⟨owner, source⟩ := pair
    rw [found] at scan
    obtain ⟨before, after, split, distinct, taken⟩ := scan
    -- Each source of the clash is that of a container at the same position.
    obtain ⟨earlier, rest, rfl, rfl, last⟩ := List.map_eq_append_iff.mp split
    obtain ⟨container, later, rfl, rfl, rfl⟩ := List.map_eq_cons_iff.mp last
    rw [List.find?_map, Option.map_eq_some_iff] at taken
    obtain ⟨first, taken, rfl⟩ := taken
    rw [List.map_map] at distinct
    exact .inr ⟨first, container, ⟨earlier, later, rfl, distinct, taken⟩, rfl⟩

/-- Under a complete schedule a check sees the cancellation, or a container has a slot that is not open, or all containers are open and only their paths count. -/
theorem results_cases {schedule : Schedule} {containers : List Container}
    (complete : schedule.Complete (selected containers).length) (options : Options) :
    (∃ check ≤ (selected containers).length, schedule.cancelledAt check = true ∧
        results schedule containers options = .error .cancelled) ∨
      (∃ container ∈ selected containers, ∃ slot, container.finalizedSlot? = some slot ∧
        results schedule containers options =
          .error (.container container.qualifiedName (.alreadyTransformed slot.identity))) ∨
      ((∀ container ∈ selected containers, container.finalizedSlot? = none) ∧
        results schedule containers options = compared options (selected containers)) := by
  unfold results
  -- The first check is made before any container is finished.
  split
  · rename_i set
    exact .inl ⟨0, Nat.zero_le _, set, rfl⟩
  · cases folded : collect options (selected containers) schedule.cancelledAt 1 schedule.order
      (List.replicate (selected containers).length none) with
    | error cause =>
      rcases collect_error folded with ⟨check, -, below, set, rfl⟩ | ⟨container, member, slot, final, rfl⟩
      -- A complete order has as many checks as there are containers.
      · rw [complete.length_eq, List.length_range] at below
        exact .inl ⟨check, by omega, set, by simp only [folded]⟩
      · exact .inr (.inl ⟨container, member, slot, final, by simp only [folded]⟩)
    | ok filled =>
      -- Every position is in the order, so every place is filled.
      obtain ⟨held, allOpen⟩ := collect_ok (Filled.empty options (selected containers)) folded
      have listed : ∀ position < (selected containers).length, position ∈ schedule.order := by
        intro position below
        exact complete.mem_iff.mpr (List.mem_range.mpr below)
      have results := held.complete fun position below => by simpa using listed position below
      refine .inr (.inr ⟨?_, ?_⟩)
      · intro container member
        obtain ⟨position, found⟩ := List.getElem?_of_mem member
        have below := (List.getElem?_eq_some_iff.mp found).1
        exact allOpen position (listed position below) container found
      · simp only [folded, results]
        rfl

end Batch

end PermissionNames
