import PermissionNames.Proofs.Segment
import PermissionNames.Transform

/-! A container is transformed as a whole: every slot gets its final name, unless one has it already. -/

namespace PermissionNames

/-- No two algorithms share their normalized name. -/
@[simp] theorem Algorithm.named?_name (algorithm : Algorithm) :
    Algorithm.named? algorithm.name = some algorithm := by
  cases algorithm <;> decide

/-- Every algorithm is found under its normalized name. -/
@[simp] theorem Algorithm.lookUp_name (algorithm : Algorithm) :
    Algorithm.lookUp algorithm.name = .ok algorithm := by
  simp [lookUp]

/-- A name that options accept selects the algorithm whose name is its small form. -/
theorem Algorithm.name_of_select {requested : String} {algorithm : Algorithm}
    (accepted : Algorithm.select requested = .ok algorithm) :
    algorithm.name = lowercase requested := by
  -- Of all outcomes of the selection only a found name is a success.
  unfold Algorithm.select at accepted
  simp only at accepted
  split at accepted
  · cases accepted
  · split at accepted
    · rename_i found
      cases accepted
      simpa using List.find?_some found
    · cases accepted

/-- The name under which options select an algorithm is also found for a single digest. -/
theorem Algorithm.lookUp_of_select {requested : String} {algorithm : Algorithm}
    (accepted : Algorithm.select requested = .ok algorithm) :
    Algorithm.lookUp (lowercase requested) = .ok algorithm := by
  rw [← name_of_select accepted, lookUp_name]

/-- What options make of a name, with all stages in their order. -/
def Flags.finalName (flags : Flags) (algorithm : Algorithm) (name : String) : String :=
  let lowered := lowercase (if flags.parsePrefix then segmented name else name)
  let token := if flags.obfuscate then obfuscated algorithm lowered else lowered
  if flags.upperCase then uppercase token else token

/-- The selected stages give the final name, if obfuscation finds its algorithm. -/
theorem Stage.renameAll_select {flags : Flags} {used : String} {algorithm : Algorithm}
    (known : flags.obfuscate → Algorithm.lookUp used = .ok algorithm) (name : String) :
    Stage.renameAll (Stage.select flags used) name = .ok (flags.finalName algorithm name) := by
  -- Each option adds one stage at its own place, so the eight choices are run one by one.
  obtain ⟨obfuscate, upperCase, parsePrefix, emitEnumeration⟩ := flags
  cases obfuscate <;> cases upperCase <;> cases parsePrefix <;>
    simp_all [Stage.select, Stage.renameAll, Stage.rename, Flags.finalName, Except.bind, Except.map]

/-- The slot with its final name. -/
def Slot.finish (slot : Slot) (flags : Flags) (algorithm : Algorithm) : Slot :=
  { slot with canonicalName := flags.finalName algorithm slot.canonicalName, finalized := true }

/-- A slot that is still open gets its final name. -/
theorem Slot.transform_eq {flags : Flags} {used : String} {algorithm : Algorithm}
    (known : flags.obfuscate → Algorithm.lookUp used = .ok algorithm) (slot : Slot) :
    slot.transform (Stage.select flags used) =
      if slot.finalized then .error (.alreadyTransformed slot.identity)
      else .ok (slot.finish flags algorithm) := by
  simp [Slot.transform, Stage.renameAll_select known, Slot.finish]

/-- Slots get their final names together, or the first that has one already is refused. -/
theorem Slot.transformAll_eq {flags : Flags} {used : String} {algorithm : Algorithm}
    (known : flags.obfuscate → Algorithm.lookUp used = .ok algorithm) (slots : List Slot) :
    Slot.transformAll (Stage.select flags used) slots =
      match slots.find? (·.finalized) with
      | some slot => .error (.alreadyTransformed slot.identity)
      | none => .ok (slots.map (·.finish flags algorithm)) := by
  -- The slots are transformed from the front, so the first finalized one stops the rest.
  induction slots with
  | nil => rfl
  | cons slot rest ih =>
    rw [Slot.transformAll, Slot.transform_eq known, ih]
    cases done : slot.finalized with
    | true => simp [done]
    | false =>
      simp only [Bool.false_eq_true, if_false, List.find?_cons, done]
      -- An open slot is finished if the rest is, and passes on the refusal of the rest otherwise.
      cases rest.find? (·.finalized) <;> rfl

namespace Container

/-- The container with the final names of all its slots. -/
def finish (container : Container) (algorithm : Algorithm) : Container :=
  { container with
    slots := container.slots.map (·.finish container.effectiveFlags algorithm) }

/-- The first slot that has its final name before its time. -/
def finalizedSlot? (container : Container) : Option Slot :=
  container.slots.find? (·.finalized)

/-- A container is finished, unless one of its slots has its final name already. -/
theorem transform_eq {container : Container} {used : String} {algorithm : Algorithm}
    (known : container.effectiveFlags.obfuscate → Algorithm.lookUp used = .ok algorithm) :
    container.transform used =
      match container.finalizedSlot? with
      | some slot => .error (.alreadyTransformed slot.identity)
      | none => .ok (container.finish algorithm) := by
  -- A container adds nothing to what its slots come to.
  rw [transform, Slot.transformAll_eq known]
  unfold finalizedSlot?
  cases container.slots.find? (·.finalized) <;> rfl

/-- A container that is transformed keeps all but its slots. -/
theorem eq_of_transform {container finished : Container} {used : String}
    (done : container.transform used = .ok finished) :
    finished = { container with slots := finished.slots } := by
  -- The result is built from the container, whatever its slots have become.
  unfold transform at done
  cases slots : Slot.transformAll (Stage.select container.effectiveFlags used) container.slots with
  | error cause => simp [slots, Except.map] at done
  | ok after =>
    simp only [slots, Except.map, Except.ok.injEq] at done
    rw [← done]

/-- Finishing a container leaves its name in place. -/
@[simp] theorem qualifiedName_finish (container : Container) (algorithm : Algorithm) :
    (container.finish algorithm).qualifiedName = container.qualifiedName :=
  rfl

end Container

end PermissionNames
