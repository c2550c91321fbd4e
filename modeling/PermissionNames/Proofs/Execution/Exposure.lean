import PermissionNames.Proofs.Execution.ClassBody

/-! Executed modules: the class of a container shows every slot exactly if the names that the module relies on are kept. -/

namespace PermissionNames

open Execution

namespace Execution

/-- A class body is its declarations and what ends it. -/
theorem bodyMembers_eq (enumeration : Option Enumeration) (started : Bool)
    (declarations : List Declaration) :
    bodyMembers enumeration started declarations =
      declarations.map memberOf ++ closingMembers (started || !declarations.isEmpty) enumeration := by
  -- A declaration starts the body, so only an empty list leaves it as it was.
  induction declarations generalizing started with
  | nil => simp [bodyMembers]
  | cons declaration later ih => simp [bodyMembers, ih]

/-- The imports of a module bind the names that it needs. -/
theorem bind_imports (declarations : List Declaration) (enumeration : Option Enumeration) :
    ∃ globals, (importsOf declarations enumeration).mapM Import.bind = .ok globals ∧
      globals.reverse = globalsOf enumeration.isSome (declarations.any (·.isStatic)) := by
  -- Either import may be there or not.
  unfold importsOf
  cases enumeration.isSome <;> cases declarations.any (·.isStatic) <;> exact ⟨_, rfl, rfl⟩

variable (rule : MarkRule) (marked : Bool) {title : String} {slots : List Slot}

/-- The type of an enumeration can be looked up exactly if no slot has the name of iterators. -/
theorem evaluate_iterator_iff (distinct : (slots.map (·.boundIn title)).Nodup) :
    (∃ value, (frameOf title rule true marked).evaluate (bindings title slots)
      (.index "Iterator" "str") = .ok value) ↔ ∀ slot ∈ slots, slot.boundIn title ≠ "Iterator" := by
  obtain ⟨type, typed, -⟩ := find_type rule true marked distinct
  constructor
  · rintro ⟨value, evaluated⟩ slot member named
    -- What the class has under that name takes nothing in brackets.
    have iterator := find_bound rule true marked (by decide) distinct member named
    simp only [Frame.evaluate, iterator, typed, bind, Except.bind, index_boundTo] at evaluated
    cases evaluated
  · intro free
    have known : ((globalsOf true marked).lookup "Iterator").or (builtins.lookup "Iterator") =
        some .iteratorType := by
      cases marked <;> rfl
    have iterator := find_free rule true marked (by decide) free known
    refine ⟨.indexed .iteratorType type, ?_⟩
    simp only [Frame.evaluate, iterator, typed, bind, Except.bind, Value.index]

/-- The function of an enumeration is declared exactly if no slot has the name of its decorator or of iterators. -/
theorem execute_enumeration_iff (distinct : (slots.map (·.boundIn title)).Nodup)
    (literals : List String) (result : Scope) :
    (frameOf title rule true marked).execute (bindings title slots)
        (.function (functionOf ⟨"get_all_permissions", literals⟩)) = .ok result ↔
      (∀ slot ∈ slots, slot.boundIn title ≠ "staticmethod" ∧ slot.boundIn title ≠ "Iterator") ∧
        result = ("get_all_permissions",
          .static (functionOf ⟨"get_all_permissions", literals⟩)) :: bindings title slots := by
  -- The name of the enumeration is neither private nor reserved, so it is bound as it is.
  have read : readName "get_all_permissions" = "get_all_permissions" := by decide
  have bound : (frameOf title rule true marked).bind (bindings title slots)
      (functionOf ⟨"get_all_permissions", literals⟩).name
      (.static (functionOf ⟨"get_all_permissions", literals⟩)) =
        .ok (("get_all_permissions", .static (functionOf ⟨"get_all_permissions", literals⟩)) ::
          bindings title slots) := by
    simp only [functionOf, read]
    rw [Frame.bind, mangled_of_public (by decide)]
    rfl
  have known : ((globalsOf true marked).lookup "staticmethod").or
      (builtins.lookup "staticmethod") = some .staticMaker := by
    cases marked <;> rfl
  have isPublic : "__".toList.isPrefixOf "staticmethod".toList = false := by decide
  have iterator := evaluate_iterator_iff rule marked distinct
  rw [execute_function_iff rule true marked (functionOf ⟨"get_all_permissions", literals⟩) isPublic
    distinct known rfl bound]
  simp only [functionOf, iterator, forall_and, and_assoc]

end Execution

namespace Container

variable {container : Container} {rule : MarkRule}

/-- The name of the class of a container. -/
def title (container : Container) : String :=
  readName container.name

/-- Whether a class shows what a container declares: each slot under its name, for the class or for instances, and the list of all literals where one is asked for. -/
structure IsShownBy (container : Container) (made : MadeClass) : Prop where
  name : made.name = container.title
  statics : ∀ slot ∈ container.slots, slot.isStatic = true →
    made.text? (slot.boundIn container.title) = some slot.canonicalName
  properties : ∀ slot ∈ container.slots, slot.isStatic = false →
    made.propertyText? (slot.boundIn container.title) = some slot.canonicalName
  enumeration : container.effectiveFlags.emitEnumeration = true →
    made.listed? "get_all_permissions" = some (container.slots.map (·.canonicalName))

/-- Whether no name of a container stands in the way of what its module looks up or declares besides the slots. -/
structure KeepsNames (container : Container) (rule : MarkRule) : Prop where
  title : container.title ≠ forbiddenName
  order : container.slots.Pairwise (Slot.Spares container.title rule)
  statics : ∀ slot ∈ container.slots, slot.isStatic → slot.SparesMark container.title rule
  enumeration : container.effectiveFlags.emitEnumeration → ∀ slot ∈ container.slots,
    slot.boundIn container.title ∉ ["staticmethod", "Iterator", "get_all_permissions"]

/-- The enumeration that a container asks for in a module. -/
theorem enumeration_python (container : Container) : container.enumeration .python =
    if container.effectiveFlags.emitEnumeration then
      some ⟨"get_all_permissions", container.slots.map (·.canonicalName)⟩
    else none := by
  -- The literals of the declarations are the names of the slots.
  rw [enumeration, declarations, List.map_map]
  rfl

/-- What the names of the class of a container stand for. -/
def attributes (container : Container) : Scope :=
  (match container.enumeration .python with
    | some enumeration => [("get_all_permissions", .static (functionOf enumeration))]
    | none => []) ++ bindings container.title container.slots

/-- The class body of a container is executed exactly if its slots are declared one after the other and its enumeration finds the names that it looks up. -/
theorem execute_body_iff (distinct : (container.slots.map (·.boundIn container.title)).Nodup)
    (ordinary : ∀ slot ∈ container.slots, isReserved (slot.boundIn container.title) = false)
    {result : Scope} :
    container.program.body.foldlM (frameOf container.title rule
        (container.enumeration .python).isSome (container.declarations.any (·.isStatic))).execute [] =
        .ok result ↔
      (container.slots.Pairwise (Slot.Spares container.title rule) ∧
        ∀ slot ∈ container.slots, slot.isStatic → slot.SparesMark container.title rule) ∧
      (container.effectiveFlags.emitEnumeration → ∀ slot ∈ container.slots,
        slot.boundIn container.title ≠ "staticmethod" ∧
          slot.boundIn container.title ≠ "Iterator") ∧
      result = container.attributes := by
  have needed : ∀ slot ∈ container.slots, slot.isStatic →
      container.declarations.any (·.isStatic) = true := by
    intro slot member static
    exact List.any_eq_true.mpr ⟨slot.declaration, List.mem_map_of_mem member, static⟩
  have declared := execute_slots_iff rule (container.enumeration .python).isSome
    (container.declarations.any (·.isStatic)) distinct ordinary needed
  have body : container.program.body =
      (container.slots.map fun slot => memberOf slot.declaration) ++
        closingMembers (!container.declarations.isEmpty) (container.enumeration .python) := by
    have same := bodyMembers_eq (container.enumeration .python) false container.declarations
    rw [declarations, List.map_map] at same
    exact same
  rw [body, List.foldlM_append, bind_eq_ok_iff]
  simp only [declared, and_assoc]
  simp only [exists_and_left, exists_eq_left]
  refine and_congr_right fun _ => and_congr_right fun _ => ?_
  -- A body ends with the enumeration that is asked for, or with nothing that binds a name.
  rw [attributes, enumeration_python]
  cases asked : container.effectiveFlags.emitEnumeration with
  | true =>
    have listed := execute_enumeration_iff rule (container.declarations.any (·.isStatic)) distinct
      (container.slots.map (·.canonicalName)) result
    simpa [closingMembers] using listed
  | false =>
    cases container.declarations.isEmpty <;>
      simp [closingMembers, Frame.execute, pure, Except.pure, eq_comm, bind, Except.bind]

/-- The program of a container leaves a class exactly if the class may have its name and its body is executed. -/
theorem run_program_iff {made : MadeClass} :
    container.program.run rule = .ok made ↔ container.title ≠ forbiddenName ∧
      ∃ locals, container.program.body.foldlM (frameOf container.title rule
        (container.enumeration .python).isSome (container.declarations.any (·.isStatic))).execute [] =
          .ok locals ∧ ⟨container.title, locals⟩ = made := by
  obtain ⟨globals, bound, same⟩ := bind_imports container.declarations
    (container.enumeration .python)
  have imports : container.program.imports.mapM Import.bind = .ok globals := bound
  have className : container.program.className = container.title := rfl
  -- The imports never fail, so only the name of the class and its body are left to look at.
  rw [Program.run, imports, bind_eq_ok_iff]
  simp only [Except.ok.injEq, exists_eq_left', className, same]
  by_cases forbidden : container.title = forbiddenName
  · simp [forbidden]
  · rw [if_neg forbidden, bind_eq_ok_iff]
    simp [forbidden, pure, Except.pure]

/-- Executing the text of a container's module is running its program. -/
theorem run_text_iff (named : container.IsNamed) (tells : container.TellsPurpose)
    {made : MadeClass} :
    Execution.run rule (container.source .python).text = .ok made ↔
      container.program.run rule = .ok made := by
  rw [Execution.run, named.readProgram_text tells]

/-- A slot is shown by a class in which its name stands for it. -/
theorem shown_of_lookup (made : MadeClass) (slot : Slot) {name : String}
    (found : made.attributes.lookup name = some slot.boundTo) :
    (slot.isStatic = true → made.text? name = some slot.canonicalName) ∧
      (slot.isStatic = false → made.propertyText? name = some slot.canonicalName) := by
  -- The name stands for a text or a property, as the slot has it.
  constructor
  · intro static
    rw [MadeClass.text?, found, Slot.boundTo, if_pos static]
  · intro ownedByInstances
    rw [MadeClass.propertyText?, found, Slot.boundTo, if_neg (by simp [ownedByInstances])]
    rfl

/-- What an enumeration hands out are its literals. -/
theorem listed?_functionOf (enumeration : Enumeration) :
    (functionOf enumeration).listed? = some enumeration.literals := by
  have handed : ∀ literals : List String, handedOut (literals.map .handsOut) = literals := by
    intro literals
    induction literals with
    | nil => rfl
    | cons literal later ih => rw [List.map_cons, handedOut, ih]
  -- Without literals there is one line that hands out nothing.
  unfold Function.listed? functionOf stepsOf
  cases literals : enumeration.literals with
  | nil => rfl
  | cons literal later =>
    rw [if_neg (List.cons_ne_nil _ _), handed]
    rfl

/-- The class of a container shows it exactly if no slot is named like the enumeration. -/
theorem isShownBy_iff (distinct : (container.slots.map (·.boundIn container.title)).Nodup) :
    container.IsShownBy ⟨container.title, container.attributes⟩ ↔
      (container.effectiveFlags.emitEnumeration → ∀ slot ∈ container.slots,
        slot.boundIn container.title ≠ "get_all_permissions") := by
  -- Without an enumeration only the slots are bound, and with one its name is bound behind them.
  cases asked : container.effectiveFlags.emitEnumeration with
  | false =>
    have own : container.attributes = bindings container.title container.slots := by
      rw [attributes, enumeration_python, asked]
      rfl
    have shown : ∀ slot ∈ container.slots, _ := fun slot member =>
      shown_of_lookup ⟨container.title, container.attributes⟩ slot
        (own ▸ lookup_bindings distinct member)
    simp only [Bool.false_eq_true, false_implies, iff_true]
    exact ⟨rfl, fun slot member => (shown slot member).1, fun slot member => (shown slot member).2,
      by simp [asked]⟩
  | true =>
    have own : container.attributes = ("get_all_permissions", .static (functionOf
        ⟨"get_all_permissions", container.slots.map (·.canonicalName)⟩)) ::
          bindings container.title container.slots := by
      rw [attributes, enumeration_python, asked]
      rfl
    simp only [true_implies]
    constructor
    -- A slot of that name is neither an attribute nor a property, as the enumeration is bound last.
    · intro shown slot member named
      have found : container.attributes.lookup (slot.boundIn container.title) = some (.static
          (functionOf ⟨"get_all_permissions", container.slots.map (·.canonicalName)⟩)) := by
        rw [named, own, List.lookup_cons, beq_self_eq_true]
      cases kind : slot.isStatic with
      | true =>
        have text := shown.statics slot member kind
        simp [MadeClass.text?, found] at text
      | false =>
        have text := shown.properties slot member kind
        simp [MadeClass.propertyText?, found] at text
    · intro free
      have shown : ∀ slot ∈ container.slots, _ := fun slot member =>
        shown_of_lookup ⟨container.title, container.attributes⟩ slot (by
          rw [own, List.lookup_cons, beq_eq_false_iff_ne.mpr (free slot member)]
          exact lookup_bindings distinct member)
      refine ⟨rfl, fun slot member => (shown slot member).1,
        fun slot member => (shown slot member).2, fun _ => ?_⟩
      rw [MadeClass.listed?, own, List.lookup_cons, beq_self_eq_true]
      exact listed?_functionOf _

end Container

/-- The module of a container, executed, leaves a class that shows every slot under its name, and lists all literals where that is asked for.
It does so exactly if no name of the container stands in the way of those that the module relies on.
Names between pairs of underscores, which an object may have of its own, are left out. -/
theorem shows_every_slot_iff {container : Container} (named : container.IsNamed)
    (tells : container.TellsPurpose)
    (distinct : (container.slots.map (·.boundIn container.title)).Nodup)
    (ordinary : ∀ slot ∈ container.slots, isReserved (slot.boundIn container.title) = false)
    (rule : MarkRule) :
    (∃ made, Execution.run rule (container.source .python).text = .ok made ∧
      container.IsShownBy made) ↔ container.KeepsNames rule := by
  simp only [Container.run_text_iff named tells, Container.run_program_iff,
    Container.execute_body_iff distinct ordinary]
  -- Whatever is left by the execution is the one class with the attributes of the container.
  constructor
  · rintro ⟨made, ⟨title, locals, ⟨⟨order, statics⟩, looked, rfl⟩, rfl⟩, shown⟩
    have free := (Container.isShownBy_iff distinct).mp shown
    refine ⟨title, order, statics, ?_⟩
    intro asked slot member
    simp [looked asked slot member, free asked slot member]
  · intro kept
    have others := kept.enumeration
    simp only [List.mem_cons, List.not_mem_nil, or_false, not_or] at others
    refine ⟨_, ⟨kept.title, _, ⟨⟨kept.order, kept.statics⟩, ?_, rfl⟩, rfl⟩, ?_⟩
    · intro asked slot member
      exact ⟨(others asked slot member).1, (others asked slot member).2.1⟩
    · refine (Container.isShownBy_iff distinct).mpr ?_
      intro asked slot member
      exact (others asked slot member).2.2

/-- A class with a private slot, an attribute that is named like the type of texts, and a property that is named like its decorator.
Texts stand for types there if they are identifiers. -/
theorem shows_every_slot_builtinNames :
    let count : Slot := ⟨"__count", .privateAccess, true, [], "a \"count\"", true, by decide⟩
    let str : Slot := ⟨"str", .publicAccess, true, [], "text", true, by decide⟩
    let property : Slot := ⟨"property", .publicAccess, false, [], "own\n", true, by decide⟩
    let api : Container :=
  -- The names that are bound in the class are computed, and the law for them is applied.
      { name := "_Api", namespacePath := "app", slots := [count, str, property],
        flags := { emitEnumeration := true } }
    let rule : MarkRule :=
      ⟨fun | .text value => Identifier.isValid value.toList | _ => true, rfl⟩
    api.slots.map (·.boundIn api.title) = ["_Api__count", "str", "property"] ∧
      ∃ made, Execution.run rule (api.source .python).text = .ok made ∧ api.IsShownBy made := by
  intro count str property api rule
  have bound : api.slots.map (·.boundIn api.title) = ["_Api__count", "str", "property"] := by
    decide
  have named : api.IsNamed := by
    refine ⟨⟨by decide, by decide⟩, ?_⟩
    simp only [api, List.forall_mem_cons]
    exact ⟨⟨by decide, by decide⟩, ⟨by decide, by decide⟩,
      ⟨by decide, by decide⟩, by simp⟩
  have kept : api.KeepsNames rule :=
    ⟨by decide, by decide, by decide, by decide⟩
  have tells : api.TellsPurpose := ⟨by decide, by decide⟩
  refine ⟨bound, (shows_every_slot_iff named tells ?_ (by decide) rule).mpr kept⟩
  rw [bound]
  decide

/-- A class attribute that is named like the decorator of properties breaks the class of every property behind it. -/
theorem property_behind_its_decorator :
    let property : Slot := ⟨"property", .publicAccess, true, [], "property", true, by decide⟩
    let own : Slot := ⟨"own", .publicAccess, false, [], "own", true, by decide⟩
    let api : Container := { name := "Api", namespacePath := "app", slots := [property, own] }
    api.IsNamed ∧ api.slots.map (·.boundIn api.title) = ["property", "own"] ∧
      ∀ rule made, Execution.run rule (api.source .python).text ≠ .ok made := by
  intro property own api
  have bound : api.slots.map (·.boundIn api.title) = ["property", "own"] := by decide
  have named : api.IsNamed := by
    refine ⟨⟨by decide, by decide⟩, ?_⟩
    simp only [api, List.forall_mem_cons]
    exact ⟨⟨by decide, by decide⟩, ⟨by decide, by decide⟩, by simp⟩
  refine ⟨named, bound, ?_⟩
  intro rule made left
  have distinct : (api.slots.map (·.boundIn api.title)).Nodup := by
    rw [bound]
    decide
  have tells : api.TellsPurpose := ⟨by decide, by decide⟩
  rw [Container.run_text_iff named tells, Container.run_program_iff] at left
  obtain ⟨-, locals, executed, -⟩ := left
  obtain ⟨⟨order, -⟩, -⟩ := (Container.execute_body_iff distinct (by decide)).mp executed
  -- The property looks its decorator up behind the attribute of that name.
  have spared : property.Spares api.title rule own := List.rel_of_pairwise_cons order (by simp)
  have taken : property.boundIn api.title = "property" := by decide
  exact spared taken

end PermissionNames
