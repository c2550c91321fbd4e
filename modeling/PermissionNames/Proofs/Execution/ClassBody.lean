import Mathlib.Data.List.Induction
import Mathlib.Data.List.Nodup
import PermissionNames.Execution.ClassBody
import PermissionNames.Proofs.Execution.Program

/-! Class bodies slot by slot: which slots can be declared behind others, and what the names of the class stand for then. -/

namespace PermissionNames

open Execution

namespace Slot

/-- The name that a slot is bound under in a class. -/
def boundIn (title : String) (slot : Slot) : String :=
  mangled title (readName slot.identity)

/-- What the name of a slot stands for in its class. -/
def boundTo (slot : Slot) : Value :=
  if slot.isStatic then .text slot.canonicalName else .property (getterOf slot.declaration)

/-- Whether class attributes can still be marked behind a slot: the mark has its name for itself, and takes what the name of its type stands for. -/
def SparesMark (title : String) (rule : MarkRule) (slot : Slot) : Prop :=
  slot.boundIn title ≠ "ClassVar" ∧ (slot.boundIn title = "str" → rule.accepts slot.boundTo)

/-- Whether a later slot can be declared behind an earlier one. -/
def Spares (title : String) (rule : MarkRule) (earlier later : Slot) : Prop :=
  if later.isStatic then earlier.SparesMark title rule else earlier.boundIn title ≠ "property"

instance (title : String) (rule : MarkRule) (slot : Slot) :
    Decidable (slot.SparesMark title rule) :=
  inferInstanceAs (Decidable (_ ∧ _))

instance (title : String) (rule : MarkRule) (earlier later : Slot) :
    Decidable (earlier.Spares title rule later) :=
  inferInstanceAs (Decidable
    (if later.isStatic then earlier.SparesMark title rule else earlier.boundIn title ≠ "property"))

end Slot

namespace Execution

/-- An execution goes on from where its first part has ended, unless that fails. -/
theorem bind_eq_ok_iff {α β : Type} {first : Except Failure α} {next : α → Except Failure β}
    {result : β} :
    first >>= next = .ok result ↔ ∃ value, first = .ok value ∧ next value = .ok result := by
  -- The value in the middle is the one that the first part has ended with.
  constructor
  · exact bind_eq_ok
  · rintro ⟨value, rfl, same⟩
    exact same

/-- What the names of a class stand for when its slots are declared. -/
def bindings (title : String) (slots : List Slot) : Scope :=
  (slots.map fun slot => (slot.boundIn title, slot.boundTo)).reverse

section Bindings

variable {title name : String} {slots before : List Slot} {slot : Slot}

/-- The last slot is bound in front of the others. -/
theorem bindings_concat : bindings title (before ++ [slot]) =
    (slot.boundIn title, slot.boundTo) :: bindings title before := by
  simp [bindings]

/-- A name that no slot has stands for nothing in the class. -/
theorem lookup_bindings_eq_none (free : ∀ slot ∈ slots, slot.boundIn title ≠ name) :
    (bindings title slots).lookup name = none := by
  -- Every entry comes from a slot.
  rw [List.lookup_eq_none_iff]
  intro entry member
  obtain ⟨slot, listed, rfl⟩ := List.mem_map.mp (List.mem_reverse.mp member)
  simpa using (free slot listed).symm

/-- The name of a slot stands for it, if slots have names of their own. -/
theorem lookup_bindings (distinct : (slots.map (·.boundIn title)).Nodup) (listed : slot ∈ slots) :
    (bindings title slots).lookup (slot.boundIn title) = some slot.boundTo := by
  -- The slot is split off, and those declared behind it have other names.
  obtain ⟨before, after, rfl⟩ := List.append_of_mem listed
  have later : ∀ other ∈ after, other.boundIn title ≠ slot.boundIn title := by
    rw [List.map_append, List.map_cons, List.nodup_append, List.nodup_cons] at distinct
    intro other member same
    exact distinct.2.1.1 (same ▸ List.mem_map_of_mem member)
  have split : bindings title (before ++ slot :: after) =
      bindings title after ++ (slot.boundIn title, slot.boundTo) :: bindings title before := by
    simp [bindings]
  rw [split, List.lookup_append, lookup_bindings_eq_none later, List.lookup_cons, beq_self_eq_true]
  rfl

end Bindings

/-- A name that does not begin like a private one is not mangled. -/
theorem mangled_of_public {name : String} (isPublic : "__".toList.isPrefixOf name.toList = false)
    (title : String) : mangled title name = name := by
  -- The underscores are looked at before anything else.
  rw [mangled, isPublic]
  rfl

/-- Neither a text nor a property takes anything in brackets. -/
theorem index_boundTo (slot : Slot) (rule : MarkRule) (argument : Value) :
    slot.boundTo.index rule argument = .error (.notIndexed slot.boundTo) := by
  -- A slot is bound to one of both, whatever its name is.
  unfold Slot.boundTo
  split <;> rfl

/-- Neither a text nor a property is a decorator. -/
theorem decorate_boundTo (slot : Slot) (function : Function) :
    slot.boundTo.decorate function = .error (.notDecorator slot.boundTo) := by
  -- A slot is bound to one of both, whatever its name is.
  unfold Slot.boundTo
  split <;> rfl

/-- The names that a module imports, where `listed` and `marked` tell what it needs. -/
def globalsOf (listed marked : Bool) : Scope :=
  (if marked then [("ClassVar", Value.classMark)] else []) ++
    (if listed then [("Iterator", Value.iteratorType)] else [])

section Steps

/-- The frame of a class in a module. -/
abbrev frameOf (title : String) (rule : MarkRule) (listed marked : Bool) : Frame :=
  ⟨title, globalsOf listed marked, rule⟩

variable (rule : MarkRule) (listed marked : Bool) {title name : String} {slots before : List Slot}
  {slot : Slot}

/-- A name that no slot has is looked up outside of the class. -/
theorem find_free (isPublic : "__".toList.isPrefixOf name.toList = false)
    (free : ∀ slot ∈ slots, slot.boundIn title ≠ name) {value : Value}
    (known : ((globalsOf listed marked).lookup name).or (builtins.lookup name) = some value) :
    (frameOf title rule listed marked).find (bindings title slots) name = .ok value := by
  -- The class has no such name, so the next scopes are asked.
  simp only [Frame.find, mangled_of_public isPublic, lookup_bindings_eq_none free, Option.none_or,
    known]

/-- The name of a slot is found in the class. -/
theorem find_bound (isPublic : "__".toList.isPrefixOf name.toList = false)
    (distinct : (slots.map (·.boundIn title)).Nodup) (member : slot ∈ slots)
    (named : slot.boundIn title = name) :
    (frameOf title rule listed marked).find (bindings title slots) name = .ok slot.boundTo := by
  -- The names are distinct, so the entry that is found is that of the slot.
  subst named
  simp only [Frame.find, mangled_of_public isPublic, lookup_bindings distinct member,
    Option.some_or]

/-- The type of texts is found, or what a slot of its name stands for. -/
theorem find_type (distinct : (slots.map (·.boundIn title)).Nodup) :
    ∃ value, (frameOf title rule listed marked).find (bindings title slots) "str" = .ok value ∧
      (rule.accepts value ↔
        ∀ slot ∈ slots, slot.boundIn title = "str" → rule.accepts slot.boundTo) := by
  by_cases free : ∀ slot ∈ slots, slot.boundIn title ≠ "str"
  · have unknown : (globalsOf listed marked).lookup "str" = none := by
      cases listed <;> cases marked <;> rfl
    refine ⟨.textType, find_free rule listed marked (by decide) free (by rw [unknown]; rfl), ?_⟩
    constructor
    · intro _ slot member named
      exact absurd named (free slot member)
    · intro _
      exact rule.accepts_textType
  · obtain ⟨slot, member, named⟩ : ∃ slot ∈ slots, slot.boundIn title = "str" := by
      simpa using free
    refine ⟨slot.boundTo, find_bound rule listed marked (by decide) distinct member named, ?_⟩
    constructor
    · intro accepted other alsoMember alsoNamed
      -- Names are distinct, so it is the same slot.
      rwa [← List.inj_on_of_nodup_map distinct member alsoMember (named.trans alsoNamed.symm)]
    · intro all
      exact all slot member named

/-- The type of class attributes can be looked up exactly if all slots in front spare it. -/
theorem evaluate_mark_iff (distinct : (slots.map (·.boundIn title)).Nodup) :
    (∃ value, (frameOf title rule listed true).evaluate (bindings title slots)
      (.index "ClassVar" "str") = .ok value) ↔ ∀ slot ∈ slots, slot.SparesMark title rule := by
  -- Names are looked up in the class first, so a slot of that name hides the mark.
  obtain ⟨type, typed, accepted⟩ := find_type rule listed true distinct
  by_cases free : ∀ slot ∈ slots, slot.boundIn title ≠ "ClassVar"
  · have known : ((globalsOf listed true).lookup "ClassVar").or (builtins.lookup "ClassVar") =
        some .classMark := by
      cases listed <;> rfl
    have mark := find_free rule listed true (by decide) free known
    have evaluated : (frameOf title rule listed true).evaluate (bindings title slots)
        (.index "ClassVar" "str") = Value.index rule .classMark type := by
      simp only [Frame.evaluate, mark, typed, bind, Except.bind]
    rw [evaluated, Value.index]
    constructor
    · intro found slot member
      refine ⟨free slot member, ?_⟩
      by_cases accepts : rule.accepts type
      · exact accepted.mp accepts slot member
      · simp [accepts] at found
    · intro all
      have accepts := accepted.mpr fun slot member => (all slot member).2
      exact ⟨.indexed .classMark type, by rw [if_pos accepts]⟩
  -- What the class has under the name of the mark takes nothing in brackets.
  · obtain ⟨slot, member, named⟩ : ∃ slot ∈ slots, slot.boundIn title = "ClassVar" := by
      simpa using free
    have mark := find_bound rule listed true (by decide) distinct member named
    constructor
    · rintro ⟨value, evaluated⟩
      simp only [Frame.evaluate, mark, typed, bind, Except.bind, index_boundTo] at evaluated
      cases evaluated
    · intro all
      exact absurd named (all slot member).1

/-- An ordinary slot is bound behind the others. -/
theorem bind_slot (before : List Slot) (ordinary : isReserved (slot.boundIn title) = false) :
    (frameOf title rule listed marked).bind (bindings title before) (readName slot.identity)
      slot.boundTo = .ok (bindings title (before ++ [slot])) := by
  -- A name without a meaning of its own is bound like any other.
  rw [Frame.bind, bindings_concat]
  exact if_neg (by simpa [Slot.boundIn] using ordinary)

/-- A class attribute is declared exactly if it and all slots in front of it spare the mark. -/
theorem execute_static_iff (distinct : ((before ++ [slot]).map (·.boundIn title)).Nodup)
    (ordinary : isReserved (slot.boundIn title) = false) (static : slot.isStatic = true)
    (result : Scope) :
    (frameOf title rule listed true).execute (bindings title before) (memberOf slot.declaration) =
        .ok result ↔
      (∀ other ∈ before ++ [slot], other.SparesMark title rule) ∧
        result = bindings title (before ++ [slot]) := by
  have bound := bind_slot rule listed true before ordinary
  have text : slot.boundTo = .text slot.canonicalName := if_pos static
  have declared : memberOf slot.declaration =
      .declared (readName slot.identity) (.index "ClassVar" "str") slot.canonicalName :=
    if_pos static
  rw [text] at bound
  rw [← evaluate_mark_iff rule listed distinct, declared]
  -- The name is bound first, so its type is looked up behind it.
  simp only [Frame.execute, bound, bind, Except.bind]
  cases evaluated : (frameOf title rule listed true).evaluate (bindings title (before ++ [slot]))
      (.index "ClassVar" "str") with
  | error cause => simp
  | ok value => simp [pure, Except.pure, eq_comm]

/-- A function is declared exactly if no slot in front of it has the name of its decorator and its type can be looked up. -/
theorem execute_function_iff (function : Function) {decorator made : Value} {declared : Scope}
    (isPublic : "__".toList.isPrefixOf function.decorator.toList = false)
    (distinct : (before.map (·.boundIn title)).Nodup)
    (known : ((globalsOf listed marked).lookup function.decorator).or
      (builtins.lookup function.decorator) = some decorator)
    (makes : decorator.decorate function = .ok made)
    (bound : (frameOf title rule listed marked).bind (bindings title before) function.name made =
      .ok declared) (result : Scope) :
    (frameOf title rule listed marked).execute (bindings title before) (.function function) =
        .ok result ↔
      (∀ earlier ∈ before, earlier.boundIn title ≠ function.decorator) ∧
        (∃ value, (frameOf title rule listed marked).evaluate (bindings title before)
          function.result = .ok value) ∧ result = declared := by
  by_cases free : ∀ earlier ∈ before, earlier.boundIn title ≠ function.decorator
  · have found := find_free rule listed marked isPublic free known
    simp only [Frame.execute, found, bind, Except.bind, makes]
    cases evaluated : (frameOf title rule listed marked).evaluate (bindings title before)
        function.result with
    | error cause => simp
    | ok value =>
      simp only [bound, Except.ok.injEq, exists_eq', true_and]
      exact ⟨fun same => ⟨free, same.symm⟩, fun found => found.2.symm⟩
  -- What the class has under the name of the decorator is none, whatever the type is.
  · obtain ⟨earlier, member, named⟩ : ∃ earlier ∈ before,
        earlier.boundIn title = function.decorator := by
      simpa using free
    have found := find_bound rule listed marked isPublic distinct member named
    constructor
    · intro executed
      simp only [Frame.execute, found, bind, Except.bind, decorate_boundTo] at executed
      split at executed <;> cases executed
    · intro kept
      exact absurd kept.1 free

/-- A property is declared exactly if no slot in front of it has the name of its decorator. -/
theorem execute_property_iff (distinct : (before.map (·.boundIn title)).Nodup)
    (ordinary : isReserved (slot.boundIn title) = false) (ownedByInstances : slot.isStatic = false)
    (result : Scope) :
    (frameOf title rule listed marked).execute (bindings title before) (memberOf slot.declaration) =
        .ok result ↔
      (∀ earlier ∈ before, earlier.boundIn title ≠ "property") ∧
        result = bindings title (before ++ [slot]) := by
  have bound := bind_slot rule listed marked before ordinary
  have property : slot.boundTo = .property (getterOf slot.declaration) :=
    if_neg (by simp [ownedByInstances])
  have declared : memberOf slot.declaration = .function (getterOf slot.declaration) :=
    if_neg (by simp [Slot.declaration, ownedByInstances])
  have known : ((globalsOf listed marked).lookup "property").or (builtins.lookup "property") =
      some .propertyMaker := by
    cases listed <;> cases marked <;> rfl
  have isPublic : "__".toList.isPrefixOf "property".toList = false := by decide
  rw [property] at bound
  rw [declared, execute_function_iff rule listed marked (getterOf slot.declaration) isPublic distinct
    known rfl bound]
  -- The type of a property is a name that is always known.
  obtain ⟨type, typed, -⟩ := find_type rule listed marked distinct
  have evaluated : ∃ value, (frameOf title rule listed marked).evaluate (bindings title before)
      (getterOf slot.declaration).result = .ok value := ⟨type, typed⟩
  simp only [evaluated, true_and]
  rfl

/-- A slot is declared behind others exactly if they spare it, and it itself if it is a class attribute. -/
theorem execute_slot_iff (distinct : ((before ++ [slot]).map (·.boundIn title)).Nodup)
    (ordinary : isReserved (slot.boundIn title) = false) (needed : slot.isStatic → marked = true)
    (result : Scope) :
    (frameOf title rule listed marked).execute (bindings title before) (memberOf slot.declaration) =
        .ok result ↔
      ((∀ earlier ∈ before, earlier.Spares title rule slot) ∧
        (slot.isStatic → slot.SparesMark title rule)) ∧
        result = bindings title (before ++ [slot]) := by
  -- A class attribute relies on the mark, and a property on the names in its function.
  cases kind : slot.isStatic with
  | true =>
    rw [needed kind, execute_static_iff rule listed distinct ordinary kind]
    simp [Slot.Spares, kind, or_imp, forall_and]
  | false =>
    have others : (before.map (·.boundIn title)).Nodup := by
      rw [List.map_append, List.nodup_append] at distinct
      exact distinct.1
    rw [execute_property_iff rule listed marked others ordinary kind]
    simp [Slot.Spares, kind]

/-- Slots are declared one after the other exactly if each one spares those behind it and the class attributes spare the mark; then each name stands for its slot. -/
theorem execute_slots_iff (distinct : (slots.map (·.boundIn title)).Nodup)
    (ordinary : ∀ slot ∈ slots, isReserved (slot.boundIn title) = false)
    (needed : ∀ slot ∈ slots, slot.isStatic → marked = true) (result : Scope) :
    (slots.map fun slot => memberOf slot.declaration).foldlM
        (frameOf title rule listed marked).execute [] = .ok result ↔
      (slots.Pairwise (Slot.Spares title rule) ∧
        ∀ slot ∈ slots, slot.isStatic → slot.SparesMark title rule) ∧
        result = bindings title slots := by
  -- The last slot is declared behind all others, which are bound by then.
  induction slots using List.reverseRecOn generalizing result with
  | nil =>
    show Except.ok [] = Except.ok result ↔ _
    rw [Except.ok.injEq]
    exact ⟨fun same => ⟨⟨.nil, by simp⟩, same.symm⟩, fun found => found.2.symm⟩
  | append_singleton before slot ih =>
    have others : (before.map (·.boundIn title)).Nodup := by
      rw [List.map_append, List.nodup_append] at distinct
      exact distinct.1
    rw [List.forall_mem_append] at ordinary needed
    have declared := execute_slot_iff rule listed marked distinct (ordinary.2 slot (by simp))
      (needed.2 slot (by simp)) result
    have front := fun locals => ih others ordinary.1 needed.1 locals
    rw [List.pairwise_append, List.forall_mem_append, List.map_append, List.foldlM_append,
      bind_eq_ok_iff]
    simp only [front, List.map_singleton, List.foldlM_cons, List.foldlM_nil, bind_pure]
    constructor
    · rintro ⟨locals, ⟨⟨ordered, spared⟩, rfl⟩, executed⟩
      obtain ⟨⟨behind, itself⟩, same⟩ := declared.mp executed
      exact ⟨⟨⟨ordered, by simp, by simpa using behind⟩, spared, by simpa using itself⟩, same⟩
    · rintro ⟨⟨⟨ordered, -, behind⟩, spared, itself⟩, same⟩
      refine ⟨_, ⟨⟨ordered, spared⟩, rfl⟩, declared.mpr ⟨⟨?_, ?_⟩, same⟩⟩
      · simpa using behind
      · simpa using itself

end Steps

end Execution

end PermissionNames
