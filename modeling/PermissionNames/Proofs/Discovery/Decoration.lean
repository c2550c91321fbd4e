import PermissionNames.Decoration
import PermissionNames.Proofs.Discovery.Markers

/-! What discovery reads from the markers of a class agrees with what they record where the class is executed. -/

namespace PermissionNames

namespace Decoration

/-- A number that cannot be made a member cannot be one in a union either. -/
theorem isNameable_lor_left {left : Nat} (huge : isNameable left = false) (right : Nat) :
    isNameable (left ||| right) = false := by
  -- Both the known bits and the others only grow in a union.
  have low : (left ||| right) % 2 ^ 4 = left % 2 ^ 4 ||| right % 2 ^ 4 := Nat.or_mod_two_pow
  have high : (left ||| right) / 2 ^ 4 = left / 2 ^ 4 ||| right / 2 ^ 4 := Nat.or_div_two_pow
  have known : left % 2 ^ 4 ≤ left % 2 ^ 4 ||| right % 2 ^ 4 := Nat.left_le_or
  have unknown : left / 2 ^ 4 ≤ left / 2 ^ 4 ||| right / 2 ^ 4 := Nat.left_le_or
  unfold isNameable at huge ⊢
  generalize Nat.pow 10 Source.Numeral.longestInteger = limit at huge ⊢
  simp only [Bool.or_eq_false_iff, beq_eq_false_iff_ne, decide_eq_false_iff_not] at huge ⊢
  omega

/-- The same holds on the other side of the union. -/
theorem isNameable_lor_right {right : Nat} (huge : isNameable right = false) (left : Nat) :
    isNameable (left ||| right) = false := by
  -- A union does not depend on the order of its sides.
  rw [Nat.or_comm]
  exact isNameable_lor_left huge left

/-- The union of values that are numbers is that of the numbers, unless this cannot be made a member. -/
theorem Value.union_cases {left right : Value} {first second : Nat}
    (isFirst : left.number? = some first) (isSecond : right.number? = some second) :
    (∃ value, left.union right = some value ∧ value.number? = some (first ||| second)) ∨
      left.union right = none ∧ isNameable (first ||| second) = false := by
  -- Both values are numbers or members, and the union is a member if one of them is.
  cases nameable : isNameable (first ||| second) <;> cases left <;> cases right <;>
    simp_all [number?, union]

end Decoration

namespace Discovery

open Source Decoration

variable {scope : Expression → Option Value}

/-- An expression that stands for a number and has it in a scope: an integer always has, and what ends with the name of a member if it holds that member. -/
inductive Means (scope : Expression → Option Value) : Expression → Nat → Prop
  | integer (value : Nat) : Means scope (.constant (.number (.integer value))) value
  | member {reference : Expression} {name : String} {bits : Nat} (named : EndsWith name reference)
      (listed : Flags.member? name = some bits) (held : scope reference = some (.options bits)) :
      Means scope reference bits

/-- What means a number in a scope stands for it. -/
theorem Means.standsFor {expression : Expression} {bits : Nat} (means : Means scope expression bits) :
    StandsFor expression bits := by
  -- A scope only adds that a member is held there.
  cases means with
  | integer => exact .integer bits
  | member named listed held => exact .member named listed

/-- An expression whose leaves mean numbers has the value of their union, unless this cannot be made a member. -/
theorem evaluate_cases {expression : Expression} {bits : List Nat}
    (means : List.Forall₂ (Means scope) (leaves expression) bits) :
    (∃ value, evaluate scope expression = some value ∧
      value.number? = some (bits.foldr (· ||| ·) 0)) ∨
    evaluate scope expression = none ∧ isNameable (bits.foldr (· ||| ·) 0) = false := by
  -- A part that fails makes the whole fail, and its number keeps the total from being a member.
  fun_induction leaves expression generalizing bits with
  | case1 left right ihLeft ihRight =>
    obtain ⟨before, after, meansLeft, meansRight, rfl⟩ := forall₂_append_left_iff.mp means
    rw [foldr_lor_append]
    simp only [evaluate, Option.bind_eq_bind]
    rcases ihLeft meansLeft with ⟨first, valueLeft, isFirst⟩ | ⟨fails, huge⟩
    · rw [valueLeft, Option.bind_some]
      rcases ihRight meansRight with ⟨second, valueRight, isSecond⟩ | ⟨fails, huge⟩
      · rw [valueRight, Option.bind_some]
        exact Value.union_cases isFirst isSecond
      · rw [fails, Option.bind_none]
        exact .inr ⟨rfl, isNameable_lor_right huge _⟩
    · rw [fails, Option.bind_none]
      exact .inr ⟨rfl, isNameable_lor_left huge _⟩
  | case2 leaf single =>
    obtain ⟨number, _, here, rest, rfl⟩ := List.forall₂_cons_left_iff.mp means
    rw [List.forall₂_nil_left_iff.mp rest, List.foldr_cons, List.foldr_nil, Nat.or_zero]
    left
    cases here with
    | integer => exact ⟨.integer number, rfl, rfl⟩
    | member named listed held =>
      obtain same | owner := named
      · exact ⟨.options number, held, rfl⟩
      · exact ⟨.options number, held, rfl⟩

/-- The decorators of a class where it is executed, with what the markers among them are to record.
A marker holds one in its form, whose names mean what they stand for, and what is no marker leaves what is recorded. -/
inductive Records (scope : Expression → Option Value) :
    List Expression → List MarkerRecord → Prop
  | nil : Records scope [] []
  | other {decorator : Expression} {decorators : List Expression} {records : List MarkerRecord}
      (unmarked : ∀ kind, ¬ Marks kind decorator)
      (inert : Decoration.decorator scope decorator = some .inert)
      (rest : Records scope decorators records) : Records scope (decorator :: decorators) records
  | marker {kind : ContainerKind} {decorator : Expression} {options : Option Expression}
      {bits : List Nat} {decorators : List Expression} {records : List MarkerRecord}
      (form : MarkerForm kind decorator options)
      (held : scope (bareOf decorator) = some (.marker kind))
      (means : List.Forall₂ (Means scope) (options.elim [] leaves) bits)
      (rest : Records scope decorators records) :
      Records scope (decorator :: decorators) (⟨kind, bits.foldr (· ||| ·) 0⟩ :: records)

/-- What a marker makes of options records them as they are, if they can be made a member. -/
theorem record_prepared (kind : ContainerKind) (bits : Nat) (before : Option MarkerRecord) :
    (Value.prepared kind bits).record before =
      if isNameable bits then some (some ⟨kind, bits⟩) else none := by
  simp [Value.record, recordedBits]

/-- Given an expression, a marker records the union that its leaves mean, unless this cannot be made a member. -/
theorem record_of_means (kind : ContainerKind) {expression : Expression} {bits : List Nat}
    (means : List.Forall₂ (Means scope) (leaves expression) bits) (before : Option MarkerRecord) :
    ((evaluate scope expression).bind fun options =>
      (options.number?.map (Value.prepared kind)).bind fun value => value.record before) =
      if isNameable (bits.foldr (· ||| ·) 0) then some (some ⟨kind, bits.foldr (· ||| ·) 0⟩)
      else none := by
  -- The expression is evaluated to a number first, unless its union cannot be made.
  rcases evaluate_cases means with ⟨value, valued, isNumber⟩ | ⟨fails, huge⟩
  · rw [valued, Option.bind_some, isNumber, Option.map_some, Option.bind_some, record_prepared]
  · rw [fails, huge]
    rfl

/-- A marker records its kind and the union of its options, whatever was recorded before, unless this cannot be made a member. -/
theorem record_of_form {kind : ContainerKind} {decorator : Expression} {options : Option Expression}
    {bits : List Nat} (form : MarkerForm kind decorator options)
    (held : scope (bareOf decorator) = some (.marker kind))
    (means : List.Forall₂ (Means scope) (options.elim [] leaves) bits)
    (before : Option MarkerRecord) :
    ((Decoration.decorator scope decorator).bind fun value => value.record before) =
      if isNameable (bits.foldr (· ||| ·) 0) then some (some ⟨kind, bits.foldr (· ||| ·) 0⟩)
      else none := by
  cases form with
  | bare named =>
    -- A bare marker is applied to the class itself, and records no options.
    cases means
    have value : Decoration.decorator scope decorator = some (.marker kind) := by
      obtain same | owner := named
      · exact held
      · exact held
    rw [value]
    rfl
  | called named =>
    cases means
    rw [bareOf] at held
    simp only [Decoration.decorator, held, argument?, Option.bind_eq_bind, Option.bind_some]
    exact record_prepared kind 0 before
  | positional named expression | keyword named expression =>
    rw [bareOf] at held
    simp only [Decoration.decorator, held, argument?, Option.bind_eq_bind, Option.bind_some,
      Option.bind_assoc]
    exact record_of_means kind means before

/-- The decorators behind the first are applied before it. -/
theorem decorate_cons (first : Expression) (rest : List Expression) :
    decorate scope (first :: rest) = (Decoration.decorator scope first).bind fun value =>
      (decorate scope rest).bind value.record := by
  -- All decorators are evaluated from the top down, but applied from the bottom up.
  cases value : Decoration.decorator scope first with
  | none => simp [decorate, value]
  | some value =>
    cases values : rest.mapM (Decoration.decorator scope) with
    | none => simp [decorate, value, values]
    | some values => simp [decorate, *]

/-- The decorators of a class leave recorded what its first marker is to record, if what each of them is to record can be made a member, and else they fail. -/
theorem decorate_of_records {decorators : List Expression} {records : List MarkerRecord}
    (recording : Records scope decorators records) : decorate scope decorators =
      if records.all fun record => isNameable record.bits then some records.head? else none := by
  induction recording with
  | nil => rfl
  | other unmarked inert rest ih =>
    rw [decorate_cons, inert, Option.bind_some, ih]
    exact Option.bind_fun_some _
  | @marker kind _ _ bits _ records form held means rest ih =>
    rw [decorate_cons, ih]
    -- What was recorded behind this marker is replaced, but a failure there fails the whole.
    cases later : records.all fun record => isNameable record.bits with
    | true =>
      have recorded := record_of_form form held means records.head?
      simpa [later] using recorded
    | false => simp [later]

/-- Decorators that are to record nothing are no markers. -/
theorem Records.find?_eq_none {decorators : List Expression}
    (recording : Records scope decorators []) : ClassMarker.find? decorators = none := by
  -- Without anything to record there is no marker among the decorators.
  generalize none' : ([] : List MarkerRecord) = records at recording
  induction recording with
  | nil => rfl
  | other unmarked inert rest ih =>
    rw [ClassMarker.find?, List.findSome?_cons, ofDecorator?_eq_none_iff.mpr unmarked]
    exact ih none'
  | marker => cases none'

/-- What comes first among what decorators are to record is that of the marker that is found. -/
theorem Records.find?_eq_some {decorators : List Expression} {record : MarkerRecord}
    {others : List MarkerRecord} (recording : Records scope decorators (record :: others)) :
    ∃ options bits, ClassMarker.find? decorators = some ⟨record.kind, options⟩ ∧
      List.Forall₂ (Means scope) (options.elim [] leaves) bits ∧
      record.bits = bits.foldr (· ||| ·) 0 := by
  -- Decorators that are no markers are passed over, up to the first that is one.
  generalize all : record :: others = records at recording
  induction recording with
  | nil => cases all
  | other unmarked inert rest ih =>
    rw [ClassMarker.find?, List.findSome?_cons, ofDecorator?_eq_none_iff.mpr unmarked]
    exact ih all
  | marker form held means rest ih =>
    cases all
    refine ⟨_, _, ?_, means, rfl⟩
    rw [ClassMarker.find?, List.findSome?_cons, form.ofDecorator?_eq]

/-- A container with what the first marker of a class declares.
That is what its markers leave recorded where the class is executed, unless something that they are to record cannot be made a member. -/
structure AsMarked (decorators : List Expression) (container : Container) : Prop where
  declared : ∀ kind options, FirstForm kind options decorators →
    container.kind = kind ∧ DeclaresFlags options container.flags
  recorded : ∀ scope records, Records scope decorators records →
    ∃ bits, Flags.ofBits (bits : Nat) = container.flags ∧ decorate scope decorators =
      if records.all fun record => isNameable record.bits then some (some ⟨container.kind, bits⟩)
      else none

/-- A container of the kind and with the options of the marker that is found is as marked. -/
theorem asMarked_of_find? {decorators : List Expression} {marker : ClassMarker}
    {container : Container} (marked : ClassMarker.find? decorators = some marker)
    (kind : container.kind = marker.kind) (declares : DeclaresFlags marker.flags container.flags) :
    AsMarked decorators container := by
  constructor
  · intro kind options first
    cases marked.symm.trans first.find?_eq
    exact ⟨‹_›, declares⟩
  · intro scope records recording
    -- The marker that is found is the one whose record comes first.
    cases records with
    | nil => cases marked.symm.trans recording.find?_eq_none
    | cons record others =>
      obtain ⟨options, bits, found, means, total⟩ := recording.find?_eq_some
      cases marked.symm.trans found
      have stand := means.imp fun _ _ means => means.standsFor
      refine ⟨record.bits, ?_, ?_⟩
      · rw [declares.eq_unionOf stand, total, Flags.ofBits_foldr_lor]
      · rw [decorate_of_records recording, kind]
        rfl

/-- The container that a class declares is as marked. -/
theorem asMarked_containerOf {surroundings : Surroundings} {outer : String} (node : ClassNode)
    {findings : Findings}
    (found : containerOf surroundings outer node.decorators node.name.text node.bases node.body =
      .ok findings) (index : Nat) :
    List.Forall₂ (fun reached container => AsMarked reached.node.decorators container)
      ([⟨[index], [], node⟩].filter Reached.isMarked) findings.containers := by
  rcases containers_of_containerOf found with
    ⟨unmarked, none⟩ | ⟨marker, slots, flags, notices, marked, evaluated, one⟩
  · simp [Reached.isMarked, unmarked, none]
  · rw [filter_isMarked marked, one]
    refine .cons (asMarked_of_find? marked rfl ?_) .nil
    -- The options were told, so they are the declared ones.
    rcases marker.evaluate_cases node.name.text with
      ⟨others, further, told, declares⟩ | ⟨_, _, _, _, _, fails⟩
    · cases evaluated.symm.trans told
      exact declares
    · cases evaluated.symm.trans fails

/-- A class whose slots are read and that has a marker declares one container, as marked, unless an expression of options has an unknown leaf and cannot be written. -/
theorem containerOf_cases {surroundings : Surroundings} {outer : String} {node : ClassNode}
    {marker : ClassMarker} {slots : List DeclaredSlot}
    (marked : ClassMarker.find? node.decorators = some marker)
    (read : slotsOf (resolveName (Constants.ofBody node.body) surroundings.constants) node.body =
      .ok slots) :
    (∃ findings container,
      containerOf surroundings outer node.decorators node.name.text node.bases node.body =
        .ok findings ∧
      findings.containers = [container] ∧ AsMarked node.decorators container) ∨
    ∃ expression cause, marker.flags = some expression ∧ HasUnknown expression ∧
      expression.write = .error cause ∧
      containerOf surroundings outer node.decorators node.name.text node.bases node.body =
        .error (.writing cause) := by
  -- The options are evaluated, or they have an unknown leaf; only in the latter case they are
  -- written.
  rcases marker.evaluate_cases node.name.text with
    ⟨flags, notices, evaluated, declares⟩ | ⟨expression, cause, given, unknown, unwritten, fails⟩
  · obtain ⟨findings, found⟩ : ∃ findings, containerOf surroundings outer node.decorators
        node.name.text node.bases node.body = .ok findings := by
      simp [containerOf, marked, read, evaluated, bind, Except.bind, pure, Except.pure]
    have paired := asMarked_containerOf node found 0
    rw [filter_isMarked marked] at paired
    obtain ⟨container, _, asMarked, rest, containers⟩ := List.forall₂_cons_left_iff.mp paired
    rw [List.forall₂_nil_left_iff.mp rest] at containers
    exact .inl ⟨findings, container, found, containers, asMarked⟩
  · refine .inr ⟨expression, cause, given, unknown, unwritten, ?_⟩
    simp [containerOf, marked, read, fails, bind, Except.bind]

/-- Discovery agrees with the markers where they are executed.
The containers of a text are those of its marked classes.
Each is of the kind and with the options that the first marker of its class declares in its form, and that the markers leave recorded.
A class whose slots are read fails to declare its container only if an expression of options has an unknown leaf and cannot be written. -/
theorem asMarked_of_ofSource {source moduleName : String} {sourcePath : Option String}
    {findings : Findings} (found : ofSource source moduleName sourcePath = .ok findings) :
    (∃ body, readModule source = .ok body ∧
      ∃ listed, ListsMarked body moduleName sourcePath listed findings.containers ∧
        List.Forall₂ (fun reached container => AsMarked reached.node.decorators container) listed
          findings.containers) ∧
    ∀ surroundings outer (node : ClassNode) kind options slots,
      FirstForm kind options node.decorators →
      slotsOf (resolveName (Constants.ofBody node.body) surroundings.constants) node.body =
        .ok slots →
      (∃ findings container,
        containerOf surroundings outer node.decorators node.name.text node.bases node.body =
          .ok findings ∧
        findings.containers = [container] ∧ AsMarked node.decorators container) ∨
      ∃ expression cause, options = some expression ∧ HasUnknown expression ∧
        expression.write = .error cause ∧
        containerOf surroundings outer node.decorators node.name.text node.bases node.body =
          .error (.writing cause) := by
  constructor
  · obtain ⟨body, read, inBody⟩ := exists_ofBody_of_ofSource found
    refine ⟨body, read, _, listsMarked_ofBody inBody, ?_⟩
    -- A class is as marked wherever it stands.
    have pairs : Pairs ⟨Constants.ofBody body, sourcePath⟩ fun _ reached container =>
        AsMarked reached.node.decorators container :=
      ⟨asMarked_containerOf, fun asMarked _ => asMarked⟩
    exact pairs.ofBody body 0 inBody
  · intro surroundings outer node kind options slots first read
    exact containerOf_cases first.find?_eq read

/-- A class with two markers below another decorator. -/
def stackedMarkers : String :=
  "@final\n@permissions_store(flags=GeneratorFlags.OBFUSCATE | (20 | PARSE_PREFIX))\n" ++
    "@markers.permissions_repo()\nclass Read(Partial): pass\n"

/-- The container that it declares. -/
def stackedContainer : Container where
  name := "Read"
  namespacePath := ""
  kind := .store
  flags := { obfuscate := true, parsePrefix := true }
  reEmittable := true

/-- The options of the marker that comes first. -/
def stackedOptions : Expression :=
  .binary .bitOr (.attribute (.name ⟨"GeneratorFlags", by decide⟩) "OBFUSCATE")
    (.binary .bitOr (.constant (.number (.integer 20))) (.name ⟨"PARSE_PREFIX", by decide⟩))

/-- The class as it is read. -/
def stackedClass : ClassNode where
  decorators := [
    .name ⟨"final", by decide⟩,
    .call (.name ⟨"permissions_store", by decide⟩) [] [(some "flags", stackedOptions)],
    .call (.attribute (.name ⟨"markers", by decide⟩) "permissions_repo") [] []]
  name := ⟨"Read", by decide⟩
  bases := [.name ⟨"Partial", by decide⟩]
  body := [.other]

/-- A scope in which every name has its usual meaning. -/
def usualScope (expression : Expression) : Option Value :=
  match expression.lastName? with
  | none => none
  | some "final" => some .inert
  | some name =>
    ((ContainerKind.ofMarker? name).map Value.marker).or ((Flags.member? name).map Value.options)

/-- The first of two stacked markers wins, with the union of its options and an unknown bit beside them. -/
theorem asMarked_of_ofSource_stackedMarkers :
    ofSource stackedMarkers "" = .ok ⟨[stackedContainer], []⟩ ∧
    (∃ body, readModule stackedMarkers = .ok body ∧
      ∃ listed, ListsMarked body "" none listed [stackedContainer] ∧
        List.Forall₂ (fun reached container => AsMarked reached.node.decorators container) listed
          [stackedContainer]) ∧
    FirstForm .store (some stackedOptions) stackedClass.decorators ∧
    Records usualScope stackedClass.decorators [⟨.store, 21⟩, ⟨.repo, 0⟩] ∧
    decorate usualScope stackedClass.decorators = some (some ⟨.store, 21⟩) ∧
    (∃ findings container,
      containerOf ⟨[], none⟩ "" stackedClass.decorators "Read" stackedClass.bases [.other] =
        .ok findings ∧
      findings.containers = [container] ∧ AsMarked stackedClass.decorators container) := by
  have read := @readModule_of_toList stackedMarkers _
    (toList_append_of_toList String.toList_ofList String.toList_ofList)
  have found : ofSource stackedMarkers "" = .ok ⟨[stackedContainer], []⟩ := by
    rw [ofSource, read]
    decide +kernel
  -- The first decorator is no marker, and the second one gives its options by name.
  have others : ∀ kind, ¬ Marks kind (.name ⟨"final", by decide⟩) :=
    ofDecorator?_eq_none_iff.mp rfl
  have means : List.Forall₂ (Means usualScope) (leaves stackedOptions) [1, 20, 4] :=
    .cons (.member (.attribute _) rfl rfl)
      (.cons (.integer 20) (.cons (.member (.name rfl) rfl rfl) .nil))
  have known := means.imp fun _ _ means => means.standsFor
  have store : EndsWith ContainerKind.store.markerName (.name ⟨"permissions_store", by decide⟩) :=
    .name rfl
  have repo : EndsWith ContainerKind.repo.markerName
      (.attribute (.name ⟨"markers", by decide⟩) "permissions_repo") := .attribute _
  have form := MarkerForm.keyword store stackedOptions
  have first : FirstForm .store (some stackedOptions) stackedClass.decorators :=
    ⟨[_], _, [_], rfl, form, by simpa using others⟩
  have recording : Records usualScope stackedClass.decorators [⟨.store, 21⟩, ⟨.repo, 0⟩] :=
    .other others rfl (.marker form rfl means (.marker (.called repo) rfl .nil .nil))
  have recorded : decorate usualScope stackedClass.decorators = some (some ⟨.store, 21⟩) := by
    decide +kernel
  have agrees := asMarked_of_ofSource found
  refine ⟨found, agrees.1, first, recording, recorded, ?_⟩
  rcases agrees.2 ⟨[], none⟩ "" stackedClass .store _ [] first rfl with
    declared | ⟨_, _, given, unknown, -, -⟩
  · exact declared
  · cases given
    have read : flagBits? stackedOptions = some 21 := flagBits?_eq_some_iff.mpr ⟨_, known, rfl⟩
    cases read.symm.trans (flagBits?_eq_none_iff.mpr unknown)

/-- A class whose marker has an option that cannot be written. -/
def unwritableSource : String :=
  "@permissions_store(OBFUSCATE | spam(f\"\x7b'\u00a0'\x7d\"))\nclass Read(Partial):\n    own: str\n"

/-- Its options. -/
def unwritableOptions : Expression :=
  .binary .bitOr (.name ⟨"OBFUSCATE", by decide⟩)
    (.call (.name ⟨"spam", by decide⟩)
      [.template [.field (.constant (.text "\u00a0" false)) none none]] [])

/-- A leaf that stands for no number stops discovery where the expression cannot be written, though it declares no options. -/
theorem unwritable_options_stop_discovery :
    FirstForm .store (some unwritableOptions)
      [.call (.name ⟨"permissions_store", by decide⟩) [unwritableOptions] []] ∧
    HasUnknown unwritableOptions ∧
    ofSource unwritableSource "app" = .error (.writing .backslashInField) := by
  -- The options have a name that is no member, in front of a field that cannot be written.
  refine ⟨⟨[], _, [], rfl, .positional (.name rfl) _, by simp⟩, flagBits?_eq_none_iff.mp rfl, ?_⟩
  rw [ofSource, @readModule_of_toList unwritableSource _ String.toList_ofList]
  decide +kernel

end Discovery

end PermissionNames
