import PermissionNames.Proofs.Discovery.Markers
import PermissionNames.Proofs.Discovery.Slots
import PermissionNames.Proofs.Source.DeclaredNames

/-! What makes a text that is a module fail as a whole: a null character or a surrogate in a type in quotes, and expressions that would have to be written out and cannot.
A slot fails for nothing else, as every name that a text declares has characters. -/

namespace PermissionNames.Discovery

open Source

/-- A declaration that stops discovery where its class is marked. -/
inductive StopsSlots : Statement → Prop
  | unreadable {cause : DiscoveryError} {type : Expression} (word : Identifier.Word)
      (meets : MeetsUnreadable cause type) : StopsSlots (.declaration (.name word) type none)
  | unwritten {statement : Statement} {word : Identifier.Word} {chain : List Wrapper}
      {item : Expression} {arguments : List Expression} {cause : WritingError}
      (declares : DeclaresSlot statement word chain) (member : item ∈ metadataOf chain)
      (unwritten : IsUnwritten item arguments cause) : StopsSlots statement

/-- A statement that declares no name without characters. -/
def IsNamed (statement : Statement) : Prop :=
  ∀ word type value, statement = .declaration (.name word) type value → word.text ≠ ""

/-- The expression of the options of a marker that is called: its first argument, and without arguments the one for the options. -/
inductive GivesOptions : Expression → Expression → Prop
  | positional (function options : Expression) (rest : List Expression)
      (named : List (Option String × Expression)) :
      GivesOptions (.call function (options :: rest) named) options
  | keyword (function : Expression) {named : List (Option String × Expression)}
      {options : Expression} (found : named.lookup (some "flags") = some options) :
      GivesOptions (.call function [] named) options

/-- The expression of the options of a class, which its first marker gives. -/
def HasOptions (decorators : List Expression) (options : Expression) : Prop :=
  ∃ kind before decorator after, decorators = before ++ decorator :: after ∧
    Marks kind decorator ∧ (∀ earlier ∈ before, ∀ other, ¬ Marks other earlier) ∧
    GivesOptions decorator options

/-- A marked class that stops discovery: by a declaration in it, or by options that cannot be evaluated and cannot be written out either. -/
structure StopsDiscovery (node : ClassNode) : Prop where
  marked : ∃ kind, FirstMarks kind node.decorators
  stops : (∃ statement ∈ node.body, StopsSlots statement) ∨
    ∃ options cause, HasOptions node.decorators options ∧ HasUnknown options ∧
      options.write = .error cause

variable {resolve : String → LiteralText}

/-- A slot cannot be made exactly if its name is empty. -/
theorem declare_fails_iff {identity : String} {visibility : Visibility} {isStatic : Bool}
    {prefixes : List (List String)} :
    (∃ cause, Slot.declare identity visibility isStatic prefixes = .error cause) ↔
      identity = "" := by
  -- The name is looked at before anything else, and nothing else can fail.
  unfold Slot.declare
  split
  · exact iff_of_true ⟨_, rfl⟩ ‹_›
  · simp [*]

/-- Behind a type that comes down to text, a slot fails for its metadata or for an empty name. -/
theorem slotOf?_fails_of_wraps {type : Expression} {chain : List Wrapper} (wraps : Wraps type chain)
    (word : Identifier.Word) :
    (∃ cause, slotOf? resolve (.declaration (.name word) type none) = .error cause) ↔
      (∃ item ∈ metadataOf chain, ∃ arguments cause, IsUnwritten item arguments cause) ∨
        word.text = "" := by
  -- The metadata is collected before the slot is made, so the name matters only behind it.
  have read := SlotType.recognize_eq_some_iff.mpr ⟨chain, wraps, rfl⟩
  rw [← @SlotMetadata.collect_fails_iff resolve, slotOf?, read]
  change (∃ cause, (SlotMetadata.collect resolve (metadataOf chain) >>= _) = .error cause) ↔ _
  rw [bind_fails_iff]
  cases SlotMetadata.collect resolve (metadataOf chain) with
  | error cause => exact iff_of_true (.inl ⟨cause, rfl⟩) (.inl ⟨cause, rfl⟩)
  | ok known =>
    have declared := @declare_fails_iff word.text
      (known.visibility.getD (Visibility.ofIdentity word.text))
      (SlotType.ofChain false chain).isStatic
      (known.prefixes.map fun tokens => tokens.map LiteralText.shown)
    simp only [reduceCtorEq, exists_false, false_or, Except.ok.injEq, exists_eq_left', ← declared]
    split <;> simp_all [throw, throwThe, MonadExceptOf.throw, pure, Except.pure]

/-- A statement fails to be looked through for a slot exactly if it stops discovery. -/
theorem slotOf?_fails_iff {statement : Statement} (named : IsNamed statement) :
    (∃ cause, slotOf? resolve statement = .error cause) ↔ StopsSlots statement := by
  constructor
  · rintro ⟨cause, fails⟩
    have whole := fails
    unfold slotOf? at fails
    split at fails
    · -- Either the type fails to be told, or it is told and its metadata fails.
      rename_i word type
      rcases bind_fails_iff.mp ⟨cause, fails⟩ with ⟨_, unread⟩ | ⟨recognized, read, _, behind⟩
      · exact .unreadable word (SlotType.recognize_eq_error_iff.mp unread)
      · cases recognized with
        | none => cases behind
        | some slotType =>
          obtain ⟨chain, wraps, -⟩ := SlotType.recognize_eq_some_iff.mp read
          rcases (slotOf?_fails_of_wraps wraps word).mp ⟨cause, whole⟩ with
            ⟨item, member, arguments, _, unwritten⟩ | empty
          · exact .unwritten (.declaration word wraps) member unwritten
          · exact absurd empty (named word type none rfl)
    · cases fails
  · intro stops
    cases stops with
    | @unreadable cause _ word meets =>
      refine ⟨cause, ?_⟩
      rw [slotOf?, SlotType.recognize_eq_error_iff.mpr meets]
      rfl
    | unwritten declares member unwritten =>
      cases declares with
      | declaration _ wraps =>
        exact (slotOf?_fails_of_wraps wraps _).mpr (.inl ⟨_, member, _, _, unwritten⟩)

/-- A sequence fails exactly if one of its steps does, if what comes behind them does not fail. -/
theorem both_fail_iff {ε α β γ : Type} {first : Except ε α} {second : Except ε β}
    {join : α → β → γ} :
    (∃ cause, (do return join (← first) (← second)) = Except.error cause) ↔
      (∃ cause, first = .error cause) ∨ ∃ cause, second = .error cause := by
  -- The joined value is made from both, so it is there only if both are.
  cases first with
  | error cause => exact iff_of_true ⟨cause, rfl⟩ (.inl ⟨cause, rfl⟩)
  | ok value =>
    cases second with
    | error cause => exact iff_of_true ⟨cause, rfl⟩ (.inr ⟨cause, rfl⟩)
    | ok other => simp [bind, Except.bind, pure, Except.pure]

/-- A class fails to be looked through for slots exactly if one of its statements does. -/
theorem slotsOf_fails_iff {body : List Statement} (named : ∀ statement ∈ body, IsNamed statement) :
    (∃ cause, slotsOf resolve body = .error cause) ↔ ∃ statement ∈ body, StopsSlots statement := by
  -- The statements are looked through in their order, up to the first that fails.
  induction body with
  | nil =>
    simp only [List.not_mem_nil, false_and, exists_false, iff_false, not_exists]
    intro cause fails
    cases fails
  | cons statement rest ih =>
    obtain ⟨firstNamed, restNamed⟩ := List.forall_mem_cons.mp named
    rw [slotsOf_cons, both_fail_iff, slotOf?_fails_iff firstNamed, ih restNamed,
      List.exists_mem_cons_iff]

/-- A decorator is a marker with options exactly if it marks a kind and gives them. -/
theorem flags_ofDecorator?_eq_some_iff {decorator options : Expression} :
    (∃ marker, ClassMarker.ofDecorator? decorator = some marker ∧ marker.flags = some options) ↔
      (∃ kind, Marks kind decorator) ∧ GivesOptions decorator options := by
  -- The options of a call are its first argument, or else the one that is named so.
  constructor
  · rintro ⟨marker, found, given⟩
    refine ⟨⟨marker.kind, kind_ofDecorator?_eq_some_iff.mp (by rw [found]; rfl)⟩, ?_⟩
    unfold ClassMarker.ofDecorator? at found
    split at found
    · rename_i function arguments named
      obtain ⟨last, -, found⟩ := Option.bind_eq_some_iff.mp found
      obtain ⟨kind, -, same⟩ := Option.bind_eq_some_iff.mp found
      cases same
      cases arguments with
      | nil => exact .keyword function given
      | cons first rest =>
        cases given
        exact .positional function _ rest named
    · -- A marker that is not called has no options.
      obtain ⟨last, -, found⟩ := Option.bind_eq_some_iff.mp found
      obtain ⟨kind, -, same⟩ := Option.bind_eq_some_iff.mp found
      cases same
      cases given
  · rintro ⟨⟨kind, marks⟩, gives⟩
    obtain ⟨marker, found, rfl⟩ :=
      Option.map_eq_some_iff.mp (kind_ofDecorator?_eq_some_iff.mpr marks)
    refine ⟨marker, found, ?_⟩
    cases gives with
    | positional function _ rest named =>
      obtain ⟨last, -, found⟩ := Option.bind_eq_some_iff.mp found
      obtain ⟨kind, -, same⟩ := Option.bind_eq_some_iff.mp found
      cases same
      rfl
    | keyword function given =>
      obtain ⟨last, -, found⟩ := Option.bind_eq_some_iff.mp found
      obtain ⟨kind, -, same⟩ := Option.bind_eq_some_iff.mp found
      cases same
      exact given

/-- The options of the marker that is found are those of the class. -/
theorem flags_find?_eq_some_iff {decorators : List Expression} {options : Expression} :
    (∃ marker, ClassMarker.find? decorators = some marker ∧ marker.flags = some options) ↔
      HasOptions decorators options := by
  -- The marker that is found is the first one, and it gives the options.
  constructor
  · rintro ⟨marker, found, given⟩
    obtain ⟨before, decorator, after, rfl, isMarker, unmarked⟩ :=
      List.findSome?_eq_some_iff.mp found
    obtain ⟨⟨kind, marks⟩, gives⟩ := flags_ofDecorator?_eq_some_iff.mp ⟨marker, isMarker, given⟩
    exact ⟨kind, before, decorator, after, rfl, marks,
      fun earlier member => ofDecorator?_eq_none_iff.mp (unmarked earlier member), gives⟩
  · rintro ⟨kind, before, decorator, after, rfl, marks, unmarked, gives⟩
    obtain ⟨marker, isMarker, given⟩ := flags_ofDecorator?_eq_some_iff.mpr ⟨⟨kind, marks⟩, gives⟩
    refine ⟨marker, List.findSome?_eq_some_iff.mpr
      ⟨before, decorator, after, rfl, isMarker, ?_⟩, given⟩
    exact fun earlier member => ofDecorator?_eq_none_iff.mpr (unmarked earlier member)

/-- Options fail to be told exactly if a leaf is unknown and they cannot be written out. -/
theorem ClassMarker.evaluate_fails_iff {marker : ClassMarker} {className : String} :
    (∃ cause, marker.evaluate className = .error cause) ↔ ∃ options, marker.flags = some options ∧
      HasUnknown options ∧ ∃ cause, options.write = .error cause := by
  -- Options fail only where they have to be written out.
  constructor
  · rintro ⟨cause, fails⟩
    rcases marker.evaluate_cases className with
      ⟨flags, notices, told, -⟩ | ⟨options, cause, given, unknown, unwritten, -⟩
    · cases fails.symm.trans told
    · exact ⟨options, given, unknown, cause, unwritten⟩
  · rintro ⟨options, given, unknown, cause, unwritten⟩
    refine ⟨.writing cause, ?_⟩
    simp only [evaluate, given, flagBits?_eq_none_iff.mpr unknown, unwritten]

/-- A class fails to be looked at exactly if it is marked and stops discovery. -/
theorem containerOf_fails_iff {surroundings : Surroundings} {outer : String} {node : ClassNode}
    (named : ∀ statement ∈ node.body, IsNamed statement) :
    (∃ cause, containerOf surroundings outer node.decorators node.name.text node.bases node.body =
      .error cause) ↔ StopsDiscovery node := by
  -- A class without a marker yields nothing, and a marked one fails for a slot or for its options.
  cases marked : ClassMarker.find? node.decorators with
  | none =>
    refine iff_of_false ?_ ?_
    · rintro ⟨cause, fails⟩
      simp [containerOf, marked] at fails
    · rintro ⟨⟨kind, first⟩, -⟩
      have found := kind_find?_eq_some_iff.mpr first
      rw [marked] at found
      cases found
  | some marker =>
    have first : ∃ kind, FirstMarks kind node.decorators :=
      ⟨marker.kind, kind_find?_eq_some_iff.mp (by rw [marked]; rfl)⟩
    have options : ∀ expression, HasOptions node.decorators expression ↔
        marker.flags = some expression := by
      intro expression
      simp [← flags_find?_eq_some_iff, marked]
    rw [containerOf, marked]
    simp only [bind_fails_iff, slotsOf_fails_iff named, ClassMarker.evaluate_fails_iff, pure,
      Except.pure, reduceCtorEq, exists_false, and_false, or_false]
    constructor
    · rintro (stops | ⟨_, -, expression, given, unknown, cause, unwritten⟩)
      · exact ⟨first, .inl stops⟩
      · exact ⟨first, .inr ⟨expression, cause, (options expression).mpr given, unknown, unwritten⟩⟩
    · rintro ⟨-, stops | ⟨expression, cause, given, unknown, unwritten⟩⟩
      · exact .inl stops
      · -- The options are told only behind the slots.
        cases slots :
            slotsOf (resolveName (Constants.ofBody node.body) surroundings.constants) node.body with
        | error earlier => exact .inl ((slotsOf_fails_iff named).mp ⟨earlier, slots⟩)
        | ok found =>
          exact .inr ⟨found, rfl, expression, (options expression).mp given, unknown, cause,
            unwritten⟩

/-- Classes in whose bodies every declared name has characters. -/
def AreNamed (classes : List Reached) : Prop :=
  ∀ reached ∈ classes, ∀ statement ∈ reached.node.body, IsNamed statement

mutual

/-- A statement fails to be looked through exactly if it is or holds a class that stops discovery. -/
theorem ofStatement_fails_iff {surroundings : Surroundings} (statement : Statement)
    (outer : String) (index : Nat) (named : AreNamed (classesOf index statement)) :
    (∃ cause, ofStatement surroundings outer statement = .error cause) ↔
      ∃ reached ∈ classesOf index statement, StopsDiscovery reached.node := by
  -- A class is looked at first, and then its body; no other statement can fail.
  cases statement with
  | classDefinition decorators name bases body =>
    rw [classesOf] at named
    obtain ⟨ownNamed, restNamed⟩ := List.forall_mem_cons.mp named
    have insideNamed : AreNamed (classesFrom 0 body) := fun reached member =>
      restNamed (reached.within index name.text) (List.mem_map_of_mem member)
    rw [ofStatement, both_fail_iff, ofBody_fails_iff body _ 0 insideNamed,
      @containerOf_fails_iff surroundings outer ⟨decorators, name, bases, body⟩ ownNamed,
      classesOf, List.exists_mem_cons_iff]
    simp [Reached.within]
  | assignment targets value => simp [ofStatement, classesOf]
  | declaration target type value => simp [ofStatement, classesOf]
  | other => simp [ofStatement, classesOf]

/-- A body fails to be looked through exactly if a class in it stops discovery. -/
theorem ofBody_fails_iff {surroundings : Surroundings} (body : List Statement)
    (outer : String) (first : Nat) (named : AreNamed (classesFrom first body)) :
    (∃ cause, ofBody surroundings outer body = .error cause) ↔
      ∃ reached ∈ classesFrom first body, StopsDiscovery reached.node := by
  -- The classes of the first statement are listed in front of those of the others.
  cases body with
  | nil => simp [ofBody, classesFrom]
  | cons head rest =>
    rw [classesFrom] at named
    obtain ⟨headNamed, restNamed⟩ := List.forall_mem_append.mp named
    rw [ofBody, both_fail_iff, ofStatement_fails_iff head outer first headNamed,
      ofBody_fails_iff rest outer (first + 1) restNamed, classesFrom]
    simp only [List.mem_append, or_and_right, exists_or]

end

/-- The targets in a class that is reached weigh no more than all that a body declares. -/
theorem ReachedFrom.weight_le {body : List Statement} {reached : Reached}
    (chain : ReachedFrom body reached) (expression : Expression → Nat) :
    total (Statement.weight expression) reached.node.body ≤
      total (Statement.weight expression) body := by
  -- A class weighs what its body weighs.
  have inside : ∀ {body : List Statement} {index : Nat} {node : ClassNode},
      body[index]? = some node.statement →
      total (Statement.weight expression) node.body ≤ total (Statement.weight expression) body := by
    intro body index node listed
    have weighs := le_total (Statement.weight expression) (List.mem_of_getElem? listed)
    rwa [ClassNode.statement, Statement.weight, Statement.weightOfAll_eq] at weighs
  induction chain with
  | here listed => exact inside listed
  | inside listed _ ih => exact ih.trans (inside listed)

/-- Every name that a module declares in a class has characters. -/
theorem areNamed_of_readModule {source : String} {body : List Statement}
    (read : readModule source = .ok body) : AreNamed (classesFrom 0 body) := by
  -- A target without characters would weigh something among the statements, and none does.
  rintro reached listed statement member word type value rfl
  have scaled := le_total (Statement.weight (Scale.ofName word).expression) member
  have lighter :=
    (mem_classesFrom_iff.mp listed).weight_le (Scale.ofName word).expression
  have counts : Statement.weight (Scale.ofName word).expression
      (.declaration (.name word) type value) = 1 := by
    simp [Statement.weight, Scale.ofName]
  exact text_ne_empty_of_readModule read (by omega)

/-- A text fails to be looked through exactly if it is no module, or a class in it at whatever depth stops discovery.
Such a class is marked.
It gives a name a type that meets a null character or a surrogate in quotes, or a malformed prefix that cannot be written out.
Or its options have an unknown leaf and cannot be written out. -/
theorem ofSource_fails_iff (source moduleName : String) (sourcePath : Option String) :
    (∃ cause, ofSource source moduleName sourcePath = .error cause) ↔
      (∃ cause, readModule source = .error cause) ∨
      ∃ body, readModule source = .ok body ∧
        ∃ reached, ReachedFrom body reached ∧ StopsDiscovery reached.node := by
  -- A text that is a module fails where its statements do, whose names all have characters.
  unfold ofSource
  split
  · rename_i cause unread
    exact iff_of_true ⟨_, rfl⟩ (.inl ⟨cause, unread⟩)
  · rename_i body read
    rw [ofBody_fails_iff body moduleName 0 (areNamed_of_readModule read)]
    simp [read, mem_classesFrom_iff]

/-- A class with a slot, and a declaration whose type in quotes is a null character. -/
def quotedNull : String :=
  "@permissions_store\nclass Read(Partial):\n    own: str\n    other: \"\\0\"\n"

/-- A type that cannot be read takes the slot beside it along, and all else that its module declares. -/
theorem quotedNull_stops_discovery :
    (∃ body, readModule quotedNull = .ok body) ∧
      ofSource quotedNull "app" = .error (.reading .nullCharacter) := by
  -- The text is read and looked through by computation.
  have spelled := @readModule_of_toList quotedNull _ String.toList_ofList
  have readable : (readModule quotedNull).isOk = true := by
    rw [spelled]
    decide +kernel
  refine ⟨?_, by rw [ofSource, spelled]; decide +kernel⟩
  cases read : readModule quotedNull with
  | error cause =>
    rw [read] at readable
    cases readable
  | ok body => exact ⟨body, rfl⟩

end PermissionNames.Discovery
