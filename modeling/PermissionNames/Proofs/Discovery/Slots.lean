import PermissionNames.Proofs.Discovery.Metadata
import PermissionNames.Proofs.Discovery.SlotType

/-! The slots of a marked class: one for each name that is declared with a type of text and without a value. -/

namespace PermissionNames.Discovery

open Source

/-- The metadata of a type in wrappers, from the innermost to the outermost. -/
def metadataOf (chain : List Wrapper) : List Expression :=
  chain.reverse.flatMap Wrapper.arguments

/-- A slot with what its declaration says: its name, the wrappers of its type, and the first prefix and the first visibility in these. -/
structure DeclaredAs (means : String → LiteralText → Prop) (word : Identifier.Word)
    (chain : List Wrapper) (slot : Slot) : Prop where
  identity : slot.identity = word.text
  isStatic : slot.isStatic = true ↔ .classVar ∈ chain
  prefixTokens : ∃ first tokens, FirstTold IsPrefixCall (metadataOf chain) first ∧
    PrefixTokens means first tokens ∧ slot.prefixTokens = tokens.map LiteralText.shown
  visibility : ∃ first, FirstTold NamesVisibility (metadataOf chain) first ∧
    (first = some slot.visibility ∨
      first = none ∧ Visibility.Implied word.text slot.visibility)
  canonicalName : Slot.buildName slot.identity slot.prefixTokens = .ok slot.canonicalName
  unfinished : slot.finalized = false

/-- A statement declares a slot if it gives a name a type that comes down to text, and no value. -/
inductive DeclaresSlot : Statement → Identifier.Word → List Wrapper → Prop
  | declaration {type : Expression} {chain : List Wrapper} (identity : Identifier.Word)
      (wraps : Wraps type chain) :
      DeclaresSlot (.declaration (.name identity) type none) identity chain

/-- The slots of those statements of a body that declare one, in their order. -/
inductive Collects (declaredAs : Identifier.Word → List Wrapper → Slot → Prop) :
    List Statement → List Slot → Prop
  | nil : Collects declaredAs [] []
  | slot {statement : Statement} {identity : Identifier.Word} {chain : List Wrapper}
      {rest : List Statement} {slot : Slot} {slots : List Slot}
      (declares : DeclaresSlot statement identity chain) (declared : declaredAs identity chain slot)
      (others : Collects declaredAs rest slots) :
      Collects declaredAs (statement :: rest) (slot :: slots)
  | other {statement : Statement} {rest : List Statement} {slots : List Slot}
      (silent : ∀ identity chain, ¬ DeclaresSlot statement identity chain)
      (others : Collects declaredAs rest slots) : Collects declaredAs (statement :: rest) slots

/-- Slots that are declared in one way are declared in every way that follows from it. -/
theorem Collects.imp {one other : Identifier.Word → List Wrapper → Slot → Prop}
    (follows : ∀ identity chain slot, one identity chain slot → other identity chain slot)
    {body : List Statement} {slots : List Slot} (collects : Collects one body slots) :
    Collects other body slots := by
  -- The statements are gone through in their order, as the slots are.
  induction collects with
  | nil => exact .nil
  | slot declares declared _ ih => exact .slot declares (follows _ _ _ declared) ih
  | other silent _ ih => exact .other silent ih

variable {resolve : String → LiteralText}

/-- The first prefix is chosen in the same way where each token is shown by another. -/
theorem choosePrefix_map {α β : Type} (shown : α → β) (prefixes : List (List α)) :
    Slot.choosePrefix (prefixes.map fun tokens => tokens.map shown) =
      (Slot.choosePrefix prefixes).map shown := by
  -- There is a first prefix or none, whatever its tokens are.
  cases prefixes <;> rfl

/-- The slot of a statement is as declared, and a statement without one declares none. -/
theorem slotOf?_eq_ok {statement : Statement} {answer : Option DeclaredSlot}
    (found : slotOf? resolve statement = .ok answer) :
    (answer = none ∧ ∀ identity chain, ¬ DeclaresSlot statement identity chain) ∨
      ∃ identity chain declared, answer = some declared ∧
        DeclaresSlot statement identity chain ∧
        DeclaredAs (resolve · = ·) identity chain declared.slot := by
  unfold slotOf? at found
  split at found
  · rename_i identity type
    obtain ⟨recognized, read, found⟩ := bind_eq_ok found
    cases recognized with
    | none =>
      -- A chain around the type would have been recognized.
      cases found
      refine .inl ⟨rfl, fun identity chain declares => ?_⟩
      cases declares with
      | declaration _ wraps =>
        cases read.symm.trans (SlotType.recognize_eq_some_iff.mpr ⟨chain, wraps, rfl⟩)
    | some slotType =>
      -- The chain gives what the slot is and its metadata, and these its prefix and visibility.
      obtain ⟨known, collected, found⟩ := bind_eq_ok found
      obtain ⟨chain, wraps, same⟩ := SlotType.recognize_eq_some_iff.mp read
      obtain ⟨isStatic, metadata⟩ := SlotType.eq_ofChain_iff.mp same
      rw [metadata, ← metadataOf] at collected
      obtain ⟨⟨first, isFirst, tokens⟩, visibility⟩ := SlotMetadata.collect_eq_ok collected
      dsimp only at found
      unfold Slot.declare at found
      split at found
      · rename_i slot declared
        split at declared
        · cases declared
        · rename_i named
          cases declared
          cases found
          refine .inr ⟨identity, chain, _, rfl, .declaration identity wraps, rfl, isStatic,
            ⟨first, _, isFirst, tokens, choosePrefix_map _ _⟩, ⟨_, visibility, ?_⟩,
            by rw [Slot.buildName, if_neg named], rfl⟩
          cases known.visibility with
          | none => exact .inr ⟨rfl, Visibility.implied_ofIdentity identity.text⟩
          | some named => exact .inl rfl
      · cases found
  · rename_i noDeclaration
    cases found
    refine .inl ⟨rfl, fun identity chain declares => ?_⟩
    cases declares with
    | declaration _ wraps => exact noDeclaration _ _ rfl

/-- The slot of the first statement, if it declares one, comes before those of the others. -/
theorem slotsOf_cons (statement : Statement) (rest : List Statement) :
    slotsOf resolve (statement :: rest) = (do
      let answer ← slotOf? resolve statement
      let slots ← slotsOf resolve rest
      return answer.toList ++ slots) := by
  -- The list of answers begins with that of the first statement, which may be empty.
  unfold slotsOf
  rw [List.mapM_cons]
  cases slotOf? resolve statement with
  | error cause => rfl
  | ok answer =>
    cases rest.mapM (slotOf? resolve) with
    | error cause => rfl
    | ok answers => cases answer <;> rfl

/-- The slots of a class are those that its statements declare. -/
theorem collects_slotsOf {body : List Statement} {slots : List DeclaredSlot}
    (found : slotsOf resolve body = .ok slots) :
    Collects (DeclaredAs (resolve · = ·)) body (slots.map (·.slot)) := by
  -- The induction is on the statements, each of which is answered by a slot or by none.
  induction body generalizing slots with
  | nil =>
    cases found
    exact .nil
  | cons statement rest ih =>
    rw [slotsOf_cons] at found
    obtain ⟨answer, here, found⟩ := bind_eq_ok found
    obtain ⟨others, later, same⟩ := bind_eq_ok found
    cases same
    rcases slotOf?_eq_ok here with ⟨rfl, silent⟩ | ⟨identity, chain, slot, rfl, declares, declared⟩
    · exact .other silent (ih later)
    · exact .slot declares declared (ih later)

/-- What a marked class declares is one container with its slots. -/
theorem collects_containerOf {surroundings : Surroundings} {outer : String} (node : ClassNode)
    {findings : Findings}
    (found : containerOf surroundings outer node.decorators node.name.text node.bases node.body =
      .ok findings) (index : Nat) :
    List.Forall₂ (fun reached container =>
        Collects (DeclaredAs (resolveName (Constants.ofBody reached.node.body)
          surroundings.constants · = ·)) reached.node.body container.slots)
      ([⟨[index], [], node⟩].filter Reached.isMarked) findings.containers := by
  -- Without a marker there is neither a class to list nor a container.
  unfold containerOf at found
  split at found
  · rename_i unmarked
    cases found
    simp [Reached.isMarked, unmarked]
  · rename_i marker marked
    obtain ⟨slots, read, found⟩ := bind_eq_ok found
    obtain ⟨⟨flags, notices⟩, -, found⟩ := bind_eq_ok found
    cases found
    rw [filter_isMarked marked]
    exact .cons (collects_slotsOf read) .nil

/-- The containers of a body have the slots that the statements of its marked classes declare. -/
theorem collects_ofBody {surroundings : Surroundings} {moduleName : String} {body : List Statement}
    {findings : Findings} (found : ofBody surroundings moduleName body = .ok findings) :
    List.Forall₂ (fun reached container =>
        Collects (DeclaredAs (resolveName (Constants.ofBody reached.node.body)
          surroundings.constants · = ·)) reached.node.body container.slots)
      ((classesFrom 0 body).filter Reached.isMarked) findings.containers := by
  -- The slots of a class do not depend on the classes around it, so going inside changes nothing.
  have pairs : Pairs surroundings fun _ reached container =>
      Collects (DeclaredAs (resolveName (Constants.ofBody reached.node.body)
        surroundings.constants · = ·)) reached.node.body container.slots :=
    ⟨collects_containerOf, fun collects _ => collects⟩
  exact pairs.ofBody body 0 found

/-- The containers of a text have the slots that the statements of its marked classes declare, in their order and with repetitions.
There is one for each name with a type of text and no value.
It has the first prefix and the first visibility in its metadata, and is named by these. -/
theorem slots_of_ofSource {source moduleName : String} {sourcePath : Option String}
    {findings : Findings} (found : ofSource source moduleName sourcePath = .ok findings) :
    ∃ body, readModule source = .ok body ∧
      ∃ listed, ListsMarked body moduleName sourcePath listed findings.containers ∧
        List.Forall₂ (fun reached container =>
            Collects (DeclaredAs (resolveName (Constants.ofBody reached.node.body)
              (Constants.ofBody body) · = ·)) reached.node.body container.slots)
          listed findings.containers := by
  -- The text is a module, and the constants in force are those of its own statements.
  obtain ⟨body, read, inBody⟩ := exists_ofBody_of_ofSource found
  exact ⟨body, read, _, listsMarked_ofBody inBody, collects_ofBody inBody⟩

/-- A class in which a malformed prefix comes first, a name is declared twice, and not all that is declared is a slot. -/
def mixedMembers : String :=
  "@permissions_store\nclass A:\n _B: 'Annotated[str,Prefix(1),Visibility.PUBLIC,Prefix(C)]'\n" ++
    " d: int\n C: str='e'\n _B: Annotated[str,Prefix(C)]\n"

/-- The container of the class. -/
def mixedContainer : Container where
  name := "A"
  namespacePath := ""
  reEmittable := false
  slots := [
    { identity := "_B", canonicalName := "_.b", identity_ne := by decide },
    { identity := "_B", visibility := .internalAccess, prefixTokens := ["e"]
      canonicalName := "e._.b", identity_ne := by decide }]

/-- The slots of the class are those that its statements declare. -/
theorem slots_of_ofSource_mixedMembers :
    ofSource mixedMembers "" = .ok ⟨[(mixedContainer : Found)], []⟩ ∧
    ∃ body, readModule mixedMembers = .ok body ∧
      ∃ listed, ListsMarked body "" none listed [mixedContainer] ∧
        List.Forall₂ (fun reached container =>
            Collects (DeclaredAs (resolveName (Constants.ofBody reached.node.body)
              (Constants.ofBody body) · = ·)) reached.node.body container.slots)
          listed [mixedContainer] := by
  -- What the text declares is computed, and the theorem is applied to that.
  have read := @readModule_of_toList mixedMembers _
    (toList_append_of_toList String.toList_ofList String.toList_ofList)
  have found : ofSource mixedMembers "" = .ok ⟨[(mixedContainer : Found)], []⟩ := by
    rw [ofSource, read]
    decide +kernel
  exact ⟨found, slots_of_ofSource found⟩

end PermissionNames.Discovery
