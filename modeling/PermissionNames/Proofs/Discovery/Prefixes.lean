import PermissionNames.Proofs.Discovery.Slots

/-! The names in prefixes: the text that the class gave one last counts, else the one of the module, else the name itself. -/

namespace PermissionNames.Discovery

open Source

/-- A statement that gives a name a text, alone or among other targets. -/
inductive Assigns (name : String) (text : LiteralText) : Statement → Prop
  | assignment {targets : List Expression} {word : Identifier.Word}
      (member : .name word ∈ targets) (same : word.text = name) (marked : Bool) :
      Assigns name text (.assignment targets (.constant (.text text marked)))
  | declaration {word : Identifier.Word} (same : word.text = name) (type : Expression)
      (marked : Bool) :
      Assigns name text (.declaration (.name word) type (some (.constant (.text text marked))))

/-- The text that the statements of a body give a name last, if they give it one; what stands inside of them does not count. -/
inductive LastText (name : String) : List Statement → Option LiteralText → Prop
  | never {body : List Statement}
      (silent : ∀ statement ∈ body, ∀ text, ¬ Assigns name text statement) :
      LastText name body none
  | last {statement : Statement} {text : LiteralText} (assigns : Assigns name text statement)
      (before : List Statement) {after : List Statement}
      (silent : ∀ later ∈ after, ∀ other, ¬ Assigns name other later) :
      LastText name (before ++ statement :: after) (some text)

/-- What a name means in a class of a module: what the class itself gave it last, else the module, else the name. -/
inductive MeansIn (classBody moduleBody : List Statement) (name : String) : LiteralText → Prop
  | ofClass {text : LiteralText} (last : LastText name classBody (some text)) :
      MeansIn classBody moduleBody name text
  | ofModule {text : LiteralText} (never : LastText name classBody none)
      (last : LastText name moduleBody (some text)) : MeansIn classBody moduleBody name text
  | itself (never : LastText name classBody none) (nowhere : LastText name moduleBody none) :
      MeansIn classBody moduleBody name name

/-- The tokens of a prefix: none at all if it has no arguments or a malformed one, and else one for each argument in their order. -/
structure ByArgument (means : String → LiteralText → Prop) (arguments : List Expression)
    (tokens : List LiteralText) : Prop where
  empty : tokens = [] ↔ arguments = [] ∨ ∃ argument ∈ arguments, IsMalformed argument
  each : tokens ≠ [] → List.Forall₂ (IsToken means) arguments tokens

/-- A statement behind a body that does not give a name a text changes nothing for it. -/
theorem LastText.snoc {name : String} {body : List Statement} {statement : Statement}
    {last : Option LiteralText} (known : LastText name body last)
    (silent : ∀ text, ¬ Assigns name text statement) :
    LastText name (body ++ [statement]) last := by
  -- What is silent may stand behind the last statement that assigns, or behind all of them.
  cases known with
  | never before =>
    refine .never fun later member => ?_
    rcases List.mem_append.mp member with inBody | isLast
    · exact before later inBody
    · rwa [List.mem_singleton.mp isLast]
  | @last assigning _ assigns before after others =>
    rw [List.append_assoc, List.cons_append]
    refine .last assigns before fun later member => ?_
    rcases List.mem_append.mp member with inAfter | isLast
    · exact others later inAfter
    · rwa [List.mem_singleton.mp isLast]

namespace Constants

/-- Where all names have one text, a name is found with it if it is listed. -/
theorem lookup_eq_some_iff {constants : Constants} {name : String} {text found : LiteralText}
    (same : ∀ entry ∈ constants, entry.2 = text) :
    constants.lookup name = some found ↔ (name, found) ∈ constants := by
  -- The first entry of the name decides, and all others would say the same.
  induction constants with
  | nil => simp
  | cons first rest ih =>
    obtain ⟨key, value⟩ := first
    obtain ⟨here, others⟩ := List.forall_mem_cons.mp same
    rw [List.lookup_cons, List.mem_cons, Prod.mk.injEq]
    by_cases isKey : name = key
    · subst isKey
      simp only [beq_self_eq_true, Option.some.injEq, true_and]
      refine ⟨fun given => .inl given.symm, ?_⟩
      rintro (given | later)
      · exact given.symm
      · exact here.trans (others _ later).symm
    · have other : (name == key) = false := by simpa using isKey
      simp [other, isKey, ih others]

/-- The names among targets are found with the text. -/
theorem lookup_ofTargets_eq_some_iff {targets : List Expression} {name : String}
    {text found : LiteralText} :
    (ofTargets targets text).reverse.lookup name = some found ↔
      found = text ∧ ∃ word, .name word ∈ targets ∧ word.text = name := by
  -- All targets of one assignment get the same text, so it does not matter which one is found.
  have listed : ∀ entry, entry ∈ ofTargets targets text ↔
      ∃ word, .name word ∈ targets ∧ entry = (word.text, text) := by
    intro entry
    rw [ofTargets, List.mem_filterMap]
    constructor
    · rintro ⟨target, member, given⟩
      split at given
      · cases given
        exact ⟨_, member, rfl⟩
      · cases given
    · rintro ⟨word, member, rfl⟩
      exact ⟨_, member, rfl⟩
  have same : ∀ entry ∈ (ofTargets targets text).reverse, entry.2 = text := by
    intro entry member
    obtain ⟨word, -, rfl⟩ := (listed entry).mp (List.mem_reverse.mp member)
    rfl
  rw [lookup_eq_some_iff same, List.mem_reverse, listed]
  grind

/-- The value of a text constant is its text. -/
theorem text?_eq_some_iff {value : Expression} {text : LiteralText} :
    value.text? = some text ↔ ∃ marked, value = .constant (.text text marked) := by
  -- Only constants that are texts have a text.
  constructor
  · intro given
    unfold Expression.text? at given
    split at given
    · cases given
      exact ⟨_, rfl⟩
    · cases given
  · rintro ⟨marked, rfl⟩
    rfl

/-- The names among targets are found with the text that is assigned to them, if it is a text. -/
theorem lookup_assigned_eq_some_iff {targets : List Expression} {value : Expression}
    {name : String} {text : LiteralText} :
    (match value.text? with
      | some text => ofTargets targets text
      | none => []).reverse.lookup name = some text ↔
      (∃ marked, value = .constant (.text text marked)) ∧
        ∃ word, .name word ∈ targets ∧ word.text = name := by
  -- A value that is no text gives no target anything.
  rw [← text?_eq_some_iff]
  cases given : value.text? with
  | none => simp
  | some assigned =>
    simp only [lookup_ofTargets_eq_some_iff, Option.some.injEq]
    exact and_congr_left fun _ => eq_comm

/-- A statement gives a name the text that is found for it. -/
theorem lookup_ofStatement_eq_some_iff {statement : Statement} {name : String}
    {text : LiteralText} :
    (ofStatement statement).reverse.lookup name = some text ↔ Assigns name text statement := by
  -- Only the two forms of an assignment give names anything.
  constructor
  · intro found
    unfold ofStatement at found
    split at found
    · obtain ⟨⟨marked, rfl⟩, word, member, same⟩ := lookup_assigned_eq_some_iff.mp found
      exact .assignment member same marked
    · obtain ⟨⟨marked, rfl⟩, word, member, same⟩ := lookup_assigned_eq_some_iff.mp found
      cases List.mem_singleton.mp member
      exact .declaration same _ marked
    · cases found
  · intro assigns
    cases assigns with
    | assignment member same marked =>
      exact lookup_assigned_eq_some_iff.mpr ⟨⟨marked, rfl⟩, _, member, same⟩
    | declaration same type marked =>
      exact lookup_assigned_eq_some_iff.mpr ⟨⟨marked, rfl⟩, _, List.mem_singleton_self _, same⟩

/-- The text that is found for a name is the last one that a body gives it. -/
theorem lastText_find? (body : List Statement) (name : String) :
    LastText name body ((ofBody body).find? name) := by
  -- The constants are looked through from the last one on, so the induction is from behind.
  induction body using List.reverseRecOn with
  | nil => exact .never (by simp)
  | append_singleton body statement ih =>
    have split : (ofBody (body ++ [statement])).find? name =
        ((ofStatement statement).reverse.lookup name).or ((ofBody body).find? name) := by
      simp [ofBody, find?, List.lookup_append]
    rw [split]
    cases given : (ofStatement statement).reverse.lookup name with
    | some text =>
      exact .last (lookup_ofStatement_eq_some_iff.mp given) body (by simp)
    | none =>
      refine ih.snoc fun text assigns => ?_
      cases given.symm.trans (lookup_ofStatement_eq_some_iff.mpr assigns)

end Constants

/-- A name in a class is resolved to what it means there. -/
theorem meansIn_resolveName (classBody moduleBody : List Statement) (name : String) :
    MeansIn classBody moduleBody name
      (resolveName (Constants.ofBody classBody) (Constants.ofBody moduleBody) name) := by
  -- The class is looked up first, then the module, and each is told by its last text.
  have inClass := Constants.lastText_find? classBody name
  have inModule := Constants.lastText_find? moduleBody name
  unfold resolveName
  cases own : (Constants.ofBody classBody).find? name with
  | some text =>
    rw [own] at inClass
    exact .ofClass inClass
  | none =>
    rw [own] at inClass
    cases outer : (Constants.ofBody moduleBody).find? name with
    | some text =>
      rw [outer] at inModule
      exact .ofModule inClass inModule
    | none =>
      rw [outer] at inModule
      exact .itself inClass inModule

variable {means other : String → LiteralText → Prop} {arguments : List Expression}
  {tokens : List LiteralText}

/-- Arguments with tokens are not malformed. -/
theorem not_isMalformed_of_isToken (told : List.Forall₂ (IsToken means) arguments tokens) :
    ∀ argument ∈ arguments, ¬ IsMalformed argument := by
  -- Each argument has a token, so it is a text or a name.
  induction told with
  | nil => simp
  | cons here _ ih =>
    refine List.forall_mem_cons.mpr ⟨fun malformed => ?_, ih⟩
    cases here with
    | text _ marked => exact malformed.noText _ marked rfl
    | name meaning => exact malformed.noName _ rfl

/-- Tokens are told by argument, also where names have more meanings. -/
theorem TokensOf.byArgument (told : TokensOf means arguments tokens)
    (follows : ∀ name meaning, means name meaning → other name meaning) :
    ByArgument other arguments tokens := by
  -- Without a malformed argument there are as many tokens as arguments.
  cases told with
  | malformed member malformed =>
    exact ⟨iff_of_true rfl (.inr ⟨_, member, malformed⟩), fun some => absurd rfl some⟩
  | each told =>
    have wellFormed := not_isMalformed_of_isToken told
    refine ⟨⟨?_, ?_⟩, fun _ => told.imp fun argument token isToken => ?_⟩
    · rintro rfl
      exact .inl (List.forall₂_nil_right_iff.mp told)
    · rintro (rfl | ⟨argument, member, malformed⟩)
      · exact List.forall₂_nil_left_iff.mp told
      · exact absurd malformed (wellFormed argument member)
    · cases isToken with
      | text _ marked => exact .text _ marked
      | name meaning => exact .name (follows _ _ meaning)

/-- The tokens that count in metadata, as they are shown, are those of its first prefix, if it has any. -/
inductive CountsFirst (means : String → LiteralText → Prop) (metadata : List Expression) :
    List String → Prop
  | absent (noPrefix : FirstTold IsPrefixCall metadata none) : CountsFirst means metadata []
  | present {arguments : List Expression} {tokens : List LiteralText}
      (first : FirstTold IsPrefixCall metadata (some arguments))
      (told : ByArgument means arguments tokens) :
      CountsFirst means metadata (tokens.map LiteralText.shown)

/-- A slot that is as declared has the tokens of the first prefix in its type. -/
theorem DeclaredAs.countsFirst {word : Identifier.Word} {chain : List Wrapper} {slot : Slot}
    (declared : DeclaredAs means word chain slot)
    (follows : ∀ name meaning, means name meaning → other name meaning) :
    CountsFirst other (metadataOf chain) slot.prefixTokens := by
  -- The declaration tells which prefix comes first and what its tokens are.
  obtain ⟨first, tokens, isFirst, told, shown⟩ := declared.prefixTokens
  rw [shown]
  cases told with
  | absent => exact .absent isFirst
  | present told => exact .present isFirst (told.byArgument follows)

section Reading

open Source.Parser Source.Grammar

/-- A statement that gives no name a text. -/
def AssignsNothing (statement : Statement) : Prop :=
  ∀ name text, ¬ Assigns name text statement

/-- What is not kept gives no name a text. -/
theorem assignsNothing_other : AssignsNothing .other := by
  rintro name text ⟨⟩

/-- Statements none of which gives a name a text. -/
def NoAssignments (statements : List Statement) : Prop :=
  ∀ statement ∈ statements, AssignsNothing statement

/-- A single statement that is not kept gives no name a text. -/
theorem noAssignments_other : NoAssignments [.other] := by
  simpa [NoAssignments] using assignsNothing_other

/-- A definition gives no name a text, whatever stands in its block. -/
theorem assignsNothing_definition (inner : Grammar) (block : BlockParser) :
    Gives AssignsNothing (inner.definition block) := by
  -- What a class gives its own names stays inside of it.
  have isClass : ∀ decorators name bases body,
      AssignsNothing (.classDefinition decorators name bases body) := by
    rintro decorators word bases body name text ⟨⟩
  have ofClass : ∀ decorators, Gives AssignsNothing (inner.classDefinition block decorators) := by
    intro decorators
    refine gives_bind fun name => gives_bind fun hasBases => ?_
    split
    · exact gives_bind fun found => gives_bind fun _ => gives_bind fun body =>
        gives_pure (isClass _ _ _ _)
    · exact gives_bind fun _ => gives_bind fun _ => gives_bind fun body =>
        gives_pure (isClass _ _ _ _)
  unfold definition
  refine gives_bind fun decorators => gives_bind fun lexeme => ?_
  split
  · exact ofClass decorators
  · exact gives_bind fun _ => gives_pure assignsNothing_other
  · exact gives_bind fun _ => gives_bind fun _ => gives_pure assignsNothing_other
  · exact gives_failure

/-- What is read as a statement gives no name a text, or is a line of its own without blocks. -/
theorem assignsNothing_or_simple {inner : Grammar} {block : BlockParser}
    {lexemes rest : List Lexeme} {statements : List Statement}
    (taken : inner.statement block lexemes = some (statements, rest)) :
    NoAssignments statements ∨ inner.simpleStatements lexemes = some (statements, rest) := by
  have ofDefinition : Gives NoAssignments (inner.definition block >>= fun value => pure [value]) :=
    (assignsNothing_definition inner block).bind fun _ silent =>
      gives_pure (by simpa [NoAssignments] using silent)
  unfold statement at taken
  obtain ⟨seen, remaining, looked, taken⟩ := taken_of_bind taken
  cases looked
  split at taken
  · exact .inl (ofDefinition _ _ _ taken)
  · exact .inl (ofDefinition _ _ _ taken)
  · exact .inl (ofDefinition _ _ _ taken)
  · exact .inl (ofDefinition _ _ _ taken)
  · split at taken
    · exact .inl (gives_bind
        (fun _ => gives_bind fun _ => gives_pure noAssignments_other) _ _ _ taken)
    · exact .inr taken
  · -- Without the header of a case distinction nothing has been taken yet.
    obtain ⟨header, later, tried, taken⟩ := taken_of_bind taken
    rw [ifAny_apply] at tried
    cases header with
    | some _ => exact .inl (gives_bind (fun _ => gives_pure noAssignments_other) _ _ _ taken)
    | none =>
      cases matched : inner.matchHeader lexemes with
      | some found => simp [matched] at tried
      | none =>
        rw [matched] at tried
        cases tried
        exact .inr taken

end Reading

/-- The first prefix of a slot tells its tokens, one for each argument.
A name among them means what the class itself gave it last, else the module, else the name.
So do the tokens of every prefix in the class, at whatever depth it stands.
Only lines of their own can give a name a text: a statement with blocks gives none, whatever stands in them. -/
theorem prefixes_of_ofSource {source moduleName : String} {sourcePath : Option String}
    {findings : Findings} (found : ofSource source moduleName sourcePath = .ok findings) :
    (∃ body, readModule source = .ok body ∧
      ∃ listed, ListsMarked body moduleName sourcePath listed findings.containers ∧
        List.Forall₂ (fun reached container =>
            Collects (fun _ chain slot => CountsFirst (MeansIn reached.node.body body)
              (metadataOf chain) slot.prefixTokens) reached.node.body container.slots)
          listed findings.containers ∧
        ∀ reached ∈ listed, ∀ item arguments tokens, IsPrefixCall item arguments →
          SlotMetadata.prefixTokens (resolveName (Constants.ofBody reached.node.body)
            (Constants.ofBody body)) item arguments = .ok tokens →
          ByArgument (MeansIn reached.node.body body) arguments tokens) ∧
    ∀ (inner : Grammar) (block : BlockParser) lexemes statements rest,
      inner.statement block lexemes = some (statements, rest) →
        NoAssignments statements ∨ inner.simpleStatements lexemes = some (statements, rest) := by
  obtain ⟨body, read, inBody⟩ := exists_ofBody_of_ofSource found
  -- Whatever a name is resolved to, it means that in the class.
  have follows : ∀ (classBody : List Statement) name meaning,
      resolveName (Constants.ofBody classBody) (Constants.ofBody body) name = meaning →
        MeansIn classBody body name meaning := by
    rintro classBody name _ rfl
    exact meansIn_resolveName classBody body name
  refine ⟨⟨body, read, _, listsMarked_ofBody inBody, ?_, ?_⟩,
    fun _ _ _ _ _ => assignsNothing_or_simple⟩
  · exact (collects_ofBody inBody).imp fun reached container collects =>
      collects.imp fun _ _ _ declared => declared.countsFirst (follows reached.node.body)
  · intro reached _ item arguments tokens isCall taken
    rcases SlotMetadata.prefixTokens_cases _ isCall with ⟨others, told, same⟩ | ⟨_, _, fails⟩
    · cases taken.symm.trans same
      exact told.byArgument (follows reached.node.body)
    · cases taken.symm.trans fails

/-- A module in which an outer class, an inner one and a condition give a name texts. -/
def shadowedNames : String :=
  "T=S='m'\nclass O:\n T='o'\n @permissions_store\n class A:\n" ++
    "  b:Annotated[str,Prefix(T,S,U)]\n  if 1:T='d'\n  class C:S='c'\n  T='a'\n  T=1\n"

/-- The container of the module. -/
def shadowedContainer : Container where
  name := "A"
  namespacePath := "O"
  reEmittable := false
  slots := [{ identity := "b", prefixTokens := ["a", "m", "U"], canonicalName := "a.m.U.b"
              identity_ne := by decide }]

/-- Neither the outer class nor the inner one nor the condition tells what a name means. -/
theorem prefixes_of_ofSource_shadowedNames :
    ofSource shadowedNames "" = .ok ⟨[(shadowedContainer : Found)], []⟩ ∧
    ∃ body, readModule shadowedNames = .ok body ∧
      ∃ listed, ListsMarked body "" none listed [shadowedContainer] ∧
        List.Forall₂ (fun reached container =>
            Collects (fun _ chain slot => CountsFirst (MeansIn reached.node.body body)
              (metadataOf chain) slot.prefixTokens) reached.node.body container.slots)
          listed [shadowedContainer] := by
  -- What the module declares is computed, and the theorem is applied to that.
  have spelled := @readModule_of_toList shadowedNames _
    (toList_append_of_toList String.toList_ofList String.toList_ofList)
  have found : ofSource shadowedNames "" = .ok ⟨[(shadowedContainer : Found)], []⟩ := by
    rw [ofSource, spelled]
    decide +kernel
  obtain ⟨body, read, listed, lists, collects, -⟩ := (prefixes_of_ofSource found).1
  exact ⟨found, body, read, listed, lists, collects⟩

end PermissionNames.Discovery
