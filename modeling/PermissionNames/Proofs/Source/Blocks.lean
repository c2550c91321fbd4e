import PermissionNames.Proofs.Source.Parser
import PermissionNames.Source.Grammar.Compound

/-! Classes come from definitions alone: whatever stands in the blocks of other statements is not kept. -/

namespace PermissionNames.Source

namespace Parser

variable {α β : Type} {kept : α → Prop}

/-- A sequence that succeeds has done so step by step. -/
theorem taken_of_bind {first : Parser β} {next : β → Parser α} {lexemes rest : List Lexeme}
    {value : α} (taken : (first >>= next) lexemes = some (value, rest)) :
    ∃ middle remaining, first lexemes = some (middle, remaining) ∧
      next middle remaining = some (value, rest) := by
  -- The reader is unfolded once here, so that later proofs go on from both steps.
  rw [bind_apply] at taken
  obtain ⟨⟨middle, remaining⟩, started, ended⟩ := Option.bind_eq_some_iff.mp taken
  exact ⟨middle, remaining, started, ended⟩

/-- A reader that only gives values of a kind. -/
def Gives (kept : α → Prop) (item : Parser α) : Prop :=
  ∀ lexemes value rest, item lexemes = some (value, rest) → kept value

/-- A value of the kind is given. -/
theorem gives_pure {value : α} (good : kept value) : Gives kept (pure value) := by
  -- The value that is given is the one that is known.
  intro lexemes found rest taken
  rw [pure_apply] at taken
  cases taken
  exact good

/-- A refusal gives nothing. -/
theorem gives_failure : Gives kept (failure : Parser α) := by
  -- There is no value to speak of.
  intro lexemes found rest taken
  cases taken

/-- A sequence gives what its last step gives after what its first step gives. -/
theorem Gives.bind {first : Parser β} {next : β → Parser α} {middle : β → Prop}
    (start : Gives middle first) (last : ∀ value, middle value → Gives kept (next value)) :
    Gives kept (first >>= next) := by
  -- The value in the middle is of the kind that the last step counts on.
  intro lexemes found rest taken
  obtain ⟨value, later, started, ended⟩ := taken_of_bind taken
  exact last value (start _ _ _ started) _ _ _ ended

/-- A sequence gives what its last step gives after anything. -/
theorem gives_bind {first : Parser β} {next : β → Parser α}
    (last : ∀ value, Gives kept (next value)) : Gives kept (first >>= next) := by
  -- Nothing is needed of the value in the middle.
  have start : Gives (fun _ => True) first := fun _ _ _ _ => trivial
  exact start.bind fun value _ => last value

/-- What is taken several times is of the kind each time. -/
theorem gives_many {item : Parser α} (each : Gives kept item) (limit : Nat) :
    Gives (fun values => ∀ value ∈ values, kept value) (many item limit) := by
  -- Each round gives one value, so the induction is on the rounds.
  induction limit with
  | zero => exact gives_pure (by simp)
  | succ limit ih =>
    intro lexemes found rest taken
    rw [many] at taken
    dsimp only at taken
    split at taken
    · cases taken
      simp
    · rename_i first later firstTaken
      obtain ⟨⟨others, remaining⟩, othersTaken, same⟩ := Option.map_eq_some_iff.mp taken
      cases same
      simp only [List.mem_cons, forall_eq_or_imp]
      exact ⟨each _ _ _ firstTaken, ih _ _ _ othersTaken⟩

end Parser

namespace Grammar

open Source.Parser

/-- A statement that is no class. -/
def NoClass (statement : Statement) : Prop :=
  ∀ decorators name bases body, statement ≠ .classDefinition decorators name bases body

/-- What is not kept is no class. -/
theorem noClass_other : NoClass .other := by
  simp [NoClass]

/-- Statements none of which is a class. -/
def NoClasses (statements : List Statement) : Prop :=
  ∀ statement ∈ statements, NoClass statement

/-- A single statement that is not kept holds no class. -/
theorem noClasses_other : NoClasses [.other] := by
  simpa [NoClasses] using noClass_other

/-- A chain of assignments is no class. -/
theorem noClass_chain (inner : Grammar) (targets : List Expression) (limit : Nat) :
    Gives NoClass (inner.chain targets limit) := by
  -- The targets grow with each round, so they stay open.
  induction limit generalizing targets with
  | zero => exact gives_failure
  | succ limit ih =>
    refine gives_bind fun value => gives_bind fun more => ?_
    split
    · exact gives_bind fun _ => ih _
    · exact gives_pure (by simp [NoClass])

/-- What starts with an expression is no class. -/
theorem noClass_afterExpression (inner : Grammar) (first : Expression) :
    Gives NoClass (inner.afterExpression first) := by
  -- There are declarations, assignments, combinations and expressions, none of which is a class.
  unfold afterExpression
  have declaration : ∀ type value, NoClass (.declaration first type value) := by simp [NoClass]
  refine gives_bind fun typed => ?_
  split
  · refine gives_bind fun _ => gives_bind fun type => gives_bind fun valued => ?_
    split
    · exact gives_bind fun value => gives_pure (declaration type value)
    · exact gives_pure (declaration type none)
  · refine gives_bind fun assigned => ?_
    split
    · exact gives_bind fun _ => noClass_chain inner [first] inner.limit
    · refine gives_bind fun combined => ?_
      split
      · exact gives_bind fun _ => gives_bind fun _ => gives_pure noClass_other
      · exact gives_pure noClass_other

/-- A statement that takes part of a line is no class. -/
theorem noClass_simpleStatement (inner : Grammar) : Gives NoClass inner.simpleStatement := by
  -- A keyword or an expression begins it, and neither of them leads to a class.
  unfold simpleStatement
  refine gives_bind fun yields => ?_
  split
  · exact gives_bind fun _ => gives_pure noClass_other
  · refine gives_bind fun lexemes => ?_
    split
    · split
      · exact gives_bind fun _ => gives_bind fun _ => gives_pure noClass_other
      · exact gives_bind fun first => noClass_afterExpression inner first
    · exact gives_bind fun first => noClass_afterExpression inner first

/-- The statements of a line hold no class. -/
theorem noClasses_simpleStatements (inner : Grammar) :
    Gives NoClasses inner.simpleStatements := by
  -- The first statement and those behind semicolons are each no class.
  refine (noClass_simpleStatement inner).bind fun first firstGood => ?_
  have next : Gives NoClass (do sign ";"; inner.simpleStatement) :=
    gives_bind fun _ => noClass_simpleStatement inner
  refine (gives_many next inner.limit).bind fun others othersGood => ?_
  exact gives_bind fun _ => gives_bind fun _ => gives_pure
    (List.forall_mem_cons.mpr ⟨firstGood, othersGood⟩)

/-- A class that is read from lexemes: decorators and the keyword announce it, and its statements are those of its block. -/
def ReadsClass (inner : Grammar) (block : BlockParser) (lexemes rest : List Lexeme)
    (statement : Statement) : Prop :=
  ∃ decorators name bases body afterKeyword beforeBlock,
    inner.decorators lexemes = some (decorators, .keyword "class" :: afterKeyword) ∧
    block beforeBlock = some (body, rest) ∧
    statement = .classDefinition decorators name bases body

/-- A definition is a class that its keyword announces, or no class. -/
theorem readsClass_or_noClass_of_definition {inner : Grammar} {block : BlockParser}
    {lexemes rest : List Lexeme} {statement : Statement}
    (taken : inner.definition block lexemes = some (statement, rest)) :
    ReadsClass inner block lexemes rest statement ∨ NoClass statement := by
  unfold definition at taken
  obtain ⟨decorators, behind, decorated, announcing⟩ := taken_of_bind taken
  obtain ⟨lexeme, afterKeyword, announced, defined⟩ := taken_of_bind announcing
  obtain rfl : behind = lexeme :: afterKeyword := by
    cases behind <;> cases announced
    rfl
  split at defined
  · unfold classDefinition at defined
    obtain ⟨name, _, -, defined⟩ := taken_of_bind defined
    obtain ⟨hasBases, _, -, defined⟩ := taken_of_bind defined
    -- With bases or without, the block comes behind a colon.
    have behindColon : ∀ found start,
        (do
          sign ":"
          return .classDefinition decorators name (positionalArguments found) (← block) :
            Parser Statement) start = some (statement, rest) →
          ReadsClass inner block lexemes rest statement := by
      intro found start taken
      obtain ⟨_, beforeBlock, -, taken⟩ := taken_of_bind taken
      obtain ⟨body, remaining, blockTaken, same⟩ := taken_of_bind taken
      cases same
      exact ⟨decorators, name, _, body, afterKeyword, beforeBlock, decorated, blockTaken, rfl⟩
    dsimp only at defined
    split at defined
    · obtain ⟨found, _, -, defined⟩ := taken_of_bind defined
      exact .inl (behindColon _ _ defined)
    · exact .inl (behindColon [] _ defined)
  · exact .inr (gives_bind (fun _ => gives_pure noClass_other) _ _ _ defined)
  · exact .inr (gives_bind (fun _ => gives_bind fun _ => gives_pure noClass_other) _ _ _ defined)
  · cases defined

/-- What is read as a statement is a class that its keyword announces, or holds no class, whatever stands in its blocks. -/
theorem readsClass_or_noClasses {inner : Grammar} {block : BlockParser}
    {lexemes rest : List Lexeme} {found : List Statement}
    (taken : inner.statement block lexemes = some (found, rest)) :
    (∃ statement, found = [statement] ∧ ReadsClass inner block lexemes rest statement) ∨
      NoClasses found := by
  have ofDefinition : (inner.definition block >>= fun value => pure [value]) lexemes =
      some (found, rest) →
      (∃ statement, found = [statement] ∧ ReadsClass inner block lexemes rest statement) ∨
        NoClasses found := by
    intro taken
    obtain ⟨statement, remaining, defined, same⟩ := taken_of_bind taken
    cases same
    rcases readsClass_or_noClass_of_definition defined with isClass | noClass
    · exact .inl ⟨statement, rfl, isClass⟩
    · exact .inr (by simpa [NoClasses] using noClass)
  unfold statement at taken
  obtain ⟨seen, remaining, looked, taken⟩ := taken_of_bind taken
  cases looked
  -- Only a definition can be a class; all other statements keep nothing of their blocks.
  split at taken
  · exact ofDefinition taken
  · exact ofDefinition taken
  · exact ofDefinition taken
  · exact ofDefinition taken
  · right
    split at taken
    · exact gives_bind (fun _ => gives_bind fun _ => gives_pure noClasses_other) _ _ _ taken
    · exact noClasses_simpleStatements inner _ _ _ taken
  · right
    refine gives_bind (fun header => ?_) _ _ _ taken
    split
    · exact gives_bind fun _ => gives_pure noClasses_other
    · exact noClasses_simpleStatements inner

end Grammar

end PermissionNames.Source
