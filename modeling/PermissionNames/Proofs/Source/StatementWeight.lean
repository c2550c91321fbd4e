import PermissionNames.Proofs.Source.ExpressionWeight

/-! What the targets of declarations weigh is no more than the lexemes of the statements that they stand in. -/

namespace PermissionNames.Source

namespace Statement

mutual

/-- What the targets weigh that a statement and the classes in it declare. -/
def weight (expression : Expression → Nat) : Statement → Nat
  | .declaration target _ _ => expression target
  | .classDefinition _ _ _ body => weightOfAll expression body
  | _ => 0

/-- What the targets weigh that statements and the classes in them declare. -/
def weightOfAll (expression : Expression → Nat) : List Statement → Nat
  | [] => 0
  | first :: rest => weight expression first + weightOfAll expression rest

end

/-- Statements weigh what each of them weighs. -/
theorem weightOfAll_eq (expression : Expression → Nat) (statements : List Statement) :
    weightOfAll expression statements = total (weight expression) statements := by
  -- The list of a class body is folded by hand in its definition, so it is compared element by
  -- element.
  induction statements with
  | nil => rfl
  | cons first rest ih => rw [weightOfAll, ih, total_cons]

end Statement

namespace Grammar

open Source.Parser

variable {scale : Scale} {inner : Grammar}

section Patterns

variable {pattern : Parser Unit}

/-- The name that a pattern gives leaves no more than what is in front. -/
theorem passes_captureName : Passes scale.lexeme captureName := by
  -- Any name is taken as one lexeme, and the underscore is then refused.
  refine keeps_next.passes.bind fun lexeme => ?_
  split
  · exact passes_ensure _
  · exact keeps_failure

/-- The number of a pattern leaves no more than what is in front. -/
theorem passes_patternNumber (imaginary : Bool) :
    Passes scale.lexeme (patternNumber imaginary) := by
  -- The number is one lexeme, and what is ensured of its kind takes nothing.
  refine keeps_next.passes.bind fun lexeme => ?_
  split
  · exact passes_ensure _
  · exact passes_ensure _
  · exact keeps_failure

/-- A number with a sign, or a sum, leaves no more than what is in front. -/
theorem passes_complexNumber : Passes scale.lexeme complexNumber := by
  -- A sign, the number and the imaginary part of a sum are taken one after the other, each of them
  -- spent.
  refine (passes_accepts _).bind fun _ => keeps_next.passes.bind fun lexeme => ?_
  split
  · exact passes_pure _
  · refine (passes_accepts _).bind fun isSum => (passes_accepts _).bind fun isDifference => ?_
    split
    · exact passes_patternNumber true
    · exact passes_pure _
  · exact keeps_failure

/-- A literal of a pattern leaves no more than what is in front. -/
theorem passes_literalPattern (inner : Grammar) : Passes scale.lexeme inner.literalPattern := by
  -- Constants are one lexeme, numbers are taken with their signs, and texts as literals that
  -- follow each other.
  unfold literalPattern
  refine Keeps.orElse ?_ (passes_complexNumber.orElse ?_)
  · refine keeps_next.passes.bind fun lexeme => ?_
    split
    · exact passes_pure _
    · exact passes_pure _
    · exact passes_pure _
    · exact keeps_failure
  · exact (keeps_literals inner).passes.bind fun _ => passes_pure _

/-- Further components of a dotted name leave no more than what is in front. -/
theorem passes_dotted (inner : Grammar) : Passes scale.lexeme inner.dotted :=
  Passes.many ((passes_sign ".").bind fun _ => passes_identifier) _

/-- The arguments of a class pattern leave no more than what is in front. -/
theorem passes_classArguments (passes : Passes scale.lexeme pattern) :
    Passes scale.lexeme (inner.classArguments pattern) := by
  -- An argument is a pattern, perhaps with the name of an attribute in front; the list of them is
  -- taken between brackets.
  have argument : Passes scale.lexeme (do
      if ← seesNamed "=" then
        let _ ← identifier
        sign "="
        pattern
        return true
      else
        pattern
        return false) := by
    refine (passes_seesNamed _).bind fun isNamed => ?_
    split
    · refine passes_identifier.bind fun _ => (passes_sign _).bind fun _ => ?_
      exact passes.bind fun _ => passes_pure _
    · exact passes.bind fun _ => passes_pure _
  unfold classArguments
  refine (passes_accepts _).bind fun isClosed => ?_
  split
  · exact passes_pure _
  · refine (argument.commaList _).bind fun found => (passes_ensure _).bind fun _ => ?_
    exact passes_sign _

/-- The entries of a mapping pattern leave no more than what is in front. -/
theorem passes_mappingEntries (passes : Passes scale.lexeme pattern) :
    Passes scale.lexeme (inner.mappingEntries pattern) := by
  -- An entry is a key with a pattern, or the rest of the mapping under a name.
  have key : Passes scale.lexeme inner.patternKey := by
    unfold patternKey
    refine (passes_literalPattern inner).orElse (passes_identifier.bind fun _ => ?_)
    exact (passes_dotted inner).bind fun rest => passes_ensure _
  have entry : Passes scale.lexeme (inner.mappingEntry pattern) := by
    unfold mappingEntry
    refine (passes_accepts _).bind fun isRest => ?_
    split
    · exact passes_captureName.bind fun _ => passes_pure _
    · refine key.bind fun _ => (passes_sign _).bind fun _ => ?_
      exact passes.bind fun _ => passes_pure _
  unfold mappingEntries
  refine (passes_accepts _).bind fun isClosed => ?_
  split
  · exact passes_pure _
  · refine (entry.commaList _).bind fun found => (passes_ensure _).bind fun _ => ?_
    exact passes_sign _

/-- A pattern that may be behind a star leaves no more than what is in front. -/
theorem passes_starPattern (passes : Passes scale.lexeme pattern) :
    Passes scale.lexeme (starPattern pattern) := by
  -- Behind a star there is a name, and without one any pattern.
  have name : Passes scale.lexeme starName := passes_identifier.bind fun _ => passes_pure _
  unfold starPattern
  refine (passes_accepts _).bind fun isStarred => ?_
  split
  · exact name.bind fun _ => passes_pure _
  · exact passes.bind fun _ => passes_pure _

/-- A pattern that starts with a name leaves no more than what is in front. -/
theorem passes_namePattern (passes : Passes scale.lexeme pattern) :
    Passes scale.lexeme (inner.namePattern pattern) := by
  -- A bare name is one lexeme; a dotted one may go on with the arguments of a class.
  unfold namePattern
  refine keeps_next.passes.bind fun lexeme => ?_
  split
  · split
    · exact passes_pure _
    · refine (passes_dotted inner).bind fun _ => (passes_accepts _).bind fun hasArguments => ?_
      split
      · exact passes_classArguments passes
      · exact passes_pure _
  · exact keeps_failure

/-- A pattern without alternatives leaves no more than what is in front. -/
theorem passes_closedPattern (passes : Passes scale.lexeme pattern) :
    Passes scale.lexeme (inner.closedPattern pattern) := by
  -- The brackets tell which of groups, lists and mappings it is, and without brackets it is a
  -- literal or a name.
  have item := passes_starPattern passes
  have group : Passes scale.lexeme (inner.groupPattern pattern) := by
    unfold groupPattern
    refine (passes_accepts _).bind fun isClosed => ?_
    split
    · exact passes_pure _
    · refine (item.commaList _).bind fun found => (passes_ensure _).bind fun _ => ?_
      exact passes_sign _
  have list : Passes scale.lexeme (inner.listPattern pattern) := by
    unfold listPattern
    refine (passes_accepts _).bind fun isClosed => ?_
    split
    · exact passes_pure _
    · exact (item.commaList _).bind fun _ => passes_sign _
  unfold closedPattern
  refine (passes_accepts _).bind fun isGroup => ?_
  split
  · exact group
  · refine (passes_accepts _).bind fun isList => ?_
    split
    · exact list
    · refine (passes_accepts _).bind fun isMapping => ?_
      split
      · exact passes_mappingEntries passes
      · exact (passes_literalPattern inner).orElse (passes_namePattern passes)

/-- The patterns of a case leave no more than what is in front. -/
theorem passes_casePatterns (inner : Grammar) : Passes scale.lexeme inner.casePatterns := by
  -- Patterns inside each other are taken up to a limit, so the induction is on that.
  have within : ∀ limit, Passes scale.lexeme (inner.patternWithin limit) := by
    intro limit
    induction limit with
    | zero => exact keeps_failure
    | succ limit ih =>
      have part : Passes scale.lexeme (inner.closedPattern (inner.patternWithin limit)) :=
        passes_closedPattern ih
      have others : Passes scale.lexeme
          (do sign "|"; inner.closedPattern (inner.patternWithin limit)) :=
        (passes_sign _).bind fun _ => part
      refine part.bind fun _ => (others.many _).bind fun _ => ?_
      refine (passes_accepts _).bind fun isNamed => ?_
      split
      · exact passes_captureName
      · exact passes_pure _
  refine ((passes_starPattern (within _)).commaList _).bind fun found => ?_
  exact passes_ensure _

end Patterns

section Simple

/-- A value that is assigned leaves no more than what is in front. -/
theorem passes_assignedValue (reads : inner.ReadsKept scale) :
    Passes scale.lexeme inner.assignedValue := by
  -- The keyword decides between what is handed out and an expression.
  unfold assignedValue
  refine (passes_sees _).bind fun yields => ?_
  split
  · exact (keeps_yieldExpression reads).passes
  · exact (keeps_starExpressions reads).passes

/-- A chain of assignments weighs nothing. -/
theorem keeps_chain (reads : inner.ReadsKept scale) (targets : List Expression) (limit : Nat) :
    Keeps scale.lexeme 0 (Statement.weight scale.expression) (inner.chain targets limit) := by
  -- Each further target is passed, and the last value is the one that counts, so the targets stay
  -- open.
  induction limit generalizing targets with
  | zero => exact keeps_failure
  | succ limit ih =>
    refine (passes_assignedValue reads).bind fun value => (passes_accepts _).bind fun goesOn => ?_
    split
    · exact (passes_ensure _).bind fun _ => ih _
    · exact keeps_pure (Nat.le_refl _)

/-- What starts with an expression weighs no more than the expression and what is in front. -/
theorem keeps_afterExpression (reads : inner.ReadsKept scale) (first : Expression) :
    Keeps scale.lexeme (scale.expression first) (Statement.weight scale.expression)
      (inner.afterExpression first) := by
  have value := passes_assignedValue reads
  unfold afterExpression
  refine (passes_accepts _).bind fun isTyped => ?_
  split
  · -- Only a declaration hands on its first expression.
    refine (passes_ensure _).bind fun _ => (reads .expression).passes.bind fun type => ?_
    refine (passes_accepts _).bind fun hasValue => ?_
    split
    · exact value.bind fun _ => keeps_pure (Nat.le_refl _)
    · exact keeps_pure (Nat.le_refl _)
  · refine (passes_accepts _).bind fun isAssigned => ?_
    split
    · refine (passes_ensure _).bind fun _ => ?_
      exact (keeps_chain reads _ _).mono (Nat.zero_le _) fun _ => Nat.le_refl _
    · refine (passes_oneOf _).ifAny.bind fun combined => ?_
      split
      · refine (passes_ensure _).bind fun _ => ?_
        exact value.bind fun _ => keeps_pure (Nat.zero_le _)
      · exact keeps_pure (Nat.zero_le _)

/-- Another name for what is imported leaves no more than what is in front. -/
theorem passes_importedAs : Passes scale.lexeme importedAs := by
  -- The name behind the keyword is passed, and nothing is taken without the keyword.
  refine (passes_accepts _).bind fun isNamed => ?_
  split
  · exact passes_identifier.bind fun _ => passes_pure _
  · exact passes_pure _

/-- The modules and names of imports leave no more than what is in front. -/
theorem passes_imports (inner : Grammar) :
    Passes scale.lexeme inner.importModules ∧ Passes scale.lexeme inner.importFrom := by
  -- Both forms are made of the same two parts: names with periods, and names that may be renamed.
  have dottedName : Passes scale.lexeme inner.dottedName := by
    have next : Passes scale.lexeme (do sign "."; identifier) :=
      (passes_sign _).bind fun _ => passes_identifier
    exact passes_identifier.bind fun _ => (next.many _).bind fun _ => passes_pure _
  have names : Passes scale.lexeme inner.importNames := by
    have one : Passes scale.lexeme (do let _ ← identifier; importedAs) :=
      passes_identifier.bind fun _ => passes_importedAs
    have next : Passes scale.lexeme (do sign ","; let _ ← identifier; importedAs) :=
      (passes_sign _).bind fun _ => one
    unfold importNames
    refine (passes_accepts _).bind fun isAll => ?_
    split
    · exact passes_pure _
    · refine (passes_accepts _).bind fun isEnclosed => ?_
      split
      · exact (one.commaList _).bind fun _ => passes_sign _
      · exact one.bind fun _ => (next.many _).bind fun _ => passes_pure _
  constructor
  · have one : Passes scale.lexeme (do inner.dottedName; importedAs) :=
      dottedName.bind fun _ => passes_importedAs
    have next : Passes scale.lexeme (do sign ","; inner.dottedName; importedAs) :=
      (passes_sign _).bind fun _ => one
    exact one.bind fun _ => (next.many _).bind fun _ => passes_pure _
  · have climb : Passes scale.lexeme (sign "." <|> sign "...") :=
      (passes_sign _).orElse (passes_sign _)
    have behind : Passes scale.lexeme (do keyword "import"; inner.importNames) :=
      (passes_keyword _).bind fun _ => names
    refine (climb.many _).bind fun climbs => ?_
    split
    · exact dottedName.bind fun _ => behind
    · exact dottedName.ifAny.bind fun _ => behind

/-- The rest of a statement that starts with a keyword leaves no more than what is in front. -/
theorem passes_keywordStatement (reads : inner.ReadsKept scale) (word : String) :
    Passes scale.lexeme (inner.keywordStatement word) := by
  -- The rests that are more than a value each pass on their own; the keyword only chooses among them.
  have value := (reads .expression).passes
  have raised : Passes scale.lexeme inner.raised := by
    refine value.ifAny.bind fun raised => ?_
    split
    · refine (passes_accepts _).bind fun hasCause => ?_
      split
      · exact value.bind fun _ => passes_pure _
      · exact passes_pure _
    · exact passes_pure _
  have assertion : Passes scale.lexeme inner.assertion := by
    refine value.bind fun _ => (passes_accepts _).bind fun hasMessage => ?_
    split
    · exact value.bind fun _ => passes_pure _
    · exact passes_pure _
  have names : Passes scale.lexeme inner.names := by
    have next : Passes scale.lexeme (do sign ","; identifier) :=
      (passes_sign _).bind fun _ => passes_identifier
    exact passes_identifier.bind fun _ => (next.many _).bind fun _ => passes_pure _
  unfold keywordStatement
  split
  · exact passes_pure _
  · exact passes_pure _
  · exact passes_pure _
  · exact (keeps_starExpressions reads).passes.ifAny.bind fun _ => passes_pure _
  · exact (passes_imports inner).1
  · exact (passes_imports inner).2
  · exact raised
  · exact ((reads .primary).passes.commaList _).bind fun found => passes_ensure _
  · exact assertion
  · exact names
  · exact names
  · exact keeps_failure

/-- A statement that takes part of a line is kept. -/
theorem keeps_simpleStatement (reads : inner.ReadsKept scale) :
    Keeps scale.lexeme 0 (Statement.weight scale.expression) inner.simpleStatement := by
  -- Only what starts with an expression can weigh anything; what a keyword begins is passed and
  -- not kept.
  have starts : Keeps scale.lexeme 0 (Statement.weight scale.expression)
      (inner.starExpressions >>= inner.afterExpression) :=
    (keeps_starExpressions reads).bind fun first => keeps_afterExpression reads first
  unfold simpleStatement
  refine (passes_sees _).bind fun yields => ?_
  split
  · exact (keeps_yieldExpression reads).passes.bind fun _ => keeps_pure (Nat.le_refl _)
  · refine passes_get.bind fun lexemes => ?_
    split
    · split
      · refine keeps_next.passes.bind fun _ => ?_
        exact (passes_keywordStatement reads _).bind fun _ => keeps_pure (Nat.le_refl _)
      · exact starts
    · exact starts

/-- The statements of a line are kept. -/
theorem keeps_simpleStatements (reads : inner.ReadsKept scale) :
    Keeps scale.lexeme 0 (total (Statement.weight scale.expression)) inner.simpleStatements := by
  -- The first statement is kept, and so are those behind semicolons, each beside the others.
  have first := keeps_simpleStatement reads
  have next : Keeps scale.lexeme 0 (Statement.weight scale.expression)
      (do sign ";"; inner.simpleStatement) := (passes_sign _).bind fun _ => first
  refine first.bind fun statement => ((next.many _).after _).bind fun others => ?_
  exact (passes_accepts _).bind fun _ => (passes_expect _).bind fun _ => keeps_pure (Nat.le_refl _)

end Simple

section Blocks

variable {block : BlockParser}

/-- A reader of several statements that keeps what they weigh. -/
def KeepsAll (scale : Scale) (item : Parser (List Statement)) : Prop :=
  Keeps scale.lexeme 0 (total (Statement.weight scale.expression)) item

/-- A block behind a colon leaves no more than what is in front. -/
theorem passes_suite (passes : Passes scale.lexeme block) : Passes scale.lexeme (suite block) :=
  (passes_sign _).bind fun _ => passes.bind fun _ => passes_pure _

/-- An alternative block leaves no more than what is in front. -/
theorem passes_elseSuite (passes : Passes scale.lexeme block) :
    Passes scale.lexeme (elseSuite block) := by
  -- There is a block behind the keyword, and nothing without it.
  refine (passes_accepts _).bind fun isThere => ?_
  split
  · exact passes_suite passes
  · exact passes_pure _

/-- A statement with conditions leaves no more than what is in front. -/
theorem passes_conditional (reads : inner.ReadsKept scale) (passes : Passes scale.lexeme block) :
    Passes scale.lexeme (inner.ifStatement block) ∧
      Passes scale.lexeme (inner.whileStatement block) := by
  -- Both have a condition in front of a block; the first may have more of them before the
  -- alternative.
  have conditional : Passes scale.lexeme (inner.conditionalSuite block) :=
    (keeps_namedExpression reads).passes.bind fun _ => passes_suite passes
  have next : Passes scale.lexeme (do keyword "elif"; inner.conditionalSuite block) :=
    (passes_keyword _).bind fun _ => conditional
  have otherwise := passes_elseSuite passes
  exact ⟨conditional.bind fun _ => (next.many _).bind fun _ => otherwise,
    conditional.bind fun _ => otherwise⟩

/-- A loop over values leaves no more than what is in front. -/
theorem passes_forStatement (reads : inner.ReadsKept scale) (passes : Passes scale.lexeme block) :
    Passes scale.lexeme (inner.forStatement block) := by
  -- The targets and the values are passed, then the block and its alternative.
  refine (passes_starTargets reads).bind fun _ => (passes_keyword _).bind fun _ => ?_
  refine (keeps_starExpressions reads).passes.bind fun _ => ?_
  exact (passes_suite passes).bind fun _ => passes_elseSuite passes

/-- A block with resources leaves no more than what is in front. -/
theorem passes_withStatement (reads : inner.ReadsKept scale) (passes : Passes scale.lexeme block) :
    Passes scale.lexeme (inner.withStatement block) := by
  -- A resource may be given a name, and the list of them may stand in brackets.
  have item : Passes scale.lexeme inner.withItem := by
    refine (reads .expression).passes.bind fun _ => (passes_accepts _).bind fun isNamed => ?_
    split
    · exact (passes_starTarget reads).bind fun _ => passes_pure _
    · exact passes_pure _
  have next : Passes scale.lexeme (do sign ","; inner.withItem) :=
    (passes_sign _).bind fun _ => item
  have items : Passes scale.lexeme inner.withItems := by
    refine Keeps.orElse ?_ ?_
    · refine (passes_sign _).bind fun _ => (item.commaList _).bind fun _ => ?_
      exact (passes_sign _).bind fun _ => passes_sign _
    · exact item.bind fun _ => (next.many _).bind fun _ => passes_sign _
  exact items.bind fun _ => passes.bind fun _ => passes_pure _

/-- A block with handlers leaves no more than what is in front. -/
theorem passes_tryStatement (reads : inner.ReadsKept scale) (passes : Passes scale.lexeme block) :
    Passes scale.lexeme (inner.tryStatement block) := by
  have suite := passes_suite passes
  have final : Passes scale.lexeme (finallySuite block) := by
    refine (passes_accepts _).bind fun isThere => ?_
    split
    · exact suite.bind fun _ => passes_pure _
    · exact passes_pure _
  have handler : ∀ grouped, Passes scale.lexeme (inner.handler block grouped) := by
    refine fun grouped => (passes_keyword _).bind fun _ => ?_
    split
    on_goal 1 => refine (passes_sign _).bind fun _ => ?_
    -- With the star of a group or without, exceptions and the block follow.
    all_goals
      refine (reads .expression).passes.ifAny.bind fun found => ?_
      split
      · exact passes_importedAs.bind fun _ => suite
      · exact (passes_ensure _).bind fun _ => suite
  unfold tryStatement
  refine suite.bind fun _ => final.bind fun isFinal => ?_
  split
  · exact passes_pure _
  · refine Passes.bind ?_ fun _ => (passes_elseSuite passes).bind fun _ =>
      final.bind fun _ => passes_pure _
    exact ((handler false).some1 _).passes.orElse ((handler true).some1 _).passes

/-- A statement with blocks leaves no more than what is in front. -/
theorem passes_blockStatement (reads : inner.ReadsKept scale) (passes : Passes scale.lexeme block)
    (word : String) : Passes scale.lexeme (inner.blockStatement block word) := by
  -- The keyword decides which of the statements it is, and each of them passes.
  unfold blockStatement
  split
  · exact (passes_conditional reads passes).1
  · exact (passes_conditional reads passes).2
  · exact passes_forStatement reads passes
  · exact passes_withStatement reads passes
  · exact passes_tryStatement reads passes
  · refine (passes_accepts _).bind fun isLoop => ?_
    split
    · exact passes_forStatement reads passes
    · exact (passes_keyword _).bind fun _ => passes_withStatement reads passes
  · exact keeps_failure

/-- A function leaves no more than what is in front. -/
theorem passes_functionDefinition (reads : inner.ReadsKept scale)
    (passes : Passes scale.lexeme block) :
    Passes scale.lexeme (inner.functionDefinition block) := by
  -- The name and the parameters are passed, and the result where there is one, before the block.
  unfold functionDefinition
  refine passes_identifier.bind fun _ => (passes_sign _).bind fun _ => ?_
  refine (passes_parameters reads _ _).bind fun _ => (passes_accepts _).bind fun isTyped => ?_
  split
  · exact (reads .expression).passes.bind fun _ => passes_suite passes
  · exact passes_suite passes

/-- A class weighs no more than what is in front. -/
theorem keeps_classDefinition (reads : inner.ReadsKept scale) (keeps : KeepsAll scale block)
    (decorators : List Expression) :
    Keeps scale.lexeme 0 (Statement.weight scale.expression)
      (inner.classDefinition block decorators) := by
  have arguments : Passes scale.lexeme inner.arguments := by
    refine (passes_accepts _).bind fun isEmpty => ?_
    split
    · exact passes_pure _
    · exact (passes_argument reads).bind fun first => passes_moreArguments reads first
  unfold classDefinition
  refine passes_name.bind fun name => (passes_accepts _).bind fun hasBases => ?_
  -- With bases or without, the class weighs what its block weighs.
  have behind : ∀ found, Keeps scale.lexeme 0 (Statement.weight scale.expression) (do
      sign ":"
      return .classDefinition decorators name (positionalArguments found) (← block)) := by
    refine fun found => (passes_sign _).bind fun _ => keeps.bind fun body => keeps_pure ?_
    exact Nat.le_of_eq (Statement.weightOfAll_eq _ body)
  split
  · exact arguments.bind behind
  · exact behind []

/-- A statement that starts with decorators, a class or a function weighs no more than what is in front. -/
theorem keeps_definition (reads : inner.ReadsKept scale) (keeps : KeepsAll scale block) :
    Keeps scale.lexeme 0 (Statement.weight scale.expression) (inner.definition block) := by
  -- The decorators are passed, so only the body of a class is left to weigh.
  have decorator : Passes scale.lexeme (do
      sign "@"
      let value ← inner.namedExpression
      expect .newline
      return value) := by
    refine (passes_sign _).bind fun _ => (keeps_namedExpression reads).passes.bind fun _ => ?_
    exact (passes_expect _).bind fun _ => passes_pure _
  have function := passes_functionDefinition reads keeps.passes
  unfold definition
  refine Passes.bind (decorator.many _) fun decorators => keeps_next.passes.bind fun lexeme => ?_
  split
  · exact keeps_classDefinition reads keeps decorators
  · exact function.bind fun _ => keeps_pure (Nat.le_refl _)
  · exact (passes_keyword _).bind fun _ => function.bind fun _ => keeps_pure (Nat.le_refl _)
  · exact keeps_failure

/-- A case distinction leaves no more than what is in front. -/
theorem passes_match (reads : inner.ReadsKept scale) (passes : Passes scale.lexeme block) :
    Passes scale.lexeme inner.matchHeader ∧ Passes scale.lexeme (inner.cases block) := by
  -- A case is a pattern, perhaps with a condition, in front of a block.
  have item : Passes scale.lexeme (inner.caseBlock block) := by
    refine (passes_word _).bind fun _ => (passes_casePatterns inner).bind fun _ => ?_
    refine (passes_accepts _).bind fun isGuarded => ?_
    split
    · exact (keeps_namedExpression reads).passes.bind fun _ => passes_suite passes
    · exact passes_suite passes
  constructor
  · refine (passes_word _).bind fun _ => ?_
    refine ((keeps_starNamedExpression reads).passes.commaList _).bind fun found => ?_
    refine (passes_ensure _).bind fun _ => (passes_sign _).bind fun _ => ?_
    exact passes_expect _
  · refine (passes_expect _).bind fun _ => (item.some1 _).passes.bind fun _ => ?_
    exact passes_expect _

/-- A statement or the statements of a line are kept. -/
theorem keeps_statement (reads : inner.ReadsKept scale) (keeps : KeepsAll scale block) :
    KeepsAll scale (inner.statement block) := by
  have other : KeepsAll scale (pure [.other]) := keeps_pure (Nat.le_refl _)
  have defined : KeepsAll scale (do return [← inner.definition block]) :=
    (keeps_definition reads keeps).bind fun statement => keeps_pure (Nat.le_refl _)
  have line : KeepsAll scale inner.simpleStatements := keeps_simpleStatements reads
  obtain ⟨header, cases⟩ := passes_match reads keeps.passes
  -- The first lexeme decides: a definition, a block, or else a line, if no case distinction begins.
  unfold statement
  refine passes_get.bind fun lexemes => ?_
  split
  · exact defined
  · exact defined
  · exact defined
  · exact defined
  · split
    · refine keeps_next.passes.bind fun _ => ?_
      exact (passes_blockStatement reads keeps.passes _).bind fun _ => other
    · exact line
  · refine header.ifAny.bind fun isMatch => ?_
    split
    · exact cases.bind fun _ => other
    · exact line

/-- What lists of statements weigh is what their statements weigh. -/
theorem total_flatten (weight : Statement → Nat) (found : List (List Statement)) :
    total weight found.flatten = total (total weight) found := by
  -- The lists are appended one after the other, and the weight of an appended list is a sum.
  induction found with
  | nil => rfl
  | cons first rest ih => rw [List.flatten_cons, total_append, ih, total_cons]

/-- A block is kept, however many blocks stand inside each other. -/
theorem keepsAll_blockWithin (reads : inner.ReadsKept scale) (limit : Nat) :
    KeepsAll scale (inner.blockWithin limit) := by
  -- One level of blocks is taken off the limit, and the statements inside are those of the level
  -- below.
  induction limit with
  | zero => exact keeps_failure
  | succ limit ih =>
    refine (passes_accepts _).bind fun isBlock => ?_
    split
    · refine (passes_expect _).bind fun _ => ?_
      refine Keeps.bind ((keeps_statement reads ih).some1 _) fun found => ?_
      exact (passes_expect _).bind fun _ => keeps_pure (Nat.le_of_eq (total_flatten _ found))
    · exact keeps_simpleStatements reads

/-- The statements of a text are kept. -/
theorem keepsAll_statements (length : Nat) : KeepsAll scale (ofLength length).statements := by
  -- Each statement is kept with as many blocks inside it as the layout allows, so all of them are.
  have reads : (ofLength length).ReadsKept scale := readsKept_readWithin _ _
  have each := keeps_statement reads (keepsAll_blockWithin reads (Layout.blockLimit + 1))
  refine Keeps.bind (each.many _) fun found => passes_atEnd.bind fun isEnded => ?_
  exact (passes_ensure _).bind fun _ => keeps_pure (Nat.le_of_eq (total_flatten _ found))

end Blocks

end Grammar

end PermissionNames.Source
