import PermissionNames.Proofs.Source.Weight

/-! What an expression weighs where an operand or a type goes on is no more than the lexemes that it is read from. -/

namespace PermissionNames.Source

/-- Whether an expression may weigh something: a name, a text, an index, or a tuple that is not empty. -/
def Expression.mayWeigh : Expression → Bool
  | .name _ => true
  | .constant (.text ..) => true
  | .subscript .. => true
  | .tuple (_ :: _) => true
  | _ => false

/-- A scale for lexemes and expressions, on which names and texts come from lexemes and an index or the first of several elements stands for the whole. -/
structure Scale where
  lexeme : Lexeme → Nat
  expression : Expression → Nat
  light : ∀ {value : Expression}, value.mayWeigh = false → expression value = 0
  name : ∀ spelling, expression (.name spelling.normalize) ≤ lexeme (.name spelling)
  text : ∀ {literals : List Quotation} {texts : List LiteralText} (marked : Bool),
    Grammar.plainTexts literals = some texts → literals ≠ [] →
      expression (.constant (.text (.join texts) marked)) ≤
        total (fun value => lexeme (.quotation value)) literals
  subscript : ∀ operand index, expression (.subscript operand index) ≤ expression index
  tuple : ∀ first rest, expression (.tuple (first :: rest)) ≤ expression first

namespace Scale

variable {scale : Scale}

/-- What weighs nothing weighs no more than anything. -/
theorem light_le {value : Expression} (light : value.mayWeigh = false) (spent : Nat) :
    scale.expression value ≤ spent :=
  Nat.le_trans (Nat.le_of_eq (scale.light light)) (Nat.zero_le _)

/-- Elements weigh no more than the first of them, also if one alone stands for itself. -/
theorem asTuple_le (found : List Expression × Bool) :
    scale.expression (Grammar.asTuple found) ≤ found.1.head?.elim 0 scale.expression := by
  -- A single element without a comma stands for itself; everything else is a tuple, whose first
  -- element counts.
  obtain ⟨_ | ⟨first, _ | ⟨second, others⟩⟩, _ | _⟩ := found
  · exact light_le rfl _
  · exact light_le rfl _
  · exact Nat.le_refl _
  · exact scale.tuple _ _
  · exact scale.tuple _ _
  · exact scale.tuple _ _

end Scale

namespace Grammar

open Source.Parser

variable {scale : Scale} {inner : Grammar}

/-- A reader of expressions that keeps what it takes on a scale. -/
def Balances (scale : Scale) (item : Parser Expression) : Prop :=
  Keeps scale.lexeme 0 scale.expression item

/-- Whether all expressions inside others are kept. -/
def ReadsKept (scale : Scale) (inner : Grammar) : Prop :=
  ∀ rule, Balances scale (inner.read rule)

/-- An expression that weighs nothing is kept after anything. -/
theorem keeps_light {spent : Nat} {value : Expression} (light : value.mayWeigh = false) :
    Keeps scale.lexeme spent scale.expression (pure value) :=
  keeps_pure (Scale.light_le light spent)

/-- An expression or one behind a star is kept. -/
theorem keeps_starExpression (reads : inner.ReadsKept scale) :
    Balances scale inner.starExpression := by
  -- What is behind a star weighs nothing, and without a star it is an expression.
  unfold starExpression
  refine (passes_accepts _).bind fun isStarred => ?_
  split
  · exact (reads .bitOr).passes.bind fun _ => keeps_light rfl
  · exact reads .expression

/-- Expressions between commas are kept. -/
theorem keeps_starExpressions (reads : inner.ReadsKept scale) :
    Balances scale inner.starExpressions :=
  ((keeps_starExpression reads).commaList _).map Scale.asTuple_le

/-- An expression that may be given a name is kept. -/
theorem keeps_namedExpression (reads : inner.ReadsKept scale) :
    Balances scale inner.namedExpression := by
  -- What is given a name weighs nothing, and without a name it is an expression.
  unfold namedExpression
  refine (passes_seesNamed _).bind fun isNamed => ?_
  split
  · refine passes_identifier.bind fun target => (passes_sign _).bind fun _ => ?_
    exact (reads .expression).passes.bind fun _ => keeps_light rfl
  · exact reads .expression

/-- An expression that may be given a name or be behind a star is kept. -/
theorem keeps_starNamedExpression (reads : inner.ReadsKept scale) :
    Balances scale inner.starNamedExpression := by
  -- Behind a star nothing weighs, and without a star it may be given a name.
  unfold starNamedExpression
  refine (passes_accepts _).bind fun isStarred => ?_
  split
  · exact (reads .bitOr).passes.bind fun _ => keeps_light rfl
  · exact keeps_namedExpression reads

/-- A value that is handed out is kept. -/
theorem keeps_yieldExpression (reads : inner.ReadsKept scale) :
    Balances scale inner.yieldExpression := by
  -- Whatever is handed out is passed, and the expression around it weighs nothing.
  unfold yieldExpression
  refine (passes_keyword _).bind fun _ => (passes_accepts _).bind fun delegates => ?_
  split
  · exact (reads .expression).passes.bind fun _ => keeps_light rfl
  · exact (keeps_starExpressions reads).passes.ifAny.bind fun _ => keeps_light rfl

/-- A target leaves no more than what is in front. -/
theorem passes_starTarget (reads : inner.ReadsKept scale) :
    Passes scale.lexeme inner.starTarget := by
  -- What is ensured of a target takes nothing, whether it stands behind a star or not.
  have primary := (reads .primary).passes
  have ensured : ∀ value : Expression,
      Passes scale.lexeme (do ensure value.isStarTarget; return value) :=
    fun value => (passes_ensure _).bind fun _ => passes_pure _
  unfold starTarget
  refine (passes_accepts _).bind fun isStarred => ?_
  split
  · exact Passes.bind (primary.map fun _ => Nat.le_refl _) ensured
  · exact primary.bind ensured

/-- Targets between commas leave no more than what is in front. -/
theorem passes_starTargets (reads : inner.ReadsKept scale) :
    Passes scale.lexeme inner.starTargets :=
  ((passes_starTarget reads).commaList _).map fun _ => Nat.le_refl _

/-- The loops of a comprehension leave no more than what is in front. -/
theorem passes_clauses (reads : inner.ReadsKept scale) : Passes scale.lexeme inner.clauses := by
  -- A loop has its targets, its source and then any number of conditions, all of them passed.
  have condition : Passes scale.lexeme (do keyword "if"; inner.read .disjunction) :=
    (passes_keyword _).bind fun _ => (reads .disjunction).passes
  have clause : Passes scale.lexeme inner.clause := by
    unfold clause
    refine (passes_accepts _).bind fun isAsync => (passes_keyword _).bind fun _ => ?_
    refine (passes_starTargets reads).bind fun target => (passes_keyword _).bind fun _ => ?_
    refine (reads .disjunction).passes.bind fun source => ?_
    exact (condition.many _).bind fun conditions => keeps_pure (Nat.le_refl _)
  exact (Keeps.some1 clause _).passes

/-- A look ahead for a loop takes nothing. -/
theorem passes_seesClause : Passes scale.lexeme seesClause :=
  (passes_sees _).bind fun _ => (passes_sees _).bind fun _ => keeps_pure (Nat.le_refl _)

/-- What follows an opening parenthesis is kept. -/
theorem keeps_parenthesized (reads : inner.ReadsKept scale) :
    Balances scale inner.parenthesized := by
  have element := keeps_starNamedExpression reads
  unfold parenthesized
  refine (passes_accepts _).bind fun isClosed => ?_
  split
  · exact keeps_light rfl
  · refine (passes_sees _).bind fun yields => ?_
    split
    · refine (keeps_yieldExpression reads).bind fun value => ?_
      exact (passes_sign _).bind fun _ => keeps_pure (Nat.le_refl _)
    · refine element.bind fun first => (passes_accepts _).bind fun hasComma => ?_
      split
      · refine (element.passes.commaList _).ifAny.bind fun rest => ?_
        exact (passes_sign _).bind fun _ => keeps_pure (scale.tuple _ _)
      · refine (passes_ensure _).bind fun _ => passes_seesClause.bind fun hasLoops => ?_
        -- With loops a generator is built, which weighs nothing.
        have closed : ∀ loops : List Clause,
            Keeps scale.lexeme (scale.expression first) scale.expression (do
              sign ")"
              return if loops.isEmpty then first else .comprehension .generator first loops) := by
          refine fun loops => (passes_sign _).bind fun _ => keeps_pure ?_
          split
          · exact Nat.le_refl _
          · exact Scale.light_le rfl _
        split
        · exact (passes_clauses reads).bind closed
        · exact closed []

/-- An expression in square brackets weighs nothing. -/
theorem keeps_bracketed (reads : inner.ReadsKept scale) : Balances scale inner.bracketed := by
  -- Neither a list nor a comprehension is a type, so what stands inside is passed.
  have element := (keeps_starNamedExpression reads).passes
  have next : Passes scale.lexeme (do sign ","; inner.starNamedExpression) :=
    (passes_sign ",").bind fun _ => element
  unfold bracketed
  refine (passes_accepts _).bind fun isClosed => ?_
  split
  · exact keeps_light rfl
  · refine element.bind fun first => passes_seesClause.bind fun hasLoops => ?_
    split
    · refine (passes_ensure _).bind fun _ => (passes_clauses reads).bind fun loops => ?_
      exact (passes_sign _).bind fun _ => keeps_light rfl
    · refine (next.many _).bind fun others => (passes_accepts _).bind fun _ => ?_
      exact (passes_sign _).bind fun _ => keeps_light rfl

/-- An entry of a mapping leaves no more than what is in front. -/
theorem passes_entry (reads : inner.ReadsKept scale) : Passes scale.lexeme inner.entry := by
  -- An entry is another mapping behind two stars, or a key and a value.
  have value := (reads .expression).passes
  unfold entry
  refine (passes_accepts _).bind fun isMerged => ?_
  split
  · exact (reads .bitOr).passes.bind fun _ => keeps_pure (Nat.le_refl _)
  · refine value.bind fun key => (passes_sign _).bind fun _ => ?_
    exact value.bind fun _ => keeps_pure (Nat.le_refl _)

/-- A mapping weighs nothing. -/
theorem keeps_moreEntries (reads : inner.ReadsKept scale) (first : Option Expression × Expression) :
    Balances scale (inner.moreEntries first) := by
  -- All further entries are passed, and the mapping itself weighs nothing.
  have next : Passes scale.lexeme (do sign ","; inner.entry) :=
    (passes_sign ",").bind fun _ => passes_entry reads
  unfold moreEntries
  refine (next.many _).bind fun others => (passes_accepts _).bind fun _ => ?_
  exact (passes_sign _).bind fun _ => keeps_light rfl

/-- An expression in braces weighs nothing. -/
theorem keeps_braced (reads : inner.ReadsKept scale) : Balances scale inner.braced := by
  have element := (keeps_starNamedExpression reads).passes
  have next : Passes scale.lexeme (do sign ","; inner.starNamedExpression) :=
    (passes_sign ",").bind fun _ => element
  -- What is built from loops stands in front of the closing brace.
  have closed : ∀ value : Expression, value.mayWeigh = false →
      Balances scale (do sign "\x7d"; return value) :=
    fun value light => (passes_sign _).bind fun _ => keeps_light light
  unfold braced
  refine (passes_accepts _).bind fun isClosed => ?_
  split
  · exact keeps_light rfl
  · refine (passes_sees _).bind fun isMerged => ?_
    split
    · exact (passes_entry reads).bind fun first => keeps_moreEntries reads first
    · refine (passes_seesNamed _).bind fun isNamed => element.bind fun first => ?_
      refine (passes_accepts _).bind fun isMapping => ?_
      split
      · refine (passes_ensure _).bind fun _ => (reads .expression).passes.bind fun value => ?_
        refine passes_seesClause.bind fun hasLoops => ?_
        split
        · exact (passes_clauses reads).bind fun loops => closed _ rfl
        · exact keeps_moreEntries reads _
      · refine passes_seesClause.bind fun hasLoops => ?_
        split
        · refine (passes_ensure _).bind fun _ => ?_
          exact (passes_clauses reads).bind fun loops => closed _ rfl
        · refine (next.many _).bind fun others => (passes_accepts _).bind fun _ => ?_
          exact closed _ rfl

/-- What literals are joined to weighs no more than they do. -/
theorem joinLiterals_le {literals : List Quotation} {value : Expression}
    (joined : inner.joinLiterals literals = some value) :
    scale.expression value ≤ total (fun value => scale.lexeme (.quotation value)) literals := by
  unfold joinLiterals at joined
  split at joined
  · obtain ⟨parts, -, same⟩ := Option.bind_eq_some_iff.mp joined
    cases same
    exact Scale.light_le rfl _
  · split at joined
    · cases joined
      exact Scale.light_le rfl _
    · rename_i texts noBytes plain
      cases joined
      refine scale.text _ plain ?_
      -- Without any literal there would be bytes.
      rintro rfl
      cases noBytes
    · cases joined

/-- Literals that follow each other are kept. -/
theorem keeps_literals (inner : Grammar) : Balances scale inner.literals := by
  -- Each literal weighs what it gives, and the joined text is no heavier than all of them.
  have quotation : Keeps scale.lexeme 0 (fun value => scale.lexeme (.quotation value))
      Grammar.quotation := by
    refine keeps_next.bind fun lexeme => ?_
    split
    · exact keeps_pure (Nat.le_refl _)
    · exact keeps_failure
  refine (quotation.some1 _).bind fun found => ?_
  split
  · exact keeps_pure (joinLiterals_le ‹_›)
  · exact keeps_failure

/-- A name, a constant or a bracketed expression is kept. -/
theorem keeps_atom (reads : inner.ReadsKept scale) : Balances scale inner.atom := by
  unfold atom
  refine passes_get.bind fun lexemes => ?_
  split
  · exact keeps_literals inner
  · -- A name weighs what its lexeme weighs, and what stands in brackets starts anew.
    refine keeps_next.bind fun lexeme => ?_
    have anew : ∀ {item : Parser Expression}, Balances scale item →
        Keeps scale.lexeme (scale.lexeme lexeme) scale.expression item :=
      fun balances => balances.mono (Nat.zero_le _) fun _ => Nat.le_refl _
    split
    · exact keeps_pure (scale.name _)
    · exact keeps_light rfl
    · exact keeps_light rfl
    · exact keeps_light rfl
    · exact keeps_light rfl
    · exact keeps_light rfl
    · exact anew (keeps_parenthesized reads)
    · exact anew (keeps_bracketed reads)
    · exact anew (keeps_braced reads)
    · exact keeps_failure

/-- A slice or an expression is kept. -/
theorem keeps_sliceOrIndex (reads : inner.ReadsKept scale) :
    Balances scale inner.sliceOrIndex := by
  -- Only an index without colons can weigh anything: a slice is passed and weighs nothing.
  have part := (reads .expression).passes.ifAny
  unfold sliceOrIndex
  refine (passes_seesNamed _).bind fun isNamed => ?_
  split
  · exact keeps_namedExpression reads
  · refine (reads .expression).ifAny.bind fun lower => (passes_accepts _).bind fun isSlice => ?_
    split
    · refine part.bind fun upper => (passes_accepts _).bind fun hasStep => ?_
      split
      · exact part.bind fun step => keeps_light rfl
      · exact keeps_light rfl
    · split
      · exact keeps_pure (Nat.le_refl _)
      · exact keeps_failure

/-- The inside of an index is kept. -/
theorem keeps_index (reads : inner.ReadsKept scale) : Balances scale inner.index := by
  -- Of several elements the first counts, which is the one that a wrapper hands on.
  have item : Balances scale inner.indexItem := by
    unfold indexItem
    refine (passes_accepts _).bind fun isStarred => ?_
    split
    · exact (reads .expression).passes.bind fun _ => keeps_light rfl
    · exact keeps_sliceOrIndex reads
  exact (Keeps.commaList item _).bind fun found => keeps_pure (Scale.asTuple_le _)

/-- An argument of a call leaves no more than what is in front. -/
theorem passes_argument (reads : inner.ReadsKept scale) : Passes scale.lexeme inner.argument := by
  -- Whichever form an argument has, it ends with an expression, which is passed.
  have value := (reads .expression).passes
  unfold argument
  refine (passes_accepts _).bind fun isStarred => ?_
  split
  · exact value.bind fun _ => keeps_pure (Nat.le_refl _)
  · refine (passes_accepts _).bind fun isMapping => ?_
    split
    · exact value.bind fun _ => keeps_pure (Nat.le_refl _)
    · refine (passes_seesNamed _).bind fun isNamed => ?_
      split
      · refine passes_identifier.bind fun name => (passes_sign _).bind fun _ => ?_
        exact value.bind fun _ => keeps_pure (Nat.le_refl _)
      · exact (keeps_namedExpression reads).passes.bind fun _ => keeps_pure (Nat.le_refl _)

/-- More arguments leave no more than what is in front. -/
theorem passes_moreArguments (reads : inner.ReadsKept scale) (first : Argument) :
    Passes scale.lexeme (inner.moreArguments first) := by
  -- The arguments behind commas are passed, and what is ensured of their order takes nothing.
  have next : Passes scale.lexeme (do sign ","; inner.argument) :=
    (passes_sign ",").bind fun _ => passes_argument reads
  unfold moreArguments
  refine (next.many _).bind fun others => (passes_accepts _).bind fun _ => ?_
  refine (passes_sign _).bind fun _ => (passes_ensure _).bind fun _ => ?_
  exact keeps_pure (Nat.le_refl _)

/-- A call weighs nothing. -/
theorem keeps_call (reads : inner.ReadsKept scale) (function : Expression) :
    Balances scale (inner.call function) := by
  -- Neither arguments nor the loops of a comprehension count in a call.
  unfold call
  refine (passes_accepts _).bind fun isEmpty => ?_
  split
  · exact keeps_light rfl
  · refine (passes_argument reads).bind fun first => passes_seesClause.bind fun hasLoops => ?_
    split
    · refine (passes_ensure _).bind fun _ => (passes_clauses reads).bind fun loops => ?_
      exact (passes_sign _).bind fun _ => keeps_light rfl
    · exact (passes_moreArguments reads _).bind fun _ => keeps_light rfl

/-- What follows an operand once is kept; the operand itself goes on no longer. -/
theorem keeps_trailer (reads : inner.ReadsKept scale) (operand : Expression) :
    Balances scale (inner.trailer operand) := by
  -- A member and a call weigh nothing; an index weighs what stands in it.
  unfold trailer
  refine keeps_next.passes.bind fun lexeme => ?_
  split
  · exact passes_identifier.bind fun _ => keeps_light rfl
  · exact keeps_call reads operand
  · refine (keeps_index reads).bind fun value => ?_
    exact (passes_sign _).bind fun _ => keeps_pure (scale.subscript _ _)
  · exact keeps_failure

/-- An operand with what follows it is kept. -/
theorem keeps_trailers (reads : inner.ReadsKept scale) (limit : Nat) (operand : Expression) :
    Keeps scale.lexeme (scale.expression operand) scale.expression
      (inner.trailers limit operand) := by
  -- The operand so far is what was spent, so it stays open while the trailers are taken.
  induction limit generalizing operand with
  | zero => exact keeps_pure (Nat.le_refl _)
  | succ limit ih =>
    intro lexemes value rest taken
    rw [trailers] at taken
    dsimp only at taken
    split at taken
    · cases taken
      exact Nat.le_refl _
    · rename_i longer later first
      have here := keeps_trailer reads operand _ _ _ first
      have behind := ih longer _ _ _ taken
      omega

/-- An operand is kept. -/
theorem keeps_primary (reads : inner.ReadsKept scale) : Balances scale inner.primary :=
  (keeps_atom reads).bind fun operand => keeps_trailers reads _ operand

/-- Operands and the operators between them are kept. -/
theorem keeps_leftGrouped {operators : List (String × BinaryOperator)}
    {operand : Parser Expression} (keeps : Balances scale operand) :
    Balances scale (inner.leftGrouped operators operand) := by
  have step : Passes scale.lexeme
      (do let operator ← oneOf operators; return (operator, ← operand)) :=
    (passes_oneOf _).bind fun _ => keeps.passes.bind fun _ => keeps_pure (Nat.le_refl _)
  refine keeps.bind fun first => (step.many _).bind fun others => keeps_pure ?_
  -- Only without an operator is the whole more than an operation.
  induction others generalizing first with
  | nil => exact Nat.le_refl _
  | cons next later ih => exact Nat.le_trans (ih _) (Scale.light_le rfl _)

/-- An operand with signs in front is kept. -/
theorem keeps_factor (reads : inner.ReadsKept scale) : Balances scale inner.factor := by
  -- An operation weighs nothing, so behind an operator it is enough that the operand passes.
  have primary := keeps_primary reads
  have operand := (reads .factor).passes
  have awaited : Balances scale inner.awaited := by
    refine (passes_accepts _).bind fun waits => ?_
    split
    · exact primary.passes.bind fun _ => keeps_light rfl
    · exact primary
  have power : Balances scale inner.power := by
    refine awaited.bind fun base => (passes_accepts _).bind fun isRaised => ?_
    split
    · exact operand.bind fun _ => keeps_light rfl
    · exact keeps_pure (Nat.le_refl _)
  unfold factor
  refine (passes_accepts _).bind fun isPlus => ?_
  split
  · exact operand.bind fun _ => keeps_light rfl
  · refine (passes_accepts _).bind fun isMinus => ?_
    split
    · exact operand.bind fun _ => keeps_light rfl
    · refine (passes_accepts _).bind fun isInverted => ?_
      split
      · exact operand.bind fun _ => keeps_light rfl
      · exact power

/-- Operands between operators on bits are kept. -/
theorem keeps_bitOr (reads : inner.ReadsKept scale) : Balances scale inner.bitOr := by
  -- The operators are grouped by rank, each level keeping what the one below it keeps.
  have product : Balances scale inner.product := keeps_leftGrouped (keeps_factor reads)
  have shift : Balances scale inner.shift := keeps_leftGrouped (keeps_leftGrouped product)
  exact keeps_leftGrouped (keeps_leftGrouped (keeps_leftGrouped shift))

/-- A relation leaves no more than what is in front. -/
theorem passes_relation : Passes scale.lexeme relation := by
  -- Every relation is one lexeme or two, none of which counts.
  unfold relation
  refine keeps_next.passes.bind fun lexeme => ?_
  split
  · exact keeps_pure (Nat.le_refl _)
  · exact keeps_pure (Nat.le_refl _)
  · exact keeps_pure (Nat.le_refl _)
  · exact keeps_pure (Nat.le_refl _)
  · exact keeps_pure (Nat.le_refl _)
  · exact keeps_pure (Nat.le_refl _)
  · exact keeps_pure (Nat.le_refl _)
  · exact (passes_keyword _).bind fun _ => keeps_pure (Nat.le_refl _)
  · exact (passes_accepts _).bind fun _ => keeps_pure (Nat.le_refl _)
  · exact keeps_failure

/-- A chain of relations, perhaps denied, is kept. -/
theorem keeps_inversion (reads : inner.ReadsKept scale) : Balances scale inner.inversion := by
  -- A chain with relations weighs nothing, and without relations it is its only operand.
  have operand := keeps_bitOr reads
  have comparison : Balances scale inner.comparison := by
    have step : Passes scale.lexeme
        (do let relation ← relation; return (relation, ← inner.bitOr)) :=
      passes_relation.bind fun _ => operand.passes.bind fun _ => keeps_pure (Nat.le_refl _)
    refine operand.bind fun first => (step.many _).bind fun others => keeps_pure ?_
    split
    · exact Nat.le_refl _
    · exact Scale.light_le rfl _
  unfold inversion
  refine (passes_accepts _).bind fun isDenied => ?_
  split
  · exact (reads .inversion).passes.bind fun _ => keeps_light rfl
  · exact comparison

/-- Operands between a keyword are kept. -/
theorem keeps_logicalChain {operator : LogicalOperator} {word : String}
    {operand : Parser Expression} (keeps : Balances scale operand) :
    Balances scale (inner.logicalChain operator word operand) := by
  -- A chain of several operands weighs nothing, and a single operand is itself.
  have next : Passes scale.lexeme (do keyword word; operand) :=
    (passes_keyword _).bind fun _ => keeps.passes
  refine keeps.bind fun first => (next.many _).bind fun others => keeps_pure ?_
  split
  · exact Nat.le_refl _
  · exact Scale.light_le rfl _

/-- A disjunction is kept. -/
theorem keeps_disjunction (reads : inner.ReadsKept scale) :
    Balances scale inner.disjunction :=
  keeps_logicalChain (keeps_logicalChain (keeps_inversion reads))

/-- The type of a parameter leaves no more than what is in front. -/
theorem passes_parameterType (typed : Bool) {type : Parser Expression}
    (passes : Passes scale.lexeme type) :
    Passes scale.lexeme (parameterType typed type) := by
  -- Only where types are allowed a colon is looked for, and the type behind it is passed.
  cases typed with
  | false => exact keeps_pure (Nat.le_refl _)
  | true =>
    refine (passes_accepts _).bind fun hasType => ?_
    split
    · exact passes.bind fun _ => keeps_pure (Nat.le_refl _)
    · exact keeps_pure (Nat.le_refl _)

/-- Parameters leave no more than what is in front. -/
theorem passes_parameters (reads : inner.ReadsKept scale) (typed : Bool) (closing : String) :
    Passes scale.lexeme (inner.parameters typed closing) := by
  -- One parameter is an end of positions, a mapping, a rest, or a name that may have a fallback.
  have value := (reads .expression).passes
  have parameter : Passes scale.lexeme (inner.parameter typed) := by
    unfold parameter
    refine (passes_accepts _).bind fun isEnd => ?_
    split
    · exact keeps_pure (Nat.le_refl _)
    · refine (passes_accepts _).bind fun isMapping => ?_
      split
      · refine passes_identifier.bind fun name => ?_
        exact (passes_parameterType typed value).bind fun _ => keeps_pure (Nat.le_refl _)
      · refine (passes_accepts _).bind fun isRest => ?_
        split
        · refine passes_identifier.ifAny.bind fun name => ?_
          split
          · exact keeps_pure (Nat.le_refl _)
          · refine (passes_parameterType typed (keeps_starExpression reads).passes).bind fun _ => ?_
            exact keeps_pure (Nat.le_refl _)
        · refine passes_identifier.bind fun name => ?_
          refine (passes_parameterType typed value).bind fun _ => ?_
          refine (passes_accepts _).bind fun hasFallback => ?_
          split
          · exact value.bind fun _ => keeps_pure (Nat.le_refl _)
          · exact keeps_pure (Nat.le_refl _)
  unfold parameters
  refine (passes_accepts _).bind fun isClosed => ?_
  split
  · exact keeps_pure (Nat.le_refl _)
  · refine (parameter.commaList _).bind fun found => (passes_ensure _).bind fun _ => ?_
    exact (passes_sign _).bind fun _ => keeps_pure (Nat.le_refl _)

/-- An expression is kept. -/
theorem keeps_expression (reads : inner.ReadsKept scale) :
    Balances scale inner.expression := by
  -- A function and a condition weigh nothing, and else the disjunction is all there is.
  have value := (reads .expression).passes
  have disjunction := keeps_disjunction reads
  have condition : Passes scale.lexeme inner.condition := by
    refine (passes_keyword _).bind fun _ => disjunction.passes.bind fun decided => ?_
    exact (passes_keyword _).bind fun _ => value.bind fun _ => keeps_pure (Nat.le_refl _)
  unfold expression
  refine (passes_accepts _).bind fun isFunction => ?_
  split
  · refine (passes_parameters reads _ _).bind fun found => ?_
    exact value.bind fun _ => keeps_light rfl
  · refine disjunction.bind fun first => condition.ifAny.bind fun decided => ?_
    split
    · exact keeps_light rfl
    · exact keeps_pure (Nat.le_refl _)

/-- Every rule keeps what it takes, however many expressions stand inside each other. -/
theorem readsKept_readWithin (limit bound : Nat) : ReadsKept scale ⟨bound, readWithin limit⟩ := by
  -- The limit counts expressions inside each other, so what is read inside is kept by induction.
  induction limit generalizing bound with
  | zero => exact fun rule => keeps_failure
  | succ limit ih =>
    intro rule
    have reads := ih limit
    cases rule with
    | expression => exact keeps_expression reads
    | disjunction => exact keeps_disjunction reads
    | inversion => exact keeps_inversion reads
    | bitOr => exact keeps_bitOr reads
    | factor => exact keeps_factor reads
    | primary => exact keeps_primary reads

/-- An expression that makes up a whole text is kept. -/
theorem keeps_wholeExpression (length : Nat) :
    Balances scale (ofLength length).wholeExpression := by
  -- The elements are kept as those of a tuple, and the ends of lines behind them are passed.
  have reads : (ofLength length).ReadsKept scale := readsKept_readWithin _ _
  have whole : Balances scale
      (asTuple <$> commaList ((ofLength length).read .expression) (ofLength length).limit) :=
    (Keeps.commaList (reads .expression) _).map Scale.asTuple_le
  refine whole.bind fun value => ?_
  refine ((passes_expect _).many _).bind fun _ => passes_atEnd.bind fun isEnded => ?_
  exact (passes_ensure _).bind fun _ => keeps_pure (Nat.le_refl _)

end Grammar

end PermissionNames.Source
