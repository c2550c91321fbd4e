import PermissionNames.Proofs.Source.Statement

/-! Calls with operands as arguments, the types that carry them, and the classes that declare them. -/

namespace PermissionNames.Source

open Source.Parser

namespace Operand

variable {rest : List Lexeme}

/-- The lexemes of operands, each behind a comma. -/
def listed (operands : List Operand) : List Lexeme :=
  operands.flatMap fun operand => .sign "," :: operand.lexemes

/-- What follows listed operands and the parenthesis behind them stops an operand. -/
theorem stops_listed (operands : List Operand) (rest : List Lexeme) :
    Stops (listed operands ++ .sign ")" :: rest) := by
  -- The next lexeme is a comma or the parenthesis.
  cases operands with
  | nil => exact ⟨_, _, rfl, by decide⟩
  | cons operand later => exact ⟨.sign ",", _, rfl, by decide⟩

/-- An operand is an argument, if no equality sign follows that would make it a name. -/
theorem argument_lexemes (operand : Operand) (limit : Nat) (stops : Stops rest)
    (unnamed : rest.head? ≠ some (.sign "=")) :
    (Grammar.within (limit + 2)).argument (operand.lexemes ++ rest) =
      some (.positional operand.expression, rest) := by
  have read := operand.read_lexemes limit stops
  have notStarred : accepts (.sign "*") (operand.lexemes ++ rest) =
      some (false, operand.lexemes ++ rest) := accepts_of_head? (operand.begins rest _ (by decide))
  have notMapping : accepts (.sign "**") (operand.lexemes ++ rest) =
      some (false, operand.lexemes ++ rest) := by
    cases operand <;> rfl
  obtain ⟨next, later, rfl, member⟩ := stops
  -- Neither the name of an argument nor an assignment is written in front of a stopper.
  have notNamed : seesNamed "=" (operand.lexemes ++ next :: later) =
      some (false, operand.lexemes ++ next :: later) := by
    cases operand <;> simp_all [lexemes, seesNamed]
  have notAssigned : seesNamed ":=" (operand.lexemes ++ next :: later) =
      some (false, operand.lexemes ++ next :: later) := by
    have other : next ≠ .sign ":=" := ne_of_mem_of_not_mem member (by decide)
    cases operand <;> simp [lexemes, seesNamed, other]
  simp [Grammar.argument, Grammar.namedExpression, notStarred, notMapping, notNamed, notAssigned,
    read]

/-- Listed operands are taken as arguments up to the parenthesis behind them. -/
theorem many_arguments (limit : Nat) (operands : List Operand) (rest : List Lexeme) {room : Nat}
    (enough : operands.length ≤ room) :
    many (do sign ","; (Grammar.within (limit + 2)).argument) room
        (listed operands ++ .sign ")" :: rest) =
      some (operands.map fun operand => .positional operand.expression, .sign ")" :: rest) := by
  -- Each operand is one argument, and there is room for one round more.
  induction operands generalizing room with
  | nil => exact many_refused (by simp [listed]) room
  | cons operand later ih =>
    obtain ⟨room, rfl⟩ := Nat.exists_eq_add_of_le' (Nat.le_of_add_left_le enough : 1 ≤ room)
    have others := ih (Nat.le_of_succ_le_succ enough)
    have unnamed : (listed later ++ .sign ")" :: rest).head? ≠ some (.sign "=") := by
      cases later <;> simp [listed]
    have one := operand.argument_lexemes limit (stops_listed later rest) unnamed
    rw [listed, List.flatMap_cons, ← listed, List.append_assoc, many]
    simp [one, others]

/-- Positional arguments may follow each other. -/
theorem areOrdered_positional (values : List Expression) :
    Grammar.areOrdered .positional (values.map .positional) := by
  -- No argument leaves the phase of positional ones.
  induction values with
  | nil => rfl
  | cons value later ih => simp [Grammar.areOrdered, ih]

/-- The values of positional arguments are those of the call, and none has a name. -/
theorem arguments_positional (values : List Expression) :
    Grammar.positionalArguments (values.map .positional) = values ∧
      Grammar.namedArguments (values.map .positional) = [] := by
  -- Every argument is sorted by its constructor.
  constructor
  · simp [Grammar.positionalArguments, List.filterMap_map]
  · simp [Grammar.namedArguments, List.filterMap_map]

/-- A call with operands is read in front of a stopper. -/
theorem primary_call (limit : Nat) (function : Identifier.Word) (first : Operand)
    {others : List Operand} (room : others.length ≤ limit + 2) (stops : Stops rest) :
    (Grammar.within (limit + 2)).primary
        (.name function :: .sign "(" ::
          (first.lexemes ++ (listed others ++ .sign ")" :: rest))) =
      some (.call (.name function.normalize) ((first :: others).map expression) [], rest) := by
  have unnamed : (listed others ++ .sign ")" :: rest).head? ≠ some (.sign "=") := by
    cases others <;> simp [listed]
  have one := first.argument_lexemes limit (stops_listed others rest) unnamed
  have more := many_arguments limit others rest room
  -- Behind the first argument no comprehension begins.
  have noClause : Grammar.seesClause (listed others ++ .sign ")" :: rest) =
      some (false, listed others ++ .sign ")" :: rest) := by
    cases others <;> simp [listed, Grammar.seesClause]
  have notClosed : accepts (.sign ")") (first.lexemes ++ (listed others ++ .sign ")" :: rest)) =
      some (false, first.lexemes ++ (listed others ++ .sign ")" :: rest)) := by
    cases first <;> rfl
  have ordered := areOrdered_positional ((first :: others).map expression)
  obtain ⟨positional, named⟩ := arguments_positional ((first :: others).map expression)
  simp only [List.map_map, List.map_cons, Function.comp_def] at ordered positional named
  have bounded : (Grammar.within (limit + 2)).limit = limit + 2 := rfl
  have arguments : (Grammar.within (limit + 2)).moreArguments (.positional first.expression)
      (listed others ++ .sign ")" :: rest) =
      some (.positional first.expression :: others.map fun other => .positional other.expression,
        rest) := by
    simp [Grammar.moreArguments, bounded, more, ordered]
  have call : (Grammar.within (limit + 2)).call (.name function.normalize)
      (first.lexemes ++ (listed others ++ .sign ")" :: rest)) =
      some (.call (.name function.normalize) ((first :: others).map expression) [], rest) := by
    simp [Grammar.call, notClosed, one, noClause, arguments, positional, named]
  have trailers : (Grammar.within (limit + 2)).trailers (Grammar.within (limit + 2)).limit
      (.name function.normalize)
      (.sign "(" :: (first.lexemes ++ (listed others ++ .sign ")" :: rest))) =
      some (.call (.name function.normalize) ((first :: others).map expression) [], rest) := by
    rw [bounded, Grammar.trailers]
    simp [Grammar.trailer, call, trailers_stops _ _ _ stops]
  simp [Grammar.primary, Grammar.atom, trailers]

/-- An expression is an index of its own, if neither a colon nor an assignment makes it more. -/
theorem indexItem_of_read {grammar : Grammar} {lexemes : List Lexeme} {value : Expression}
    (read : grammar.read .expression lexemes = some (value, rest))
    (notStarred : lexemes.head? ≠ some (.sign "*"))
    (notAssigned : seesNamed ":=" lexemes = some (false, lexemes))
    (ended : rest.head? ≠ some (.sign ":")) : grammar.indexItem lexemes = some (value, rest) := by
  -- Each of the other readings is refused by a lexeme that is not there.
  simp [Grammar.indexItem, Grammar.sliceOrIndex, accepts_of_head? notStarred, notAssigned, read,
    accepts_of_head? ended]

/-- An index of a name and a call, between brackets behind a name, is read in front of a stopper. -/
theorem primary_annotation (limit : Nat) (owner type function : Identifier.Word) (first : Operand)
    {others : List Operand} (room : others.length ≤ limit + 2) (stops : Stops rest) :
    (Grammar.within (limit + 3)).primary
        (.name owner :: .sign "[" :: .name type :: .sign "," :: .name function :: .sign "(" ::
          (first.lexemes ++ (listed others ++ .sign ")" :: .sign "]" :: rest))) =
      some (.subscript (.name owner.normalize) (.tuple [.name type.normalize,
        .call (.name function.normalize) ((first :: others).map expression) []]), rest) := by
  have bracket : Stops (.sign "]" :: rest) := ⟨_, _, rfl, by decide⟩
  have bounded : (Grammar.within (limit + 3)).limit = limit + 2 + 1 := rfl
  -- The call ends at the bracket, and the name in front of it at the comma.
  have call := Grammar.expression_of_primary (Grammar.begins_cons (by simp [openers]) _)
    (primary_call limit function first room bracket) bracket
  have second : (Grammar.within (limit + 3)).indexItem
      (.name function :: .sign "(" ::
        (first.lexemes ++ (listed others ++ .sign ")" :: .sign "]" :: rest))) =
      some (.call (.name function.normalize) ((first :: others).map expression) [],
        .sign "]" :: rest) :=
    indexItem_of_read call (by simp) (by simp [seesNamed]) (by simp)
  generalize Lexeme.name function :: .sign "(" ::
    (first.lexemes ++ (listed others ++ .sign ")" :: .sign "]" :: rest)) = behind at second ⊢
  have comma : Stops (.sign "," :: behind) := ⟨_, _, rfl, by decide⟩
  have one : (Grammar.within (limit + 3)).indexItem (.name type :: .sign "," :: behind) =
      some (.name type.normalize, .sign "," :: behind) :=
    indexItem_of_read ((name type).read_lexemes (limit + 1) comma) (by simp) (by simp [seesNamed])
      (by simp)
  -- Both are taken, and the comma between them makes them a tuple.
  have index : (Grammar.within (limit + 3)).index (.name type :: .sign "," :: behind) =
      some (.tuple [.name type.normalize,
        .call (.name function.normalize) ((first :: others).map expression) []],
        .sign "]" :: rest) := by
    simp [Grammar.index, commaList, bounded, many, one, second, Grammar.asTuple]
  have trailers : (Grammar.within (limit + 3)).trailers (Grammar.within (limit + 3)).limit
      (.name owner.normalize) (.sign "[" :: .name type :: .sign "," :: behind) =
      some (.subscript (.name owner.normalize) (.tuple [.name type.normalize,
        .call (.name function.normalize) ((first :: others).map expression) []]), rest) := by
    rw [bounded, Grammar.trailers]
    simp [Grammar.trailer, index, trailers_stops _ _ _ stops]
  simp [Grammar.primary, Grammar.atom, trailers]

end Operand

namespace Entry

open Grammar

variable (limit depth : Nat) (block : BlockParser)

/-- A name that is assigned a value. -/
def assigned (word : Identifier.Word) (value : Operand) : Entry :=
  ⟨.name word :: .sign "=" :: (value.lexemes ++ [Lexeme.newline]),
    [.assignment [.name word.normalize] value.expression]⟩

/-- A name that is assigned a value is read, even if it is spelled like what begins a case distinction. -/
theorem isRead_assigned (word : Identifier.Word) (value : Operand) :
    (assigned word value).IsRead (within (limit + 2)) block := by
  intro rest
  have equality : Stops (.sign "=" :: (value.lexemes ++ .newline :: rest)) :=
    ⟨_, _, rfl, by decide⟩
  have target := (Operand.name word).starExpressions_lexemes limit equality (by simp)
  rw [Operand.lexemes_name, List.singleton_append] at target
  have given := value.starExpressions_lexemes limit (stops_newline rest) (by simp)
  have notYield : sees (.keyword "yield") (value.lexemes ++ .newline :: rest) =
      some (false, value.lexemes ++ .newline :: rest) := by
    cases value <;> rfl
  have noMatch : ∀ rest,
      (within (limit + 2)).matchHeader (.name word :: .sign "=" :: rest) = none :=
    matchHeader_refused (limit + 1) (by decide) word
  have isTarget : (Expression.name word.normalize).isStarTarget = true := rfl
  -- No other value follows behind another equality sign.
  have bounded : (within (limit + 2)).limit = limit + 1 + 1 := rfl
  have simple : (within (limit + 2)).simpleStatement
      (.name word :: .sign "=" :: (value.lexemes ++ .newline :: rest)) =
      some (.assignment [.name word.normalize] value.expression, .newline :: rest) := by
    simp [simpleStatement, target, afterExpression, isTarget, bounded, chain, assignedValue,
      notYield, given]
  simp [assigned, statement, noMatch, simpleStatements_of simple]

/-- A name that is declared without a value, with a type whose second part is a call of operands. -/
def annotated (word owner type function : Identifier.Word) (first : Operand)
    (others : List Operand) : Entry :=
  ⟨.name word :: .sign ":" :: .name owner :: .sign "[" :: .name type :: .sign "," ::
    .name function :: .sign "(" ::
      (first.lexemes ++ (Operand.listed others ++ [Lexeme.sign ")", .sign "]", .newline])),
    [.declaration (.name word.normalize) (.subscript (.name owner.normalize)
      (.tuple [.name type.normalize, .call (.name function.normalize)
        ((first :: others).map Operand.expression) []])) none]⟩

/-- A name that is declared without a value is read, if there is room for the operands. -/
theorem isRead_annotated (word owner type function : Identifier.Word) (first : Operand)
    {others : List Operand} (room : others.length ≤ limit + 2) :
    (annotated word owner type function first others).IsRead (within (limit + 4)) block := by
  intro rest
  have typed := Grammar.expression_of_primary (Grammar.begins_cons (by simp [openers]) _)
    (Operand.primary_annotation limit owner type function first room (stops_newline rest))
    (stops_newline rest)
  have colon : ∀ rest, Stops (.sign ":" :: rest) := fun rest => ⟨_, _, rfl, by decide⟩
  have target : ∀ rest, (within (limit + 4)).starExpressions (.name word :: .sign ":" :: rest) =
      some (.name word.normalize, .sign ":" :: rest) :=
    fun rest => (Operand.name word).starExpressions_lexemes (limit + 2) (colon rest) (by simp)
  have noMatch : ∀ rest,
      (within (limit + 4)).matchHeader (.name word :: .sign ":" :: rest) = none :=
    matchHeader_refused (limit + 3) (by decide) word
  -- The type is read by the rule for expressions inside a statement.
  have read : (within (limit + 4)).read .expression = (within (limit + 3)).expression := rfl
  rw [← read] at typed
  have simple : (within (limit + 4)).simpleStatement
      ((annotated word owner type function first others).lexemes ++ rest) =
      some (.declaration (.name word.normalize) (.subscript (.name owner.normalize)
        (.tuple [.name type.normalize, .call (.name function.normalize)
          ((first :: others).map Operand.expression) []])) none, .newline :: rest) := by
    simp [annotated, simpleStatement, target, afterExpression, Expression.isPlace, typed]
  have line := simpleStatements_of simple
  simp only [annotated, List.cons_append] at line ⊢
  simpa [statement, noMatch] using line

variable {limit depth} {body : List Entry}

/-- A class behind a decorator, without bases. -/
def markedClass (decorator name : Identifier.Word) (body : List Entry) : Entry :=
  ⟨.sign "@" :: .name decorator :: .newline :: .keyword "class" :: .name name :: .sign ":" ::
    .newline :: .indent :: (joined body ++ [Lexeme.dedent]),
    [.classDefinition [.name decorator.normalize] name.normalize [] (kept body)]⟩

/-- A class behind a decorator is read if its block is. -/
theorem isRead_markedClass (decorator name : Identifier.Word) (full : body ≠ [])
    (read : ∀ entry ∈ body,
      entry.IsRead (within (limit + 2)) ((within (limit + 2)).blockWithin depth))
    (room : body.length ≤ limit + 2) :
    (markedClass decorator name body).IsRead (within (limit + 2))
      ((within (limit + 2)).blockWithin (depth + 1)) := by
  -- The decorator is taken first, then the class with its block.
  intro rest
  have block := blockWithin_entries full read room rest
  simp [markedClass, statement, definition, decorators_taken, classDefinition, block,
    positionalArguments]

end Entry

end PermissionNames.Source
