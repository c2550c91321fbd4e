import PermissionNames.Proofs.Source.Expression
import PermissionNames.Proofs.Text.Utf8
import PermissionNames.Source.Reading

/-! Statements that are built from single operands, and how they are read. -/

namespace PermissionNames.Source

open Source.Parser

/-- A statement, or the statements of a line: the lexemes it is written with and what is kept of it. -/
structure Entry where
  lexemes : List Lexeme
  statements : List Statement

/-- The lexemes of entries one after the other. -/
def Entry.joined (entries : List Entry) : List Lexeme :=
  entries.flatMap lexemes

/-- What is kept of entries. -/
def Entry.kept (entries : List Entry) : List Statement :=
  (entries.map statements).flatten

/-- Whether an entry is read as one statement, whatever follows it. -/
def Entry.IsRead (grammar : Grammar) (block : BlockParser) (entry : Entry) : Prop :=
  ∀ rest, grammar.statement block (entry.lexemes ++ rest) = some (entry.statements, rest)

namespace Grammar

variable {lexemes rest : List Lexeme}

/-- The end of a line is a stopper. -/
theorem stops_newline (rest : List Lexeme) : Stops (.newline :: rest) :=
  ⟨_, _, rfl, by decide⟩

/-- A statement that ends its line is the only one in it. -/
theorem simpleStatements_of {grammar : Grammar} {value : Statement}
    (taken : grammar.simpleStatement lexemes = some (value, .newline :: rest)) :
    grammar.simpleStatements lexemes = some ([value], rest) := by
  simp [simpleStatements, taken, many_refused]

/-- A keyword that begins no block begins the statements of a line. -/
theorem statement_keyword (grammar : Grammar) (block : BlockParser) {word : String}
    (rest : List Lexeme) (simple : word ∈ "yield" :: statementKeywords) :
    grammar.statement block (.keyword word :: rest) =
      grammar.simpleStatements (.keyword word :: rest) := by
  -- Only the keywords of blocks are treated apart, and these are none of them.
  simp only [statementKeywords, List.mem_cons, List.not_mem_nil, or_false] at simple
  rcases simple with rfl | rfl | rfl | rfl | rfl | rfl | rfl | rfl | rfl | rfl | rfl | rfl <;> rfl

section Refused

variable (limit : Nat)

/-- Where no operand begins there is no expression. -/
theorem read_refused (begins : Begins lexemes)
    (refused : (within limit).primary lexemes = none) :
    (within (limit + 1)).read .expression lexemes = none :=
  expression_refused begins refused

/-- What is no opener begins with none. -/
theorem begins_cons {first : Lexeme} (other : first ∉ openers) (rest : List Lexeme) :
    Begins (first :: rest) := by
  -- All openers are listed, and the first lexeme differs from each.
  intro opener listed
  simpa using (ne_of_mem_of_not_mem listed other).symm

/-- A name in front of a colon or an equality sign is no subject of a case distinction, even if it is spelled like what begins one. -/
theorem matchHeader_refused {text : String} (listed : text ∈ [":", "="]) (name : Identifier.Word)
    (rest : List Lexeme) :
    (within (limit + 1)).matchHeader (.name name :: .sign text :: rest) = none := by
  -- Neither sign begins an expression.
  have noSubject : (within (limit + 1)).starNamedExpression (.sign text :: rest) = none := by
    simp only [List.mem_cons, List.not_mem_nil, or_false] at listed
    rcases listed with rfl | rfl
    · have read := read_refused limit (begins_cons (by decide : .sign ":" ∉ openers) rest)
        (by simp [primary, atom])
      simp [starNamedExpression, namedExpression, seesNamed, read]
    · have read := read_refused limit (begins_cons (by decide : .sign "=" ∉ openers) rest)
        (by simp [primary, atom])
      simp [starNamedExpression, namedExpression, seesNamed, read]
  cases named : name.text == "match" <;>
    simp [matchHeader, Parser.word, named, commaList, noSubject]

/-- Where a block ends no statement begins. -/
theorem statement_dedent (block : BlockParser) (rest : List Lexeme) :
    (within (limit + 1)).statement block (.dedent :: rest) = none := by
  -- The end of a block begins no expression, and no keyword either.
  have read := read_refused limit (begins_cons (by decide : .dedent ∉ openers) rest)
    (by simp [primary, atom])
  simp [statement, matchHeader, word, simpleStatements, simpleStatement, starExpressions, commaList,
    starExpression, read]

/-- Where the text ends no statement begins. -/
theorem statement_nil (block : BlockParser) : (within (limit + 1)).statement block [] = none := by
  -- Without lexemes no expression is read, which all other attempts come down to.
  have read : (within (limit + 1)).read .expression [] = none :=
    read_refused limit (by simp [Begins]) (by simp [primary, atom])
  simp [statement, matchHeader, word, simpleStatements, simpleStatement, starExpressions, commaList,
    starExpression, read, sees, accepts]

end Refused

/-- Entries between an indentation and its end are a block. -/
theorem blockWithin_entries {limit depth : Nat} {entries : List Entry} (full : entries ≠ [])
    (read : ∀ entry ∈ entries,
      entry.IsRead (within (limit + 2)) ((within (limit + 2)).blockWithin depth))
    (room : entries.length ≤ limit + 2) (rest : List Lexeme) :
    (within (limit + 2)).blockWithin (depth + 1)
        (.newline :: .indent :: (Entry.joined entries ++ .dedent :: rest)) =
      some (Entry.kept entries, rest) := by
  obtain ⟨first, others, rfl⟩ := List.exists_cons_of_ne_nil full
  have one := read first List.mem_cons_self (Entry.joined others ++ .dedent :: rest)
  have fewer : others.length ≤ limit + 2 := Nat.le_of_succ_le room
  -- The statements behind the first one are taken until the block ends.
  have more : many ((within (limit + 2)).statement ((within (limit + 2)).blockWithin depth))
      (within (limit + 2)).limit (Entry.joined others ++ .dedent :: rest) =
      some (others.map Entry.statements, .dedent :: rest) :=
    many_taken (fun entry member => read entry (List.mem_cons_of_mem first member))
      (statement_dedent _ _ rest) fewer
  simp only [Entry.joined, List.flatMap_cons, List.append_assoc] at one more ⊢
  simp [blockWithin, some1, one, more, Entry.kept]

/-- Entries up to the end are the statements of a text. -/
theorem statements_entries {limit : Nat} {entries : List Entry}
    (read : ∀ entry ∈ entries, entry.IsRead (within (limit + 2))
      ((within (limit + 2)).blockWithin (Layout.blockLimit + 1)))
    (room : entries.length ≤ limit + 2) :
    (within (limit + 2)).statements (Entry.joined entries) = some (Entry.kept entries, []) := by
  -- The entries are taken one by one, up to the end, where nothing is read any more.
  have all := many_taken read (statement_nil _ _) room
  rw [List.append_nil] at all
  have bounded : (within (limit + 2)).limit = limit + 2 := rfl
  simp [statements, bounded, atEnd, Entry.joined, all, Entry.kept]

end Grammar

namespace Entry

open Grammar

variable (limit depth : Nat) (block : BlockParser)

/-- A line behind a keyword that begins no block is read if its statement is. -/
theorem isRead_keyword {grammar : Grammar} {keyword : String} {value : Statement}
    (behind : List Lexeme) (simple : keyword ∈ "yield" :: statementKeywords)
    (taken : ∀ rest, grammar.simpleStatement (.keyword keyword :: (behind ++ .newline :: rest)) =
      some (value, .newline :: rest)) :
    IsRead grammar block ⟨.keyword keyword :: (behind ++ [Lexeme.newline]), [value]⟩ := by
  -- The keyword sends the reader to the statements of a line, of which this is the only one.
  intro rest
  simp only [List.cons_append, List.append_assoc, List.nil_append]
  rw [statement_keyword grammar block _ simple, simpleStatements_of (taken rest)]

/-- A literal in a line of its own. -/
def text (value : LiteralText) : Entry :=
  ⟨[.quotation (.text value false), .newline], [.other]⟩

/-- A literal of its own is read. -/
theorem isRead_text (value : LiteralText) : (text value).IsRead (within (limit + 2)) block := by
  intro rest
  have taken := (Operand.text value).starExpressions_lexemes limit (stops_newline rest) (by simp)
  rw [Operand.lexemes_text, List.singleton_append] at taken
  -- Nothing is declared, assigned or combined with what ends its line.
  have ended : (within (limit + 2)).afterExpression (.constant (.text value false))
      (.newline :: rest) = some (.other, .newline :: rest) := by
    simp [afterExpression, oneOf]
  have simple : (within (limit + 2)).simpleStatement
      (.quotation (.text value false) :: .newline :: rest) = some (.other, .newline :: rest) := by
    simp [simpleStatement, taken, Operand.expression, ended]
  simp [text, statement, matchHeader, word, simpleStatements_of simple]

/-- A line that does nothing. -/
def pass : Entry :=
  ⟨[.keyword "pass", .newline], [.other]⟩

/-- A line that does nothing is read. -/
theorem isRead_pass (grammar : Grammar) : pass.IsRead grammar block := by
  -- Nothing stands between the keyword and the end of the line.
  refine isRead_keyword block [] (by decide) ?_
  simp [simpleStatement, statementKeywords, keywordStatement]

/-- An operand that is handed back. -/
def returned (operand : Operand) : Entry :=
  ⟨.keyword "return" :: (operand.lexemes ++ [Lexeme.newline]), [.other]⟩

/-- An operand that is handed back is read. -/
theorem isRead_returned (operand : Operand) :
    (returned operand).IsRead (within (limit + 2)) block := by
  -- The operand ends where the line does.
  refine isRead_keyword block operand.lexemes (by decide) ?_
  intro rest
  have taken := operand.starExpressions_lexemes limit (stops_newline rest) (by simp)
  simp [simpleStatement, statementKeywords, keywordStatement, taken]

/-- An operand that is handed out. -/
def yielded (operand : Operand) : Entry :=
  ⟨.keyword "yield" :: (operand.lexemes ++ [Lexeme.newline]), [.other]⟩

/-- An operand that is handed out is read. -/
theorem isRead_yielded (operand : Operand) :
    (yielded operand).IsRead (within (limit + 2)) block := by
  refine isRead_keyword block operand.lexemes (by decide) ?_
  intro rest
  have taken := operand.starExpressions_lexemes limit (stops_newline rest) (by simp)
  -- No operand is taken for the keyword that hands out elements.
  have notFrom : accepts (.keyword "from") (operand.lexemes ++ .newline :: rest) =
      some (false, operand.lexemes ++ .newline :: rest) := by
    cases operand <;> rfl
  simp [simpleStatement, yieldExpression, notFrom, taken]

/-- An operand whose elements are handed out. -/
def yieldedFrom (operand : Operand) : Entry :=
  ⟨.keyword "yield" :: .keyword "from" :: (operand.lexemes ++ [Lexeme.newline]), [.other]⟩

/-- An operand whose elements are handed out is read. -/
theorem isRead_yieldedFrom (operand : Operand) :
    (yieldedFrom operand).IsRead (within (limit + 2)) block := by
  -- The second keyword is taken before the operand.
  refine isRead_keyword block (.keyword "from" :: operand.lexemes) (by decide) ?_
  intro rest
  have taken := operand.read_lexemes limit (stops_newline rest)
  simp [simpleStatement, yieldExpression, taken]

/-- A name that is imported from a module, whose path is told by its words. -/
def imported (first : Identifier.Word) (others : List Identifier.Word) (name : Identifier.Word) :
    Entry :=
  ⟨.keyword "from" :: .name first :: (others.flatMap (fun word => [.sign ".", .name word]) ++
    [.keyword "import", .name name, .newline]), [.other]⟩

/-- A name that is imported from a module is read, unless the path of the module is longer than the whole text. -/
theorem isRead_imported {grammar : Grammar} (first : Identifier.Word)
    {others : List Identifier.Word} (name : Identifier.Word)
    (room : others.length ≤ grammar.limit) : (imported first others name).IsRead grammar block := by
  intro rest
  let behind := Lexeme.keyword "import" :: .name name :: .newline :: rest
  -- The words of the path are taken until the keyword that names what is imported.
  have path : many (do sign "."; identifier) grammar.limit
      (others.flatMap (fun word => [.sign ".", .name word]) ++ behind) =
      some (others.map fun word => word.normalize.text, behind) :=
    many_taken (by simp) (by simp [behind]) room
  have simple : grammar.simpleStatement ((imported first others name).lexemes ++ rest) =
      some (.other, .newline :: rest) := by
    simp [simpleStatement, statementKeywords, imported, keywordStatement, importFrom,
      many_refused, dottedName, path, behind, importNames, importedAs]
  simp only [imported, List.cons_append] at simple ⊢
  rw [statement_keyword _ block _ (by decide), simpleStatements_of simple]

/-- A name that is declared with a type and a value. -/
def declared (word : Identifier.Word) (type value : Operand) : Entry :=
  ⟨.name word :: .sign ":" :: (type.lexemes ++ .sign "=" :: (value.lexemes ++ [Lexeme.newline])),
    [.declaration (.name word.normalize) type.expression (some value.expression)]⟩

/-- A name that is declared is read, even if it is spelled like what begins a case distinction. -/
theorem isRead_declared (word : Identifier.Word) (type value : Operand) :
    (declared word type value).IsRead (within (limit + 2)) block := by
  intro rest
  have colon : ∀ rest, Stops (.sign ":" :: rest) := fun rest => ⟨_, _, rfl, by decide⟩
  have equality : ∀ rest, Stops (.sign "=" :: rest) := fun rest => ⟨_, _, rfl, by decide⟩
  have target := (Operand.name word).starExpressions_lexemes limit
    (colon (type.lexemes ++ .sign "=" :: (value.lexemes ++ .newline :: rest))) (by simp)
  have typed := type.read_lexemes limit (equality (value.lexemes ++ .newline :: rest))
  have given := value.starExpressions_lexemes limit (stops_newline rest) (by simp)
  have notYield : sees (.keyword "yield") (value.lexemes ++ .newline :: rest) =
      some (false, value.lexemes ++ .newline :: rest) := by
    cases value <;> rfl
  -- A case distinction has a subject between its first word and the colon.
  have noMatch : ∀ rest,
      (within (limit + 2)).matchHeader (.name word :: .sign ":" :: rest) = none :=
    matchHeader_refused (limit + 1) (by decide) word
  have simple : (within (limit + 2)).simpleStatement
      (.name word :: .sign ":" :: (type.lexemes ++ .sign "=" :: (value.lexemes ++
        .newline :: rest))) =
      some (.declaration (.name word.normalize) type.expression (some value.expression),
        .newline :: rest) := by
    rw [Operand.lexemes_name, List.singleton_append] at target
    simp [simpleStatement, target, afterExpression, Expression.isPlace, typed, assignedValue,
      notYield, given]
  simp [declared, statement, noMatch, simpleStatements_of simple]

/-- A decorated function with at most one parameter, a type and a block. -/
def function (decorator name : Identifier.Word) (parameter? : Option Identifier.Word)
    (type : Operand) (body : List Entry) : Entry :=
  ⟨.sign "@" :: .name decorator :: .newline :: .keyword "def" :: .name name :: .sign "(" ::
    (parameter?.toList.map .name ++ .sign ")" :: .sign "->" :: (type.lexemes ++
      .sign ":" :: .newline :: .indent :: (joined body ++ [Lexeme.dedent]))), [.other]⟩

/-- A decorator is taken with the end of its line. -/
theorem decorators_taken (decorator : Identifier.Word) (word : String) (rest : List Lexeme) :
    (within (limit + 2)).decorators
        (.sign "@" :: .name decorator :: .newline :: .keyword word :: rest) =
      some ([.name decorator.normalize], .keyword word :: rest) := by
  have value : ∀ rest, (within (limit + 2)).namedExpression (.name decorator :: .newline :: rest) =
      some (.name decorator.normalize, .newline :: rest) := by
    intro rest
    have read := (Operand.name decorator).read_lexemes limit (stops_newline rest)
    rw [Operand.lexemes_name, List.singleton_append] at read
    simp [namedExpression, seesNamed, read]
  -- The keyword behind the decorator refuses another one.
  have bounded : (within (limit + 2)).limit = limit + 2 := rfl
  simp [decorators, bounded, many, value]

/-- At most one parameter without a type is taken. -/
theorem parameters_taken (grammar : Grammar) (parameter? : Option Identifier.Word)
    (rest : List Lexeme) :
    ∃ found, grammar.parameters true ")" (parameter?.toList.map .name ++ .sign ")" :: rest) =
      some (found, rest) := by
  -- A single parameter ends at the bracket, and its order with others is no question.
  cases parameter? with
  | none => exact ⟨[], by simp [parameters]⟩
  | some word =>
    refine ⟨[.plain word.normalize.text none], ?_⟩
    have one : grammar.parameter true (.name word :: .sign ")" :: rest) =
        some (.plain word.normalize.text none, .sign ")" :: rest) := by
      simp [parameter, parameterType]
    have ordered : Parameter.areOrdered (.required false true)
        [.plain word.normalize.text none] = true := rfl
    simp [parameters, commaList, one, many_refused, ordered]

variable {limit depth} {body : List Entry}

/-- A decorated function is read if its block is. -/
theorem isRead_function (decorator name : Identifier.Word) (parameter? : Option Identifier.Word)
    (type : Operand) (full : body ≠ [])
    (read : ∀ entry ∈ body,
      entry.IsRead (within (limit + 2)) ((within (limit + 2)).blockWithin depth))
    (room : body.length ≤ limit + 2) :
    (function decorator name parameter? type body).IsRead (within (limit + 2))
      ((within (limit + 2)).blockWithin (depth + 1)) := by
  intro rest
  -- The type ends at the colon, and the block at its dedent.
  have block := blockWithin_entries full read room rest
  have colon : Stops (.sign ":" :: .newline :: .indent :: (joined body ++ .dedent :: rest)) :=
    ⟨_, _, rfl, by decide⟩
  have typed := type.read_lexemes limit colon
  obtain ⟨parameters, ordered⟩ := parameters_taken (within (limit + 2)) parameter?
    (.sign "->" :: (type.lexemes ++ .sign ":" :: .newline :: .indent ::
      (joined body ++ .dedent :: rest)))
  simp [function, statement, definition, decorators_taken, functionDefinition, ordered, typed,
    suite, block]

/-- A class without bases and decorators. -/
def classOf (name : Identifier.Word) (body : List Entry) : Entry :=
  ⟨.keyword "class" :: .name name :: .sign ":" :: .newline :: .indent ::
    (joined body ++ [Lexeme.dedent]), [.classDefinition [] name.normalize [] (kept body)]⟩

/-- A class is read if its block is. -/
theorem isRead_classOf (name : Identifier.Word) (full : body ≠ [])
    (read : ∀ entry ∈ body,
      entry.IsRead (within (limit + 2)) ((within (limit + 2)).blockWithin depth))
    (room : body.length ≤ limit + 2) :
    (classOf name body).IsRead (within (limit + 2))
      ((within (limit + 2)).blockWithin (depth + 1)) := by
  -- There are no decorators and no bases, so the heading is followed by the block.
  intro rest
  have block := blockWithin_entries full read room rest
  have undecorated : ∀ rest, (within (limit + 2)).decorators (.keyword "class" :: rest) =
      some ([], .keyword "class" :: rest) :=
    fun rest => many_refused (by simp) _
  simp [classOf, statement, definition, undecorated, classDefinition, block, positionalArguments]

end Entry

/-- Text without carriage returns that ends with a newline is that of a module. -/
theorem moduleText_eq_self {text : List Char} (noReturn : '\r' ∉ text) :
    moduleText (text ++ ['\n']) = text ++ ['\n'] := by
  -- The last newline ends the text, and it is no half of a carriage return with a newline.
  have ended : isEnded (text ++ ['\n']) = true := by
    rw [isEnded, List.reverse_append, List.reverse_singleton, List.singleton_append]
    cases backwards : text.reverse with
    | nil => rfl
    | cons c rest =>
      have notReturn : c ≠ '\r' := by
        rintro rfl
        exact noReturn (List.mem_reverse.mp (backwards ▸ List.mem_cons_self))
      simp [notReturn]
  rw [moduleText, unifyNewlines_eq_self (by simp [noReturn]), ended, if_pos rfl, List.append_nil]

/-- Whether a text is ended is told by its last two characters. -/
theorem isEnded_append {later : List Char} (long : 2 ≤ later.length) (text : List Char) :
    isEnded (text ++ later) = isEnded later := by
  obtain ⟨last, other, rest, backwards⟩ : ∃ last other rest,
      later.reverse = last :: other :: rest := by
    rw [← List.length_reverse] at long
    match later.reverse, long with
    | last :: other :: rest, _ => exact ⟨last, other, rest, rfl⟩
  unfold isEnded
  rw [List.reverse_append, backwards, List.cons_append, List.cons_append]
  -- Only a newline is looked at together with the character in front of it.
  rcases eq_or_ne last '\n' with rfl | notNewline
  · rcases eq_or_ne other '\r' with rfl | notReturn
    · rfl
    · simp [notReturn]
  · split <;> split <;> simp_all

/-- What stands in front of a text of a module is unified with it. -/
theorem moduleText_append {later : List Char} (apart : '\n' ∉ later.head?)
    (long : 2 ≤ later.length) (text : List Char) :
    moduleText (text ++ later) = unifyNewlines text ++ moduleText later := by
  rw [moduleText, moduleText, isEnded_append long, unifyNewlines_append apart, List.append_assoc]

/-- A text whose lexemes, in the form of modules, are those of statements is read as these, if they are read with room for all its characters. -/
theorem readModule_entries {text : String} {entries : List Entry}
    (noNull : '\x00' ∉ moduleText text.toList)
    (lexed : lexemes? (moduleText text.toList) = some (Entry.joined entries))
    (read : ∀ limit, (moduleText text.toList).length ≤ limit → ∀ entry ∈ entries,
      entry.IsRead (Grammar.within (limit + 2))
        ((Grammar.within (limit + 2)).blockWithin (Layout.blockLimit + 1)))
    (few : entries.length ≤ (moduleText text.toList).length) :
    readModule text = .ok (Entry.kept entries) := by
  -- The grammar has more room than the text has characters, and the entries need no more than
  -- that.
  have grammar : Grammar.ofLength (moduleText text.toList).length =
      Grammar.within ((moduleText text.toList).length + 6 + 2) := rfl
  have taken := Grammar.statements_entries (read _ (Nat.le_add_right _ 6)) (by omega)
  unfold readModule readWhole
  rw [if_neg (by simpa using noNull), lexed, Option.bind_some, grammar, StateT.run, taken]

end PermissionNames.Source
