import PermissionNames.Proofs.Source.Parser
import PermissionNames.Proofs.Text.CodePoint
import PermissionNames.Source.Grammar.Operator

/-! Expressions that are single operands, read by every level of operators. -/

namespace PermissionNames.Source

open Source.Parser

/-- Lexemes that end an operand and every expression around it. -/
def stoppers : List Lexeme :=
  [.newline, .sign ":", .sign "=", .sign ",", .sign "]", .sign ")"]

/-- Lexemes that go on with a stopper. -/
def Stops (lexemes : List Lexeme) : Prop :=
  ∃ first later, lexemes = first :: later ∧ first ∈ stoppers

/-- Lexemes that an operator with a single operand, or a mark of expressions, begins with. -/
def openers : List Lexeme :=
  [.keyword "lambda", .keyword "not", .keyword "await", .sign "+", .sign "-", .sign "~", .sign "*"]

/-- Lexemes that begin with none of the openers. -/
def Begins (lexemes : List Lexeme) : Prop :=
  ∀ opener ∈ openers, lexemes.head? ≠ some opener

/-- A reader that leaves a stopper whenever it takes anything. -/
def Halts {α : Type} (item : Parser α) (lexemes : List Lexeme) : Prop :=
  ∀ value rest, item lexemes = some (value, rest) → Stops rest

section Stops

variable {α : Type} {rest : List Lexeme} (stops : Stops rest)

include stops

/-- What is no stopper is not there. -/
theorem Stops.accepts {wanted : Lexeme} (other : wanted ∉ stoppers) :
    accepts wanted rest = some (false, rest) := by
  -- The first lexeme is a stopper, so it is not the wanted one.
  obtain ⟨first, later, rfl, listed⟩ := stops
  rw [accepts_cons, if_neg (ne_of_mem_of_not_mem listed other)]

/-- What is no stopper cannot be taken. -/
theorem Stops.expect {wanted : Lexeme} (other : wanted ∉ stoppers) :
    expect wanted rest = none := by
  -- The first lexeme is a stopper, so it is not the wanted one.
  obtain ⟨first, later, rfl, listed⟩ := stops
  rw [expect_cons, if_neg (ne_of_mem_of_not_mem listed other)]

/-- No operator stands at a stopper. -/
theorem Stops.oneOf {meanings : List (String × α)}
    (others : ∀ entry ∈ meanings, .sign entry.1 ∉ stoppers) : oneOf meanings rest = none := by
  -- Operators are looked up by the text of a sign, and no operator is spelled like a stopper.
  obtain ⟨first, later, rfl, listed⟩ := stops
  unfold oneOf
  cases first with
  | sign text =>
    have unknown : meanings.lookup text = none := by
      rw [List.lookup_eq_none_iff]
      rintro entry member
      have apart : text ≠ entry.1 := by
        rintro rfl
        exact others entry member listed
      simpa using apart
    simp [unknown]
  | _ => simp

/-- A reader that takes nothing in front of any stopper takes nothing. -/
theorem Stops.refused {item : Parser α}
    (each : ∀ later, stoppers.map (fun first => item (first :: later)) = stoppers.map fun _ => none) :
    item rest = none := by
  -- The stoppers are finitely many, and each is tried by itself.
  obtain ⟨first, later, rfl, listed⟩ := stops
  exact List.map_inj_left.mp (each later) first listed

end Stops

namespace Grammar

variable {grammar : Grammar} {lexemes : List Lexeme}

/-- A chain of operators is its first operand, if a stopper follows. -/
theorem leftGrouped_eq {operators : List (String × BinaryOperator)}
    {operand item : Parser Expression} (others : ∀ entry ∈ operators, .sign entry.1 ∉ stoppers)
    (same : operand lexemes = item lexemes) (halts : Halts item lexemes) :
    grammar.leftGrouped operators operand lexemes = item lexemes := by
  unfold leftGrouped
  -- Behind the first operand no operator of this level stands, so no other operand is taken.
  cases taken : item lexemes with
  | none => simp [same, taken]
  | some found =>
    obtain ⟨value, rest⟩ := found
    have stops := halts value rest taken
    simp only [bind_apply, same, taken, Option.bind_some]
    rw [many_refused (by simp [stops.oneOf others])]
    simp

/-- A chain of a keyword is its first operand, if a stopper follows. -/
theorem logicalChain_eq {operator : LogicalOperator} {word : String}
    {operand item : Parser Expression} (other : .keyword word ∉ stoppers)
    (same : operand lexemes = item lexemes) (halts : Halts item lexemes) :
    grammar.logicalChain operator word operand lexemes = item lexemes := by
  unfold logicalChain
  -- Behind the first operand the keyword does not stand, so no other operand is taken.
  cases taken : item lexemes with
  | none => simp [same, taken]
  | some found =>
    obtain ⟨value, rest⟩ := found
    have absent := (halts value rest taken).expect other
    simp only [bind_apply, same, taken, Option.bind_some]
    rw [many_refused (by simp [keyword, absent])]
    simp

/-- An operand that begins with no opener is read as it stands, if a stopper follows. -/
theorem factor_eq (begins : Begins lexemes) (halts : Halts grammar.primary lexemes) :
    grammar.factor lexemes = grammar.primary lexemes := by
  -- No sign and no keyword stands in front of the operand, and no power behind it.
  have absent : ∀ opener ∈ openers, accepts opener lexemes = some (false, lexemes) :=
    fun opener listed => accepts_of_head? (begins opener listed)
  simp only [factor, power, awaited, bind_apply, absent _ (by decide : .sign "+" ∈ openers),
    absent _ (by decide : .sign "-" ∈ openers), absent _ (by decide : .sign "~" ∈ openers),
    absent _ (by decide : .keyword "await" ∈ openers), Option.bind_some, Bool.false_eq_true, if_false]
  cases taken : grammar.primary lexemes with
  | none => rfl
  | some found =>
    obtain ⟨value, rest⟩ := found
    simp [(halts value rest taken).accepts (by decide : .sign "**" ∉ stoppers)]

/-- Operators of numbers are passed over by an operand in front of a stopper. -/
theorem bitOr_eq (begins : Begins lexemes) (halts : Halts grammar.primary lexemes) :
    grammar.bitOr lexemes = grammar.primary lexemes := by
  -- Each level of operators gives what the level below it gives.
  have product : grammar.product lexemes = grammar.primary lexemes :=
    leftGrouped_eq (by decide) (factor_eq begins halts) halts
  have sum : grammar.sum lexemes = grammar.primary lexemes :=
    leftGrouped_eq (by decide) product halts
  have shift : grammar.shift lexemes = grammar.primary lexemes :=
    leftGrouped_eq (by decide) sum halts
  have bitAnd : grammar.bitAnd lexemes = grammar.primary lexemes :=
    leftGrouped_eq (by decide) shift halts
  have bitXor : grammar.bitXor lexemes = grammar.primary lexemes :=
    leftGrouped_eq (by decide) bitAnd halts
  exact leftGrouped_eq (by decide) bitXor halts

/-- Relations and denials are passed over by an operand in front of a stopper. -/
theorem inversion_eq (begins : Begins lexemes) (halts : Halts grammar.primary lexemes) :
    grammar.inversion lexemes = grammar.primary lexemes := by
  have absent : accepts (.keyword "not") lexemes = some (false, lexemes) :=
    accepts_of_head? (begins _ (by decide))
  -- The operand is not denied, and compared with nothing.
  simp only [inversion, comparison, bind_apply, absent, Option.bind_some, Bool.false_eq_true,
    if_false, bitOr_eq begins halts]
  cases taken : grammar.primary lexemes with
  | none => rfl
  | some found =>
    obtain ⟨value, rest⟩ := found
    have noRelation : relation rest = none := (halts value rest taken).refused fun _ => rfl
    rw [Option.bind_some, many_refused (by simp [noRelation])]
    simp

/-- An operand in front of a stopper is a whole expression. -/
theorem expression_eq (begins : Begins lexemes) (halts : Halts grammar.primary lexemes) :
    grammar.expression lexemes = grammar.primary lexemes := by
  have absent : accepts (.keyword "lambda") lexemes = some (false, lexemes) :=
    accepts_of_head? (begins _ (by decide))
  have conjunction : grammar.conjunction lexemes = grammar.primary lexemes :=
    logicalChain_eq (by decide) (inversion_eq begins halts) halts
  have disjunction : grammar.disjunction lexemes = grammar.primary lexemes :=
    logicalChain_eq (by decide) conjunction halts
  -- No condition stands behind the operand.
  simp only [expression, bind_apply, absent, Option.bind_some, Bool.false_eq_true, if_false,
    disjunction]
  cases taken : grammar.primary lexemes with
  | none => rfl
  | some found =>
    obtain ⟨value, rest⟩ := found
    have noCondition := (halts value rest taken).expect (by decide : .keyword "if" ∉ stoppers)
    simp [condition, keyword, noCondition]

/-- An operand that is read in front of a stopper is an expression. -/
theorem expression_of_primary {value : Expression} {rest : List Lexeme} (begins : Begins lexemes)
    (taken : grammar.primary lexemes = some (value, rest)) (stops : Stops rest) :
    grammar.expression lexemes = some (value, rest) := by
  -- What is read as an operand is an expression if nothing behind it goes on with it.
  rw [expression_eq begins, taken]
  intro other after alsoTaken
  rw [taken] at alsoTaken
  cases alsoTaken
  exact stops

/-- Where there is no operand there is no expression. -/
theorem expression_refused (begins : Begins lexemes) (refused : grammar.primary lexemes = none) :
    grammar.expression lexemes = none := by
  -- Every expression that begins like this begins with an operand.
  rw [expression_eq begins, refused]
  intro value rest taken
  rw [refused] at taken
  cases taken

/-- The grammar with room for a number of expressions inside each other. -/
def within (limit : Nat) : Grammar :=
  ⟨limit, readWithin limit⟩

end Grammar

/-- An expression without operators. -/
inductive Operand
  | name (word : Identifier.Word)
  | text (value : LiteralText)
  /-- A name with another name as its index. -/
  | index (owner word : Identifier.Word)
  /-- The empty tuple. -/
  | unit

namespace Operand

/-- The lexemes of an operand. -/
def lexemes : Operand → List Lexeme
  | name word => [.name word]
  | text value => [.quotation (.text value false)]
  | index owner word => [.name owner, .sign "[", .name word, .sign "]"]
  | unit => [.sign "(", .sign ")"]

/-- The expression of an operand. -/
def expression : Operand → Expression
  | name word => .name word.normalize
  | text value => .constant (.text value false)
  | index owner word => .subscript (.name owner.normalize) (.name word.normalize)
  | unit => .tuple []

/-- A name is written with one lexeme. -/
@[simp]
theorem lexemes_name (word : Identifier.Word) : (name word).lexemes = [.name word] :=
  rfl

/-- A name stands for its normal form. -/
@[simp]
theorem expression_name (word : Identifier.Word) :
    (name word).expression = .name word.normalize :=
  rfl

/-- A literal is written with one lexeme. -/
@[simp]
theorem lexemes_text (value : LiteralText) :
    (text value).lexemes = [.quotation (.text value false)] :=
  rfl

variable {rest : List Lexeme}

/-- No operand begins with an opener. -/
theorem begins (operand : Operand) (rest : List Lexeme) : Begins (operand.lexemes ++ rest) := by
  -- The first lexeme of an operand is a name, a literal or a bracket.
  intro opener listed
  cases operand <;> simp only [lexemes, List.cons_append, List.head?_cons, ne_eq,
    Option.some.injEq] <;> rintro rfl <;> simp [openers] at listed

/-- Nothing follows an operand at a stopper. -/
theorem trailer_stops (grammar : Grammar) (operand : Expression) (stops : Stops rest) :
    grammar.trailer operand rest = none :=
  stops.refused fun _ => rfl

/-- Nothing is added to an operand at a stopper. -/
theorem trailers_stops (grammar : Grammar) (limit : Nat) (operand : Expression)
    (stops : Stops rest) : grammar.trailers limit operand rest = some (operand, rest) := by
  -- A stopper is neither a period nor an opening bracket.
  cases limit with
  | zero => rfl
  | succ limit =>
    simp only [Grammar.trailers, trailer_stops grammar operand stops]

/-- A name is read in front of a stopper. -/
theorem primary_name (grammar : Grammar) (word : Identifier.Word) (stops : Stops rest) :
    grammar.primary (.name word :: rest) = some (.name word.normalize, rest) := by
  simp [Grammar.primary, Grammar.atom, trailers_stops _ _ _ stops]

/-- A literal is read in front of a stopper. -/
theorem primary_text (grammar : Grammar) (value : LiteralText) (stops : Stops rest) :
    grammar.primary (.quotation (.text value false) :: rest) =
      some (.constant (.text value false), rest) := by
  -- No other literal follows that would be joined to it.
  have alone : Grammar.quotation rest = none := stops.refused fun _ => rfl
  have taken : Grammar.quotation (.quotation (.text value false) :: rest) =
      some (.text value false, rest) := rfl
  have single : grammar.joinLiterals [.text value false] =
      some (.constant (.text value false)) := by
    simp [Grammar.joinLiterals, Grammar.isTemplate, Grammar.plainBytes, Grammar.plainTexts,
      Grammar.isMarked, LiteralText.join_singleton]
  simp [Grammar.primary, Grammar.atom, Grammar.literals, some1, taken, many_refused alone, single,
    trailers_stops _ _ _ stops]

/-- A name with another name as its index is read in front of a stopper. -/
theorem primary_index (limit : Nat) (owner word : Identifier.Word) (stops : Stops rest) :
    (Grammar.within (limit + 1)).primary
        (.name owner :: .sign "[" :: .name word :: .sign "]" :: rest) =
      some (.subscript (.name owner.normalize) (.name word.normalize), rest) := by
  -- The index is an operand in front of the closing bracket, and nothing follows that bracket.
  have closing : Stops (.sign "]" :: rest) := ⟨_, _, rfl, by decide⟩
  have inner : (Grammar.within (limit + 1)).read .expression (.name word :: .sign "]" :: rest) =
      some (.name word.normalize, .sign "]" :: rest) :=
    Grammar.expression_of_primary ((name word).begins _) (primary_name _ word closing) closing
  have item : (Grammar.within (limit + 1)).indexItem (.name word :: .sign "]" :: rest) =
      some (.name word.normalize, .sign "]" :: rest) := by
    simp [Grammar.indexItem, Grammar.sliceOrIndex, seesNamed, inner]
  have index : (Grammar.within (limit + 1)).index (.name word :: .sign "]" :: rest) =
      some (.name word.normalize, .sign "]" :: rest) := by
    simp [Grammar.index, commaList, item, many_refused, Grammar.asTuple, Grammar.isStarred]
  have trailer : (Grammar.within (limit + 1)).trailer (.name owner.normalize)
      (.sign "[" :: .name word :: .sign "]" :: rest) =
      some (.subscript (.name owner.normalize) (.name word.normalize), rest) := by
    simp [Grammar.trailer, index]
  have trailers : (Grammar.within (limit + 1)).trailers (Grammar.within (limit + 1)).limit
      (.name owner.normalize) (.sign "[" :: .name word :: .sign "]" :: rest) =
      some (.subscript (.name owner.normalize) (.name word.normalize), rest) := by
    simp only [Grammar.within, Grammar.trailers] at trailer ⊢
    rw [trailer]
    exact trailers_stops _ _ _ stops
  simp [Grammar.primary, Grammar.atom, trailers]

/-- Operands are read in front of a stopper. -/
theorem primary_lexemes (operand : Operand) (limit : Nat) (stops : Stops rest) :
    (Grammar.within (limit + 1)).primary (operand.lexemes ++ rest) =
      some (operand.expression, rest) := by
  -- Each form of an operand has its own reader, which is told by its first lexeme.
  cases operand with
  | name word => exact primary_name _ word stops
  | text value => exact primary_text _ value stops
  | index owner word => exact primary_index limit owner word stops
  | unit => simp [lexemes, expression, Grammar.primary, Grammar.atom, Grammar.parenthesized,
      trailers_stops _ _ _ stops]

/-- Operands are expressions in front of a stopper. -/
theorem read_lexemes (operand : Operand) (limit : Nat) (stops : Stops rest) :
    (Grammar.within (limit + 2)).read .expression (operand.lexemes ++ rest) =
      some (operand.expression, rest) :=
  Grammar.expression_of_primary (operand.begins rest) (operand.primary_lexemes limit stops) stops

/-- An operand stands for itself where several expressions may stand, if no comma follows. -/
theorem starExpressions_lexemes (operand : Operand) (limit : Nat) (stops : Stops rest)
    (single : rest.head? ≠ some (.sign ",")) :
    (Grammar.within (limit + 2)).starExpressions (operand.lexemes ++ rest) =
      some (operand.expression, rest) := by
  -- Without a star in front and a comma behind it there is only the operand.
  have notStarred : accepts (.sign "*") (operand.lexemes ++ rest) =
      some (false, operand.lexemes ++ rest) := accepts_of_head? (operand.begins rest _ (by decide))
  have alone : (Grammar.within (limit + 2)).starExpression (operand.lexemes ++ rest) =
      some (operand.expression, rest) := by
    simp [Grammar.starExpression, notStarred, operand.read_lexemes limit stops]
  have noComma : sign "," rest = none := expect_of_head? single
  simp [Grammar.starExpressions, commaList, alone, many_refused, noComma, Grammar.asTuple,
    accepts_of_head? single]

end Operand

end PermissionNames.Source
