import PermissionNames.Execution.Program
import PermissionNames.Proofs.GeneratedSource.Inert

/-! The program that a generated module is: its members are those of the container, in slot order. -/

namespace PermissionNames

open Source Source.Parser

/-- The name that a text is read as. -/
def readName (text : String) : String :=
  Identifier.normalize text.toList

/-- The word of a name is read as the name. -/
theorem Identifier.IsName.text_normalize {text : String} (named : Identifier.IsName text) :
    (wordOf text).normalize.text = readName text := by
  -- Every character of a name continues a word, so the word is the whole name.
  obtain ⟨-, -, -, -, continues⟩ := Identifier.exists_of_isValid named.valid
  have whole : text.toList.takeWhile Identifier.continuesWord = text.toList := by
    rw [List.takeWhile_eq_self_iff]
    exact List.all_eq_true.mp continues
  simp [wordOf, Identifier.Word.leading, Identifier.Word.normalize, readName, whole]

namespace Execution

/-- The function that gives the literal of a declaration. -/
def getterOf (declaration : Declaration) : Function :=
  ⟨"property", readName declaration.identity, some "self", .name "str",
    [.gives declaration.literal]⟩

/-- The statement of a declaration in a class body. -/
def memberOf (declaration : Declaration) : Member :=
  if declaration.isStatic then
    .declared (readName declaration.identity) (.index "ClassVar" "str") declaration.literal
  else .function (getterOf declaration)

/-- The lines of a function that hands out texts. -/
def stepsOf (literals : List String) : List Step :=
  if literals = [] then [.handsOutNothing] else literals.map .handsOut

/-- The function of an enumeration. -/
def functionOf (enumeration : Enumeration) : Function :=
  ⟨"staticmethod", readName enumeration.name, none, .index "Iterator" "str",
    stepsOf enumeration.literals⟩

/-- The statements that end a class body. -/
def closingMembers (started : Bool) : Option Enumeration → List Member
  | some enumeration => [.function (functionOf enumeration)]
  | none => if started then [] else [.pass]

/-- The statements of a class body, or of the rest of one that is started. -/
def bodyMembers (enumeration : Option Enumeration) (started : Bool) :
    List Declaration → List Member
  | [] => closingMembers started enumeration
  | declaration :: later => memberOf declaration :: bodyMembers enumeration true later

/-- The import of the type of iterators. -/
def iteratorImport : Import := ⟨["collections", "abc"], "Iterator"⟩

/-- The import of the mark of class attributes. -/
def markImport : Import := ⟨["typing"], "ClassVar"⟩

/-- The imports that the members of a class need. -/
def importsOf (declarations : List Declaration) (enumeration : Option Enumeration) : List Import :=
  (if enumeration.isSome then [iteratorImport] else []) ++
    (if declarations.any (·.isStatic) then [markImport] else [])

section Read

variable {limit : Nat} {rest : List Lexeme}

/-- A literal is taken as its text. -/
@[simp]
theorem literalText_quotation (value : LiteralText) (marked : Bool) :
    literalText (.quotation (.text value marked) :: rest) = some (value, rest) := by
  simp [literalText]

/-- A literal without surrogates is taken as its value. -/
@[simp]
theorem literal_quotation (value : String) (marked : Bool) :
    literal (.quotation (.text value marked) :: rest) = some (value, rest) := by
  -- The literal is taken first, and then looked at for surrogates.
  rw [literal, bind_apply, literalText_quotation value marked]
  rfl

/-- A reference in brackets is taken from its operand. -/
theorem takes_reference_index (owner argument : Identifier.Word) :
    Takes reference (Operand.index owner argument).lexemes
      (.index owner.normalize.text argument.normalize.text) := by
  -- The bracket behind the name decides for the longer form.
  intro rest
  simp [reference, Operand.lexemes]

/-- A reference without brackets is taken up to a sign that opens none. -/
theorem reference_name (word : Identifier.Word) {sign : String} (other : sign ≠ "[") :
    reference (.name word :: .sign sign :: rest) =
      some (.name word.normalize.text, .sign sign :: rest) := by
  simp [reference, other]

/-- A line that gives a text is taken. -/
theorem takes_step_returned (value : String) :
    Takes step (Entry.returned (.text value)).lexemes (.gives value) := by
  -- The keyword decides for the kind of line, and the literal is its value.
  intro rest
  simp [step, Entry.returned]

/-- The lines that hand out texts are taken. -/
theorem takes_steps (literals : List String) :
    List.Forall₂ (fun entry taken => Takes step (Entry.lexemes entry) taken)
      (GeneratedSource.yieldEntries literals) (stepsOf literals) := by
  -- The two kinds of lines are taken each on their own, and all entries are of one kind.
  have one : ∀ value : String,
      Takes step (Entry.yielded (.text value)).lexemes (.handsOut value) := by
    intro value rest
    simp [step, Entry.yielded]
  have nothing : Takes step (Entry.yieldedFrom .unit).lexemes .handsOutNothing := by
    intro rest
    simp [step, Entry.yieldedFrom, Operand.lexemes]
  unfold GeneratedSource.yieldEntries stepsOf
  split
  · exact .cons nothing .nil
  · rw [List.forall₂_map_left_iff, List.forall₂_map_right_iff, List.forall₂_same]
    exact fun value _ => one value

/-- Where a block ends no line of a function begins. -/
theorem step_dedent : step (.dedent :: rest) = none := by
  simp [step]

/-- Nothing but a name is taken for one. -/
theorem identifier_refused {first : Lexeme} (other : ∀ word, first ≠ .name word)
    (rest : List Lexeme) : identifier (first :: rest) = none := by
  -- Only one kind of lexeme is accepted.
  cases first with
  | name word => exact absurd rfl (other word)
  | _ => rfl

/-- Nothing is declared where no name stands. -/
theorem declared_refused {first : Lexeme} (other : ∀ word, first ≠ .name word)
    (rest : List Lexeme) : declared (first :: rest) = none := by
  -- A declaration begins with the name.
  unfold declared
  exact bind_refused (identifier_refused other rest) _

/-- A decorated function is taken if its result and its lines are. -/
theorem takes_function (decorator word : Identifier.Word) (parameter : Option Identifier.Word)
    {type : Operand} {result : Reference} {entries : List Entry} {steps : List Step}
    (typed : ∀ rest, reference (type.lexemes ++ .sign ":" :: rest) =
      some (result, .sign ":" :: rest))
    (lines : List.Forall₂ (fun entry taken => Takes step (Entry.lexemes entry) taken) entries steps)
    (full : entries ≠ []) (room : entries.length ≤ limit + 1) :
    Takes (function limit) (Entry.function decorator word parameter type entries).lexemes
      ⟨decorator.normalize.text, word.normalize.text, parameter.map (·.normalize.text), result,
        steps⟩ := by
  have body : ∀ rest, some1 step limit (Entry.joined entries ++ ([Lexeme.dedent] ++ rest)) =
      some (steps, [Lexeme.dedent] ++ rest) := fun rest => some1_takes lines full step_dedent room
  -- Without a parameter, the parenthesis that closes is no name.
  have parameters : ∀ rest, ifAny identifier (parameter.toList.map .name ++ (.sign ")" :: rest)) =
      some (parameter.map (·.normalize.text), .sign ")" :: rest) := by
    intro rest
    rw [ifAny_apply]
    cases parameter with
    | none =>
      rw [Option.toList_none, List.map_nil, List.nil_append, identifier_refused (by simp)]
      rfl
    | some word => rfl
  -- One step takes one sign or word, until the lines are taken up to the end of the block.
  unfold function
  refine .cons (expect_self _) <| .cons (identifier_cons _) <| .cons (expect_self _) <|
    .cons (expect_self _) <| .cons (identifier_cons _) <| .cons (expect_self _) <|
    .append (fun rest => parameters _) <| .cons (expect_self _) <| .cons (expect_self _) <|
    .append (fun rest => typed _) <| .cons (expect_self _) <| .cons (expect_self _) <|
    .cons (expect_self _) <| .append body <| .cons (expect_self _) (takes_pure _)

/-- No function is taken where no decorator stands. -/
theorem function_refused {first : Lexeme} (other : first ≠ .sign "@") (rest : List Lexeme) :
    function limit (first :: rest) = none := by
  -- A function begins with its decorator.
  unfold function
  exact bind_refused (if_neg other) _

/-- Nothing but an empty statement is taken where neither a name nor a decorator stands. -/
theorem member_eq_pass {first : Lexeme} (noName : ∀ word, first ≠ .name word)
    (noDecorator : first ≠ .sign "@") (rest : List Lexeme) :
    member limit (first :: rest) =
      (do keyword "pass"; expect .newline; return Member.pass : Parser Member) (first :: rest) := by
  -- Of the three alternatives the first two are refused at once.
  simp only [member, orElse_apply, map_apply, declared_refused noName, function_refused noDecorator,
    Option.map_none, Option.none_or]

/-- A function is a statement of a class body. -/
theorem takes_member_function {lexemes : List Lexeme} {found : Function}
    (taken : Takes (function limit) (.sign "@" :: lexemes) found) :
    Takes (member limit) (.sign "@" :: lexemes) (.function found) := by
  -- A decorator is no name, so the declaration is refused first.
  intro rest
  have undeclared : declared (.sign "@" :: (lexemes ++ rest)) = none :=
    declared_refused (by simp) _
  have behind := taken rest
  rw [List.cons_append] at behind
  simp [member, undeclared, behind]

/-- The statement of a declaration is taken. -/
theorem takes_member {declaration : Declaration} (named : Identifier.IsName declaration.identity) :
    Takes (member limit) (GeneratedSource.memberEntry declaration).lexemes
      (memberOf declaration) := by
  unfold GeneratedSource.memberEntry memberOf
  -- A static slot is a declaration with a value, any other one a property.
  split
  · intro rest
    have mark : (wordOf "ClassVar").normalize.text = "ClassVar" := by decide
    have type : (wordOf "str").normalize.text = "str" := by decide
    have typed := takes_reference_index (wordOf "ClassVar") (wordOf "str")
    rw [mark, type] at typed
    simp [member, declared, GeneratedSource.staticEntry, Entry.declared, typed _, literal,
      named.text_normalize]
  · have decorator : (wordOf "property").normalize.text = "property" := by decide
    have parameter : (wordOf "self").normalize.text = "self" := by decide
    have type : (wordOf "str").normalize.text = "str" := by decide
    have typed : ∀ rest, reference ((Operand.name (wordOf "str")).lexemes ++ .sign ":" :: rest) =
        some (.name "str", .sign ":" :: rest) := by
      intro rest
      rw [← type]
      exact reference_name _ (by decide)
    have lines : List.Forall₂ (fun entry taken => Takes step (Entry.lexemes entry) taken)
        [Entry.returned (.text declaration.literal)] [.gives declaration.literal] :=
      .cons (takes_step_returned _) .nil
    have taken := takes_function (wordOf "property") (wordOf declaration.identity)
      (some (wordOf "self")) typed lines (List.cons_ne_nil _ _) (Nat.le_add_left 1 limit)
    rw [decorator, named.text_normalize, Option.map_some, parameter] at taken
    exact takes_member_function taken

/-- The statement of an enumeration is taken, if there is room for what it hands out. -/
theorem takes_member_enumeration {enumeration : Enumeration}
    (named : Identifier.IsName enumeration.name)
    (room : (GeneratedSource.yieldEntries enumeration.literals).length ≤ limit + 1) :
    Takes (member limit) (GeneratedSource.enumerationEntry enumeration).lexemes
      (.function (functionOf enumeration)) := by
  -- The names in the heading are in normal form, so they are read as they were written.
  have decorator : (wordOf "staticmethod").normalize.text = "staticmethod" := by decide
  have owner : (wordOf "Iterator").normalize.text = "Iterator" := by decide
  have type : (wordOf "str").normalize.text = "str" := by decide
  have typed := takes_reference_index (wordOf "Iterator") (wordOf "str")
  rw [owner, type] at typed
  have taken := takes_function (wordOf "staticmethod") (wordOf enumeration.name) none
    (fun rest => typed (.sign ":" :: rest)) (takes_steps enumeration.literals)
    (GeneratedSource.yieldEntries_ne_nil _) room
  rw [decorator, named.text_normalize, Option.map_none] at taken
  exact takes_member_function taken

/-- The statements of a class body are taken one by one. -/
theorem takes_body {enumeration : Option Enumeration} {declarations : List Declaration}
    (listed : ∀ named ∈ enumeration, Identifier.IsName named.name)
    (named : ∀ declaration ∈ declarations, Identifier.IsName declaration.identity)
    (room : ∀ listed ∈ enumeration,
      (GeneratedSource.yieldEntries listed.literals).length ≤ limit + 1) (started : Bool) :
    List.Forall₂ (fun entry taken => Takes (member limit) (Entry.lexemes entry) taken)
      (GeneratedSource.bodyEntries enumeration started declarations)
      (bodyMembers enumeration started declarations) := by
  -- What ends the body depends on whether a member stands in it, so this is generalized.
  induction declarations generalizing started with
  | nil =>
    cases enumeration with
    | some enumeration =>
      exact .cons (takes_member_enumeration (listed enumeration rfl) (room enumeration rfl)) .nil
    | none =>
      cases started with
      | true => exact .nil
      | false =>
        refine .cons ?_ .nil
        intro rest
        exact member_eq_pass (by simp) (by simp) _
  | cons declaration later ih =>
    have behind := ih (fun other inLater => named other (List.mem_cons_of_mem declaration inLater))
    exact .cons (takes_member (named declaration List.mem_cons_self)) (behind true)

/-- Where a class ends no statement of it begins. -/
theorem member_dedent : member limit (.dedent :: rest) = none := by
  -- No alternative begins with the end of a block.
  rw [member_eq_pass (by simp) (by simp)]
  rfl

/-- The imports are taken one by one. -/
theorem takes_imports (limit : Nat) (declarations : List Declaration)
    (enumeration : Option Enumeration) :
    List.Forall₂ (fun entry taken => Takes (imported (limit + 1)) (Entry.lexemes entry) taken)
      (GeneratedSource.importEntries declarations enumeration)
      (importsOf declarations enumeration) := by
  have iterator : Takes (imported (limit + 1))
      (Entry.imported (wordOf "collections") [wordOf "abc"] (wordOf "Iterator")).lexemes
      iteratorImport := by
    intro rest
    have first : (wordOf "collections").normalize.text = "collections" := by decide
    have second : (wordOf "abc").normalize.text = "abc" := by decide
    have name : (wordOf "Iterator").normalize.text = "Iterator" := by decide
    simp [imported, Entry.imported, many, many_refused, first, second, name, iteratorImport]
  have mark : Takes (imported (limit + 1))
      (Entry.imported (wordOf "typing") [] (wordOf "ClassVar")).lexemes markImport := by
    intro rest
    have first : (wordOf "typing").normalize.text = "typing" := by decide
    have name : (wordOf "ClassVar").normalize.text = "ClassVar" := by decide
    simp [imported, Entry.imported, many_refused, first, name, markImport]
  -- Either import may be there or not.
  unfold GeneratedSource.importEntries importsOf
  cases enumeration.isSome <;> cases declarations.any (·.isStatic)
  · exact .nil
  · exact .cons mark .nil
  · exact .cons iterator .nil
  · exact .cons iterator (.cons mark .nil)

end Read

end Execution

namespace Container

open Execution

/-- The program that the module of a container is. -/
def program (container : Container) : Program where
  imports := importsOf container.declarations (container.enumeration .python)
  className := readName container.name
  body := bodyMembers (container.enumeration .python) false container.declarations

variable {container : Container}

/-- The statements of a module are taken as its program, if there is room for as many as the module has lines. -/
theorem IsNamed.program_entries (named : container.IsNamed) (purpose : LiteralText) (limit : Nat)
    (room : container.writtenLater.length ≤ limit + 1) :
    Execution.program (limit + 1) (Entry.joined (container.entries purpose)) =
      some (container.program, []) := by
  obtain ⟨entries, values⟩ := GeneratedSource.length_body_le (container.enumeration .python) false
    container.declarations
  have imports := container.length_entries_le purpose
  simp only [Container.entries, List.length_cons, List.length_append, List.length_nil] at imports
  have inside : (GeneratedSource.writtenBody (container.enumeration .python) false
      container.declarations).length < container.writtenLater.length := by
    simp only [writtenLater, List.length_cons, List.length_append]
    omega
  have handsOut : ∀ listed ∈ container.enumeration .python,
      (GeneratedSource.yieldEntries listed.literals).length ≤ limit + 1 + 1 := by
    intro listed asked
    have few := values listed asked
    omega
  -- The class ends where its body is left, and nothing follows it.
  have body : some1 (member (limit + 1)) (limit + 1) (Entry.joined (GeneratedSource.bodyEntries
      (container.enumeration .python) false container.declarations) ++ [Lexeme.dedent]) =
      some (container.program.body, [.dedent]) :=
    some1_takes (takes_body (isName_enumeration container) named.declarations handsOut false)
      (GeneratedSource.bodyEntries_ne_nil _ _) member_dedent (by omega)
  have noImport : ∀ rest, imported (limit + 1) (.keyword "class" :: rest) = none := by
    intro rest
    simp [imported]
  have imported : ∀ rest, many (imported (limit + 1)) (limit + 1)
      (Entry.joined (GeneratedSource.importEntries container.declarations
        (container.enumeration .python)) ++ .keyword "class" :: rest) =
      some (container.program.imports, .keyword "class" :: rest) :=
    fun rest => many_takes (takes_imports limit container.declarations
      (container.enumeration .python)) (noImport rest) (by omega)
  simp only [Entry.joined] at body imported
  simp [Container.entries, Entry.joined, Entry.classOf, Entry.text, Execution.program,
    imported, body, named.name.text_normalize, atEnd, Container.program]

/-- The text of the module of a container is its program, whatever purpose it tells. -/
theorem IsNamed.readProgram_text (named : container.IsNamed) (tells : container.TellsPurpose) :
    readProgram (container.source .python).text = .ok container.program := by
  -- The lexemes are those of the entries, for which there is room in the text.
  obtain ⟨purpose, lexed, noNull, room⟩ := named.lexemes?_text tells
  unfold readProgram readWhole
  generalize moduleText (container.source .python).text.toList = text at lexed noNull room ⊢
  have taken := named.program_entries purpose (text.length + 7) (by omega)
  have bounded : (Grammar.ofLength text.length).limit = text.length + 7 + 1 := rfl
  rw [if_neg (by simpa using noNull), lexed, Option.bind_some, StateT.run]
  dsimp only
  rw [bounded, taken]

end Container

end PermissionNames
