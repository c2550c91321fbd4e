import PermissionNames.Proofs.GeneratedSource.Written
import PermissionNames.Proofs.Source.Statement

/-! The statements of a generated module, whose lexemes are those of its lines. -/

namespace PermissionNames

open Source

/-- The word that a name is spelled by. -/
def wordOf (name : String) : Identifier.Word :=
  .leading name.toList

/-- A name is read as its word. -/
theorem Identifier.IsName.ofSpelling {text : String} (named : Identifier.IsName text) :
    Lexeme.ofSpelling text = .name (wordOf text) := by
  rw [Lexeme.ofSpelling, if_neg (by simpa using named.notKeyword), wordOf]

namespace GeneratedSource

/-- The statement of a member that belongs to the class. -/
def staticEntry (declaration : Declaration) : Entry :=
  .declared (wordOf declaration.identity) (.index (wordOf "ClassVar") (wordOf "str"))
    (.text declaration.literal)

/-- The statement of a member that belongs to instances. -/
def propertyEntry (declaration : Declaration) : Entry :=
  .function (wordOf "property") (wordOf declaration.identity) (some (wordOf "self"))
    (.name (wordOf "str")) [.returned (.text declaration.literal)]

/-- The statement of a member. -/
def memberEntry (declaration : Declaration) : Entry :=
  if declaration.isStatic then staticEntry declaration else propertyEntry declaration

/-- The statements that hand out literals. -/
def yieldEntries (literals : List String) : List Entry :=
  if literals = [] then [.yieldedFrom .unit]
  else literals.map fun (literal : String) => .yielded (.text literal)

/-- The statement of an enumeration. -/
def enumerationEntry (enumeration : Enumeration) : Entry :=
  .function (wordOf "staticmethod") (wordOf enumeration.name) none
    (.index (wordOf "Iterator") (wordOf "str")) (yieldEntries enumeration.literals)

/-- The statements that end a class body. -/
def closingEntries (started : Bool) : Option Enumeration → List Entry
  | some enumeration => [enumerationEntry enumeration]
  | none => if started then [] else [.pass]

/-- The statements of a class body, or of the rest of one that is started. -/
def bodyEntries (enumeration : Option Enumeration) (started : Bool) :
    List Declaration → List Entry
  | [] => closingEntries started enumeration
  | declaration :: later => memberEntry declaration :: bodyEntries enumeration true later

/-- Where a line of a class body may stand. -/
inductive Place
  | outside
  | inClass
  | inFunction

namespace Place

/-- The blocks that are open at a place. -/
def blocks : Place → List Column
  | outside => []
  | inClass => [⟨4, 4⟩]
  | inFunction => [⟨8, 8⟩, ⟨4, 4⟩]

/-- What a member at a place begins with. -/
def before : Place → List Lexeme
  | outside => [.indent]
  | inClass => []
  | inFunction => [.dedent]

/-- A member goes on with the class. -/
theorem afterLine_member (place : Place) :
    Layout.afterLine ⟨place.blocks, []⟩ ⟨4, 4⟩ = some (place.before, ⟨inClass.blocks, []⟩) := by
  cases place <;> rfl

/-- A value in a class begins a function. -/
theorem afterLine_value :
    Layout.afterLine ⟨inClass.blocks, []⟩ ⟨8, 8⟩ = some ([.indent], ⟨inFunction.blocks, []⟩) :=
  rfl

end Place

section Lines

/-- A line with lexemes begins with the changes of its indentation. -/
theorem lexemesFrom_cons (line : Line) {lines : List Line} {blocks after : List Column}
    {changes lexemes : List Lexeme} (full : line.lexemes ≠ [])
    (change : Layout.afterLine ⟨blocks, []⟩ ⟨line.depth, line.depth⟩ = some (changes, ⟨after, []⟩))
    (others : Line.lexemesFrom after lines = some lexemes) :
    Line.lexemesFrom blocks (line :: lines) =
      some (changes ++ line.lexemes ++ .newline :: lexemes) := by
  -- The line is not blank, so the layout takes one step.
  rw [Line.lexemesFrom, if_neg full, change, Option.bind_eq_bind, Option.bind_some]
  simp [others]

/-- A blank line has no lexemes. -/
theorem lexemesFrom_blank (blocks : List Column) (started : Bool) (lines : List Line) :
    Line.lexemesFrom blocks ((if started then [⟨0, []⟩] else []) ++ lines) =
      Line.lexemesFrom blocks lines := by
  cases started <;> rfl

/-- The lexemes of a literal behind a keyword. -/
theorem lexemes_writtenValue {word : String} (reserved : Lexeme.keywords.contains word)
    (literal : String) :
    (writtenValue word literal).lexemes = .keyword word :: (Operand.text literal).lexemes := by
  -- The word is read as a keyword, and the rest computes.
  have keyword : Lexeme.ofSpelling word = .keyword word := by
    rw [Lexeme.ofSpelling, if_pos reserved]
  rw [← keyword]
  rfl

/-- The comment of a visibility has no lexemes. -/
theorem lexemes_visibilityItems (visibility : Visibility) :
    (visibilityItems visibility).filterMap Item.lexeme? = [] := by
  cases visibility <;> rfl

variable {declaration : Declaration}

/-- The lexemes of a member that belongs to the class are those of its line. -/
theorem lexemes_writtenStatic (named : Identifier.IsName declaration.identity) :
    (writtenStatic declaration).lexemes ++ [Lexeme.newline] =
      (staticEntry declaration).lexemes := by
  -- The items of a visibility are a comment, and comments have no lexemes.
  rw [Line.lexemes, writtenStatic, List.filterMap_append, lexemes_visibilityItems, List.append_nil,
    staticEntry, Entry.declared, ← named.ofSpelling]
  rfl

/-- The lexemes of the line that heads a property. -/
theorem lexemes_writtenHeading (named : Identifier.IsName declaration.identity) :
    (writtenHeading declaration).lexemes =
      [.keyword "def", .name (wordOf declaration.identity), .sign "(", .name (wordOf "self"),
        .sign ")", .sign "->", .name (wordOf "str"), .sign ":"] := by
  -- The items of a visibility are a comment, and comments have no lexemes.
  rw [Line.lexemes, writtenHeading, List.filterMap_append, lexemes_visibilityItems,
    List.append_nil, ← named.ofSpelling]
  rfl

/-- The lines of a member lead from one place in a class body to another, and give its lexemes. -/
theorem lexemesFrom_member (named : Identifier.IsName declaration.identity) (place : Place) :
    ∃ behind : Place, behind ≠ .outside ∧ ∀ lines lexemes,
      Line.lexemesFrom behind.blocks lines = some (behind.before ++ lexemes) →
        Line.lexemesFrom place.blocks (writtenMember declaration ++ lines) =
          some (place.before ++ ((memberEntry declaration).lexemes ++ lexemes)) := by
  -- A property leaves its function open, so what a member begins with is that of the place before it.
  unfold writtenMember memberEntry
  split
  · -- One line leads back into the class.
    refine ⟨.inClass, by simp, fun lines lexemes others => ?_⟩
    rw [← lexemes_writtenStatic named, List.singleton_append,
      lexemesFrom_cons _ (by simp [writtenStatic, Line.lexemes, Item.lexeme?])
        place.afterLine_member others]
    simp [Place.before]
  · -- The last line of a property leaves its function open.
    refine ⟨.inFunction, by simp, fun lines lexemes others => ?_⟩
    have returned := lexemes_writtenValue (by decide : Lexeme.keywords.contains "return")
      declaration.literal
    have value := lexemesFrom_cons (writtenValue "return" declaration.literal)
      (by simp [returned]) Place.afterLine_value others
    have heading := lexemesFrom_cons (writtenHeading declaration)
      (by simp [lexemes_writtenHeading named]) Place.inClass.afterLine_member value
    have decorator : Line.lexemes ⟨4, [.sign "@", .word "property"]⟩ =
        [.sign "@", .name (wordOf "property")] := rfl
    rw [writtenProperty, List.cons_append, List.cons_append, List.singleton_append,
      lexemesFrom_cons _ (by simp [decorator]) place.afterLine_member heading, decorator,
      lexemes_writtenHeading named, returned]
    simp [Place.before, propertyEntry, Entry.function, Entry.joined, Entry.returned]

/-- Values that are handed out in a function end it and its class. -/
theorem lexemesFrom_yields (literals : List String) :
    Line.lexemesFrom Place.inFunction.blocks (literals.map (writtenValue "yield")) =
      some (Entry.joined (literals.map fun (literal : String) => .yielded (.text literal)) ++
        [Lexeme.dedent, .dedent]) := by
  -- Every line stands as deep as the one above, so no indentation changes before the end.
  induction literals with
  | nil => rfl
  | cons literal later ih =>
    have next : Layout.afterLine ⟨Place.inFunction.blocks, []⟩ ⟨8, 8⟩ =
        some ([], ⟨Place.inFunction.blocks, []⟩) := rfl
    have yielded := lexemes_writtenValue (by decide : Lexeme.keywords.contains "yield") literal
    rw [List.map_cons, lexemesFrom_cons _ (by simp [yielded]) next ih, yielded]
    simp [Entry.joined, Entry.yielded]

/-- The lines behind the heading of an enumeration are its function, which ends with the class. -/
theorem lexemesFrom_values (literals : List String) :
    Line.lexemesFrom Place.inClass.blocks
      (if literals = [] then
        [⟨8, [.word "yield", .blank, .word "from", .blank, .sign "(", .sign ")"]⟩]
      else literals.map (writtenValue "yield")) =
      some (.indent :: (Entry.joined (yieldEntries literals) ++ [Lexeme.dedent, .dedent])) := by
  -- The first line opens the block, and the others stay in it.
  cases literals with
  | nil => rfl
  | cons literal later =>
    have yielded := lexemes_writtenValue (by decide : Lexeme.keywords.contains "yield") literal
    rw [if_neg (by simp), List.map_cons, lexemesFrom_cons _ (by simp [yielded])
      Place.afterLine_value (lexemesFrom_yields later), yielded]
    simp [yieldEntries, Entry.joined, Entry.yielded]

/-- The lines of an enumeration give its lexemes, and end the class. -/
theorem lexemesFrom_enumeration {enumeration : Enumeration}
    (named : Identifier.IsName enumeration.name) (place : Place) :
    Line.lexemesFrom place.blocks (writtenEnumeration enumeration) =
      some (place.before ++ ((enumerationEntry enumeration).lexemes ++ [Lexeme.dedent])) := by
  have heading : (writtenIterator enumeration).lexemes =
      [.keyword "def", .name (wordOf enumeration.name), .sign "(", .sign ")", .sign "->",
        .name (wordOf "Iterator"), .sign "[", .name (wordOf "str"), .sign "]", .sign ":"] := by
    rw [← named.ofSpelling]
    rfl
  have decorator : Line.lexemes ⟨4, [.sign "@", .word "staticmethod"]⟩ =
      [.sign "@", .name (wordOf "staticmethod")] := rfl
  -- The heading opens the function whose lines are the values.
  have function := lexemesFrom_cons (writtenIterator enumeration) (by simp [heading])
    Place.inClass.afterLine_member (lexemesFrom_values enumeration.literals)
  rw [writtenEnumeration, List.cons_append, List.singleton_append,
    lexemesFrom_cons _ (by simp [decorator]) place.afterLine_member function, heading, decorator]
  simp [Place.before, enumerationEntry, Entry.function, Operand.lexemes]

/-- The lines of a class body give the lexemes of its statements, and end the class. -/
theorem lexemesFrom_body {enumeration : Option Enumeration} {declarations : List Declaration}
    (listed : ∀ named ∈ enumeration, Identifier.IsName named.name)
    (named : ∀ declaration ∈ declarations, Identifier.IsName declaration.identity)
    {started : Bool} {place : Place} (inside : started → place ≠ .outside) :
    Line.lexemesFrom place.blocks (writtenBody enumeration started declarations) =
      some (place.before ++ (Entry.joined (bodyEntries enumeration started declarations) ++
        [Lexeme.dedent])) := by
  -- Each member leads to the place at which the rest of the body is read.
  induction declarations generalizing started place with
  | nil =>
    cases enumeration with
    | some enumeration =>
      rw [writtenBody, writtenClosing, lexemesFrom_blank,
        lexemesFrom_enumeration (listed enumeration rfl)]
      simp [bodyEntries, closingEntries, Entry.joined]
    | none =>
      cases started with
      | true =>
        -- Only the class and perhaps a function in it are left to end.
        cases place with
        | outside => exact absurd rfl (inside rfl)
        | inClass => rfl
        | inFunction => rfl
      | false =>
        have ended : Line.lexemesFrom Place.inClass.blocks [] = some [.dedent] := rfl
        have pass : Line.lexemes ⟨4, [.word "pass"]⟩ = [.keyword "pass"] := rfl
        rw [writtenBody, writtenClosing, if_neg Bool.false_ne_true,
          lexemesFrom_cons _ (by simp [pass]) place.afterLine_member ended, pass]
        simp [bodyEntries, closingEntries, Entry.joined, Entry.pass]
  | cons declaration later ih =>
    obtain ⟨behind, inClass, goesOn⟩ :=
      lexemesFrom_member (named declaration List.mem_cons_self) place
    have others := ih (fun other member => named other (List.mem_cons_of_mem declaration member))
      fun (_ : true) => inClass
    rw [writtenBody, List.append_assoc, lexemesFrom_blank, goesOn _ _ others]
    simp [bodyEntries, Entry.joined]

end Lines

end GeneratedSource

end PermissionNames
