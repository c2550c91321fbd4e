import PermissionNames.Proofs.Discovery
import PermissionNames.Proofs.GeneratedSource.Entries
import PermissionNames.Proofs.Text.Pieces

/-! Generated modules are read as what they declare, and declare no containers. -/

namespace PermissionNames

open Source

namespace GeneratedSource

section Read

variable {limit depth : Nat}

/-- Members are read. -/
theorem isRead_member (declaration : Declaration) :
    (memberEntry declaration).IsRead (Grammar.within (limit + 2))
      ((Grammar.within (limit + 2)).blockWithin (depth + 1)) := by
  -- An attribute is a declaration, and a property a function with a single line.
  unfold memberEntry
  split
  · exact Entry.isRead_declared limit _ _ _ _
  · refine Entry.isRead_function _ _ _ _ (by simp) ?_ (by simp)
    simpa using Entry.isRead_returned limit _ _

/-- An enumeration always hands out something. -/
theorem yieldEntries_ne_nil (literals : List String) : yieldEntries literals ≠ [] := by
  -- Without literals there is still the statement that hands out nothing.
  unfold yieldEntries
  split <;> simp_all

/-- Enumerations are read, unless they list more than a text can hold. -/
theorem isRead_enumeration {enumeration : Enumeration}
    (room : (yieldEntries enumeration.literals).length ≤ limit + 2) :
    (enumerationEntry enumeration).IsRead (Grammar.within (limit + 2))
      ((Grammar.within (limit + 2)).blockWithin (depth + 1)) := by
  -- The lines of the function hand out one literal each, or nothing at all.
  refine Entry.isRead_function _ _ _ _ (yieldEntries_ne_nil _) ?_ room
  unfold yieldEntries
  split
  · simpa using Entry.isRead_yieldedFrom limit _ _
  · simpa using fun literal _ => Entry.isRead_yielded limit _ _

/-- The statements of a class body are read. -/
theorem isRead_body {enumeration : Option Enumeration} {declarations : List Declaration}
    (room : ∀ listed ∈ enumeration, (yieldEntries listed.literals).length ≤ limit + 2)
    (started : Bool) :
    ∀ entry ∈ bodyEntries enumeration started declarations,
      entry.IsRead (Grammar.within (limit + 2))
        ((Grammar.within (limit + 2)).blockWithin (depth + 1)) := by
  -- The enumeration is read last, and there is room for all that it hands out.
  induction declarations generalizing started with
  | nil =>
    cases enumeration with
    | none => cases started <;> simp [bodyEntries, closingEntries, Entry.isRead_pass]
    | some listed => simpa [bodyEntries, closingEntries] using isRead_enumeration (room listed rfl)
  | cons declaration later ih =>
    rw [bodyEntries, List.forall_mem_cons]
    exact ⟨isRead_member declaration, ih true⟩

/-- A class body is never empty. -/
theorem bodyEntries_ne_nil (enumeration : Option Enumeration) (declarations : List Declaration) :
    bodyEntries enumeration false declarations ≠ [] := by
  -- Where nothing is declared or listed the body holds the empty statement.
  cases declarations with
  | nil => cases enumeration <;> simp [bodyEntries, closingEntries]
  | cons declaration later => simp [bodyEntries]

end Read

section Room

/-- What an enumeration hands out takes a line each. -/
theorem length_yieldEntries_le (enumeration : Enumeration) :
    (yieldEntries enumeration.literals).length ≤ (writtenEnumeration enumeration).length := by
  -- Besides its lines an enumeration has a heading.
  unfold yieldEntries writtenEnumeration
  split
  · simp
  · simp only [List.length_map, List.length_append]
    omega

/-- The statements of a class body, and what is handed out in it, take a line each. -/
theorem length_body_le (enumeration : Option Enumeration) (started : Bool)
    (declarations : List Declaration) :
    (bodyEntries enumeration started declarations).length ≤
        (writtenBody enumeration started declarations).length ∧
      ∀ listed ∈ enumeration, (yieldEntries listed.literals).length ≤
        (writtenBody enumeration started declarations).length := by
  -- Members and the enumeration have at least one line, and each value has its own.
  induction declarations generalizing started with
  | nil =>
    cases enumeration with
    | none => cases started <;> simp [bodyEntries, closingEntries, writtenBody, writtenClosing]
    | some listed =>
      have values := length_yieldEntries_le listed
      have full : 1 ≤ (writtenEnumeration listed).length := by simp [writtenEnumeration]
      simp only [bodyEntries, closingEntries, writtenBody, writtenClosing, List.length_append,
        Option.mem_def, Option.some.injEq, forall_eq', List.length_singleton]
      omega
  | cons declaration later ih =>
    obtain ⟨entries, values⟩ := ih true
    have member : 1 ≤ (writtenMember declaration).length := by
      unfold writtenMember
      split <;> simp [writtenProperty]
    simp only [bodyEntries, writtenBody, List.length_append, List.length_cons]
    refine ⟨by omega, fun listed present => ?_⟩
    have few := values listed present
    omega

/-- Every line takes a character. -/
theorem length_le_text (lines : List Line) : lines.length ≤ (lines.flatMap Line.text).length := by
  -- The end of the line alone is a character.
  induction lines with
  | nil => simp
  | cons line later ih =>
    simp only [List.flatMap_cons, List.length_append, List.length_cons, Line.text,
      List.length_nil]
    omega

end Room

/-- The statements of imports. -/
def importEntries (declarations : List Declaration) (enumeration : Option Enumeration) :
    List Entry :=
  (if enumeration.isSome then
    [Entry.imported (wordOf "collections") [wordOf "abc"] (wordOf "Iterator")] else []) ++
    (if declarations.any (·.isStatic) then
      [Entry.imported (wordOf "typing") [] (wordOf "ClassVar")] else [])

/-- A line at the first column, outside all blocks, changes no block. -/
theorem lexemesFrom_top (line : Line) {lines : List Line} {lexemes : List Lexeme}
    (top : line.depth = 0) (full : line.lexemes ≠ [])
    (others : Line.lexemesFrom [] lines = some lexemes) :
    Line.lexemesFrom [] (line :: lines) = some (line.lexemes ++ .newline :: lexemes) := by
  -- The first column opens no block and closes none, as none is open.
  have change : Layout.afterLine ⟨[], []⟩ ⟨line.depth, line.depth⟩ = some ([], ⟨[], []⟩) := by
    rw [top]
    rfl
  simpa using lexemesFrom_cons line full change others

/-- The lines of imports, with the blank lines behind them, give the lexemes of their statements. -/
theorem lexemesFrom_imports (declarations : List Declaration) (enumeration : Option Enumeration)
    {lines : List Line} {lexemes : List Lexeme} (others : Line.lexemesFrom [] lines = some lexemes) :
    let imports := writtenImports declarations enumeration
    Line.lexemesFrom []
        ((if imports = [] then [⟨0, []⟩] else imports ++ [⟨0, []⟩, ⟨0, []⟩]) ++ lines) =
      some (Entry.joined (importEntries declarations enumeration) ++ lexemes) := by
  have blank : Line.lexemesFrom [] (⟨0, []⟩ :: lines) = some lexemes := others
  have blanks : Line.lexemesFrom [] (⟨0, []⟩ :: ⟨0, []⟩ :: lines) = some lexemes := others
  -- Imports of either kind may be there or not.
  unfold writtenImports importEntries
  cases enumeration.isSome <;> cases declarations.any (·.isStatic)
  · exact blank
  · exact lexemesFrom_top writtenClassVarImport rfl (List.cons_ne_nil _ _) blanks
  · exact lexemesFrom_top writtenIteratorImport rfl (List.cons_ne_nil _ _) blanks
  · exact lexemesFrom_top writtenIteratorImport rfl (List.cons_ne_nil _ _)
      (lexemesFrom_top writtenClassVarImport rfl (List.cons_ne_nil _ _) blanks)

end GeneratedSource

namespace Container

/-- A container whose names are no keywords. -/
structure IsNamed (container : Container) : Prop where
  name : Identifier.IsName container.name
  slots : ∀ slot ∈ container.slots, Identifier.IsName slot.identity

/-- A container whose names are no keywords, in a namespace of identifiers or in none. -/
structure IsSpelled (container : Container) : Prop where
  name : Identifier.IsName container.name
  slots : ∀ slot ∈ container.slots, Identifier.IsName slot.identity
  namespacePath : container.namespacePath = "" ∨
    ∀ piece ∈ Path.splitAt '.' container.namespacePath.toList, Identifier.isValid piece

variable {container : Container}

/-- A valid identifier lacks every foreign character. -/
theorem not_mem_of_isValid {text : List Char} {c : Char} (foreign : IsForeign c)
    (valid : Identifier.isValid text) : c ∉ text := by
  -- Everything in an identifier continues a word, which a foreign character does not.
  intro member
  obtain ⟨-, -, -, -, continues⟩ := Identifier.exists_of_isValid valid
  have continued := List.all_eq_true.mp continues c member
  rw [foreign.notInWords] at continued
  cases continued

/-- The names of a spelled container are no keywords. -/
theorem IsSpelled.isNamed (spelled : container.IsSpelled) : container.IsNamed :=
  ⟨spelled.name, spelled.slots⟩

/-- A container with names lacks a foreign character that its namespace lacks. -/
theorem IsNamed.lacks {c : Char} (named : container.IsNamed) (foreign : IsForeign c)
    (absent : c ∉ container.namespacePath.toList) : container.Lacks c where
  name := not_mem_of_isValid foreign named.name.valid
  slots := fun slot listed => not_mem_of_isValid foreign (named.slots slot listed).valid
  namespacePath := absent

/-- A spelled container lacks every foreign character. -/
theorem IsSpelled.lacks {c : Char} (spelled : container.IsSpelled) (foreign : IsForeign c) :
    container.Lacks c := by
  -- The names are words, so only the namespace is left: it is made of words and periods.
  refine spelled.isNamed.lacks foreign ?_
  rcases spelled.namespacePath with top | pieces
  · simp [top]
  · intro member
    rw [← Path.intercalate_splitAt '.' container.namespacePath.toList] at member
    rcases mem_of_mem_intercalate member with inPeriod | ⟨piece, listed, inPiece⟩
    · exact foreign.notPeriod (List.mem_singleton.mp inPeriod)
    · exact not_mem_of_isValid foreign (pieces piece listed) inPiece

/-- The statements of the module of a container whose purpose is read as a text. -/
def entries (container : Container) (purpose : LiteralText) : List Entry :=
  let declarations := container.declarations
  let enumeration := container.enumeration .python
  .text purpose ::
    (GeneratedSource.importEntries declarations enumeration ++
      [Entry.classOf (wordOf container.name)
        (GeneratedSource.bodyEntries enumeration false declarations)])

/-- The name of an enumeration is a name. -/
theorem isName_enumeration (container : Container) :
    ∀ listed ∈ container.enumeration .python, Identifier.IsName listed.name := by
  -- An enumeration always has the name that its dialect gives it.
  intro listed asked
  unfold enumeration at asked
  split at asked
  · cases asked
    have named : Identifier.IsName Dialect.python.enumerationName :=
      ⟨by decide, by decide⟩
    exact named
  · cases asked

/-- The declarations of a container with names are named. -/
theorem IsNamed.declarations (named : container.IsNamed) :
    ∀ declaration ∈ container.declarations, Identifier.IsName declaration.identity := by
  -- A declaration is made from a slot and keeps its identity.
  intro declaration member
  obtain ⟨slot, listed, rfl⟩ := List.mem_map.mp member
  exact named.slots slot listed

/-- The title of a class is written, and read as a class of its name. -/
theorem IsNamed.writtenTitle (named : container.IsNamed) :
    container.writtenTitle.IsWritten ∧ container.writtenTitle.lexemes =
      [.keyword "class", .name (wordOf container.name), .sign ":"] := by
  -- The spelling of the name is that of its word, so the line is read as it was written.
  have lexemes : container.writtenTitle.lexemes =
      [.keyword "class", .name (wordOf container.name), .sign ":"] := by
    rw [← named.name.ofSpelling]
    rfl
  refine ⟨⟨?_, rfl, by simp [Container.writtenTitle], fun _ => rfl⟩, lexemes⟩
  simp only [Container.writtenTitle, List.forall_mem_cons]
  exact ⟨by decide, trivial, named.name.valid, by decide, by simp⟩

/-- The lines of the module of a container with names are written, for a purpose that is one literal between three quotes. -/
theorem IsNamed.isWritten (named : container.IsNamed) {purpose : String}
    (whole : (Quotation.longText? purpose.toList).isSome) :
    ∀ line ∈ container.written purpose, line.IsWritten := by
  -- The heading, the blank lines and the imports are fixed; what varies are the purpose, the title
  -- and the body.
  have blank := Line.isWritten_blank
  have heading : Line.IsWritten ⟨0, [.comment (" " ++ GeneratedSource.marker)]⟩ :=
    ⟨by decide, rfl, by simp, fun _ => rfl⟩
  have introduction : Line.IsWritten ⟨0, [.longLiteral purpose]⟩ :=
    ⟨List.forall_mem_singleton.mpr whole, rfl, by simp, fun _ => rfl⟩
  have imports := GeneratedSource.isWritten_imports container.declarations
    (container.enumeration .python)
  have body := GeneratedSource.isWritten_body (isName_enumeration container) named.declarations
    false
  simp only [written, writtenLater, List.forall_mem_cons, List.forall_mem_append]
  refine ⟨heading, introduction, blank, ?_, named.writtenTitle.1, body⟩
  split
  · simpa using blank
  · exact List.forall_mem_append.mpr ⟨imports, by simp [blank]⟩

/-- The lines of the module of a container with names give the lexemes of its statements. -/
theorem IsNamed.lexemesFrom_written (named : container.IsNamed) {purpose : String}
    {value : LiteralText} (whole : Quotation.longText? purpose.toList = some value) :
    Line.lexemesFrom [] (container.written purpose) =
      some (Entry.joined (container.entries value)) := by
  obtain ⟨-, title⟩ := named.writtenTitle
  have outside : false = true → GeneratedSource.Place.outside ≠ .outside := by simp
  have body := GeneratedSource.lexemesFrom_body (isName_enumeration container)
    named.declarations outside
  have titled := GeneratedSource.lexemesFrom_top container.writtenTitle rfl (by simp [title]) body
  -- The blank line in front of the imports counts for nothing.
  have imported : Line.lexemesFrom [] (⟨0, []⟩ :: _) = _ :=
    GeneratedSource.lexemesFrom_imports container.declarations (container.enumeration .python) titled
  have introduction : Line.lexemes ⟨0, [.longLiteral purpose]⟩ =
      [.quotation (.text value false)] := by
    simp [Line.lexemes, Item.lexeme?, whole]
  have all : Line.lexemesFrom [] (container.written purpose) = _ :=
    GeneratedSource.lexemesFrom_top ⟨0, [.longLiteral purpose]⟩ rfl (by simp [introduction]) imported
  rw [all, introduction, title]
  simp [entries, Entry.joined, Entry.text, Entry.classOf, GeneratedSource.Place.before]

/-- The statements of the module of a container are read, if there is room for as many as the module has lines. -/
theorem isRead_entries (container : Container) (purpose : LiteralText) {limit : Nat}
    (room : container.writtenLater.length ≤ limit + 2) :
    ∀ entry ∈ container.entries purpose, entry.IsRead (Grammar.within (limit + 2))
      ((Grammar.within (limit + 2)).blockWithin (Layout.blockLimit + 1)) := by
  -- The class body is a part of the module, so there is room for its statements too.
  obtain ⟨entries, values⟩ := GeneratedSource.length_body_le (container.enumeration .python) false
    container.declarations
  have inside : (GeneratedSource.writtenBody (container.enumeration .python) false
      container.declarations).length ≤ limit + 2 := by
    refine le_trans ?_ room
    simp only [writtenLater, List.length_cons, List.length_append]
    omega
  have imports : ∀ entry ∈ GeneratedSource.importEntries container.declarations
      (container.enumeration .python), entry.IsRead (Grammar.within (limit + 2))
        ((Grammar.within (limit + 2)).blockWithin (Layout.blockLimit + 1)) := by
    unfold GeneratedSource.importEntries
    cases (container.enumeration .python).isSome <;>
      cases container.declarations.any (·.isStatic) <;>
      simp [Entry.isRead_imported, Grammar.within]
  simp only [Container.entries, List.forall_mem_cons, List.forall_mem_append]
  refine ⟨Entry.isRead_text _ _ _, imports, ?_, by simp⟩
  refine Entry.isRead_classOf _ (GeneratedSource.bodyEntries_ne_nil _ _) ?_ (le_trans entries inside)
  exact GeneratedSource.isRead_body (fun listed present => le_trans (values listed present) inside)
    false

/-- A module has a line for each of its statements. -/
theorem length_entries_le (container : Container) (purpose : LiteralText) :
    (container.entries purpose).length ≤ container.writtenLater.length := by
  -- Imports have one line each, and the class has one at least, its title.
  have imports : (GeneratedSource.importEntries container.declarations
      (container.enumeration .python)).length = (GeneratedSource.writtenImports
        container.declarations (container.enumeration .python)).length := by
    unfold GeneratedSource.importEntries GeneratedSource.writtenImports
    split <;> split <;> rfl
  simp only [entries, writtenLater, List.length_cons, List.length_append, List.length_nil]
  split
  · simp_all
  · simp only [List.length_append, List.length_cons, List.length_nil]
    omega

/-- The purpose of a module stands somewhere between other text, which ends in more than a newline. -/
theorem exists_written (container : Container) :
    ∃ before later : List Char, 2 ≤ later.length ∧ '\n' ∉ later.head? ∧
      ∀ purpose, (container.written purpose).flatMap Line.text =
        before ++ (purpose.toList ++ later) := by
  -- The purpose stands between three quotes in the second line, and all other lines do not depend
  -- on it.
  refine ⟨Line.text ⟨0, [.comment (" " ++ GeneratedSource.marker)]⟩ ++ ['"', '"', '"'],
    '"' :: '"' :: '"' :: '\n' :: container.writtenLater.flatMap Line.text, by simp, by simp, ?_⟩
  intro purpose
  simp [written, Line.text, Item.joined, Item.text]

/-- A text of a module is taken as it is, unless it holds carriage returns. -/
theorem moduleText_eq_text (noReturn : '\r' ∉ (container.source .python).text.toList) :
    moduleText (container.source .python).text.toList =
      (container.source .python).text.toList := by
  -- The text ends with the end of its last line.
  rw [text_eq_joinLines, GeneratedSource.joinLines, String.toList_append] at noReturn ⊢
  exact moduleText_eq_self fun member => noReturn (List.mem_append_left _ member)

/-- The text of a module is taken with unified newlines in its purpose, the only place that can hold carriage returns. -/
theorem IsNamed.moduleText_text (named : container.IsNamed) :
    moduleText (container.source .python).text.toList =
      (container.written (String.ofList (unifyNewlines container.purpose.toList))).flatMap
        Line.text := by
  obtain ⟨before, later, long, apart, written⟩ := container.exists_written
  -- Without its namespace, the same container has no carriage return in its module.
  let bare : Container := { container with namespacePath := "" }
  have bareNamed : bare.IsNamed := ⟨named.name, named.slots⟩
  have noReturn : '\r' ∉ (bare.source .python).text.toList :=
    (bareNamed.lacks ⟨by decide, by decide⟩ (by simp [bare])).control_not_mem_text (by decide)
      (by decide) .python
  have kept := moduleText_eq_text noReturn
  have bareText : (bare.source .python).text.toList =
      before ++ (bare.purpose.toList ++ later) := by
    rw [toList_text]
    exact written bare.purpose
  rw [bareText, List.mem_append, List.mem_append, not_or, not_or] at noReturn
  obtain ⟨beforeClean, purposeClean, -⟩ := noReturn
  have frontClean : '\r' ∉ before ++ bare.purpose.toList := by simp [beforeClean, purposeClean]
  rw [bareText, ← List.append_assoc, moduleText_append apart long,
    unifyNewlines_eq_self frontClean, List.append_cancel_left_eq] at kept
  have begins : '\n' ∉ container.purpose.toList.head? := by simp [purpose_eq]
  rw [toList_text, written, written, ← List.append_assoc, moduleText_append apart long, kept,
    unifyNewlines_append begins, unifyNewlines_eq_self beforeClean, String.toList_ofList,
    List.append_assoc]

/-- Whether the purpose of a module can stand in it: without null characters, and between three quotes as one literal. -/
structure TellsPurpose (container : Container) : Prop where
  noNull : '\x00' ∉ container.namespacePath.toList
  isLiteral : (Quotation.longText? (unifyNewlines container.purpose.toList)).isSome

/-- The module of a spelled container tells its purpose. -/
theorem IsSpelled.tellsPurpose (spelled : container.IsSpelled) : container.TellsPurpose := by
  have absent : ∀ c, IsForeign c → c ∉ container.namespacePath.toList :=
    fun c foreign => (spelled.lacks foreign).namespacePath
  -- The purpose is made of names and periods, so nothing of it has a meaning between quotes.
  have plain : ∀ c, IsForeign c → c ∉ "Generated permission names for ".toList →
      c ∉ container.purpose.toList := by
    intro c foreign unused
    have lacks := spelled.lacks foreign
    have qualified := not_mem_qualifiedName foreign.notPeriod lacks.name lacks.namespacePath
    simpa [purpose_eq, qualified, foreign.notPeriod] using unused
  have noReturn := plain '\r' ⟨by decide, by decide⟩ (by decide)
  have noBackslash := plain '\\' ⟨by decide, by decide⟩ (by decide)
  have noQuote := plain '"' ⟨by decide, by decide⟩ (by decide)
  refine ⟨absent _ ⟨by decide, by decide⟩, ?_⟩
  rw [unifyNewlines_eq_self noReturn, Quotation.longText?_plain]
  · rfl
  · intro c member
    exact ⟨ne_of_mem_of_not_mem member noBackslash, ne_of_mem_of_not_mem member noQuote⟩

/-- The text of the module of a container with names that tells its purpose gives the lexemes of its statements, and has room for all of them. -/
theorem IsNamed.lexemes?_text (named : container.IsNamed) (tells : container.TellsPurpose) :
    let text := moduleText (container.source .python).text.toList
    ∃ purpose : LiteralText, lexemes? text = some (Entry.joined (container.entries purpose)) ∧
      '\x00' ∉ text ∧ container.writtenLater.length + 2 ≤ text.length := by
  intro text
  obtain ⟨purpose, whole⟩ := Option.isSome_iff_exists.mp tells.isLiteral
  rw [← String.toList_ofList (l := unifyNewlines container.purpose.toList)] at whole
  refine ⟨purpose, ?_, ?_, ?_⟩
  · have written := named.isWritten (Option.isSome_of_eq_some whole)
    rw [← named.lexemesFrom_written whole, ← Line.lexemes?_text written, ← named.moduleText_text]
  · have absent := (named.lacks ⟨by decide, by decide⟩ tells.noNull).control_not_mem_text (by decide)
      (by decide) .python
    intro member
    rcases List.mem_append.mp member with unified | added
    · rcases mem_or_eq_of_mem_unifyNewlines unified with inText | newline
      · exact absent inText
      · cases newline
    · split at added <;> simp at added
  -- Every line takes a character.
  · simp only [text, named.moduleText_text]
    exact GeneratedSource.length_le_text (container.written _)

/-- The module of a container with names that tells its purpose is read as its statements. -/
theorem IsNamed.readModule (named : container.IsNamed) (tells : container.TellsPurpose) :
    ∃ purpose : LiteralText,
      readModule (container.source .python).text = .ok (Entry.kept (container.entries purpose)) := by
  -- There is room for the statements, as each of them has a line in the text.
  obtain ⟨purpose, lexed, noNull, room⟩ := named.lexemes?_text tells
  have few := container.length_entries_le purpose
  refine ⟨purpose, readModule_entries noNull lexed ?_ (by omega)⟩
  exact fun limit enough => container.isRead_entries purpose (by omega)

end Container

namespace Discovery

/-- Statements that declare nothing one by one declare nothing together. -/
theorem ofBody_eq_empty {surroundings : Surroundings} {namespacePath : String}
    {body : List Statement}
    (inert : ∀ statement ∈ body, ofStatement surroundings namespacePath statement = .ok {}) :
    ofBody surroundings namespacePath body = .ok {} := by
  -- What declares nothing adds nothing in front of the others.
  induction body with
  | nil => rfl
  | cons first later ih =>
    rw [ofBody, inert first List.mem_cons_self,
      ih fun next member => inert next (List.mem_cons_of_mem first member)]
    rfl

end Discovery

namespace GeneratedSource

open Discovery

/-- No statement of a class body declares a container. -/
theorem ofStatement_body (enumeration : Option Enumeration) (started : Bool)
    (declarations : List Declaration) (surroundings : Surroundings) (namespacePath : String) :
    ∀ statement ∈ Entry.kept (bodyEntries enumeration started declarations),
      ofStatement surroundings namespacePath statement = .ok {} := by
  -- A body holds declarations, functions and empty statements only, and no class.
  induction declarations generalizing started with
  | nil =>
    cases enumeration with
    | none => cases started <;>
        simp [bodyEntries, closingEntries, Entry.kept, Entry.pass, ofStatement]
    | some listed => simp [bodyEntries, closingEntries, Entry.kept, enumerationEntry,
        Entry.function, ofStatement]
  | cons declaration later ih =>
    simp only [bodyEntries, Entry.kept, List.map_cons, List.flatten_cons, List.forall_mem_append]
    refine ⟨?_, ih true⟩
    unfold memberEntry
    split <;> simp [staticEntry, propertyEntry, Entry.declared, Entry.function, ofStatement]

/-- No import declares a container. -/
theorem ofStatement_imports (declarations : List Declaration) (enumeration : Option Enumeration)
    (surroundings : Surroundings) (namespacePath : String) :
    ∀ statement ∈ Entry.kept (importEntries declarations enumeration),
      ofStatement surroundings namespacePath statement = .ok {} := by
  -- There are only so many imports, depending on two questions.
  unfold importEntries
  cases enumeration.isSome <;> cases declarations.any (·.isStatic) <;>
    simp [Entry.kept, Entry.imported, ofStatement]

end GeneratedSource

namespace Container

open Discovery

variable {container : Container}

/-- No statement of a generated module declares a container, as its class carries no marker. -/
theorem ofStatement_entries (container : Container) (purpose : LiteralText)
    (surroundings : Surroundings) (namespacePath : String) :
    ∀ statement ∈ Entry.kept (container.entries purpose),
      ofStatement surroundings namespacePath statement = .ok {} := by
  have imports := GeneratedSource.ofStatement_imports container.declarations
    (container.enumeration .python) surroundings namespacePath
  have body := fun name => ofBody_eq_empty (GeneratedSource.ofStatement_body
    (container.enumeration .python) false container.declarations surroundings
    (namespaceWithin namespacePath name))
  -- A class without decorators is no container, so its body is looked at for classes only.
  simp only [Entry.kept] at imports body
  simp only [entries, Entry.kept, List.map_cons, List.map_append, List.flatten_cons,
    List.flatten_append, List.forall_mem_append, List.map_nil, List.flatten_nil, List.append_nil]
  refine ⟨by simp [Entry.text, ofStatement], imports, ?_⟩
  simp only [Entry.classOf, Entry.kept, List.forall_mem_singleton, ofStatement, body]
  rfl

/-- The generated module of a container is valid source text that declares no container, whatever the options and literals of the container are. -/
theorem ofSource_text (spelled : container.IsSpelled) (moduleName : String) :
    Discovery.ofSource (container.source .python).text moduleName = .ok {} := by
  -- The text is read as the statements that were written, and none of these declares anything.
  obtain ⟨purpose, read⟩ := spelled.isNamed.readModule spelled.tellsPurpose
  rw [Discovery.ofSource, read]
  exact ofBody_eq_empty (container.ofStatement_entries purpose _ _)

/-- A class in a namespace, with an enumeration, a member of the class that is named like the start of a case distinction, and a literal that has to be escaped. -/
def matching : Container where
  name := "Match"
  namespacePath := "app.codes"
  slots := [
    { identity := "match", visibility := .internalAccess, isStatic := true,
      canonicalName := "say \"case\":\n\t\\pass", identity_ne := by decide },
    .own]
  flags := { emitEnumeration := true }

/-- A class whose members could be taken for other statements is read as what it is. -/
theorem ofSource_text_matching :
    matching.IsSpelled ∧
      Discovery.ofSource (matching.source .python).text "app.codes" = .ok {} := by
  -- The names in the class are checked by computation.
  have spelled : matching.IsSpelled := by
    refine ⟨⟨by decide, by decide⟩, ?_, .inr (by decide)⟩
    simp only [matching, List.forall_mem_cons]
    exact ⟨⟨by decide, by decide⟩, ⟨by decide, by decide⟩, by simp⟩
  exact ⟨spelled, ofSource_text spelled "app.codes"⟩

end Container

end PermissionNames
