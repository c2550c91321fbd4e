import Mathlib.Data.List.Basic
import PermissionNames.Proofs.GeneratedSource
import PermissionNames.Proofs.GeneratedSource.Body
import PermissionNames.Proofs.Text.Pieces

/-! Texts of generated sources lose nothing: containers with the same text have the same names, declarations and enumerations. -/

namespace PermissionNames

/-- Texts that are cut at the first of a character are cut in the same way. -/
theorem cut_first {c : Char} {before other after behind : List Char} (absent : c ∉ before)
    (alsoAbsent : c ∉ other) (same : before ++ c :: after = other ++ c :: behind) :
    before = other ∧ after = behind := by
  induction before generalizing other with
  | nil =>
    cases other with
    | nil => exact ⟨rfl, (List.cons.inj same).2⟩
    | cons d rest =>
      -- The first character would be the one that is absent.
      obtain ⟨rfl, -⟩ := List.cons.inj same
      exact absurd List.mem_cons_self alsoAbsent
  | cons d rest ih =>
    cases other with
    | nil =>
      obtain ⟨rfl, -⟩ := List.cons.inj same
      exact absurd List.mem_cons_self absent
    | cons e others =>
      obtain ⟨rfl, later⟩ := List.cons.inj same
      obtain ⟨rfl, behind⟩ := ih (fun member => absent (List.mem_cons_of_mem d member))
        (fun member => alsoAbsent (List.mem_cons_of_mem d member)) later
      exact ⟨rfl, behind⟩

/-- Texts that are cut at the last of a character are cut in the same way. -/
theorem cut_last {c : Char} {before other after behind : List Char} (absent : c ∉ after)
    (alsoAbsent : c ∉ behind) (same : before ++ c :: after = other ++ c :: behind) :
    before = other ∧ after = behind := by
  -- Read backwards the last one is the first.
  have backwards : after.reverse ++ c :: before.reverse = behind.reverse ++ c :: other.reverse := by
    simpa using congrArg List.reverse same
  obtain ⟨ends, starts⟩ := cut_first (by simpa using absent) (by simpa using alsoAbsent) backwards
  exact ⟨List.reverse_inj.mp starts, List.reverse_inj.mp ends⟩

/-- A literal and what follows it without quotes are told apart. -/
theorem quoted_append_inj {first second : String} {after behind : List Char} (absent : '"' ∉ after)
    (alsoAbsent : '"' ∉ behind)
    (same : (quoted first).toList ++ after = (quoted second).toList ++ behind) :
    first = second ∧ after = behind := by
  -- The closing quote is the last one on both sides, so both are cut there.
  simp only [quoted, Quoted.encode, String.toList_ofList, List.cons_append, List.append_assoc,
    List.cons.injEq, true_and] at same
  obtain ⟨bodies, rest⟩ := cut_last absent alsoAbsent same
  exact ⟨String.toList_injective (Quoted.body_injective bodies), rest⟩

namespace GeneratedSource

/-- Lines without newlines are found again in the text that they are joined to. -/
theorem joinLines_inj {lines others : List String} (full : lines ≠ []) (alsoFull : others ≠ [])
    (clean : ∀ line ∈ lines, '\n' ∉ line.toList) (alsoClean : ∀ line ∈ others, '\n' ∉ line.toList)
    (same : joinLines lines = joinLines others) : lines = others := by
  have pieces : ∀ {lines : List String}, lines ≠ [] → (∀ line ∈ lines, '\n' ∉ line.toList) →
      Path.splitAt '\n' ("\n".intercalate lines).toList = lines.map String.toList := by
    intro lines full clean
    rw [String.toList_intercalate]
    refine Path.splitAt_intercalate_eq_self (by simpa using full) ?_
    intro text member
    obtain ⟨line, listed, rfl⟩ := List.mem_map.mp member
    exact clean line listed
  -- Without its last newline the text is cut into the lines.
  have joined : "\n".intercalate lines = "\n".intercalate others := by
    refine String.toList_injective ?_
    simpa [joinLines] using congrArg String.toList same
  have cut := pieces full clean
  rw [joined, pieces alsoFull alsoClean] at cut
  exact (List.map_injective_iff.mpr (fun _ _ => String.toList_injective) cut).symm

/-- A visibility is told by its comment, and the comment holds no quote. -/
theorem visibilityComment_inj {first second : Visibility}
    (same : visibilityComment first = visibilityComment second) : first = second := by
  cases first <;> cases second <;> first | rfl | simp [visibilityComment, Visibility.text] at same

/-- No comment of a visibility holds a quote. -/
theorem quote_not_mem_visibilityComment (visibility : Visibility) :
    '"' ∉ (visibilityComment visibility).toList := by
  cases visibility <;> simp [visibilityComment, Visibility.text]

section Members

variable {first second : Declaration} {after behind : List String}

/-- The lines of a static member tell it. -/
theorem staticLine_inj (colon : ':' ∉ first.identity.toList)
    (alsoColon : ':' ∉ second.identity.toList) (static : first.isStatic = true)
    (alsoStatic : second.isStatic = true)
    (same : memberLines first ++ after = memberLines second ++ behind) :
    first = second ∧ after = behind := by
  simp only [memberLines, static, alsoStatic, if_true, List.cons_append, List.nil_append,
    List.cons.injEq] at same
  obtain ⟨line, rest⟩ := same
  refine ⟨?_, rest⟩
  -- The identity ends with the first colon, and the literal with the last quote.
  have written := congrArg String.toList line
  simp only [indent, String.toList_append, List.append_assoc, List.append_cancel_left_eq] at written
  obtain ⟨identity, written⟩ := cut_first (c := ':') colon alsoColon (by simpa using written)
  obtain ⟨literal, comment⟩ := quoted_append_inj (quote_not_mem_visibilityComment _)
    (quote_not_mem_visibilityComment _) (by simpa using written)
  have visibility := visibilityComment_inj (String.toList_injective comment)
  cases first
  cases second
  simp_all

/-- The lines of a property tell it. -/
theorem propertyLines_inj (paren : '(' ∉ first.identity.toList)
    (alsoParen : '(' ∉ second.identity.toList) (static : first.isStatic = false)
    (alsoStatic : second.isStatic = false)
    (same : memberLines first ++ after = memberLines second ++ behind) :
    first = second ∧ after = behind := by
  simp only [memberLines, static, alsoStatic, Bool.false_eq_true, if_false, List.cons_append,
    List.nil_append, List.cons.injEq, true_and] at same
  obtain ⟨opening, answer, rest⟩ := same
  refine ⟨?_, rest⟩
  -- The identity ends with the first parenthesis, and the literal fills a line of its own.
  have written := congrArg String.toList opening
  simp only [indent, String.toList_append, List.append_assoc, List.append_cancel_left_eq] at written
  obtain ⟨identity, written⟩ := cut_first (c := '(') paren alsoParen (by simpa using written)
  have comment : visibilityComment first.visibility = visibilityComment second.visibility :=
    String.toList_injective (by simpa using written)
  have visibility := visibilityComment_inj comment
  have answered := congrArg String.toList answer
  simp only [indent, String.toList_append, List.append_assoc, List.append_cancel_left_eq] at answered
  have nothing : '"' ∉ ([] : List Char) := List.not_mem_nil
  obtain ⟨literal, -⟩ := quoted_append_inj nothing nothing (by simpa using answered)
  cases first
  cases second
  simp_all

/-- The block of a static member begins with a line with a colon. -/
theorem memberBlock_static (started : Bool) (static : first.isStatic = true) :
    ∃ line later, memberBlock started first = line :: later ∧ ':' ∈ line.toList := by
  simp [memberBlock, memberLines, static]

/-- The block of a property begins with its decorator, after a blank line if something stands before it. -/
theorem memberBlock_property (started : Bool) (static : first.isStatic = false) :
    ∃ later, memberBlock started first =
      (if started then ["", "    @property"] else ["    @property"]) ++ later := by
  cases started <;> simp [memberBlock, memberLines, static, indent]

/-- No line with a colon begins the block of a property. -/
theorem static_ne_property {started : Bool} (static : first.isStatic = true)
    (alsoStatic : second.isStatic = false) :
    memberBlock started first ++ after ≠ memberBlock started second ++ behind := by
  intro same
  obtain ⟨line, later, block, colon⟩ := memberBlock_static started static
  obtain ⟨others, alsoBlock⟩ := memberBlock_property started alsoStatic
  rw [block, alsoBlock] at same
  -- Neither a blank line nor a decorator holds a colon.
  cases started with
  | true =>
    obtain ⟨rfl, -⟩ := List.cons.inj same
    simp at colon
  | false =>
    obtain ⟨rfl, -⟩ := List.cons.inj same
    simp at colon

/-- The block of a member tells it, whatever follows. -/
theorem memberBlock_inj {started : Bool} (colon : ':' ∉ first.identity.toList)
    (alsoColon : ':' ∉ second.identity.toList) (paren : '(' ∉ first.identity.toList)
    (alsoParen : '(' ∉ second.identity.toList)
    (same : memberBlock started first ++ after = memberBlock started second ++ behind) :
    first = second ∧ after = behind := by
  -- The first line tells the two kinds of members apart, and each kind tells its members.
  cases static : first.isStatic with
  | true =>
    cases alsoStatic : second.isStatic with
    | true =>
      refine staticLine_inj colon alsoColon static alsoStatic ?_
      simpa [memberBlock, static, alsoStatic] using same
    | false => exact absurd same (static_ne_property static alsoStatic)
  | false =>
    cases alsoStatic : second.isStatic with
    | true => exact absurd same.symm (static_ne_property alsoStatic static)
    | false =>
      refine propertyLines_inj paren alsoParen static alsoStatic ?_
      simpa [memberBlock, static, alsoStatic] using same

/-- Closing lines begin with the empty statement or a decorator, after a blank line if something stands before it. -/
theorem closingLines_cases (started : Bool) (enumeration : Option Enumeration) :
    closingLines started enumeration = [] ∨ ∃ line ∈ ["    pass", "    @staticmethod"], ∃ later,
      closingLines started enumeration = (if started then ["", line] else [line]) ++ later := by
  -- Both kinds of closing lines begin with a blank line, unless nothing is before them.
  have empty : indent ++ "pass" = "    pass" := rfl
  have decorator : indent ++ "@staticmethod" = "    @staticmethod" := rfl
  cases enumeration <;> cases started <;>
    simp [closingLines, enumerationLines, empty, decorator]

/-- What closes a class body does not begin like a member. -/
theorem closingLines_ne_memberBlock {started : Bool} (enumeration : Option Enumeration) :
    closingLines started enumeration ≠ memberBlock started first ++ after := by
  intro same
  cases static : first.isStatic with
  | true =>
    obtain ⟨line, later, block, colon⟩ := memberBlock_static started static
    -- None of the lines that closing lines begin with holds a colon.
    rcases closingLines_cases started enumeration with none | ⟨other, listed, rest, lines⟩
    · rw [none, block] at same
      cases same
    · rw [lines, block] at same
      have plain : ∀ line ∈ ["    pass", "    @staticmethod"], ':' ∉ line.toList := by simp
      cases started with
      | true =>
        obtain ⟨rfl, -⟩ := List.cons.inj same
        simp at colon
      | false =>
        obtain ⟨rfl, -⟩ := List.cons.inj same
        exact plain other listed colon
  | false =>
    obtain ⟨later, block⟩ := memberBlock_property started static
    -- The decorator of a property is another one.
    rcases closingLines_cases started enumeration with none | ⟨other, listed, rest, lines⟩
    · rw [none, block] at same
      cases started <;> cases same
    · rw [lines, block] at same
      have apart : ∀ line ∈ ["    pass", "    @staticmethod"], line ≠ "    @property" := by decide
      cases started with
      | true => exact apart other listed (List.cons.inj (List.cons.inj same).2).1
      | false => exact apart other listed (List.cons.inj same).1

end Members

/-- A class body tells its declarations. -/
theorem bodyLines_inj {declarations others : List Declaration}
    {enumeration other : Option Enumeration} {started : Bool}
    (colon : ∀ declaration ∈ declarations ++ others, ':' ∉ declaration.identity.toList)
    (paren : ∀ declaration ∈ declarations ++ others, '(' ∉ declaration.identity.toList)
    (same : bodyLines enumeration started declarations = bodyLines other started others) :
    declarations = others := by
  -- The induction takes a member from both bodies at once, as no closing line begins like a member.
  induction declarations generalizing others started with
  | nil =>
    cases others with
    | nil => rfl
    | cons second rest => exact absurd same (closingLines_ne_memberBlock enumeration)
  | cons first later ih =>
    cases others with
    | nil => exact absurd same.symm (closingLines_ne_memberBlock other)
    | cons second rest =>
      obtain ⟨rfl, following⟩ := memberBlock_inj (colon first (by simp)) (colon second (by simp))
        (paren first (by simp)) (paren second (by simp)) same
      have beyond : later ++ rest ⊆ first :: later ++ first :: rest :=
        ((later.sublist_cons_self first).append (rest.sublist_cons_self first)).subset
      rw [ih (fun declaration member => colon declaration (beyond member))
        (fun declaration member => paren declaration (beyond member)) following]

/-- A visibility is told by its text, and the text holds no space. -/
theorem visibilityText_inj {first second : Visibility} (same : first.text = second.text) :
    first = second := by
  cases first <;> cases second <;> first | rfl | simp [Visibility.text] at same

/-- No text of a visibility holds a space. -/
theorem space_not_mem_visibilityText (visibility : Visibility) :
    ' ' ∉ visibility.text.toList := by
  cases visibility <;> simp [Visibility.text]

/-- A property line of a partial class tells its declaration. -/
theorem propertyLine_inj {first second : Declaration} (space : ' ' ∉ first.identity.toList)
    (alsoSpace : ' ' ∉ second.identity.toList)
    (same : propertyLine first = propertyLine second) : first = second := by
  have written := congrArg String.toList same
  simp only [propertyLine, indent, String.toList_append, List.append_assoc,
    List.append_cancel_left_eq] at written
  -- The visibility ends with the first space after the indentation.
  obtain ⟨visibilities, written⟩ := cut_first (c := ' ') (space_not_mem_visibilityText _)
    (space_not_mem_visibilityText _) (by simpa using written)
  have visibility := visibilityText_inj (String.toList_injective visibilities)
  -- What follows begins in one way for static declarations and in another for all others.
  have statics : first.isStatic = second.isStatic := by
    cases static : first.isStatic <;> cases alsoStatic : second.isStatic <;>
      simp [static, alsoStatic] at written ⊢
  rw [statics] at written
  rw [List.append_cancel_left_eq] at written
  obtain ⟨letters, written⟩ := cut_first (c := ' ') space alsoSpace (by simpa using written)
  have identity := String.toList_injective letters
  have ending : '"' ∉ "; \x7d".toList := by simp
  obtain ⟨literal, -⟩ := quoted_append_inj ending ending (by simpa using written)
  cases first
  cases second
  simp_all

/-- Properties before a line that is none are told apart from what follows them. -/
theorem properties_inj {declarations others : List Declaration} {line other : String}
    {after behind : List String}
    (space : ∀ declaration ∈ declarations ++ others, ' ' ∉ declaration.identity.toList)
    (noProperty : ∀ declaration, line ≠ propertyLine declaration)
    (alsoNoProperty : ∀ declaration, other ≠ propertyLine declaration)
    (same : declarations.map propertyLine ++ line :: after =
      others.map propertyLine ++ other :: behind) :
    declarations = others ∧ line :: after = other :: behind := by
  -- The line that is no property stands where the properties end, on both sides.
  induction declarations generalizing others with
  | nil =>
    cases others with
    | nil => exact ⟨rfl, same⟩
    | cons second rest => exact absurd (List.cons.inj same).1 (noProperty second)
  | cons first later ih =>
    cases others with
    | nil => exact absurd (List.cons.inj same).1.symm (alsoNoProperty first)
    | cons second rest =>
      obtain ⟨head, following⟩ := List.cons.inj same
      have equal := propertyLine_inj (space first (by simp)) (space second (by simp)) head
      subst equal
      have beyond : later ++ rest ⊆ first :: later ++ first :: rest :=
        ((later.sublist_cons_self first).append (rest.sublist_cons_self first)).subset
      obtain ⟨rfl, ends⟩ := ih (fun declaration member => space declaration (beyond member)) following
      exact ⟨rfl, ends⟩

end GeneratedSource

namespace Container

variable {first second : Container}

open GeneratedSource

/-- Enumerations list the declared literals, so they are the same if both or neither are there. -/
theorem enumeration_eq {dialect : Dialect} (declarations : first.declarations = second.declarations)
    (present : (first.enumeration dialect).isSome = (second.enumeration dialect).isSome) :
    first.enumeration dialect = second.enumeration dialect := by
  -- The enumeration is made of the declared literals alone.
  unfold enumeration at present ⊢
  rw [declarations]
  split <;> split <;> simp_all

/-- The import lines of a module with the blank lines around them. -/
theorem importLines_eq (declarations : List Declaration) (enumeration : Option Enumeration) :
    (if moduleImports declarations enumeration = [] then [""]
      else moduleImports declarations enumeration ++ ["", ""]) =
      match enumeration.isSome, declarations.any (·.isStatic) with
      | false, false => [""]
      | false, true => ["from typing import ClassVar", "", ""]
      | true, false => ["from collections.abc import Iterator", "", ""]
      | true, true =>
        ["from collections.abc import Iterator", "from typing import ClassVar", "", ""] := by
  -- There are two imports, each present or not.
  unfold moduleImports
  cases enumeration.isSome <;> cases declarations.any (·.isStatic) <;> simp

/-- The lines of a module tell its container. -/
theorem eq_of_moduleLines_eq (colon : first.Lacks ':') (alsoColon : second.Lacks ':')
    (paren : first.Lacks '(') (alsoParen : second.Lacks '(')
    (same : first.lines .python = second.lines .python) :
    first.name = second.name ∧ first.qualifiedName = second.qualifiedName ∧
      first.declarations = second.declarations ∧
      first.enumeration .python = second.enumeration .python := by
  simp only [lines, importLines_eq, List.append_assoc, List.cons_append, List.nil_append,
    List.cons.injEq, true_and] at same
  obtain ⟨heading, same⟩ := same
  have qualified : first.qualifiedName = second.qualifiedName := by
    refine String.toList_injective ?_
    simpa using congrArg String.toList heading
  -- No import line is blank, and the two differ, so both modules have the same ones.
  obtain ⟨present, title, body⟩ :
      (first.enumeration .python).isSome = (second.enumeration .python).isSome ∧
        "class " ++ first.name ++ ":" = "class " ++ second.name ++ ":" ∧
        moduleBody first.declarations (first.enumeration .python) =
          moduleBody second.declarations (second.enumeration .python) := by
    revert same
    cases (first.enumeration .python).isSome <;>
      cases (second.enumeration .python).isSome <;>
      cases first.declarations.any (·.isStatic) <;>
      cases second.declarations.any (·.isStatic) <;> simp
  have name : first.name = second.name := by
    refine String.toList_injective ?_
    simpa using congrArg String.toList title
  rw [moduleBody_eq, moduleBody_eq] at body
  have declarations : first.declarations = second.declarations := by
    refine bodyLines_inj ?_ ?_ body
    · exact List.forall_mem_append.mpr ⟨colon.declarations, alsoColon.declarations⟩
    · exact List.forall_mem_append.mpr ⟨paren.declarations, alsoParen.declarations⟩
  exact ⟨name, qualified, declarations, enumeration_eq declarations present⟩

/-- A flat container has no enumeration. -/
theorem enumeration_of_repo {container : Container} (flat : container.kind = .repo)
    (dialect : Dialect) : container.enumeration dialect = none := by
  simp [enumeration, effectiveFlags, flat, Flags.none]

/-- The lines that end a partial class. -/
def endLines (container : Container) : List String :=
  (if container.kind = .store then [""] else []) ++
    (match container.enumeration .csharp with
    | some enumeration => iteratorLines enumeration
    | none => []) ++ ["\x7d"]

/-- The first line after the properties is blank, or it ends the class; so it is no property. -/
theorem endLines_eq_cons (container : Container) :
    ∃ line later, container.endLines = line :: later ∧
      ∀ declaration, line ≠ propertyLine declaration := by
  -- Every property is indented.
  have indented : ∀ declaration, (propertyLine declaration).toList.head? = some ' ' := by
    intro declaration
    simp [propertyLine, indent]
  cases flat : container.kind with
  | store =>
    refine ⟨"", _, by rw [endLines, if_pos flat]; rfl, ?_⟩
    intro declaration same
    simpa [← same] using indented declaration
  | repo =>
    refine ⟨"\x7d", [], by simp [endLines, flat, enumeration_of_repo], ?_⟩
    intro declaration same
    simpa [← same] using indented declaration

/-- The lines that end a partial class tell whether it has an enumeration. -/
theorem present_of_endLines_eq (kinds : first.kind = second.kind)
    (same : first.endLines = second.endLines) :
    (first.enumeration .csharp).isSome = (second.enumeration .csharp).isSome := by
  -- An enumeration takes more lines than none.
  have lengths := congrArg List.length same
  cases present : first.enumeration .csharp <;> cases alsoPresent : second.enumeration .csharp <;>
    simp [endLines, kinds, present, alsoPresent, iteratorLines] at lengths ⊢

/-- The lines of a partial class up to its title, and the members after it. -/
theorem partialClassLines_eq (container : Container) :
    container.lines .csharp = ("// " ++ marker) ::
      ((if container.kind = .store then ["using System.Collections.Generic;"] else []) ++
        ((if container.namespacePath = "" then []
          else ["namespace " ++ container.namespacePath ++ ";"]) ++
          "" :: ("public partial class " ++ container.name ++ " \x7b") ::
            (container.declarations.map propertyLine ++ container.endLines))) := by
  cases asked : container.enumeration .csharp <;> simp [lines, endLines, asked]

/-- The lines of a partial class tell its container. -/
theorem eq_of_partialClassLines_eq (space : first.Lacks ' ') (alsoSpace : second.Lacks ' ')
    (same : first.lines .csharp = second.lines .csharp) :
    first.name = second.name ∧ first.qualifiedName = second.qualifiedName ∧
      first.declarations = second.declarations ∧
      first.enumeration .csharp = second.enumeration .csharp := by
  -- A line with a namespace is neither blank nor the import.
  have starts : ∀ path : String, ("namespace " ++ path ++ ";").toList.head? = some 'n' := by simp
  have notBlank : ∀ path : String, "namespace " ++ path ++ ";" ≠ "" := by
    intro path same
    simpa [same] using starts path
  have notImport : ∀ path : String,
      "using System.Collections.Generic;" ≠ "namespace " ++ path ++ ";" := by
    intro path same
    simpa [← same] using starts path
  obtain ⟨kinds, namespaces, name, members⟩ :
      first.kind = second.kind ∧ first.namespacePath = second.namespacePath ∧
        first.name = second.name ∧
        first.declarations.map propertyLine ++ first.endLines =
          second.declarations.map propertyLine ++ second.endLines := by
    rw [partialClassLines_eq, partialClassLines_eq] at same
    have below := (List.cons.inj same).2
    -- The lines up to the title tell whether there is an import and a namespace.
    by_cases top : first.namespacePath = "" <;> by_cases alsoTop : second.namespacePath = "" <;>
      cases kind : first.kind <;> cases alsoKind : second.kind <;>
      simp [top, alsoTop, kind, alsoKind, notBlank, notImport, (notImport _).symm] at below ⊢ <;>
      exact below
  obtain ⟨line, later, ends, noProperty⟩ := first.endLines_eq_cons
  obtain ⟨other, rest, alsoEnds, alsoNoProperty⟩ := second.endLines_eq_cons
  rw [ends, alsoEnds] at members
  obtain ⟨declarations, endings⟩ := properties_inj
    (List.forall_mem_append.mpr ⟨space.declarations, alsoSpace.declarations⟩) noProperty
    alsoNoProperty members
  rw [← ends, ← alsoEnds] at endings
  refine ⟨name, ?_, declarations, enumeration_eq declarations (present_of_endLines_eq kinds endings)⟩
  rw [qualifiedName, qualifiedName, namespaces, name]

/-- Containers without some delimiters in their names have the same names, declarations and enumerations if their texts are the same. -/
theorem eq_of_text_eq {dialect : Dialect}
    (delimited : ∀ c ∈ ['\n', ' ', ':', '('], first.Lacks c)
    (alsoDelimited : ∀ c ∈ ['\n', ' ', ':', '('], second.Lacks c)
    (same : (first.source dialect).text = (second.source dialect).text) :
    first.name = second.name ∧ first.qualifiedName = second.qualifiedName ∧
      first.declarations = second.declarations ∧
      first.enumeration dialect = second.enumeration dialect := by
  -- The text is cut into its lines, which are then compared as the dialect has it.
  simp only [List.forall_mem_cons] at delimited alsoDelimited
  obtain ⟨newline, space, colon, paren, -⟩ := delimited
  obtain ⟨alsoNewline, alsoSpace, alsoColon, alsoParen, -⟩ := alsoDelimited
  rw [text_eq_joinLines, text_eq_joinLines] at same
  have full : ∀ container : Container, container.lines dialect ≠ [] := by
    intro container
    cases dialect <;> simp [lines]
  have lines := joinLines_inj (full first) (full second)
    (newline.control_not_mem_lines (by decide) dialect)
    (alsoNewline.control_not_mem_lines (by decide) dialect) same
  cases dialect with
  | python => exact eq_of_moduleLines_eq colon alsoColon paren alsoParen lines
  | csharp => exact eq_of_partialClassLines_eq space alsoSpace lines

/-- A class with one slot, as a flat container or as one with options. -/
def ownIn (kind : ContainerKind) : Container where
  name := "Read"
  namespacePath := "app.codes"
  slots := [.own]
  kind := kind

/-- Containers of different kinds can have the same text, and then they declare the same. -/
theorem eq_of_text_eq_ownIn :
    ((ownIn .store).source .python).text = ((ownIn .repo).source .python).text ∧
      (ownIn .store).name = (ownIn .repo).name ∧
      (ownIn .store).qualifiedName = (ownIn .repo).qualifiedName ∧
      (ownIn .store).declarations = (ownIn .repo).declarations ∧
      (ownIn .store).enumeration .python = (ownIn .repo).enumeration .python := by
  -- Neither the names nor the literal hold a delimiter.
  have lacks : ∀ kind, ∀ c ∈ ['\n', ' ', ':', '('], (ownIn kind).Lacks c := by
    intro kind c listed
    refine ⟨?_, ?_, ?_⟩
    · revert c
      simp [ownIn, Slot.own]
    · revert c
      simp [ownIn, Slot.own]
    · revert c
      simp [ownIn, Slot.own]
  exact ⟨rfl, eq_of_text_eq (lacks .store) (lacks .repo) rfl⟩

end Container

end PermissionNames
