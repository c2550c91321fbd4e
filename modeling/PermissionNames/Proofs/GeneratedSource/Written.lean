import PermissionNames.Proofs.GeneratedSource
import PermissionNames.Proofs.GeneratedSource.Body
import PermissionNames.Proofs.Source.Layout

/-! The lines of a generated module as source text, item by item. -/

namespace PermissionNames

open Source

/-- Whether a text can be a name: a valid identifier that is no keyword. -/
structure Identifier.IsName (text : String) : Prop where
  valid : Identifier.isValid text.toList
  notKeyword : text ∉ Lexeme.keywords

namespace GeneratedSource

/-- What is written behind a member to name its visibility. -/
def visibilityItems : Visibility → List Item
  | .publicAccess => []
  | visibility => [.blank, .blank, .comment (" " ++ visibility.text)]

/-- The line of a member that belongs to the class. -/
def writtenStatic (declaration : Declaration) : Line where
  depth := 4
  items := [.word declaration.identity, .sign ":", .blank, .word "ClassVar", .sign "[", .word "str",
    .sign "]", .blank, .sign "=", .blank, .literal declaration.literal] ++
    visibilityItems declaration.visibility

/-- The line that heads a property. -/
def writtenHeading (declaration : Declaration) : Line where
  depth := 4
  items := [.word "def", .blank, .word declaration.identity, .sign "(", .word "self", .sign ")",
    .blank, .sign "->", .blank, .word "str", .sign ":"] ++ visibilityItems declaration.visibility

/-- The line of a literal that a function gives behind a keyword. -/
def writtenValue (word literal : String) : Line where
  depth := 8
  items := [.word word, .blank, .literal literal]

/-- The lines of a member that belongs to instances. -/
def writtenProperty (declaration : Declaration) : List Line :=
  [⟨4, [.sign "@", .word "property"]⟩, writtenHeading declaration,
    writtenValue "return" declaration.literal]

/-- The lines of a member. -/
def writtenMember (declaration : Declaration) : List Line :=
  if declaration.isStatic then [writtenStatic declaration] else writtenProperty declaration

/-- The line that heads an enumeration. -/
def writtenIterator (enumeration : Enumeration) : Line where
  depth := 4
  items := [.word "def", .blank, .word enumeration.name, .sign "(", .sign ")", .blank, .sign "->",
    .blank, .word "Iterator", .sign "[", .word "str", .sign "]", .sign ":"]

/-- The lines of an enumeration. -/
def writtenEnumeration (enumeration : Enumeration) : List Line :=
  [⟨4, [.sign "@", .word "staticmethod"]⟩, writtenIterator enumeration] ++
    if enumeration.literals = [] then
      [⟨8, [.word "yield", .blank, .word "from", .blank, .sign "(", .sign ")"]⟩]
    else enumeration.literals.map (writtenValue "yield")

/-- The lines that end a class body. -/
def writtenClosing (started : Bool) : Option Enumeration → List Line
  | some enumeration => (if started then [⟨0, []⟩] else []) ++ writtenEnumeration enumeration
  | none => if started then [] else [⟨4, [.word "pass"]⟩]

/-- The lines of a class body, or of the rest of one that is started. -/
def writtenBody (enumeration : Option Enumeration) (started : Bool) : List Declaration → List Line
  | [] => writtenClosing started enumeration
  | declaration :: later =>
    (if started && !declaration.isStatic then [⟨0, []⟩] else []) ++ writtenMember declaration ++
      writtenBody enumeration true later

/-- The import that an enumeration needs. -/
def writtenIteratorImport : Line where
  items := [.word "from", .blank, .word "collections", .sign ".", .word "abc", .blank,
    .word "import", .blank, .word "Iterator"]

/-- The import that members of the class need. -/
def writtenClassVarImport : Line where
  items := [.word "from", .blank, .word "typing", .blank, .word "import", .blank, .word "ClassVar"]

/-- The lines of imports. -/
def writtenImports (declarations : List Declaration) (enumeration : Option Enumeration) :
    List Line :=
  (if enumeration.isSome then [writtenIteratorImport] else []) ++
    (if declarations.any (·.isStatic) then [writtenClassVarImport] else [])

/-- The characters of a line with its end. -/
def ended (line : String) : List Char :=
  line.toList ++ ['\n']

/-- Joined lines are the lines with their ends. -/
theorem toList_joinLines {lines : List String} (full : lines ≠ []) :
    (joinLines lines).toList = lines.flatMap ended := by
  -- The newline behind the last line is what joining the lines leaves out.
  have joined : ∀ texts : List (List Char), texts ≠ [] →
      ['\n'].intercalate texts ++ ['\n'] = texts.flatMap fun text => text ++ ['\n'] := by
    intro texts full
    induction texts with
    | nil => exact absurd rfl full
    | cons first later ih =>
      cases later with
      | nil => simp
      | cons second others =>
        rw [List.intercalate_cons_cons, List.append_assoc, ih (by simp), List.flatMap_cons]
        simp
  rw [joinLines, String.toList_append, String.toList_intercalate]
  change _ = lines.flatMap fun line => line.toList ++ ['\n']
  simpa [List.flatMap_map] using joined (lines.map String.toList) (by simpa using full)

/-- The items of a member are written as its lines. -/
theorem text_writtenMember (declaration : Declaration) :
    (writtenMember declaration).map Line.text = (memberLines declaration).map ended := by
  -- The four visibilities and the two kinds of slots are compared line by line.
  unfold writtenMember writtenStatic writtenProperty writtenHeading memberLines
  cases declaration.visibility <;> cases declaration.isStatic <;>
    simp [Line.text, Item.joined, Item.text, ended, indent, visibilityItems, visibilityComment,
      Visibility.text, List.replicate, writtenValue]

/-- The items of an enumeration are written as its lines. -/
theorem text_writtenEnumeration (enumeration : Enumeration) :
    (writtenEnumeration enumeration).map Line.text = (enumerationLines enumeration).map ended := by
  -- The lines differ only in whether anything is listed.
  unfold writtenEnumeration writtenIterator enumerationLines
  split <;>
    simp [Line.text, Item.joined, Item.text, ended, indent, List.replicate, writtenValue]

/-- The items of a class body are written as its lines. -/
theorem text_writtenBody (enumeration : Option Enumeration) (started : Bool)
    (declarations : List Declaration) :
    (writtenBody enumeration started declarations).map Line.text =
      (bodyLines enumeration started declarations).map ended := by
  have blank : Line.text ⟨0, []⟩ = ended "" := rfl
  -- What closes a body depends on whether a member stands before it, so this is generalized.
  induction declarations generalizing started with
  | nil =>
    cases enumeration with
    | none => cases started <;> simp [writtenBody, writtenClosing, bodyLines, closingLines,
        Line.text, Item.joined, Item.text, ended, indent, List.replicate]
    | some enumeration => cases started <;> simp [writtenBody, writtenClosing, bodyLines,
        closingLines, text_writtenEnumeration, blank]
  | cons declaration later ih =>
    rw [writtenBody, bodyLines, memberBlock, List.map_append, List.map_append, List.map_append,
      List.map_append, ih, text_writtenMember]
    split <;> simp [blank]

/-- The comment of a visibility is valid. -/
theorem isValid_visibilityItems (visibility : Visibility) :
    ∀ item ∈ visibilityItems visibility, item.IsValid := by
  cases visibility <;> decide

/-- The line of a member that belongs to the class is written if the member is named. -/
theorem isWritten_static {declaration : Declaration}
    (named : Identifier.IsName declaration.identity) : (writtenStatic declaration).IsWritten where
  valid := by
    simp only [writtenStatic, List.cons_append, List.nil_append, List.forall_mem_cons]
    -- The name of the member is the only word that is not fixed.
    and_intros
    · exact named.valid
    all_goals first
      | exact trivial
      | exact isValid_visibilityItems declaration.visibility
      | decide
  apart := by
    unfold writtenStatic
    cases declaration.visibility <;> rfl
  indented := by simp [writtenStatic]
  balanced := by
    intro blocks
    unfold writtenStatic
    cases declaration.visibility <;> rfl

/-- The line that heads a property is written if the property is named. -/
theorem isWritten_heading {declaration : Declaration}
    (named : Identifier.IsName declaration.identity) : (writtenHeading declaration).IsWritten where
  valid := by
    simp only [writtenHeading, List.cons_append, List.nil_append, List.forall_mem_cons]
    -- The name of the property is the only word that is not fixed.
    and_intros
    · decide
    · exact trivial
    · exact named.valid
    all_goals first
      | exact trivial
      | exact isValid_visibilityItems declaration.visibility
      | decide
  apart := by
    unfold writtenHeading
    cases declaration.visibility <;> rfl
  indented := by simp [writtenHeading]
  balanced := by
    intro blocks
    unfold writtenHeading
    cases declaration.visibility <;> rfl

/-- A line of a keyword and a literal is written. -/
theorem isWritten_keyword {word : String} (reserved : word ∈ Lexeme.keywords) (literal : String) :
    (writtenValue word literal).IsWritten where
  valid := by
  -- The keyword and the blank behind it are always apart from the literal.
    simp only [writtenValue, List.forall_mem_cons]
    exact ⟨Lexeme.isValid_of_keyword word reserved, trivial, trivial, by simp⟩
  apart := rfl
  indented := by simp [writtenValue]
  balanced := fun _ => rfl

/-- The lines of a member are written if the member is named. -/
theorem isWritten_member {declaration : Declaration}
    (named : Identifier.IsName declaration.identity) :
    ∀ line ∈ writtenMember declaration, line.IsWritten := by
  -- An attribute has one line, and a property three of which one holds its name.
  unfold writtenMember
  split
  · simpa using isWritten_static named
  · simp only [writtenProperty, List.forall_mem_cons]
    refine ⟨⟨by decide, rfl, by simp, fun _ => rfl⟩, isWritten_heading named, ?_, by simp⟩
    exact isWritten_keyword (by decide) _

/-- The lines of an enumeration are written if the enumeration is named. -/
theorem isWritten_enumeration {enumeration : Enumeration}
    (named : Identifier.IsName enumeration.name) :
    ∀ line ∈ writtenEnumeration enumeration, line.IsWritten := by
  -- The heading holds the name, and all other lines are fixed or hold a literal.
  have heading : (writtenIterator enumeration).IsWritten := by
    refine ⟨?_, rfl, by simp [writtenIterator], fun _ => rfl⟩
    simp only [writtenIterator, List.forall_mem_cons]
    and_intros
    · decide
    · exact trivial
    · exact named.valid
    all_goals first
      | exact trivial
      | decide
  rw [writtenEnumeration, List.forall_mem_append]
  constructor
  · simp only [List.forall_mem_cons]
    exact ⟨⟨by decide, rfl, by simp, fun _ => rfl⟩, heading, by simp⟩
  · split
    · simp only [List.forall_mem_cons]
      exact ⟨⟨by decide, rfl, by simp, fun _ => rfl⟩, by simp⟩
    · simp only [List.forall_mem_map]
      exact fun literal _ => isWritten_keyword (by decide) literal

/-- The lines of imports are written. -/
theorem isWritten_imports (declarations : List Declaration) (enumeration : Option Enumeration) :
    ∀ line ∈ writtenImports declarations enumeration, line.IsWritten := by
  -- Both lines are written words, and each stands there or not.
  have iterator : writtenIteratorImport.IsWritten :=
    ⟨by decide, rfl, by simp [writtenIteratorImport], fun _ => rfl⟩
  have classVar : writtenClassVarImport.IsWritten :=
    ⟨by decide, rfl, by simp [writtenClassVarImport], fun _ => rfl⟩
  unfold writtenImports
  cases enumeration.isSome <;> cases declarations.any (·.isStatic) <;> simp [iterator, classVar]

/-- The lines of a class body are written if all its members are named. -/
theorem isWritten_body {enumeration : Option Enumeration} {declarations : List Declaration}
    (listed : ∀ named ∈ enumeration, Identifier.IsName named.name)
    (named : ∀ declaration ∈ declarations, Identifier.IsName declaration.identity)
    (started : Bool) : ∀ line ∈ writtenBody enumeration started declarations, line.IsWritten := by
  have blank := Line.isWritten_blank
  -- A body is written member by member, and each member may follow a blank line.
  induction declarations generalizing started with
  | nil =>
    cases enumeration with
    | none =>
      cases started with
      | true => simp [writtenBody, writtenClosing]
      | false =>
        have pass : Line.IsWritten ⟨4, [.word "pass"]⟩ :=
          ⟨by decide, rfl, by simp, fun _ => rfl⟩
        simpa [writtenBody, writtenClosing] using pass
    | some enumeration =>
      rw [writtenBody, writtenClosing, List.forall_mem_append]
      refine ⟨?_, isWritten_enumeration (listed enumeration rfl)⟩
      split <;> simp [blank]
  | cons declaration later ih =>
    rw [writtenBody, List.forall_mem_append, List.forall_mem_append]
    refine ⟨⟨?_, isWritten_member (named declaration List.mem_cons_self)⟩, ?_⟩
    · split <;> simp [blank]
    · exact ih (fun other member => named other (List.mem_cons_of_mem declaration member)) true

end GeneratedSource

namespace Container

/-- The text that tells what a module is for. -/
def purpose (container : Container) : String :=
  "Generated permission names for " ++ container.qualifiedName ++ "."

/-- The purpose of a module names its class. -/
theorem purpose_eq (container : Container) : container.purpose =
    "Generated permission names for " ++ container.qualifiedName ++ "." :=
  rfl

/-- The line that heads the class of a module. -/
def writtenTitle (container : Container) : Line where
  items := [.word "class", .blank, .word container.name, .sign ":"]

/-- The lines of the module of a container behind the one that tells its purpose. -/
def writtenLater (container : Container) : List Line :=
  let declarations := container.declarations
  let enumeration := container.enumeration .python
  let imports := GeneratedSource.writtenImports declarations enumeration
  ⟨0, []⟩ :: ((if imports = [] then [⟨0, []⟩] else imports ++ [⟨0, []⟩, ⟨0, []⟩]) ++
    container.writtenTitle :: GeneratedSource.writtenBody enumeration false declarations)

/-- The lines of the module of a container that is for some purpose. -/
def written (container : Container) (purpose : String) : List Line :=
  ⟨0, [.comment (" " ++ GeneratedSource.marker)]⟩ :: ⟨0, [.longLiteral purpose]⟩ ::
    container.writtenLater

/-- The items of a module are written as its lines. -/
theorem text_written (container : Container) :
    (container.written container.purpose).map Line.text =
      (container.lines .python).map GeneratedSource.ended := by
  have body := GeneratedSource.text_writtenBody (container.enumeration .python) false
    container.declarations
  simp only [written, writtenLater, lines, List.map_append, List.map_cons, body,
    GeneratedSource.moduleBody_eq]
  -- Either import may be there or not, and a module without imports has one blank line less.
  unfold GeneratedSource.writtenImports GeneratedSource.moduleImports
  cases (container.enumeration .python).isSome <;>
    cases container.declarations.any (·.isStatic) <;>
    simp [Line.text, Item.joined, Item.text, GeneratedSource.ended, GeneratedSource.marker,
      GeneratedSource.writtenIteratorImport, GeneratedSource.writtenClassVarImport, purpose_eq,
      writtenTitle]

/-- The text of a module is that of its lines. -/
theorem toList_text (container : Container) :
    (container.source .python).text.toList =
      (container.written container.purpose).flatMap Line.text := by
  -- The module is never without lines, so joining them ends each with a newline.
  have full : container.lines .python ≠ [] := by simp [lines]
  rw [text_eq_joinLines, GeneratedSource.toList_joinLines full, List.flatMap_def, ← text_written,
    List.flatMap_def]

end Container

end PermissionNames
