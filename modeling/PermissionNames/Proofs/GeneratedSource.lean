import PermissionNames.GeneratedSource
import PermissionNames.Proofs.Path
import PermissionNames.Proofs.Text.Quoted
import PermissionNames.Proofs.Transform

/-! Generated sources: their texts hold no control characters but newlines unless the names of their containers do, and their paths are made of names. -/

namespace PermissionNames

/-- A slot of which nothing but the name is declared. -/
def Slot.own : Slot where
  identity := "own"
  canonicalName := "own"
  identity_ne := by decide

namespace GeneratedSource

section Control

variable {c : Char} (control : c.toNat < 0x20)

include control

/-- A control character is none of those that stand for themselves. -/
theorem ne_of_control {other : Char} (printable : 0x20 ≤ other.toNat) : c ≠ other := by
  -- Its number is too small for that.
  rintro rfl
  omega

/-- No written visibility holds a control character. -/
theorem control_not_mem_visibility (visibility : Visibility) :
    c ∉ visibility.text.toList ∧ c ∉ (visibilityComment visibility).toList := by
  -- There are only four visibilities, and all of their characters are printable.
  have apart := @ne_of_control c control
  cases visibility <;> simp [Visibility.text, visibilityComment, apart]

/-- The lines of a member hold no control character that its identity does not hold. -/
theorem control_not_mem_memberLines {declaration : Declaration}
    (identity : c ∉ declaration.identity.toList) :
    ∀ line ∈ memberLines declaration, c ∉ line.toList := by
  -- Comment and literal are clean by themselves.
  have apart := @ne_of_control c control
  have comment := (control_not_mem_visibility control declaration.visibility).2
  have literal := control_not_mem_quoted control declaration.literal
  unfold memberLines
  split <;> simp [indent, identity, comment, literal, apart]

/-- The lines of an enumeration hold no control character that its name does not hold. -/
theorem control_not_mem_enumerationLines {enumeration : Enumeration}
    (named : c ∉ enumeration.name.toList) :
    ∀ line ∈ enumerationLines enumeration, c ∉ line.toList := by
  -- Besides the name there are quoted literals, which have no control characters, and fixed text.
  have apart := @ne_of_control c control
  unfold enumerationLines
  split <;> simp [indent, named, control_not_mem_quoted control, apart]

omit control in
/-- Nothing is written in a gap. -/
theorem not_mem_gap (before : List String) : ∀ line ∈ gap before, c ∉ line.toList := by
  -- The gap is an empty line or no line.
  unfold gap
  split <;> simp

/-- Adding members keeps the lines of a body free of a control character. -/
theorem control_not_mem_members {declarations : List Declaration} {body : List String}
    (identities : ∀ declaration ∈ declarations, c ∉ declaration.identity.toList)
    (clean : ∀ line ∈ body, c ∉ line.toList) :
    ∀ line ∈ declarations.foldl addMember body, c ∉ line.toList := by
  induction declarations generalizing body with
  | nil => exact clean
  | cons declaration later ih =>
    refine ih (fun other member => identities other (List.mem_cons_of_mem declaration member)) ?_
    intro line member
    -- A line of the longer body was there before, or it is a gap, or a line of the member.
    simp only [addMember, List.mem_append] at member
    rcases member with (inBody | inGap) | inMember
    · exact clean line inBody
    · split at inGap
      · cases inGap
      · exact not_mem_gap body line inGap
    · exact control_not_mem_memberLines control (identities declaration List.mem_cons_self) line
        inMember

/-- The lines of a class body hold no control character that no name holds. -/
theorem control_not_mem_moduleBody {declarations : List Declaration}
    {enumeration : Option Enumeration}
    (identities : ∀ declaration ∈ declarations, c ∉ declaration.identity.toList)
    (named : ∀ listed ∈ enumeration, c ∉ listed.name.toList) :
    ∀ line ∈ moduleBody declarations enumeration, c ∉ line.toList := by
  have apart := @ne_of_control c control
  have members : ∀ line ∈ declarations.foldl addMember [], c ∉ line.toList :=
    control_not_mem_members control identities (by simp)
  unfold moduleBody
  cases enumeration with
  | none =>
    dsimp only
    split
    · simp [indent, apart]
    · exact members
  | some listed =>
    dsimp only
    split
    · simp [indent, apart]
    · intro line member
      -- The enumeration is set off from the members by a gap.
      rw [List.mem_append, List.mem_append] at member
      rcases member with (inMembers | inGap) | inEnumeration
      · exact members line inMembers
      · exact not_mem_gap _ line inGap
      · exact control_not_mem_enumerationLines control (named listed rfl) line inEnumeration

/-- The line of a property holds no control character that its identity does not hold. -/
theorem control_not_mem_propertyLine {declaration : Declaration}
    (identity : c ∉ declaration.identity.toList) : c ∉ (propertyLine declaration).toList := by
  -- The parts of the line are a visibility, the identity, a quoted literal and fixed text.
  have apart := @ne_of_control c control
  have visibility := (control_not_mem_visibility control declaration.visibility).1
  have literal := control_not_mem_quoted control declaration.literal
  unfold propertyLine
  split <;> simp [indent, visibility, literal, identity, apart]

/-- The lines of an iterator hold no control character that its name does not hold. -/
theorem control_not_mem_iteratorLines {enumeration : Enumeration}
    (named : c ∉ enumeration.name.toList) :
    ∀ line ∈ iteratorLines enumeration, c ∉ line.toList := by
  -- A line is the first, the last or that of a literal in between.
  have apart := @ne_of_control c control
  intro line member
  simp only [iteratorLines, List.mem_append, List.mem_map, List.mem_cons, List.not_mem_nil,
    or_false] at member
  rcases member with (rfl | ⟨literal, -, rfl⟩) | rfl
  · simp [indent, named, apart]
  · simp [indent, control_not_mem_quoted control, apart]
  · simp [indent, apart]

end Control

/-- Lines without a character make a text without it, unless it is the newline. -/
theorem not_mem_joinLines {c : Char} {lines : List String} (notNewline : c ≠ '\n')
    (clean : ∀ line ∈ lines, c ∉ line.toList) : c ∉ (joinLines lines).toList := by
  intro member
  rw [joinLines, String.toList_append, List.mem_append] at member
  -- A character comes from a line, from a newline between lines, or from the last one.
  rcases member with inLines | inEnd
  · rw [String.toList_intercalate] at inLines
    rcases mem_of_mem_intercalate inLines with inSeparator | ⟨line, listed, inLine⟩
    · simp [notNewline] at inSeparator
    · obtain ⟨text, inText, rfl⟩ := List.mem_map.mp listed
      exact clean text inText inLine
  · simp [notNewline] at inEnd

end GeneratedSource

namespace Container

/-- A container whose name, namespace and slots lack a character. -/
structure Lacks (c : Char) (container : Container) : Prop where
  name : c ∉ container.name.toList
  namespacePath : c ∉ container.namespacePath.toList
  slots : ∀ slot ∈ container.slots, c ∉ slot.identity.toList

variable {container : Container} {c : Char}

/-- Finishing a container leaves its names as they are. -/
theorem Lacks.finish (lacks : container.Lacks c) (algorithm : Algorithm) :
    (container.finish algorithm).Lacks c where
  name := lacks.name
  namespacePath := lacks.namespacePath
  slots := by
  -- Finishing changes canonical names, and the names that count here are the identities.
    intro slot member
    obtain ⟨open_, listed, rfl⟩ := List.mem_map.mp member
    exact lacks.slots open_ listed

/-- A qualified name lacks a character other than the period if both its parts do. -/
theorem not_mem_qualifiedName (notPeriod : c ≠ '.') (name : c ∉ container.name.toList)
    (namespacePath : c ∉ container.namespacePath.toList) :
    c ∉ container.qualifiedName.toList := by
  -- The parts are joined by a period, if there is a namespace at all.
  unfold qualifiedName
  split
  · exact name
  · simp [name, namespacePath, notPeriod]

/-- The declarations of a container are named by its slots. -/
theorem Lacks.declarations (lacks : container.Lacks c) :
    ∀ declaration ∈ container.declarations, c ∉ declaration.identity.toList := by
  -- A declaration is made from a slot and keeps its identity.
  intro declaration member
  obtain ⟨slot, listed, rfl⟩ := List.mem_map.mp member
  exact lacks.slots slot listed

/-- The lines of the text of a container. -/
def lines (container : Container) : Dialect → List String
  | .python =>
    let declarations := container.declarations
    let enumeration := container.enumeration .python
    let imports := GeneratedSource.moduleImports declarations enumeration
    ["# " ++ GeneratedSource.marker,
      "\"\"\"Generated permission names for " ++ container.qualifiedName ++ ".\"\"\"", ""] ++
    (if imports = [] then [""] else imports ++ ["", ""]) ++
    ["class " ++ container.name ++ ":"] ++
    GeneratedSource.moduleBody declarations enumeration
  | .csharp =>
    ["// " ++ GeneratedSource.marker] ++
    (if container.kind = .store then ["using System.Collections.Generic;"] else []) ++
    (if container.namespacePath = "" then []
    else ["namespace " ++ container.namespacePath ++ ";"]) ++
    ["", "public partial class " ++ container.name ++ " \x7b"] ++
    container.declarations.map GeneratedSource.propertyLine ++
    (if container.kind = .store then [""] else []) ++
    (match container.enumeration .csharp with
    | some enumeration => GeneratedSource.iteratorLines enumeration
    | none => []) ++
    ["\x7d"]

/-- A text is made of its lines. -/
theorem text_eq_joinLines (container : Container) (dialect : Dialect) :
    (container.source dialect).text = GeneratedSource.joinLines (container.lines dialect) := by
  cases dialect <;> rfl

/-- The name of an enumeration holds no control character. -/
theorem control_not_mem_enumeration (control : c.toNat < 0x20) (container : Container)
    (dialect : Dialect) : ∀ listed ∈ container.enumeration dialect, c ∉ listed.name.toList := by
  -- The name is fixed in each dialect.
  have apart := @GeneratedSource.ne_of_control c control
  intro listed member
  unfold enumeration at member
  split at member
  · cases member
    cases dialect <;> simp [Dialect.enumerationName, apart]
  · cases member

/-- The lines of a container hold no control character that its names do not hold. -/
theorem Lacks.control_not_mem_lines (control : c.toNat < 0x20) (lacks : container.Lacks c)
    (dialect : Dialect) : ∀ line ∈ container.lines dialect, c ∉ line.toList := by
  have apart := @GeneratedSource.ne_of_control c control
  have name := lacks.name
  have namespacePath := lacks.namespacePath
  have named := control_not_mem_enumeration control container dialect
  intro line member
  cases dialect with
  | python =>
    have qualified := not_mem_qualifiedName (apart (by decide)) name namespacePath
    have body := GeneratedSource.control_not_mem_moduleBody control lacks.declarations named
    simp only [lines, List.mem_append, List.mem_cons, List.not_mem_nil, or_false] at member
    -- Heading, imports, class line and body are told apart.
    rcases member with ((heading | imports) | title) | inBody
    · rcases heading with rfl | rfl | rfl <;> simp [GeneratedSource.marker, qualified, apart]
    · have clean : ∀ line ∈ GeneratedSource.moduleImports container.declarations
          (container.enumeration .python), c ∉ line.toList := by
        unfold GeneratedSource.moduleImports
        split <;> split <;> simp [apart]
      split at imports
      · simp_all
      · simp only [List.mem_append, List.mem_cons, List.not_mem_nil, or_false] at imports
        rcases imports with inImports | rfl | rfl
        · exact clean line inImports
        · simp
        · simp
    · simp [title, name, apart]
    · exact body line inBody
  | csharp =>
    simp only [lines, List.mem_append, List.mem_cons, List.not_mem_nil, or_false] at member
    -- The parts of the class in their order, some of them only for a store.
    rcases member with ((((((rfl | imports) | place) | opening) | property) | blank) | inIterator) | rfl
    · simp [GeneratedSource.marker, apart]
    · split at imports <;> simp_all
    · split at place <;> simp_all
    · rcases opening with rfl | rfl <;> simp [name, apart]
    · obtain ⟨declaration, listed, rfl⟩ := List.mem_map.mp property
      exact GeneratedSource.control_not_mem_propertyLine control
        (lacks.declarations declaration listed)
    · split at blank <;> simp_all
    · cases asked : container.enumeration .csharp with
      | none => simp [asked] at inIterator
      | some enumeration =>
        rw [asked] at inIterator
        exact GeneratedSource.control_not_mem_iteratorLines control (named enumeration asked) line
          inIterator
    · simp [apart]

/-- The generated text of a container holds no control character that its names do not hold, apart from newlines. -/
theorem Lacks.control_not_mem_text (control : c.toNat < 0x20) (notNewline : c ≠ '\n')
    (lacks : container.Lacks c) (dialect : Dialect) : c ∉ (container.source dialect).text.toList := by
  -- The text is its lines with newlines between them.
  rw [text_eq_joinLines]
  exact GeneratedSource.not_mem_joinLines notNewline (lacks.control_not_mem_lines control dialect)

/-- Names of directories without periods, and of a file that has one and is not temporary. -/
structure IsPlace (directories : List String) (file : String) : Prop where
  named : ∀ part ∈ directories ++ [file], Path.IsName part
  noPeriod : ∀ directory ∈ directories, '.' ∉ directory.toList
  period : '.' ∈ file.toList
  notTemporary : ∀ other, file ≠ other ++ ".tmp"

/-- A path that ends with a name with a period leads to a file in directories without periods only as that file. -/
theorem IsPlace.eq_of_prefix {directories others : List String} {file other name : String}
    (place : IsPlace directories file) (period : '.' ∈ name.toList)
    (inside : others ++ [name] <+: directories ++ [other]) :
    others ++ [name] = directories ++ [other] := by
  -- A shorter prefix would make the ending name a directory, but directories have no period.
  rcases List.prefix_concat_iff.mp inside with same | above
  · exact same
  · have member : name ∈ directories := above.subset (by simp)
    exact absurd period (place.noPeriod name member)

/-- A path that ends with a name with a period does not lead to a directory of a place. -/
theorem IsPlace.not_prefix {directories others : List String} {file name : String}
    (place : IsPlace directories file) (period : '.' ∈ name.toList) :
    ¬ others ++ [name] <+: directories :=
  fun above => place.noPeriod name (above.subset (by simp)) period

/-- A text without slashes and with an ending names a file that is not temporary. -/
theorem isPlace_ending {directories : List String} {stem ending : String} {last : Char}
    (named : ∀ directory ∈ directories, Path.IsName directory)
    (noPeriod : ∀ directory ∈ directories, '.' ∉ directory.toList) (noSlash : '/' ∉ stem.toList)
    (single : '/' ∉ ending.toList) (period : '.' ∈ ending.toList) (long : 2 < ending.length)
    (ended : ending.toList.getLast? = some last) (notTemporary : last ≠ 'p') :
    IsPlace directories (stem ++ ending) where
  named := by
    -- The ending alone is longer than the texts that are no names.
    have longer : ∀ other : String, other.length ≤ 2 → stem ++ ending ≠ other := by
      intro other short same
      have lengths := congrArg String.length same
      rw [String.length_append] at lengths
      omega
    intro part member
    rcases List.mem_append.mp member with inDirectories | isFile
    · exact named part inDirectories
    · rw [List.mem_singleton.mp isFile]
      refine ⟨longer _ (by decide), longer _ (by decide), longer _ (by decide), ?_⟩
      simp [noSlash, single]
  noPeriod := noPeriod
  period := by simp [period]
  notTemporary := by
    intro other same
    -- A temporary file ends with another character.
    have lasts := congrArg (fun text : String => text.toList.getLast?) same
    simp only [String.toList_append, List.getLast?_append, ended] at lasts
    exact notTemporary (by simpa using lasts)

/-- Joining names to a path one after the other adds them all. -/
theorem foldl_join_names {pieces : List (List Char)}
    (named : ∀ piece ∈ pieces, Path.IsName (.ofList piece)) (parts : List String) :
    pieces.foldl (fun path part => path.join (.ofString (.ofList part))) ⟨.relative, parts⟩ =
      (⟨.relative, parts ++ pieces.map String.ofList⟩ : Path) := by
  -- Each piece is read as a path of one component, which is added at the end.
  induction pieces generalizing parts with
  | nil => simp
  | cons piece later ih =>
    rw [List.foldl_cons, Path.ofString_name (named piece List.mem_cons_self)]
    have joined : (⟨.relative, parts⟩ : Path).join ⟨.relative, [.ofList piece]⟩ =
        ⟨.relative, parts ++ [String.ofList piece]⟩ := rfl
    rw [joined, ih fun other member => named other (List.mem_cons_of_mem piece member)]
    simp

/-- The parts of a dotted path between its periods, without those that are empty. -/
def dottedParts (path : String) : List String :=
  ((Path.splitAt '.' path.toList).filter (· ≠ [])).map String.ofList

/-- No part of a dotted path holds a period. -/
theorem period_not_mem_dottedParts {path part : String} (member : part ∈ dottedParts path) :
    '.' ∉ part.toList := by
  -- The parts are cut at the periods, and dropping empty ones adds nothing.
  obtain ⟨piece, listed, rfl⟩ := List.mem_map.mp member
  simpa using Path.not_mem_of_mem_splitAt (List.mem_filter.mp listed).1

/-- The parts of a dotted path without slashes are names. -/
theorem isName_of_mem_dottedParts {path part : String} (free : '/' ∉ path.toList)
    (member : part ∈ dottedParts path) : Path.IsName part := by
  have clean := period_not_mem_dottedParts member
  obtain ⟨piece, listed, rfl⟩ := List.mem_map.mp member
  obtain ⟨inPieces, full⟩ := List.mem_filter.mp listed
  refine ⟨by simpa using full, ?_, ?_, ?_⟩
  -- The texts that are no names hold a period.
  · intro same
    simp [same] at clean
  · intro same
    simp [same] at clean
  · intro slash
    rw [String.toList_ofList] at slash
    exact free (Path.mem_of_mem_splitAt inPieces slash)

/-- A container whose name and namespace hold no slash. -/
structure IsSlashFree (container : Container) : Prop where
  name : '/' ∉ container.name.toList
  namespacePath : '/' ∉ container.namespacePath.toList

/-- The class of a container without slashes has a place below the parts of its namespace. -/
theorem IsSlashFree.isPlace (free : container.IsSlashFree) :
    IsPlace (dottedParts container.namespacePath) (container.name ++ "_generated.py") :=
  -- The file ends in letters that are no part of a namespace, and the parts of that are names.
  isPlace_ending (fun _ member => isName_of_mem_dottedParts free.namespacePath member)
    (fun _ member => period_not_mem_dottedParts member) free.name (by simp) (by simp) (by decide)
    (by simp : _ = some 'y') (by decide)

/-- The module of a container without slashes is written there. -/
theorem IsSlashFree.outputPath_python (free : container.IsSlashFree) :
    container.outputPath .python = Path.toString
      ⟨.relative, dottedParts container.namespacePath ++ [container.name ++ "_generated.py"]⟩ := by
  -- The parts are joined one by one, each a single component as it holds no slash.
  have named : ∀ piece ∈ (Path.splitAt '.' container.namespacePath.toList).filter (· ≠ []),
      Path.IsName (.ofList piece) := fun piece member =>
    isName_of_mem_dottedParts free.namespacePath (List.mem_map_of_mem member)
  have whole := foldl_join_names named []
  simp only [List.nil_append] at whole
  simp only [outputPath]
  rw [whole, Path.ofString_name (free.isPlace.named _ (by simp))]
  rfl

/-- The source of a container without slashes is written to a file of its own name, in directories named by its namespace if at all. -/
theorem IsSlashFree.outputPath_eq (free : container.IsSlashFree) (dialect : Dialect) :
    ∃ directories file, IsPlace directories file ∧
      container.outputPath dialect = Path.toString ⟨.relative, directories ++ [file]⟩ := by
  cases dialect with
  | csharp =>
    refine ⟨[], container.qualifiedName ++ ".g.cs", ?_, ?_⟩
    · -- The qualified name is the stem of one file, whose periods all stand in its name.
      have qualified := not_mem_qualifiedName (by decide) free.name free.namespacePath
      exact isPlace_ending (by simp) (by simp) qualified (by simp) (by simp) (by decide)
        (by simp : _ = some 's') (by decide)
    · simp [outputPath, Path.toString, Anchor.text]
  | python => exact ⟨_, _, free.isPlace, free.outputPath_python⟩

end Container

end PermissionNames
