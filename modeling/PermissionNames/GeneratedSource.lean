import PermissionNames.Declaration
import PermissionNames.Path
import PermissionNames.Text.Quoted

/-! Generated sources: where a container is written, and the text that declares its names. -/

namespace PermissionNames

/-- The generated output of one container. -/
structure GeneratedSource where
  /-- The qualified name of the container. -/
  container : String
  /-- The path of the file, relative to the output directory. -/
  path : String
  declarations : List Declaration
  enumeration : Option Enumeration
  /-- The text; where a surrogate stands in a literal of it, another character shows that. -/
  text : String
  /-- Whether the text can be encoded, as no surrogate stands in it. -/
  isEncodable : Bool := true
  deriving DecidableEq, Repr

namespace GeneratedSource

/-- The mark of a generated file. -/
def marker : String := "<auto-generated />"

/-- One level of indentation. -/
def indent : String := "    "

/-- Lines joined to a text, each with its newline. -/
def joinLines (lines : List String) : String :=
  "\n".intercalate lines ++ "\n"

/-- The comment that names a visibility, unless it is the public one. -/
def visibilityComment : Visibility → String
  | .publicAccess => ""
  | visibility => "  # " ++ visibility.text

/-- The lines of a module member, without a blank line before it. -/
def memberLines (declaration : Declaration) : List String :=
  let comment := visibilityComment declaration.visibility
  if declaration.isStatic then
    [indent ++ declaration.identity ++ ": ClassVar[str] = " ++ quoted declaration.literal ++ comment]
  else
    [indent ++ "@property",
      indent ++ "def " ++ declaration.identity ++ "(self) -> str:" ++ comment,
      indent ++ indent ++ "return " ++ quoted declaration.literal]

/-- A blank line, unless nothing stands before it. -/
def gap (before : List String) : List String :=
  if before = [] then [] else [""]

/-- Adds a member to a class body; one that is not static is set off by a blank line. -/
def addMember (body : List String) (declaration : Declaration) : List String :=
  body ++ (if declaration.isStatic then [] else gap body) ++ memberLines declaration

/-- The lines of the enumeration of a module. -/
def enumerationLines (enumeration : Enumeration) : List String :=
  [indent ++ "@staticmethod", indent ++ "def " ++ enumeration.name ++ "() -> Iterator[str]:"] ++
    (if enumeration.literals = [] then [indent ++ indent ++ "yield from ()"]
    else enumeration.literals.map fun literal => indent ++ indent ++ "yield " ++ quoted literal)

/-- The class body of a module, which is never empty. -/
def moduleBody (declarations : List Declaration) (enumeration : Option Enumeration) : List String :=
  let members := declarations.foldl addMember []
  let body := match enumeration with
    | some enumeration => members ++ gap members ++ enumerationLines enumeration
    | none => members
  if body = [] then [indent ++ "pass"] else body

/-- The import lines that the members of a module need. -/
def moduleImports (declarations : List Declaration) (enumeration : Option Enumeration) :
    List String :=
  (if enumeration.isSome then ["from collections.abc import Iterator"] else []) ++
    (if declarations.any (·.isStatic) then ["from typing import ClassVar"] else [])

/-- The module that holds the class of a container. -/
def moduleText (container : Container) (declarations : List Declaration)
    (enumeration : Option Enumeration) : String :=
  let imports := moduleImports declarations enumeration
  joinLines <|
    ["# " ++ marker,
      "\"\"\"Generated permission names for " ++ container.qualifiedName ++ ".\"\"\"", ""] ++
    (if imports = [] then [""] else imports ++ ["", ""]) ++
    ["class " ++ container.name ++ ":"] ++
    moduleBody declarations enumeration

/-- The line that binds one property of a partial class. -/
def propertyLine (declaration : Declaration) : String :=
  indent ++ declaration.visibility.text ++ " " ++
    (if declaration.isStatic then "static " else "") ++ "partial string " ++
    declaration.identity ++ " \x7b get => " ++ quoted declaration.literal ++ "; \x7d"

/-- The lines of the enumeration of a partial class. -/
def iteratorLines (enumeration : Enumeration) : List String :=
  [indent ++ "public static IEnumerable<string> " ++ enumeration.name ++ "() \x7b"] ++
    enumeration.literals.map (fun literal =>
      indent ++ indent ++ "yield return " ++ quoted literal ++ ";") ++
    [indent ++ "\x7d"]

/-- The partial class of a container, each property bound to its literal. -/
def partialClassText (container : Container) (declarations : List Declaration)
    (enumeration : Option Enumeration) : String :=
  joinLines <|
    ["// " ++ marker] ++
    (if container.kind = .store then ["using System.Collections.Generic;"] else []) ++
    (if container.namespacePath = "" then []
    else ["namespace " ++ container.namespacePath ++ ";"]) ++
    ["", "public partial class " ++ container.name ++ " \x7b"] ++
    declarations.map propertyLine ++
    (if container.kind = .store then [""] else []) ++
    (match enumeration with
    | some enumeration => iteratorLines enumeration
    | none => []) ++
    ["\x7d"]

end GeneratedSource

namespace Container

/-- The path of a container's generated source, derived from its qualified name. -/
def outputPath (container : Container) (dialect : Dialect) : String :=
  match dialect with
  | .csharp => container.qualifiedName ++ ".g.cs"
  | .python =>
    let directories := (Path.splitAt '.' container.namespacePath.toList).filter (· ≠ [])
    let start : Path := ⟨.relative, []⟩
    let directory := directories.foldl (fun path part => path.join (.ofString (.ofList part))) start
    (directory.join (.ofString (container.name ++ "_generated.py"))).toString

/-- The generated source of a finished container. -/
def source (container : Container) (dialect : Dialect) : GeneratedSource :=
  let declarations := container.declarations
  let enumeration := container.enumeration dialect
  { container := container.qualifiedName
    path := container.outputPath dialect
    declarations, enumeration
    text := match dialect with
      | .python => GeneratedSource.moduleText container declarations enumeration
      | .csharp => GeneratedSource.partialClassText container declarations enumeration }

/-- The generated source in a named dialect. -/
def sourceNamed (container : Container) (dialect : String) :
    Except DialectError GeneratedSource :=
  match Dialect.named? dialect with
  | some known => .ok (container.source known)
  | none => .error (.unknown dialect)

end Container

end PermissionNames
