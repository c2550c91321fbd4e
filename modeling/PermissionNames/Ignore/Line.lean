import PermissionNames.Text.Blank

/-! Lines of an ignore file, rewritten from the file's own directory to the project root. -/

namespace PermissionNames.Ignore

/-- Puts a directory in front of a pattern, inside its negation and its anchor. -/
def place (base pattern : List Char) : List Char :=
  match pattern with
  | '/' :: inner => '/' :: base ++ (if inner = [] then [] else '/' :: inner)
  | inner => base ++ (if inner = [] then [] else '/' :: inner)

/-- Rewrites a line of the ignore file of a directory; comments and escaped first characters stay as they are. -/
def rebase (base line : List Char) : List Char :=
  if base = [] ∨ line = [] then line
  else if (trimStart line).head? = some '#' then line
  else
    match line with
    | '\\' :: '!' :: _ => line
    | '\\' :: '#' :: _ => line
    | '!' :: pattern => '!' :: place base pattern
    | pattern => place base pattern

end PermissionNames.Ignore

namespace PermissionNames

/-- Rewrites a line of the ignore file of a directory from that directory to the root. -/
def rebaseIgnoreLine (base line : String) : String :=
  String.ofList (Ignore.rebase base.toList line.toList)

end PermissionNames
