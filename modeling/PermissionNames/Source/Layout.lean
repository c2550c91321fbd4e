import PermissionNames.Source.Piece

/-! Brackets and indentation: which line ends matter, and where blocks begin and end. -/

namespace PermissionNames.Source

/-- What is open at a place of a text. -/
structure Layout where
  /-- The indentations of the open blocks, the innermost first; the outermost is not listed. -/
  blocks : List Column := []
  /-- The open brackets, the innermost first. -/
  brackets : List String := []
  deriving DecidableEq, Repr

namespace Layout

/-- There are fewer open blocks than this, the outermost counted. -/
def blockLimit : Nat := 100

/-- There are no more open brackets than this. -/
def bracketLimit : Nat := 200

/-- The bracket that closes an opening one. -/
def closing? : String → Option String
  | "(" => some ")"
  | "[" => some "]"
  | "\x7b" => some "\x7d"
  | _ => none

/-- Whether a sign closes a bracket. -/
def isClosing (sign : String) : Bool :=
  [")", "]", "\x7d"].contains sign

/-- Opens or closes a bracket, if a sign does that. -/
def afterSign (layout : Layout) (sign : String) : Option Layout :=
  if (closing? sign).isSome then
    if layout.brackets.length < bracketLimit then
      some { layout with brackets := sign :: layout.brackets }
    else none
  else if isClosing sign then
    match layout.brackets with
    | [] => none
    | innermost :: others =>
      if closing? innermost = some sign then some { layout with brackets := others } else none
  else some layout

/-- Closes blocks until one starts at a column; both measures have to agree there. -/
def closeTo (column : Column) : List Column → Option (List Lexeme × List Column)
  | [] => if column = ⟨0, 0⟩ then some ([], []) else none
  | block :: outer =>
    if column.wide < block.wide then
      (closeTo column outer).map fun (ends, blocks) => (.dedent :: ends, blocks)
    else if column = block then some ([], block :: outer)
    else none

/-- Opens or closes blocks at the start of a line. -/
def afterLine (layout : Layout) (column : Column) : Option (List Lexeme × Layout) :=
  let current := layout.blocks.headD ⟨0, 0⟩
  if current.wide < column.wide then
    if layout.blocks.length + 2 > blockLimit then none
    else if current.narrow < column.narrow then
      some ([.indent], { layout with blocks := column :: layout.blocks })
    else none
  else
    (closeTo column layout.blocks).map fun (ends, blocks) => (ends, { layout with blocks })

/-- Whether pieces leave the line that they stand in empty. -/
def leavesBlank : List Piece → Bool
  | .comment :: _ => true
  | .line _ :: _ => true
  | _ => false

/-- Resolves pieces to lexemes; `inLine` says whether the current line holds a lexeme. -/
def resolveFrom (layout : Layout) (inLine : Bool) : List Piece → Option (List Lexeme)
  | [] => if layout.brackets = [] then some [] else none
  | .comment :: rest => resolveFrom layout inLine rest
  | .line column :: rest =>
    if layout.brackets ≠ [] then resolveFrom layout inLine rest
    else do
      let ends : List Lexeme := if inLine then [.newline] else []
      if leavesBlank rest then return ends ++ (← resolveFrom layout false rest)
      else
        let (changes, layout) ← afterLine layout column
        return ends ++ changes ++ (← resolveFrom layout false rest)
  | .lexeme (.sign text) :: rest => do
    let layout ← layout.afterSign text
    return .sign text :: (← resolveFrom layout true rest)
  | .lexeme value :: rest => do
    return value :: (← resolveFrom layout true rest)

end Layout

/-- The lexemes of a text, or nothing if it is malformed. -/
def lexemes? (text : List Char) : Option (List Lexeme) := do
  Layout.resolveFrom {} false (← Piece.ofText? text)

end PermissionNames.Source
