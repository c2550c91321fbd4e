import PermissionNames.Text.Casing.Context
import PermissionNames.Text.Casing.Table

/-! Lower case with the final sigma rule, upper case, and case folding of whole texts. -/

namespace PermissionNames.Casing

/-- Whether the first character that is not ignorable is cased. -/
def startsCased : List Char → Bool
  | [] => false
  | c :: rest => if isIgnorable c then startsCased rest else isCased c

/-- Lowers a text; `afterCased` says whether the last character before it that is not ignorable is cased. -/
def lowerAfter (afterCased : Bool) : List Char → List Char
  | [] => []
  | c :: rest =>
    let image :=
      if c = 'Σ' then [if afterCased && !startsCased rest then 'ς' else 'σ'] else lowerMap.image c
    image ++ lowerAfter (if isIgnorable c then afterCased else isCased c) rest

/-- The small form of a text; a capital sigma that ends a word becomes a final sigma. -/
def lower (text : List Char) : List Char :=
  lowerAfter false text

/-- The capital form of a text, character by character. -/
def upper (text : List Char) : List Char :=
  text.flatMap upperMap.image

/-- The folded form of one character: its small form, unless the fold table lists another. -/
def foldChar (c : Char) : List Char :=
  (foldMap.find? c).getD (lowerMap.image c)

/-- The form under which texts that differ only in case are equal. -/
def fold (text : List Char) : List Char :=
  text.flatMap foldChar

end PermissionNames.Casing

namespace PermissionNames

/-- The small form of a string. -/
def lowercase (text : String) : String :=
  String.ofList (Casing.lower text.toList)

/-- The capital form of a string. -/
def uppercase (text : String) : String :=
  String.ofList (Casing.upper text.toList)

/-- The case-folded form of a string. -/
def caseFolded (text : String) : String :=
  String.ofList (Casing.fold text.toList)

end PermissionNames
