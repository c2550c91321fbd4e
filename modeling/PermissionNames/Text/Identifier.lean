import PermissionNames.Text.Compatibility
import PermissionNames.Text.Identifier.Table

/-! Words and identifiers, with the normal form under which identifiers are compared. -/

namespace PermissionNames.Identifier

/-- Whether the character is a digit of basic Latin. -/
def isDigit (c : Char) : Bool :=
  '0' ≤ c && c ≤ '9'

/-- Whether the character is a letter of basic Latin. -/
def isLetter (c : Char) : Bool :=
  ('a' ≤ c && c ≤ 'z') || ('A' ≤ c && c ≤ 'Z')

/-- Whether a word may start with the character; outside basic Latin this is decided later. -/
def startsWord (c : Char) : Bool :=
  isLetter c || c == '_' || 0x80 ≤ c.toNat

/-- Whether the character continues a word. -/
def continuesWord (c : Char) : Bool :=
  startsWord c || isDigit c

/-- Whether a word is an identifier. -/
def isValid : List Char → Bool
  | [] => false
  | c :: rest => startSet.contains c && rest.all continueSet.contains

/-- The form under which identifiers are equal. -/
def normalize (word : List Char) : String :=
  String.ofList (Compatibility.normalize word)

end PermissionNames.Identifier
