import PermissionNames.Source.Numeral
import PermissionNames.Source.Quotation
import PermissionNames.Text.Identifier.Word

/-! The words, numbers, literals and signs that source text consists of. -/

namespace PermissionNames.Source

/-- One unit of source text; line ends and changes of indentation count as units. -/
inductive Lexeme
  /-- A word that is no keyword, as it is spelled. -/
  | name (spelling : Identifier.Word)
  | keyword (word : String)
  | number (value : Numeral)
  | quotation (value : Quotation)
  | sign (text : String)
  | newline
  | indent
  | dedent
  deriving DecidableEq, Repr

namespace Lexeme

/-- Words that cannot be names. -/
def keywords : List String := [
  "False", "None", "True", "and", "as", "assert", "async", "await", "break", "class", "continue",
  "def", "del", "elif", "else", "except", "finally", "for", "from", "global", "if", "import", "in",
  "is", "lambda", "nonlocal", "not", "or", "pass", "raise", "return", "try", "while", "with",
  "yield"]

/-- Signs of three, two and one characters; of several that fit, the first is meant. -/
def signs : List (List Char) :=
  ["**=", "//=", "<<=", ">>=", "...", "!=", "%=", "&=", "**", "*=", "+=", "-=", "->", "//", "/=",
    ":=", "<<", "<=", "==", ">=", ">>", "@=", "^=", "|=", "%", "&", "(", ")", "*", "+", ",", "-",
    ".", "/", ":", ";", "<", "=", ">", "@", "[", "]", "^", "\x7b", "|", "\x7d", "~"].map
    String.toList

/-- The lexeme of a word that is a keyword or a valid identifier. -/
def ofWord? (word : Identifier.Word) : Option Lexeme :=
  let characters := word.text.toList
  if keywords.contains word.text then some (keyword word.text)
  else if characters.all (·.toNat < 0x80) || Identifier.isValid characters then some (name word)
  else none

end Lexeme

end PermissionNames.Source
