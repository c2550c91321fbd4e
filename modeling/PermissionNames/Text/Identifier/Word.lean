import PermissionNames.Proofs.Text.Compatibility

/-! Words of source text, which hold no character that would end them. -/

namespace PermissionNames.Identifier

/-- A text whose characters all continue a word. -/
structure Word where
  text : String
  continues : text.toList.all continuesWord = true
  deriving DecidableEq, Repr

namespace Word

/-- The word that a text starts with. -/
def leading (text : List Char) : Word where
  text := String.ofList (text.takeWhile continuesWord)
  continues := by simp

/-- The word in the form under which identifiers are equal. -/
def normalize (word : Word) : Word where
  text := Identifier.normalize word.text.toList
  continues := by
    simpa [Identifier.normalize] using Compatibility.all_continuesWord_normalize word.continues

end Word

end PermissionNames.Identifier
