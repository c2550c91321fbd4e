import PermissionNames.Text.CharacterName.Alphabets
import PermissionNames.Text.CharacterName.Ancient
import PermissionNames.Text.CharacterName.EastAsia
import PermissionNames.Text.CharacterName.Further
import PermissionNames.Text.CharacterName.Pictures
import PermissionNames.Text.CharacterName.Symbols
import PermissionNames.Text.Hexadecimal

/-! The names of characters in Unicode 14, and the character that has a name. -/

namespace PermissionNames.CharacterName

/-- The rest of a text behind a start. -/
def behind? (start : String) (text : List Char) : Option (List Char) :=
  if start.toList.isPrefixOf text then some (text.drop start.length) else none

/-- The position of the longest of some texts that another one starts with, and the rest of that. -/
def longestStart? (starts : List String) (text : List Char) : Option (Nat × List Char) :=
  starts.zipIdx.foldl
    (fun best (start, index) =>
      match behind? start text, best with
      | none, best => best
      | some rest, none => some (index, rest)
      | some rest, some (_, bestRest) =>
        if rest.length < bestRest.length then some (index, rest) else best)
    none

/-- The names of the letters that begin a syllable of Hangul. -/
def leadingLetters : List String :=
  ["G", "GG", "N", "D", "DD", "R", "M", "B", "BB", "S", "SS", "", "J", "JJ", "C", "K", "T", "P", "H"]

/-- The names of the vowels of a syllable of Hangul. -/
def vowelLetters : List String :=
  ["A", "AE", "YA", "YAE", "EO", "E", "YEO", "YE", "O", "WA", "WAE", "OE", "YO", "U", "WEO", "WE",
    "WI", "YU", "EU", "YI", "I"]

/-- The names of the letters that end a syllable of Hangul. -/
def finalLetters : List String :=
  ["", "G", "GG", "GS", "N", "NJ", "NH", "D", "L", "LG", "LM", "LB", "LS", "LT", "LP", "LH", "M",
    "B", "BS", "S", "SS", "NG", "J", "C", "K", "T", "P", "H"]

/-- The number of the syllable of Hangul with a name, which spells its letters. -/
def syllableNumber? (name : List Char) : Option Nat := do
  let letters ← behind? "HANGUL SYLLABLE " name
  let (leading, letters) ← longestStart? leadingLetters letters
  let (vowel, letters) ← longestStart? vowelLetters letters
  let final ← finalLetters.findIdx? (·.toList == letters)
  return 0xAC00 + (leading * 21 + vowel) * 28 + final

/-- The number that capital digits write in base sixteen. -/
def capitalHexadecimal? (digits : List Char) : Option Nat :=
  digits.foldl
    (fun number c => do if c.isLower then none else return (← number) * 16 + (← hexValue? c))
    (some 0)

/-- The first and last unified ideographs of each range. -/
def ideographRanges : List (Nat × Nat) :=
  [(0x3400, 0x4DBF), (0x4E00, 0x9FFF), (0x20000, 0x2A6DF), (0x2A700, 0x2B738), (0x2B740, 0x2B81D),
    (0x2B820, 0x2CEA1), (0x2CEB0, 0x2EBE0), (0x30000, 0x3134A)]

/-- The number of the unified ideograph with a name, which ends in the number by four or five digits. -/
def ideographNumber? (name : List Char) : Option Nat := do
  let digits ← behind? "CJK UNIFIED IDEOGRAPH-" name
  let number ← capitalHexadecimal? digits
  if (digits.length = 4 ∨ digits.length = 5) ∧
      ideographRanges.any fun (first, last) => first ≤ number && number ≤ last then
    some number
  else none

/-- Ranges of characters whose names are a common start and the number of the character. -/
def numberedRanges : List (String × Nat × Nat) :=
  [("CJK COMPATIBILITY IDEOGRAPH-", 0xF900, 0xFA6D),
    ("CJK COMPATIBILITY IDEOGRAPH-", 0xFA70, 0xFAD9),
    ("KHITAN SMALL SCRIPT CHARACTER-", 0x18B00, 0x18CD5),
    ("NUSHU CHARACTER-", 0x1B170, 0x1B2FB),
    ("CJK COMPATIBILITY IDEOGRAPH-", 0x2F800, 0x2FA1D)]

/-- The number of the character with a name that ends in it, without needless digits. -/
def numberedNumber? (name : List Char) : Option Nat :=
  numberedRanges.findSome? fun (start, first, last) => do
    let digits ← behind? start name
    let number ← capitalHexadecimal? digits
    if first ≤ number ∧ number ≤ last ∧ digits.length = if number < 0x10000 then 4 else 5 then
      some number
    else none

/-- All runs of names that are listed. -/
def listedRuns : List (List NameRun) :=
  [alphabetRuns, symbolRuns, eastAsiaRuns, ancientRuns, pictureRuns]

/-- The number of the character with a listed name. -/
def listedNumber? (name : List Char) : Option Nat :=
  listedRuns.findSome? fun runs => runs.findSome? (·.find? name)

/-- The number of the character with a further name. -/
def furtherNumber? (name : List Char) : Option Nat :=
  furtherNames.lookup (String.ofList name)

/-- The character with a name; the case of letters matters for syllables of Hangul and unified ideographs alone. -/
def lookUp? (name : List Char) : Option Char :=
  let capitals := name.map Char.toUpper
  (((syllableNumber? name).or (ideographNumber? name)).or
    ((numberedNumber? capitals).or
      ((listedNumber? capitals).or (furtherNumber? capitals)))).map Char.ofNat

end PermissionNames.CharacterName
