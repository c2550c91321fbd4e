import PermissionNames.Text.Compatibility.Composition
import PermissionNames.Text.Compatibility.Decomposition

/-! The normal form of identifiers: full decomposition, marks in order, then composition. -/

namespace PermissionNames.Compatibility

/-- The first syllable of Hangul; those with the same first two letters follow each other. -/
def syllableBase : Nat := 0xAC00

/-- The letters of a syllable of Hangul, by its index among the syllables. -/
def syllableLetters (index : Nat) : List Char :=
  let leading := Char.ofNat (0x1100 + index / 588)
  let vowel := Char.ofNat (0x1161 + index % 588 / 28)
  if index % 28 = 0 then [leading, vowel]
  else [leading, vowel, Char.ofNat (0x11A7 + index % 28)]

/-- The full decomposition of a character. -/
def decompose (c : Char) : List Char :=
  if syllableBase ≤ c.toNat && c.toNat < syllableBase + 11172 then
    syllableLetters (c.toNat - syllableBase)
  else
    decompositionMap.image c

/-- Puts a character in front of an ordered text, behind the marks of lower class if it is a mark. -/
def place (c : Char) : List Char → List Char
  | [] => [c]
  | next :: rest =>
    if 0 < combiningClass next && combiningClass next < combiningClass c then next :: place c rest
    else c :: next :: rest

/-- Orders the marks of every character by class; marks of one class keep their order. -/
def reorder (text : List Char) : List Char :=
  text.foldr place []

/-- The syllable that two letters, or a syllable and a final letter, make. -/
def syllable? (first second : Char) : Option Char :=
  let a := first.toNat
  let b := second.toNat
  if 0x1100 ≤ a && a < 0x1113 && 0x1161 ≤ b && b < 0x1176 then
    some (Char.ofNat (syllableBase + ((a - 0x1100) * 21 + (b - 0x1161)) * 28))
  else if syllableBase ≤ a && a < syllableBase + 11172 && (a - syllableBase) % 28 == 0 &&
      0x11A7 < b && b < 0x11C3 then
    some (Char.ofNat (a + (b - 0x11A7)))
  else none

/-- The character that stands for two. -/
def pair? (first second : Char) : Option Char :=
  (syllable? first second).or (listedComposition? first second)

/-- Composes a text behind a character and its reversed marks, which could not be composed. -/
def composeAfter (head : Char) (marks : List Char) : List Char → List Char
  | [] => head :: marks.reverse
  | c :: rest =>
    let isOpen := match marks with
      | [] => true
      | last :: _ => combiningClass last < combiningClass c
    match if isOpen then pair? head c else none with
    | some whole => composeAfter whole marks rest
    | none =>
      if combiningClass c = 0 then head :: marks.reverse ++ composeAfter c [] rest
      else composeAfter head (c :: marks) rest

/-- Composes an ordered text. -/
def compose : List Char → List Char
  | [] => []
  | c :: rest => composeAfter c [] rest

/-- The normal form of a text; basic Latin is its own normal form. -/
def normalize (text : List Char) : List Char :=
  if text.all (·.toNat < 0x80) then text
  else compose (reorder (text.flatMap decompose))

end PermissionNames.Compatibility
