/-! Names of consecutive characters, each told by what it shares with the one before it. -/

namespace PermissionNames.CharacterName

/-- Names of characters that follow each other. -/
structure NameRun where
  /-- The number of the first character. -/
  first : Nat
  /-- The names, in pieces; a small letter before each name counts, from `a` for none, the first words that it shares with the name before. -/
  names : List String
  deriving DecidableEq, Repr

/-- Whether a character begins a name in a run. -/
def isCount (c : Char) : Bool :=
  'a' ≤ c && c ≤ 'z'

/-- The names of a run as they are written: a count of shared words, and the words that follow them. -/
def entries (text : List Char) : List (Nat × List Char) :=
  (text.foldr
    (fun c (own, found) =>
      if isCount c then ([], (c.toNat - 'a'.toNat, own) :: found) else (c :: own, found))
    ([], [])).2

/-- The first words of a name, with a blank behind each. -/
def firstWords : Nat → List Char → List Char
  | 0, _ => []
  | _ + 1, [] => [' ']
  | count + 1, c :: rest => c :: firstWords (if c = ' ' then count else count + 1) rest

/-- Writes names in full, where the first one shares words with a given name. -/
def expand : List Char → List (Nat × List Char) → List (List Char)
  | _, [] => []
  | previous, (shared, own) :: rest =>
    let name := firstWords shared previous ++ own
    name :: expand name rest

/-- The names of a run in full. -/
def NameRun.toList (run : NameRun) : List (List Char) :=
  expand [] (entries (run.names.flatMap String.toList))

/-- The number of the character with a name. -/
def NameRun.find? (run : NameRun) (name : List Char) : Option Nat :=
  (run.toList.findIdx? (· == name)).map (run.first + ·)

end PermissionNames.CharacterName
