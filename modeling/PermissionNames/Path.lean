/-! Slash-separated paths as components, without a file system behind them. -/

namespace PermissionNames

/-- What a path is relative to. -/
inductive Anchor
  /-- The directory that the path is used in. -/
  | relative
  /-- The root, written as one slash. -/
  | root
  /-- A root of its own, written as two slashes. -/
  | doubleRoot
  deriving DecidableEq, Repr

/-- The written form of an anchor. -/
def Anchor.text : Anchor → String
  | relative => ""
  | root => "/"
  | doubleRoot => "//"

/-- A path: an anchor and the components below it, neither empty nor a single period. -/
structure Path where
  anchor : Anchor
  parts : List String
  deriving DecidableEq, Repr

namespace Path

/-- The pieces of a text between the occurrences of a separator. -/
def splitAt (separator : Char) : List Char → List (List Char)
  | [] => [[]]
  | c :: rest =>
    if c = separator then [] :: splitAt separator rest
    else
      match splitAt separator rest with
      | [] => [[c]]
      | first :: others => (c :: first) :: others

/-- The components of a text: its pieces between slashes that are neither empty nor a period. -/
def components (text : List Char) : List String :=
  ((splitAt '/' text).filter fun piece => piece ≠ [] ∧ piece ≠ ['.']).map String.ofList

/-- The anchor that the leading slashes of a text stand for; exactly two are kept apart. -/
def anchorOf : List Char → Anchor
  | '/' :: '/' :: '/' :: _ => .root
  | '/' :: '/' :: _ => .doubleRoot
  | '/' :: _ => .root
  | _ => .relative

/-- Reads a path. -/
def ofString (text : String) : Path :=
  ⟨anchorOf text.toList, components text.toList⟩

/-- Writes a path; the empty relative one is a period. -/
def toString (path : Path) : String :=
  if path.anchor = .relative ∧ path.parts = [] then "."
  else path.anchor.text ++ "/".intercalate path.parts

/-- A path below another one; an anchored path stands for itself. -/
def join (base path : Path) : Path :=
  if path.anchor = .relative then { base with parts := base.parts ++ path.parts } else path

/-- The last component, empty if there is none. -/
def name (path : Path) : String :=
  path.parts.getLast?.getD ""

/-- The path without its last component. -/
def parent (path : Path) : Path :=
  { path with parts := path.parts.dropLast }

/-- Cuts a component before its last period, unless that is its first or last character. -/
def splitSuffix (name : List Char) : List Char × List Char :=
  -- The reversed name starts with the reversed suffix, up to the first period.
  let ending := name.reverse.takeWhile (· ≠ '.')
  let stem := (name.reverse.drop ending.length).drop 1
  if ending = [] ∨ stem = [] ∨ ending.length = name.length then (name, [])
  else (stem.reverse, '.' :: ending.reverse)

/-- The suffix of the last component, its period included. -/
def suffix (path : Path) : String :=
  String.ofList (splitSuffix path.name.toList).2

/-- The last component without its suffix. -/
def stem (path : Path) : String :=
  String.ofList (splitSuffix path.name.toList).1

/-- The path with another last component. -/
def withName (path : Path) (name : String) : Path :=
  { path with parts := path.parts.dropLast ++ [name] }

/-- What remains below a base that the path starts with. -/
def relativeTo? (path base : Path) : Option Path :=
  if path.anchor = base.anchor ∧ base.parts.isPrefixOf path.parts then
    some ⟨.relative, path.parts.drop base.parts.length⟩
  else none

/-- Removes the component before every pair of periods. -/
def climb : List String → List String → List String
  | done, [] => done.reverse
  | done, part :: rest =>
    if part = ".." then climb done.tail rest else climb (part :: done) rest

/-- The path from the root, without pairs of periods, when it is used in a directory. -/
def resolve (path directory : Path) : Path :=
  ⟨.root, climb [] (directory.join path).parts⟩

/-- Whether one list of components comes strictly before another, component by component. -/
def partsPrecede : List String → List String → Bool
  | _, [] => false
  | [], _ :: _ => true
  | a :: rest, b :: others =>
    if a = b then partsPrecede rest others else decide (a < b)

/-- The components by which paths are ordered; an anchor counts as a first component. -/
def sortKey (path : Path) : List String :=
  if path.anchor = .relative then path.parts else path.anchor.text :: path.parts

/-- Whether a path comes strictly before another one. -/
def precedes (path other : Path) : Bool :=
  partsPrecede path.sortKey other.sortKey

/-- Paths in rising order; equal paths all stay. -/
def sort (paths : List Path) : List Path :=
  paths.mergeSort fun a b => !b.precedes a

end Path

end PermissionNames
