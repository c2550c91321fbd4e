import PermissionNames.Path
import PermissionNames.Text.Blank
import PermissionNames.Text.Literal

/-! Ignore patterns, read from their lines and matched against paths. -/

namespace PermissionNames.Ignore

/-- Which characters a single place of a pattern accepts. -/
inductive CharTest
  | exactly (c : Char)
  | notSlash
  /-- The characters of some ranges, or all others. -/
  | among (negated : Bool) (ranges : List (Char × Char))
  deriving DecidableEq, Repr

/-- Whether the test accepts a character. -/
def CharTest.accepts : CharTest → Char → Bool
  | exactly wanted, c => c == wanted
  | notSlash, c => c != '/'
  | among negated ranges, c => (ranges.any fun (first, last) => first ≤ c && c ≤ last) != negated

/-- One step of a pattern along a path. -/
inductive Step
  | one (test : CharTest)
  /-- Any run of characters other than slashes. -/
  | run
  /-- Any run of characters other than slashes, at least one. -/
  | segment
  /-- Nothing, or directories down to a slash. -/
  | leadingDirectories
  /-- Nothing, or a slash and directories. -/
  | innerDirectories
  /-- A slash, after which anything may follow; it may mark the match as one of a directory. -/
  | descent (marks : Bool)
  /-- The end of the path, or a slash that marks the match as one of a directory. -/
  | finish
  deriving DecidableEq, Repr

/-- Continues after the longest run of accepted characters, or else after the next shorter one. -/
def longestRun (accepts : Char → Bool) (next : List Char → Option Bool) :
    List Char → Option Bool
  | [] => next []
  | c :: rest =>
    if accepts c then
      match longestRun accepts next rest with
      | some found => some found
      | none => next (c :: rest)
    else next (c :: rest)

/-- Whether nothing follows but perhaps a last newline. -/
def atEnd : List Char → Bool
  | [] => true
  | ['\n'] => true
  | _ => false

/-- Follows steps from the start of a text; the result says whether the match is one of a directory. -/
def follow : List Step → List Char → Option Bool
  | [], _ => some false
  | .one test :: later, text =>
    match text with
    | c :: rest => if test.accepts c then follow later rest else none
    | [] => none
  | .run :: later, text => longestRun (· != '/') (follow later) text
  | .segment :: later, text =>
    match text with
    | c :: rest => if c != '/' then longestRun (· != '/') (follow later) rest else none
    | [] => none
  | .leadingDirectories :: later, text =>
    let below : List Char → Option Bool
      | '/' :: rest => follow later rest
      | _ => none
    let found := match text with
      | c :: rest => if c != '\n' then longestRun (· != '\n') below rest else none
      | [] => none
    match found with
    | some result => some result
    | none => follow later text
  | .innerDirectories :: later, text =>
    let found := match text with
      | '/' :: c :: rest =>
        if c != '\n' then longestRun (· != '\n') (follow later) rest else none
      | _ => none
    match found with
    | some result => some result
    | none => follow later text
  | .descent marks :: _, text => if text.head? = some '/' then some marks else none
  | .finish :: _, text =>
    if text.head? = some '/' then some true
    else if atEnd text then some false
    else none

/-- Which paths a pattern matches. -/
inductive Shape
  /-- Every path. -/
  | everything
  /-- Every path with a slash, perhaps as the match of a directory. -/
  | nested (marks : Bool)
  /-- The paths along which the steps lead. -/
  | along (steps : List Step)
  deriving DecidableEq, Repr

/-- Whether a step has a range whose last character comes before its first. -/
def Step.runsBackwards : Step → Bool
  | .one (.among _ ranges) => ranges.any fun (first, last) => last < first
  | _ => false

/-- Whether some range of a shape runs backwards. -/
def Shape.runsBackwards : Shape → Bool
  | along steps => steps.any (·.runsBackwards)
  | _ => false

/-- Whether a shape matches a path, and if so whether as the match of a directory. -/
def Shape.match? (shape : Shape) (path : List Char) : Option Bool :=
  match shape with
  | everything => if path.any (· != '\n') then some false else none
  | nested marks => if path.contains '/' then some marks else none
  | along steps => follow steps path

/-- One pattern: what it matches, and whether matched paths are ignored or kept. -/
structure Pattern where
  ignores : Bool
  shape : Shape
  deriving DecidableEq, Repr

/-- Why a line is no pattern. -/
inductive PatternError
  /-- The line has no segment, or ends within an escape. -/
  | invalid (line : String)
  /-- A bracket holds a range that runs backwards. -/
  | badRange (line : String)
  deriving DecidableEq, Repr

/-- The wording of a pattern error. -/
def PatternError.message : PatternError → String
  | invalid line => "Invalid git pattern: " ++ literalOf line
  | badRange line => "bad character range in " ++ literalOf line

/-- What is wrong with a segment. -/
inductive SegmentFault
  /-- A bracket that does not close. -/
  | openBracket
  /-- A backslash at the end. -/
  | openEscape
  deriving DecidableEq, Repr

/-- The ranges of a bracket; a hyphen at its end is an ordinary character. -/
def bracketRanges : List Char → List (Char × Char)
  | [] => []
  | first :: '-' :: last :: rest => (first, last) :: bracketRanges rest
  | c :: rest => (c, c) :: bracketRanges rest

/-- The content of a bracket and what follows it; a closing bracket at the very start belongs to the content. -/
def splitBracket (text : List Char) : Option (List Char × List Char) :=
  let (start, text) := match text with
    | ']' :: rest => ([']'], rest)
    | rest => ([], rest)
  match text.dropWhile (· != ']') with
  | [] => none
  | _ :: rest => some (start ++ text.takeWhile (· != ']'), rest)

/-- A bracket behind its opening: the test and what follows. -/
def readBracket (text : List Char) : Except SegmentFault (CharTest × List Char) :=
  let (negated, text) := match text with
    | '!' :: rest => (true, rest)
    | '^' :: rest => (true, rest)
    | rest => (false, rest)
  match splitBracket text with
  | none => .error .openBracket
  | some (content, rest) => .ok (.among negated (bracketRanges content), rest)

/-- The steps of one segment; the first argument bounds the number of its places. -/
def readSegment : Nat → List Char → Except SegmentFault (List Step)
  | 0, _ => .ok []
  | _, [] => .ok []
  | bound + 1, c :: rest =>
    if c = '\\' then
      match rest with
      | [] => .error .openEscape
      | literal :: rest => (readSegment bound rest).map (.one (.exactly literal) :: ·)
    else if c = '*' then (readSegment bound rest).map (.run :: ·)
    else if c = '?' then (readSegment bound rest).map (.one .notSlash :: ·)
    else if c = '[' then
      match readBracket rest with
      | .error fault => .error fault
      | .ok (test, rest) => (readSegment bound rest).map (.one test :: ·)
    else (readSegment bound rest).map (.one (.exactly c) :: ·)

/-- A segment that stands for any number of directories. -/
def anyDepth : List Char := ['*', '*']

/-- The steps of the segments behind the first ones; `slash` says whether a slash is due before the next. -/
def readSegments (directoryOnly slash : Bool) :
    List (List Char) → Except SegmentFault (List Step)
  | [] => .ok []
  | part :: rest =>
    if part = anyDepth then
      if rest = [] then .ok [.descent directoryOnly]
      else (readSegments directoryOnly true rest).map (.innerDirectories :: ·)
    else do
      let due := if slash then [Step.one (.exactly '/')] else []
      let own ← if part = ['*'] then .ok [Step.segment] else readSegment part.length part
      let close := if rest = [] then [Step.finish] else []
      return due ++ own ++ close ++ (← readSegments directoryOnly true rest)

/-- Merges neighbouring segments that stand for any number of directories. -/
def collapse : List (List Char) → List (List Char)
  | [] => []
  | part :: rest =>
    if part = anyDepth ∧ rest.head? = some anyDepth then collapse rest else part :: collapse rest

/-- The segments of a pattern from the root: one alone applies at any depth, and a slash at the end asks for what lies below. -/
def rootSegments (pattern : List Char) : List (List Char) :=
  let parts := Path.splitAt '/' pattern
  let placed := match parts with
    | [] :: rest => rest
    | [only] => if only = anyDepth then parts else [anyDepth, only]
    | [only, []] => if only = anyDepth then parts else [anyDepth, only, []]
    | _ => parts
  let closed := if placed.getLast? = some [] then placed.dropLast ++ [anyDepth] else placed
  collapse closed

/-- The shape of segments from the root. -/
def shapeOf (directoryOnly : Bool) (parts : List (List Char)) : Except SegmentFault Shape :=
  if parts = [anyDepth] ∨ parts = [anyDepth, ['*']] then
    .ok (if directoryOnly then .nested true else .everything)
  else if parts = [anyDepth, ['*'], anyDepth] then .ok (.nested directoryOnly)
  else
    match parts with
    | first :: rest =>
      if first = anyDepth then
        (readSegments directoryOnly false rest).map fun steps => .along (.leadingDirectories :: steps)
      else (readSegments directoryOnly false parts).map .along
    | [] => .ok (.along [])

/-- A line without the white space at its end, unless its last blank is escaped. -/
def strip (line : List Char) : List Char :=
  if ['\\', ' '].isSuffixOf line then line else trimEnd line

/-- Reads the pattern of a line; blank lines, comments, a lone slash and open brackets have none. -/
def Pattern.read (line : String) : Except PatternError (Option Pattern) :=
  let text := strip line.toList
  if text = [] ∨ text.head? = some '#' ∨ text = ['/'] then .ok none
  else
    let (ignores, pattern) := match text with
      | '!' :: rest => (false, rest)
      | rest => (true, rest)
    let directoryOnly := pattern = [] ∨ pattern.getLast? = some '/'
    let parts := rootSegments pattern
    if parts = [] then .error (.invalid line)
    else
      match shapeOf directoryOnly parts with
      | .ok shape =>
        if shape.runsBackwards then .error (.badRange line) else .ok (some ⟨ignores, shape⟩)
      | .error .openBracket => .ok none
      | .error .openEscape => .error (.invalid line)

end PermissionNames.Ignore
