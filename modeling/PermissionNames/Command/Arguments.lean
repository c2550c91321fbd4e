import PermissionNames.Declaration
import PermissionNames.Text.Blank

/-! The command line: long options, abbreviated where that is unambiguous, each with its value. -/

namespace PermissionNames.Command

/-- The options of the command. -/
inductive Flag
  | help
  | input
  | output
  | dialect
  | hashAlgorithm
  | maxWorkers
  | verbose
  deriving DecidableEq, Repr

/-- The long forms. -/
def Flag.longForms : List (String × Flag) :=
  [("--help", .help), ("--input", .input), ("--output", .output), ("--dialect", .dialect),
    ("--hash-algorithm", .hashAlgorithm), ("--max-workers", .maxWorkers), ("--verbose", .verbose)]

/-- What the command is asked to do. -/
structure Arguments where
  input : String
  output : String
  dialect : Dialect := .python
  hashAlgorithm : String := "sha256"
  maxWorkers : Int := 4
  verbose : Bool := false
  deriving DecidableEq, Repr

/-- Arguments while they are read. -/
structure Draft where
  input : Option String := none
  output : Option String := none
  dialect : Dialect := .python
  hashAlgorithm : String := "sha256"
  maxWorkers : Int := 4
  verbose : Bool := false

/-- What one word of the command line is. -/
inductive Word
  /-- A value, or an argument of no option. -/
  | value
  /-- An option, with the value written behind an equals sign. -/
  | option (flag : Flag) (explicit : Option String)
  /-- An option that is not known or not unambiguous, or the end of the options. -/
  | improper
  deriving DecidableEq, Repr

/-- Whether digits in the rest of a word make it a negative number. -/
def isNegativeNumber (digits : List Char) : Bool :=
  let isDigit := fun c => (decimalDigit? c).isSome
  let whole := digits.takeWhile isDigit
  match digits.dropWhile isDigit with
  | [] => !whole.isEmpty
  | ['\n'] => !whole.isEmpty
  | '.' :: fraction =>
    -- One newline may follow the last digit.
    let fraction := if fraction.getLast? = some '\n' then fraction.dropLast else fraction
    !fraction.isEmpty && fraction.all isDigit
  | _ => false

/-- The options whose long form starts with a text. -/
def candidates (start : List Char) : List Flag :=
  (Flag.longForms.filter fun (form, _) => start.isPrefixOf form.toList).map (·.2)

/-- Classifies a word that names no option exactly. -/
def classifyOther (word : List Char) : Word :=
  if isNegativeNumber word.tail then .value
  else if word.contains ' ' then .value
  else .improper

/-- Classifies a word of the command line. -/
def classify (text : String) : Word :=
  let word := text.toList
  let name := word.takeWhile (· != '=')
  let explicit := if name = word then none else some (String.ofList (word.drop (name.length + 1)))
  match word with
  | '-' :: '-' :: rest =>
    if rest = [] then .improper
    else
      match Flag.longForms.lookup (String.ofList name) with
      | some flag => .option flag explicit
      | none =>
        match candidates name with
        | [flag] => .option flag explicit
        | [] => classifyOther word
        | _ => .improper
  | '-' :: 'h' :: rest =>
    .option .help (if rest = [] then none else some (String.ofList rest))
  | ['-'] => .value
  | '-' :: _ => classifyOther word
  | _ => .value

/-- The digits of an integer, where single underscores may stand between digits. -/
def digitsFrom (value : Nat) (afterDigit : Bool) : List Char → Option Nat
  | [] => if afterDigit then some value else none
  | c :: rest =>
    if c = '_' then
      if afterDigit then digitsFrom value false rest else none
    else
      match decimalDigit? c with
      | some digit => digitsFrom (value * 10 + digit) true rest
      | none => none

/-- The greatest number of digits that an integer may have. -/
def longestInteger : Nat := 4300

/-- The integer that a word denotes, with white space around it, a sign, and digits of any script. -/
def integer? (text : String) : Option Int :=
  let trimmed := trimEnd (trimStart text.toList)
  let (negative, digits) := match trimmed with
    | '-' :: rest => (true, rest)
    | '+' :: rest => (false, rest)
    | rest => (false, rest)
  if (digits.filter (· != '_')).length > longestInteger then none
  else (digitsFrom 0 false digits).map fun value => if negative then -(value : Int) else value

/-- Records the value of an option; a value that the option does not accept is refused. -/
def Draft.record (draft : Draft) (flag : Flag) (value : String) : Option Draft :=
  match flag with
  | .input => some { draft with input := some value }
  | .output => some { draft with output := some value }
  | .dialect => (Dialect.named? value).map fun dialect => { draft with dialect }
  | .hashAlgorithm => some { draft with hashAlgorithm := value }
  | .maxWorkers => (integer? value).map fun maxWorkers => { draft with maxWorkers }
  | .help => none
  | .verbose => none

/-- Reads the words of a command line; a word that is out of place is refused, and so is a call for help. -/
def Draft.read (draft : Draft) : List String → Option Draft
  | [] => some draft
  | word :: rest =>
    match classify word with
    | .option .help _ => none
    | .option .verbose none => Draft.read { draft with verbose := true } rest
    | .option .verbose (some _) => none
    | .option flag (some value) => (draft.record flag value).bind fun draft => Draft.read draft rest
    | .option flag none =>
      match rest with
      | [] => none
      | value :: rest =>
        if classify value = .value then
          (draft.record flag value).bind fun draft => Draft.read draft rest
        else none
    | _ => none

/-- Reads a whole command line, which has to name an input and an output. -/
def Arguments.read (words : List String) : Option Arguments := do
  let draft ← Draft.read {} words
  return {
    input := ← draft.input
    output := ← draft.output
    dialect := draft.dialect
    hashAlgorithm := draft.hashAlgorithm
    maxWorkers := draft.maxWorkers
    verbose := draft.verbose }

end PermissionNames.Command
