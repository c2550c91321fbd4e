import PermissionNames.Text.Blank

/-! Diagnostics: rules with message templates, and the findings made from them. -/

namespace PermissionNames

/-- Why a template cannot be filled. -/
inductive TemplateError
  /-- A single opening brace at the end. -/
  | loneOpening
  /-- A single closing brace outside a field. -/
  | loneClosing
  /-- A field that does not end. -/
  | unclosedField
  /-- An opening brace within a field. -/
  | openingInField
  /-- An unnumbered field after a numbered one. -/
  | automaticAfterManual
  /-- A numbered field after an unnumbered one. -/
  | manualAfterAutomatic
  /-- A field whose value is not given. -/
  | missingValue (index : Nat)
  /-- A field that is not a number. -/
  | namedField (name : String)
  deriving DecidableEq, Repr

/-- The wording of a template error. -/
def TemplateError.message : TemplateError → String
  | loneOpening => "Single '\x7b' encountered in format string"
  | loneClosing => "Single '\x7d' encountered in format string"
  | unclosedField => "expected '\x7d' before end of string"
  | openingInField => "unexpected '\x7b' in field name"
  | automaticAfterManual =>
    "cannot switch from manual field specification to automatic field numbering"
  | manualAfterAutomatic =>
    "cannot switch from automatic field numbering to manual field specification"
  | missingValue index =>
    "Replacement index " ++ Nat.repr index ++ " out of range for positional args tuple"
  | namedField name => name

namespace Template

/-- How the fields of a template have been numbered so far. -/
inductive Numbering
  | undecided
  /-- Fields are counted; the next one has this index. -/
  | automatic (next : Nat)
  /-- Fields carry their indices. -/
  | manual

/-- The number written by decimal digits, at least one. -/
def index? (digits : List Char) : Option Nat :=
  if digits = [] then none
  else digits.foldl (fun number c => do return (← number) * 10 + (← decimalDigit? c)) (some 0)

/-- The index that a field stands for, and how the next ones are numbered. -/
def fieldIndex (numbering : Numbering) (field : List Char) :
    Except TemplateError (Nat × Numbering) :=
  if field = [] then
    match numbering with
    | .undecided => .ok (0, .automatic 1)
    | .automatic next => .ok (next, .automatic (next + 1))
    | .manual => .error .automaticAfterManual
  else
    match index? field, numbering with
    | none, _ => .error (.namedField (String.ofList field))
    | some _, .automatic _ => .error .manualAfterAutomatic
    | some index, _ => .ok (index, .manual)

/-- Reads a template, where `field` holds the reversed name of an open field. -/
def fillFrom (values : List String) (numbering : Numbering) (field : Option (List Char)) :
    List Char → Except TemplateError (List Char)
  | [] => match field with
    | none => .ok []
    | some [] => .error .loneOpening
    | some (_ :: _) => .error .unclosedField
  | c :: rest =>
    match field with
    | some name =>
      if c = '}' then do
        let (index, numbering) ← fieldIndex numbering name.reverse
        match values[index]? with
        | some value => return value.toList ++ (← fillFrom values numbering none rest)
        | none => .error (.missingValue index)
      else if c = '{' then
        -- Two opening braces in a row are one literal brace.
        if name = [] then (fillFrom values numbering none rest).map ('{' :: ·)
        else .error .openingInField
      else fillFrom values numbering (some (c :: name)) rest
    | none =>
      if c = '{' then fillFrom values numbering (some []) rest
      else if c = '}' then
        match rest with
        | '}' :: rest => (fillFrom values numbering none rest).map ('}' :: ·)
        | _ => .error .loneClosing
      else (fillFrom values numbering none rest).map (c :: ·)

/-- Fills the fields of a template with values. -/
def fill (template : String) (values : List String) : Except TemplateError String :=
  (fillFrom values .undecided none template.toList).map String.ofList

end Template

/-- How serious a diagnostic is. -/
inductive Severity
  | error
  | warning
  | info
  deriving DecidableEq, Repr

/-- The written form of a severity. -/
def Severity.text : Severity → String
  | error => "error"
  | warning => "warning"
  | info => "info"

/-- The severity with a written form. -/
def Severity.ofText? (word : String) : Option Severity :=
  [Severity.error, .warning, .info].find? (·.text == word)

/-- A rule that can be broken. -/
structure DiagnosticRule where
  id : String
  title : String
  /-- The template of the message. -/
  template : String
  category : String
  severity : Severity
  deriving DecidableEq, Repr

/-- One finding. -/
structure Diagnostic where
  rule : DiagnosticRule
  message : String
  /-- The qualified name of the container. -/
  container : String
  sourcePath : Option String
  deriving DecidableEq, Repr

namespace DiagnosticRule

/-- A container has to carry the partial marker. -/
def nonPartialContainer : DiagnosticRule where
  id := "PG001"
  title := "Permissions container must be partial"
  template := "Class '\x7b0\x7d' should derive from Partial to support permissions generation"
  category := "Usage"
  severity := .error

/-- A finding of the rule, with the values that its template asks for. -/
def report (rule : DiagnosticRule) (container : String) (values : List String)
    (sourcePath : Option String) : Except TemplateError Diagnostic :=
  (Template.fill rule.template values).map fun message => { rule, message, container, sourcePath }

end DiagnosticRule

namespace Diagnostic

/-- Whether the finding is an error. -/
def isError (diagnostic : Diagnostic) : Bool :=
  diagnostic.rule.severity == .error

/-- The place that a finding is reported at, if it is known. -/
def location (diagnostic : Diagnostic) : String :=
  match diagnostic.sourcePath with
  | none => ""
  | some path => if path = "" then "" else path ++ ": "

/-- The finding as one line. -/
def line (diagnostic : Diagnostic) : String :=
  diagnostic.location ++ diagnostic.rule.severity.text ++ " " ++ diagnostic.rule.id ++ ": " ++
    diagnostic.message

end Diagnostic

end PermissionNames
