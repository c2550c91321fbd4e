import PermissionNames.Execution.Program

/-! What executing a module of one class makes: statement by statement, with names looked up in the class first. -/

namespace PermissionNames.Execution

open Source

/-- What a name may stand for. -/
inductive Value
  | text (value : String)
  /-- The type of texts. -/
  | textType
  /-- The decorator that makes a property. -/
  | propertyMaker
  /-- The decorator that makes a function of the class. -/
  | staticMaker
  /-- The mark of class attributes. -/
  | classMark
  /-- The type of iterators. -/
  | iteratorType
  /-- A mark or a type with what stands in brackets behind it. -/
  | indexed (owner argument : Value)
  | property (getter : Function)
  | static (function : Function)
  deriving DecidableEq, Repr

/-- What names stand for, the latest binding first. -/
abbrev Scope := List (String × Value)

/-- Why a module cannot be executed. -/
inductive Failure
  | unreadable (cause : ReadingError)
  /-- No value is known for an import. -/
  | unknownImport (wanted : Import)
  | unknownName (name : String)
  /-- A value takes nothing in brackets. -/
  | notIndexed (owner : Value)
  /-- The mark of class attributes does not take a value. -/
  | notMarkable (value : Value)
  /-- A value is no decorator of functions. -/
  | notDecorator (value : Value)
  /-- A name has a meaning of its own, so that more happens than that it is bound. -/
  | reservedName (name : String)
  deriving DecidableEq, Repr

/-- What the mark of class attributes takes behind it, among it the type of texts; of a text this asks whether it can stand for a type. -/
structure MarkRule where
  accepts : Value → Bool
  accepts_textType : accepts .textType = true

/-- The names that are known everywhere. -/
def builtins : Scope :=
  [("str", .textType), ("property", .propertyMaker), ("staticmethod", .staticMaker)]

/-- What an import binds a name to. -/
def Import.bind (wanted : Import) : Except Failure (String × Value) :=
  match wanted.origin, wanted.name with
  | ["typing"], "ClassVar" => .ok (wanted.name, .classMark)
  | ["collections", "abc"], "Iterator" => .ok (wanted.name, .iteratorType)
  | _, _ => .error (.unknownImport wanted)

/-- The name that a name in a class body is bound under: a private one bears the name of the class. -/
def mangled (className name : String) : String :=
  -- A class that is named by underscores alone leaves its private names as they are.
  let owner := String.ofList (className.toList.dropWhile (· == '_'))
  if "__".toList.isPrefixOf name.toList && !"__".toList.isSuffixOf name.toList && owner ≠ "" then
    "_" ++ owner ++ name
  else name

/-- Whether a name is enclosed in pairs of underscores, which is kept for names with a meaning of their own. -/
def isReserved (name : String) : Bool :=
  "__".toList.isPrefixOf name.toList && "__".toList.isSuffixOf name.toList && 4 < name.toList.length

/-- What a value makes of another one in brackets behind it. -/
def Value.index (rule : MarkRule) : (owner argument : Value) → Except Failure Value
  | .classMark, argument =>
    if rule.accepts argument then .ok (.indexed .classMark argument)
    else .error (.notMarkable argument)
  | .iteratorType, argument => .ok (.indexed .iteratorType argument)
  | owner, _ => .error (.notIndexed owner)

/-- What a decorator makes of a function. -/
def Value.decorate (function : Function) : Value → Except Failure Value
  | .propertyMaker => .ok (.property function)
  | .staticMaker => .ok (.static function)
  | decorator => .error (.notDecorator decorator)

/-- Where a class body is executed. -/
structure Frame where
  className : String
  /-- The names of the module. -/
  globals : Scope
  rule : MarkRule

namespace Frame

variable (frame : Frame) (locals : Scope)

/-- What a name stands for in a class body: names of the class come first, and those of the module before those that are known everywhere. -/
def find (name : String) : Except Failure Value :=
  -- A private name is looked up in the form in which the class binds it.
  let name := mangled frame.className name
  match (locals.lookup name).or ((frame.globals.lookup name).or (builtins.lookup name)) with
  | some value => .ok value
  | none => .error (.unknownName name)

/-- What a reference stands for in a class body. -/
def evaluate : Reference → Except Failure Value
  | .name name => frame.find locals name
  | .index owner argument => do
    let value ← frame.find locals owner
    value.index frame.rule (← frame.find locals argument)

/-- Binds a name of the class, whatever it was bound to before. -/
def bind (name : String) (value : Value) : Except Failure Scope :=
  let name := mangled frame.className name
  if isReserved name then .error (.reservedName name) else .ok ((name, value) :: locals)

/-- Executes a statement of a class body; a declared name is bound before its type is looked up, and a function after its decorator and its types. -/
def execute : Member → Except Failure Scope
  | .declared name type literal => do
    let locals ← frame.bind locals name (.text literal)
    let _ ← frame.evaluate locals type
    return locals
  | .function function => do
    let decorator ← frame.find locals function.decorator
    let _ ← frame.evaluate locals function.result
    frame.bind locals function.name (← decorator.decorate function)
  | .pass => .ok locals

end Frame

/-- A class that the execution of a module leaves. -/
structure MadeClass where
  name : String
  attributes : Scope
  deriving DecidableEq, Repr

/-- The name that no class can have. -/
def forbiddenName : String := "__debug__"

/-- Executes a program from its imports to the end of its class. -/
def Program.run (rule : MarkRule) (program : Program) : Except Failure MadeClass := do
  let globals ← program.imports.mapM Import.bind
  if program.className = forbiddenName then .error (.reservedName program.className)
  else
    let frame : Frame := ⟨program.className, globals.reverse, rule⟩
    return ⟨program.className, ← program.body.foldlM frame.execute []⟩

/-- Executes the text of a module of one class. -/
def run (rule : MarkRule) (text : String) : Except Failure MadeClass :=
  match readProgram text with
  | .error cause => .error (.unreadable cause)
  | .ok program => program.run rule

/-- Whether a line makes its function a generator. -/
def Step.isYield : Step → Bool
  | .gives _ => false
  | .handsOut _ => true
  | .handsOutNothing => true

/-- The texts that are handed out until one is given back. -/
def handedOut : List Step → List String
  | [] => []
  | .gives _ :: _ => []
  | .handsOut literal :: later => literal :: handedOut later
  | .handsOutNothing :: later => handedOut later

/-- The text that a function gives back when it is called for an instance. -/
def Function.given? (function : Function) : Option String :=
  -- One line that hands something out makes the call give an iterator instead.
  if function.parameter.isSome && !function.body.any Step.isYield then
    match function.body with
    | .gives literal :: _ => some literal
    | _ => none
  else none

/-- The texts that a function hands out when it is called without an instance. -/
def Function.listed? (function : Function) : Option (List String) :=
  if function.parameter.isNone && function.body.any Step.isYield then some (handedOut function.body)
  else none

namespace MadeClass

/-- The text that a class has under a name. -/
def text? (made : MadeClass) (name : String) : Option String :=
  match made.attributes.lookup name with
  | some (.text value) => some value
  | _ => none

/-- The text that the property of a name gives for an instance. -/
def propertyText? (made : MadeClass) (name : String) : Option String :=
  match made.attributes.lookup name with
  | some (.property getter) => getter.given?
  | _ => none

/-- The texts that the function of a name hands out. -/
def listed? (made : MadeClass) (name : String) : Option (List String) :=
  match made.attributes.lookup name with
  | some (.static function) => function.listed?
  | _ => none

end MadeClass

end PermissionNames.Execution
