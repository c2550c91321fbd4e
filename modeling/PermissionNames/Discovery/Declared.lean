import PermissionNames.Discovery.Constants
import PermissionNames.Discovery.SlotType
import PermissionNames.Marker

/-! The containers that source text declares, with their slots and options. -/

namespace PermissionNames.Discovery

open Source

/-- The number that an expression of options stands for: a number, a member, or a union of such. -/
def flagBits? : Expression → Option Nat
  | .constant (.number (.integer value)) => some value
  | .name identifier => Flags.member? identifier.text
  | .attribute _ member => Flags.member? member
  | .binary .bitOr left right => do return (← flagBits? left) ||| (← flagBits? right)
  | _ => none

/-- The marker of a class: its kind, and the expression of its options if it has one. -/
structure ClassMarker where
  kind : ContainerKind
  flags : Option Expression

namespace ClassMarker

/-- The expression of options among the arguments of a marker. -/
def flagsArgument (arguments : List Expression) (named : List (Option String × Expression)) :
    Option Expression :=
  match arguments with
  | first :: _ => some first
  | [] => named.lookup (some "flags")

/-- The marker that a decorator stands for. -/
def ofDecorator? : Expression → Option ClassMarker
  | .call function arguments named => do
    let kind ← ContainerKind.ofMarker? (← function.lastName?)
    return ⟨kind, flagsArgument arguments named⟩
  | decorator => do
    let kind ← ContainerKind.ofMarker? (← decorator.lastName?)
    return ⟨kind, none⟩

/-- The first marker among the decorators of a class. -/
def find? (decorators : List Expression) : Option ClassMarker :=
  decorators.findSome? ofDecorator?

/-- The options of a marked class, and what is noticed if they cannot be evaluated. -/
def evaluate (marker : ClassMarker) (className : String) :
    Except DiscoveryError (Flags × List UnsupportedFlags) :=
  match marker.flags with
  | none => .ok ({}, [])
  | some expression =>
    match flagBits? expression with
    | some bits => .ok (Flags.ofBits bits, [])
    | none =>
      match expression.write with
      | .ok text => .ok ({}, [⟨className, text⟩])
      | .error cause => .error (.writing cause)

end ClassMarker

/-- The tokens of the arguments of a prefix, where `resolve` tells the text of a name; there are none if an argument is neither text nor a name. -/
def argumentTokens? (resolve : String → LiteralText) :
    List Expression → Option (List LiteralText)
  | [] => some []
  | .constant (.text value _) :: rest => (argumentTokens? resolve rest).map (value :: ·)
  | .name identifier :: rest => (argumentTokens? resolve rest).map (resolve identifier.text :: ·)
  | _ :: _ => none

/-- What a slot is told by the metadata of its type. -/
structure SlotMetadata where
  /-- The tokens of all prefixes, in their order. -/
  prefixes : List (List LiteralText) := []
  /-- The first visibility that is named. -/
  visibility : Option Visibility := none
  deriving DecidableEq, Repr

namespace SlotMetadata

/-- The visibility that an expression names. -/
def visibility? : Expression → Option Visibility
  | .attribute owner member =>
    if owner.lastName? = some "Visibility" then Visibility.ofMember? member else none
  | _ => none

/-- The arguments of a prefix declaration. -/
def prefixArguments? : Expression → Option (List Expression)
  | .call function arguments _ =>
    if function.lastName? = some "Prefix" then some arguments else none
  | _ => none

/-- The tokens of a prefix declaration; a malformed one has none and has to be written out. -/
def prefixTokens (resolve : String → LiteralText) (declaration : Expression)
    (arguments : List Expression) : Except DiscoveryError (List LiteralText) :=
  match argumentTokens? resolve arguments with
  | some tokens => .ok tokens
  | none =>
    match declaration.write with
    | .ok _ => .ok []
    | .error cause => .error (.writing cause)

/-- Adds what an item of metadata says. -/
def add (resolve : String → LiteralText) (known : SlotMetadata) (item : Expression) :
    Except DiscoveryError SlotMetadata :=
  match prefixArguments? item with
  | some arguments =>
    (prefixTokens resolve item arguments).map fun tokens =>
      { known with prefixes := known.prefixes ++ [tokens] }
  | none => .ok { known with visibility := known.visibility.or (visibility? item) }

/-- What metadata says as a whole. -/
def collect (resolve : String → LiteralText) (metadata : List Expression) :
    Except DiscoveryError SlotMetadata :=
  metadata.foldlM (add resolve) {}

end SlotMetadata

/-- A slot that a class declares. -/
structure DeclaredSlot where
  /-- The slot; where a surrogate stands in a token of its prefix, another character shows that. -/
  slot : Slot
  /-- Whether its name can be encoded, as no surrogate stands in a token of its prefix. -/
  isEncodable : Bool

/-- The slot that a statement of a class declares, if it declares one. -/
def slotOf? (resolve : String → LiteralText) :
    Statement → Except DiscoveryError (Option DeclaredSlot)
  | .declaration (.name identity) type none => do
    match ← SlotType.recognize type with
    | none => return none
    | some slotType =>
      let known ← SlotMetadata.collect resolve slotType.metadata
      let visibility := known.visibility.getD (Visibility.ofIdentity identity.text)
      let shown := known.prefixes.map fun tokens => tokens.map LiteralText.shown
      match Slot.declare identity.text visibility slotType.isStatic shown with
      | .ok slot => return some ⟨slot, (Slot.choosePrefix known.prefixes).all (·.isEncodable)⟩
      | .error cause => throw (.slot cause)
  | _ => .ok none

/-- The slots that the statements of a class declare. -/
def slotsOf (resolve : String → LiteralText) (body : List Statement) :
    Except DiscoveryError (List DeclaredSlot) :=
  (body.mapM (slotOf? resolve)).map fun slots => slots.filterMap id

/-- What is found in a text apart from its statements. -/
structure Surroundings where
  /-- The constants of the module. -/
  constants : Constants
  sourcePath : Option String

/-- The namespace of the classes inside a class. -/
def namespaceWithin (outer className : String) : String :=
  if outer = "" then className else outer ++ "." ++ className

/-- The container that a class declares, if it carries a marker. -/
def containerOf (surroundings : Surroundings) (namespacePath : String)
    (decorators : List Expression) (name : String) (bases : List Expression)
    (body : List Statement) : Except DiscoveryError Findings :=
  match ClassMarker.find? decorators with
  | none => .ok {}
  | some marker => do
    let resolve := resolveName (Constants.ofBody body) surroundings.constants
    let slots ← slotsOf resolve body
    let (flags, notices) ← marker.evaluate name
    return {
      found := [{
        container := {
          name, namespacePath, flags
          slots := slots.map (·.slot)
          kind := marker.kind
          reEmittable := bases.any fun base => base.lastName? == some "Partial"
          sourcePath := surroundings.sourcePath }
        isEncodable := slots.all (·.isEncodable) }]
      notices }

mutual

/-- What a statement declares: a class first, then the classes in its body. -/
def ofStatement (surroundings : Surroundings) (namespacePath : String) :
    Statement → Except DiscoveryError Findings
  | .classDefinition decorators name bases body => do
    let own ← containerOf surroundings namespacePath decorators name.text bases body
    return own.append (← ofBody surroundings (namespaceWithin namespacePath name.text) body)
  | _ => .ok {}

/-- What the statements of a body declare. -/
def ofBody (surroundings : Surroundings) (namespacePath : String) :
    List Statement → Except DiscoveryError Findings
  | [] => .ok {}
  | first :: rest => do
    let found ← ofStatement surroundings namespacePath first
    return found.append (← ofBody surroundings namespacePath rest)

end

/-- The containers that the text of a module declares. -/
def ofSource (source moduleName : String) (sourcePath : Option String := none) :
    Except DiscoveryError Findings :=
  match readModule source with
  | .error cause => .error (.reading cause)
  | .ok body => ofBody ⟨Constants.ofBody body, sourcePath⟩ moduleName body

end PermissionNames.Discovery
