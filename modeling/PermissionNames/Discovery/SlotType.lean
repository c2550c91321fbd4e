import PermissionNames.Discovery.Basic

/-! The types that make a declaration a slot: text, perhaps wrapped and perhaps quoted. -/

namespace PermissionNames.Discovery

open Source

/-- What the type of a slot says about it. -/
structure SlotType where
  /-- Whether a wrapper makes the slot belong to the class. -/
  isStatic : Bool
  /-- The further arguments of wrappers, from the innermost wrapper to the outermost. -/
  metadata : List Expression

namespace SlotType

/-- The type of a slot as far as reading it may fail. -/
abbrev Recognition := Except DiscoveryError (Option SlotType)

/-- Recognizes a type, where `quoted` recognizes a type in quotes. -/
def recognizeWith (quoted : Bool → String → Recognition) : Bool → Expression → Recognition
  | isStatic, .constant (.text (.plain text) _) => quoted isStatic text
  | _, .constant (.text (.broken ..) _) => .error .encoding
  | isStatic, .name identifier =>
    .ok (if identifier.text = "str" then some ⟨isStatic, []⟩ else none)
  | isStatic, .subscript wrapper (.tuple (first :: rest)) =>
    if wrapper.lastName? = some "Annotated" then do
      match ← recognizeWith quoted isStatic first with
      | some inner => return some { inner with metadata := inner.metadata ++ rest }
      | none => return none
    else .ok none
  | _, .subscript wrapper index =>
    if wrapper.lastName? = some "ClassVar" then recognizeWith quoted true index else .ok none
  | _, _ => .ok none

/-- Recognizes a type in quotes, with at most `limit` pairs of quotes inside each other. -/
def recognizeQuoted : Nat → Bool → String → Recognition
  | 0, _, _ => .ok none
  | limit + 1, isStatic, text =>
    match readExpression text with
    | .error .malformed => .ok none
    | .error .nullCharacter => .error (.reading .nullCharacter)
    | .ok inner => recognizeWith (recognizeQuoted limit) isStatic inner

/-- Recognizes the type of a slot; every text is shorter than the one that quotes it. -/
def recognize (type : Expression) : Recognition :=
  recognizeWith (fun isStatic text => recognizeQuoted (text.length + 1) isStatic text) false type

end SlotType

end PermissionNames.Discovery
