import PermissionNames.GeneratedSource
import PermissionNames.Proofs.Token
import PermissionNames.Proofs.Transform

/-! The literal of a slot in closed form: what its identity, its prefix and the options come to. -/

namespace PermissionNames

/-- The characters of a segmented string. -/
@[simp] theorem toList_segmented (text : String) :
    (segmented text).toList = Segment.segment text.toList := by
  simp [segmented]

/-- The characters of a lowered string. -/
@[simp] theorem toList_lowercase (text : String) :
    (lowercase text).toList = Casing.lower text.toList := by
  simp [lowercase]

/-- The characters of a string in capitals. -/
@[simp] theorem toList_uppercase (text : String) :
    (uppercase text).toList = Casing.upper text.toList := by
  simp [uppercase]

/-- A segmented string is lowered already. -/
@[simp] theorem lowercase_segmented (text : String) : lowercase (segmented text) = segmented text := by
  simp [← String.toList_inj]

/-- Segmenting a segmented string changes nothing. -/
@[simp] theorem segmented_segmented (text : String) : segmented (segmented text) = segmented text := by
  simp [← String.toList_inj]

/-- A string that holds anything has a segment. -/
theorem segmented_ne_empty {text : String} (named : text ≠ "") : segmented text ≠ "" := by
  -- The law is known for lists of characters.
  have characters : text.toList ≠ [] := by simpa using named
  have segments := Segment.segment_ne_nil characters
  rwa [← toList_segmented, ne_eq, String.toList_eq_nil_iff] at segments

namespace Slot

/-- The tokens of a first declaration that hold anything. -/
def prefixParts (declarations : List (List String)) : List String :=
  (choosePrefix declarations).filter (· ≠ "")

end Slot

namespace Container

/-- Whether an option counts: it is declared, and the container is no flat one. -/
def grants (container : Container) (option : Flags → Bool) : Bool :=
  container.kind == .store && option container.flags

/-- The literal of a slot, said from its declaration alone. -/
def literal (container : Container) (algorithm : Algorithm) (identity : String)
    (declarations : List (List String)) : String :=
  let form := if container.grants (·.parsePrefix) then segmented else lowercase
  let name := ".".intercalate ((Slot.prefixParts declarations).map form ++ [segmented identity])
  let token := if container.grants (·.obfuscate) then obfuscated algorithm name else name
  if container.grants (·.upperCase) then uppercase token else token

/-- An option counts exactly if it is among the effective ones. -/
theorem effectiveFlags_eq (container : Container) :
    container.effectiveFlags =
      { obfuscate := container.grants (·.obfuscate)
        upperCase := container.grants (·.upperCase)
        parsePrefix := container.grants (·.parsePrefix)
        emitEnumeration := container.grants (·.emitEnumeration) } := by
  -- A flat container has no options, and a store has those that it declares.
  unfold effectiveFlags grants
  cases container.kind <;> rfl

/-- Whether a name leads to an algorithm where a container needs one: it is the normalized name of a request, or another name that the algorithm is found under. -/
def Reaches (container : Container) (requested used : String) (algorithm : Algorithm) : Prop :=
  container.grants (·.obfuscate) → used = lowercase requested ∨ Algorithm.lookUp used = .ok algorithm

end Container

end PermissionNames
