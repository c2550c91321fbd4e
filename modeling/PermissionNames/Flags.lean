/-! Generator options of a container and their bit encoding. -/

namespace PermissionNames

/-- Options that a container declares for its generated names. -/
structure Flags where
  /-- Names are replaced by short digest tokens. -/
  obfuscate : Bool := false
  /-- Final names are written in capitals. -/
  upperCase : Bool := false
  /-- The composed name, prefix included, is segmented again. -/
  parsePrefix : Bool := false
  /-- A declaration that lists every name is added. -/
  emitEnumeration : Bool := false
  deriving DecidableEq, Repr

namespace Flags

/-- No option at all. -/
def none : Flags := {}

/-- Reads the four lowest bits of an integer, in two's complement for negative ones. -/
def ofBits (bits : Int) : Flags :=
  let low := (bits % 16).toNat
  { obfuscate := low.testBit 0
    upperCase := low.testBit 1
    parsePrefix := low.testBit 2
    emitEnumeration := low.testBit 3 }

/-- The names of the options that are on, in their fixed order. -/
def active (flags : Flags) : List String :=
  (if flags.obfuscate then ["obfuscate"] else []) ++
    (if flags.upperCase then ["upper_case"] else []) ++
    (if flags.parsePrefix then ["parse_prefix"] else []) ++
    (if flags.emitEnumeration then ["emit_enumeration_method"] else [])

/-- The options that a member of the flag enumeration stands for, as a number. -/
def member? (name : String) : Option Nat :=
  [("NONE", 0), ("OBFUSCATE", 1), ("UPPER_CASE", 2), ("PARSE_PREFIX", 4),
    ("GENERATE_ALL_PERMISSIONS_METHOD", 8)].lookup name

end Flags

end PermissionNames
