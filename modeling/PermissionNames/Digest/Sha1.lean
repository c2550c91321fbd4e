import PermissionNames.Digest.Words

/-! The SHA-1 digest. -/

namespace PermissionNames.Digest.Sha1

/-- The five working words. -/
structure State where
  a : BitVec 32
  b : BitVec 32
  c : BitVec 32
  d : BitVec 32
  e : BitVec 32

/-- Adds two states word by word. -/
def State.add (s t : State) : State :=
  ⟨s.a + t.a, s.b + t.b, s.c + t.c, s.d + t.d, s.e + t.e⟩

/-- The first `count` schedule words that follow from a window of sixteen. -/
def schedule : Nat → List (BitVec 32) → List (BitVec 32)
  | 0, _ => []
  | count + 1, window =>
    let next :=
      (window.getD 13 0 ^^^ window.getD 8 0 ^^^ window.getD 2 0 ^^^ window.getD 0 0).rotateLeft 1
    window.getD 0 0 :: schedule count (window.drop 1 ++ [next])

/-- The mixing function and the constant of a round, which change every twenty rounds. -/
def phase (round : Nat) (b c d : BitVec 32) : BitVec 32 × BitVec 32 :=
  if round < 20 then ((b &&& c) ||| (~~~b &&& d), 0x5a827999)
  else if round < 40 then (b ^^^ c ^^^ d, 0x6ed9eba1)
  else if round < 60 then ((b &&& c) ||| (b &&& d) ||| (c &&& d), 0x8f1bbcdc)
  else (b ^^^ c ^^^ d, 0xca62c1d6)

/-- One round with its schedule word and number. -/
def round (s : State) (input : BitVec 32 × Nat) : State :=
  let (mixed, constant) := phase input.2 s.b s.c s.d
  ⟨s.a.rotateLeft 5 + mixed + s.e + constant + input.1, s.a, s.b.rotateLeft 30, s.c, s.d⟩

/-- Folds one block into the chaining state. -/
def compress (s : State) (block : List UInt8) : State :=
  s.add ((schedule 80 (bigEndianWords 32 block)).zipIdx.foldl round s)

/-- The digest of a message. -/
def hash (message : List UInt8) : List UInt8 :=
  let start : State := ⟨0x67452301, 0xefcdab89, 0x98badcfe, 0x10325476, 0xc3d2e1f0⟩
  let final := (groups 64 (padded 64 8 bigEndian message)).foldl compress start
  [final.a, final.b, final.c, final.d, final.e].flatMap fun word => bigEndian 4 word.toNat

end PermissionNames.Digest.Sha1
