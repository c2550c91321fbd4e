import PermissionNames.Digest.Words

/-! The MD5 digest. -/

namespace PermissionNames.Digest.Md5

/-- The four working words. -/
structure State where
  a : BitVec 32
  b : BitVec 32
  c : BitVec 32
  d : BitVec 32

/-- Adds two states word by word. -/
def State.add (s t : State) : State :=
  ⟨s.a + t.a, s.b + t.b, s.c + t.c, s.d + t.d⟩

/-- The sine table: one constant for every round. -/
def constants : List (BitVec 32) := [
  0xd76aa478, 0xe8c7b756, 0x242070db, 0xc1bdceee, 0xf57c0faf, 0x4787c62a, 0xa8304613, 0xfd469501,
  0x698098d8, 0x8b44f7af, 0xffff5bb1, 0x895cd7be, 0x6b901122, 0xfd987193, 0xa679438e, 0x49b40821,
  0xf61e2562, 0xc040b340, 0x265e5a51, 0xe9b6c7aa, 0xd62f105d, 0x02441453, 0xd8a1e681, 0xe7d3fbc8,
  0x21e1cde6, 0xc33707d6, 0xf4d50d87, 0x455a14ed, 0xa9e3e905, 0xfcefa3f8, 0x676f02d9, 0x8d2a4c8a,
  0xfffa3942, 0x8771f681, 0x6d9d6122, 0xfde5380c, 0xa4beea44, 0x4bdecfa9, 0xf6bb4b60, 0xbebfbc70,
  0x289b7ec6, 0xeaa127fa, 0xd4ef3085, 0x04881d05, 0xd9d4d039, 0xe6db99e5, 0x1fa27cf8, 0xc4ac5665,
  0xf4292244, 0x432aff97, 0xab9423a7, 0xfc93a039, 0x655b59c3, 0x8f0ccc92, 0xffeff47d, 0x85845dd1,
  0x6fa87e4f, 0xfe2ce6e0, 0xa3014314, 0x4e0811a1, 0xf7537e82, 0xbd3af235, 0x2ad7d2bb, 0xeb86d391]

/-- The rotation of a round, by its phase and its place in a group of four. -/
def rotation (round : Nat) : Nat :=
  let amounts :=
    if round < 16 then [7, 12, 17, 22]
    else if round < 32 then [5, 9, 14, 20]
    else if round < 48 then [4, 11, 16, 23]
    else [6, 10, 15, 21]
  amounts.getD (round % 4) 0

/-- The mixing function of a round and the message word that it reads. -/
def phase (round : Nat) (b c d : BitVec 32) : BitVec 32 × Nat :=
  if round < 16 then ((b &&& c) ||| (~~~b &&& d), round)
  else if round < 32 then ((d &&& b) ||| (~~~d &&& c), (5 * round + 1) % 16)
  else if round < 48 then (b ^^^ c ^^^ d, (3 * round + 5) % 16)
  else (c ^^^ (b ||| ~~~d), 7 * round % 16)

/-- One round over the message words, with its constant and number. -/
def round (words : List (BitVec 32)) (s : State) (input : BitVec 32 × Nat) : State :=
  let (mixed, index) := phase input.2 s.b s.c s.d
  let sum := s.a + mixed + input.1 + words.getD index 0
  ⟨s.d, s.b + sum.rotateLeft (rotation input.2), s.b, s.c⟩

/-- Folds one block into the chaining state. -/
def compress (s : State) (block : List UInt8) : State :=
  s.add (constants.zipIdx.foldl (round (littleEndianWords 32 block)) s)

/-- The digest of a message. -/
def hash (message : List UInt8) : List UInt8 :=
  let start : State := ⟨0x67452301, 0xefcdab89, 0x98badcfe, 0x10325476⟩
  let final := (groups 64 (padded 64 8 littleEndian message)).foldl compress start
  [final.a, final.b, final.c, final.d].flatMap fun word => littleEndian 4 word.toNat

end PermissionNames.Digest.Md5
