import PermissionNames.Digest.Words

/-! The SHA-3 digests: a sponge over the Keccak permutation. -/

namespace PermissionNames.Digest.Sha3

/-- The twenty-five lanes; the lane of column `x` and row `y` has index `x + 5 * y`. -/
abbrev State := List (BitVec 64)

/-- The lane of a column and a row, both taken modulo five. -/
def lane (s : State) (x y : Nat) : BitVec 64 :=
  s.getD (x % 5 + 5 * (y % 5)) 0

/-- A state from the value of every lane. -/
def ofLanes (value : Nat → Nat → BitVec 64) : State :=
  (List.range 25).map fun i => value (i % 5) (i / 5)

/-- One constant for every round. -/
def constants : List (BitVec 64) := [
  0x0000000000000001, 0x0000000000008082, 0x800000000000808a, 0x8000000080008000,
  0x000000000000808b, 0x0000000080000001, 0x8000000080008081, 0x8000000000008009,
  0x000000000000008a, 0x0000000000000088, 0x0000000080008009, 0x000000008000000a,
  0x000000008000808b, 0x800000000000008b, 0x8000000000008089, 0x8000000000008003,
  0x8000000000008002, 0x8000000000000080, 0x000000000000800a, 0x800000008000000a,
  0x8000000080008081, 0x8000000000008080, 0x0000000080000001, 0x8000000080008008]

/-- The rotation of every lane. -/
def offsets : List Nat := [
  0, 1, 62, 28, 27, 36, 44, 6, 55, 20, 3, 10, 43, 25, 39, 41, 45, 15, 21, 8, 18, 2, 61, 56, 14]

/-- The exclusive or of a column. -/
def column (s : State) (x : Nat) : BitVec 64 :=
  lane s x 0 ^^^ lane s x 1 ^^^ lane s x 2 ^^^ lane s x 3 ^^^ lane s x 4

/-- Adds the parity of two neighbouring columns to every lane. -/
def theta (s : State) : State :=
  let columns := (List.range 5).map (column s)
  let parity := (List.range 5).map fun x =>
    columns.getD ((x + 4) % 5) 0 ^^^ (columns.getD ((x + 1) % 5) 0).rotateLeft 1
  ofLanes fun x y => lane s x y ^^^ parity.getD x 0

/-- Rotates every lane and moves it to another place. -/
def rhoPi (s : State) : State :=
  ofLanes fun x y =>
    let source := x + 3 * y
    (lane s source x).rotateLeft (offsets.getD (source % 5 + 5 * x) 0)

/-- Combines every lane with the next two of its row. -/
def chi (s : State) : State :=
  ofLanes fun x y => lane s x y ^^^ (~~~lane s (x + 1) y &&& lane s (x + 2) y)

/-- Adds the round constant to the first lane. -/
def iota (constant : BitVec 64) : State → State
  | [] => []
  | first :: rest => (first ^^^ constant) :: rest

/-- All rounds of the permutation. -/
def permute (s : State) : State :=
  constants.foldl (fun s constant => iota constant (chi (rhoPi (theta s)))) s

/-- Adds a block to the front of the state and permutes. -/
def absorb (s : State) (block : List UInt8) : State :=
  let words := littleEndianWords 64 block
  permute (ofLanes fun x y => lane s x y ^^^ words.getD (x + 5 * y) 0)

/-- A message closed by the suffix `01`, a one bit, zeros, and a final one bit. -/
def padded (rate : Nat) (message : List UInt8) : List UInt8 :=
  let zeros := rate - 1 - message.length % rate
  if zeros = 0 then message ++ [0x86]
  else message ++ [0x06] ++ List.replicate (zeros - 1) 0 ++ [0x80]

/-- The digest of `size` bytes of a message. -/
def hash (size : Nat) (message : List UInt8) : List UInt8 :=
  let rate := 200 - 2 * size
  let final := (groups rate (padded rate message)).foldl absorb (List.replicate 25 0)
  (final.flatMap fun word => littleEndian 8 word.toNat).take size

end PermissionNames.Digest.Sha3
