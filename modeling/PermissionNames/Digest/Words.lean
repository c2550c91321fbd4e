/-! Words of a digest, and their bytes in either order. -/

namespace PermissionNames.Digest

/-- The number written by bytes, most significant first. -/
def bigEndianNat (bytes : List UInt8) : Nat :=
  bytes.foldl (fun number byte => number * 256 + byte.toNat) 0

/-- The last `count` bytes of a number, least significant first. -/
def littleEndian : Nat → Nat → List UInt8
  | 0, _ => []
  | count + 1, number => UInt8.ofNat (number % 256) :: littleEndian count (number / 256)

/-- The last `count` bytes of a number, most significant first. -/
def bigEndian (count number : Nat) : List UInt8 :=
  (littleEndian count number).reverse

/-- Consecutive groups of `size` elements; elements after the last whole group are left out. -/
def groups {α : Type} (size : Nat) (elements : List α) : List (List α) :=
  (List.range (elements.length / size)).map fun i => (elements.drop (i * size)).take size

/-- The words of a block, most significant byte first. -/
def bigEndianWords (w : Nat) (block : List UInt8) : List (BitVec w) :=
  (groups (w / 8) block).map fun bytes => BitVec.ofNat w (bigEndianNat bytes)

/-- The words of a block, least significant byte first. -/
def littleEndianWords (w : Nat) (block : List UInt8) : List (BitVec w) :=
  (groups (w / 8) block).map fun bytes => BitVec.ofNat w (bigEndianNat bytes.reverse)

/-- Zero bytes that complete a message of the given size and its delimiter and length to whole blocks. -/
def zeroPadding (blockBytes lengthBytes size : Nat) : List UInt8 :=
  List.replicate ((2 * blockBytes - (size + 1 + lengthBytes) % blockBytes) % blockBytes) 0

/-- A message closed by a one bit, zeros, and its length in bits. -/
def padded (blockBytes lengthBytes : Nat) (lengthOf : Nat → Nat → List UInt8)
    (message : List UInt8) : List UInt8 :=
  message ++ [0x80] ++ zeroPadding blockBytes lengthBytes message.length ++
    lengthOf lengthBytes (8 * message.length)

end PermissionNames.Digest
