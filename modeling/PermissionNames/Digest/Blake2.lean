import PermissionNames.Digest.Sha2

/-! The BLAKE2 digests without a key, for both of their word sizes. -/

namespace PermissionNames.Digest.Blake2

/-- What distinguishes the two word sizes. -/
structure Variant (w : Nat) where
  rounds : Nat
  rotations : Nat × Nat × Nat × Nat
  /-- The eight words that the state and its second half start from. -/
  start : List (BitVec w)

/-- The order in which each of ten rounds reads the message words. -/
def orders : List (List Nat) := [
  [0, 1, 2, 3, 4, 5, 6, 7, 8, 9, 10, 11, 12, 13, 14, 15],
  [14, 10, 4, 8, 9, 15, 13, 6, 1, 12, 0, 2, 11, 7, 5, 3],
  [11, 8, 12, 0, 5, 2, 15, 13, 10, 14, 3, 6, 7, 1, 9, 4],
  [7, 9, 3, 1, 13, 12, 11, 14, 2, 6, 5, 10, 4, 0, 15, 8],
  [9, 0, 5, 7, 2, 4, 10, 15, 14, 1, 11, 12, 6, 8, 3, 13],
  [2, 12, 6, 10, 0, 11, 8, 3, 4, 13, 7, 5, 15, 14, 1, 9],
  [12, 5, 1, 15, 14, 13, 4, 10, 0, 7, 6, 3, 9, 2, 8, 11],
  [13, 11, 7, 14, 12, 1, 3, 9, 5, 0, 15, 4, 8, 6, 2, 10],
  [6, 15, 14, 9, 11, 3, 0, 8, 12, 2, 13, 7, 1, 4, 10, 5],
  [10, 2, 8, 4, 7, 6, 1, 5, 15, 11, 9, 14, 3, 12, 13, 0]]

/-- The working words that a mixing step changes, columns first and diagonals after. -/
def quarters : List (Nat × Nat × Nat × Nat) := [
  (0, 4, 8, 12), (1, 5, 9, 13), (2, 6, 10, 14), (3, 7, 11, 15),
  (0, 5, 10, 15), (1, 6, 11, 12), (2, 7, 8, 13), (3, 4, 9, 14)]

/-- Mixes two message words into four working words. -/
def mix {w : Nat} (variant : Variant w) (v : List (BitVec w)) (place : Nat × Nat × Nat × Nat)
    (x y : BitVec w) : List (BitVec w) :=
  let (i, j, k, l) := place
  let (r1, r2, r3, r4) := variant.rotations
  let a := v.getD i 0 + v.getD j 0 + x
  let d := (v.getD l 0 ^^^ a).rotateRight r1
  let c := v.getD k 0 + d
  let b := (v.getD j 0 ^^^ c).rotateRight r2
  let a := a + b + y
  let d := (d ^^^ a).rotateRight r3
  let c := c + d
  let b := (b ^^^ c).rotateRight r4
  (((v.set i a).set j b).set k c).set l d

/-- One round over the message words. -/
def round {w : Nat} (variant : Variant w) (words v : List (BitVec w)) (number : Nat) :
    List (BitVec w) :=
  let order := orders.getD (number % 10) []
  quarters.zipIdx.foldl
    (fun v (place, i) =>
      mix variant v place (words.getD (order.getD (2 * i) 0) 0)
        (words.getD (order.getD (2 * i + 1) 0) 0))
    v

/-- Folds one block into the state, given the bytes read so far and whether it is the last. -/
def compress {w : Nat} (variant : Variant w) (s : List (BitVec w)) (block : List UInt8)
    (count : Nat) (last : Bool) : List (BitVec w) :=
  let counter := variant.start.set 4 (variant.start.getD 4 0 ^^^ BitVec.ofNat w count)
  let counter := counter.set 5 (variant.start.getD 5 0 ^^^ BitVec.ofNat w (count / Nat.pow 2 w))
  let tail := if last then counter.set 6 (~~~variant.start.getD 6 0) else counter
  let final :=
    (List.range variant.rounds).foldl (round variant (littleEndianWords w block)) (s ++ tail)
  (s.zip ((final.take 8).zip (final.drop 8))).map fun (old, low, high) => old ^^^ low ^^^ high

/-- Folds blocks one after another; the last one is filled with zeros and marked. -/
def absorb {w : Nat} (variant : Variant w) (s : List (BitVec w)) (message : List UInt8) :
    List (BitVec w) :=
  let whole := (message.length - 1) / (2 * w)
  let blocks := (groups (2 * w) message).take whole
  let s := blocks.zipIdx.foldl
    (fun s (block, i) => compress variant s block (2 * w * (i + 1)) false) s
  let rest := message.drop (2 * w * whole)
  let filled := rest ++ List.replicate (2 * w - rest.length) 0
  compress variant s filled message.length true

/-- The digest of a message, as long as the state. -/
def hash {w : Nat} (variant : Variant w) (message : List UInt8) : List UInt8 :=
  let parameters := BitVec.ofNat w (0x01010000 + w)
  let s := variant.start.set 0 (variant.start.getD 0 0 ^^^ parameters)
  (absorb variant s message).flatMap fun word => littleEndian (w / 8) word.toNat

/-- The variant with words of 64 bits. -/
def wide : Variant 64 := ⟨12, (32, 24, 16, 63), Sha2.start512.toList⟩

/-- The variant with words of 32 bits. -/
def narrow : Variant 32 := ⟨10, (16, 12, 8, 7), Sha2.start256.toList⟩

end PermissionNames.Digest.Blake2
