/-!
BLAKE2b without a key: a digest of 1 to 64 bytes. The message is taken in blocks of 128 bytes, where
the last one is filled up with zeros.
-/

namespace Entitlement.Blake2b

@[inline] def rotateRight (x : UInt64) (n : UInt64) : UInt64 := (x >>> n) ||| (x <<< (64 - n))

/-- The bytes of a number, lowest first. -/
def bytesLE (count n : Nat) : List UInt8 := (List.range count).map fun i => UInt8.ofNat (n >>> (8 * i))

/-- The word of eight bytes, lowest first, at an offset; beyond the end there are zeros. -/
def word (bytes : Array UInt8) (offset : Nat) : UInt64 :=
  (List.range 8).foldr (fun i w => w <<< 8 ||| (bytes.getD (offset + i) 0).toUInt64) 0

def initial : Array UInt64 := #[
  0x6a09e667f3bcc908, 0xbb67ae8584caa73b, 0x3c6ef372fe94f82b, 0xa54ff53a5f1d36f1,
  0x510e527fade682d1, 0x9b05688c2b3e6c1f, 0x1f83d9abfb41bd6b, 0x5be0cd19137e2179]

/-- The order in which each round takes the words of a block. -/
def schedules : List (Array Nat) := [
  #[0, 1, 2, 3, 4, 5, 6, 7, 8, 9, 10, 11, 12, 13, 14, 15],
  #[14, 10, 4, 8, 9, 15, 13, 6, 1, 12, 0, 2, 11, 7, 5, 3],
  #[11, 8, 12, 0, 5, 2, 15, 13, 10, 14, 3, 6, 7, 1, 9, 4],
  #[7, 9, 3, 1, 13, 12, 11, 14, 2, 6, 5, 10, 4, 0, 15, 8],
  #[9, 0, 5, 7, 2, 4, 10, 15, 14, 1, 11, 12, 6, 8, 3, 13],
  #[2, 12, 6, 10, 0, 11, 8, 3, 4, 13, 7, 5, 15, 14, 1, 9],
  #[12, 5, 1, 15, 14, 13, 4, 10, 0, 7, 6, 3, 9, 2, 8, 11],
  #[13, 11, 7, 14, 12, 1, 3, 9, 5, 0, 15, 4, 8, 6, 2, 10],
  #[6, 15, 14, 9, 11, 3, 0, 8, 12, 2, 13, 7, 1, 4, 10, 5],
  #[10, 2, 8, 4, 7, 6, 1, 5, 15, 11, 9, 14, 3, 12, 13, 0],
  #[0, 1, 2, 3, 4, 5, 6, 7, 8, 9, 10, 11, 12, 13, 14, 15],
  #[14, 10, 4, 8, 9, 15, 13, 6, 1, 12, 0, 2, 11, 7, 5, 3]]

/-- The four places that each step of a round mixes: the columns, then the diagonals. -/
def quarters : List (Nat × Nat × Nat × Nat) := [
  (0, 4, 8, 12), (1, 5, 9, 13), (2, 6, 10, 14), (3, 7, 11, 15),
  (0, 5, 10, 15), (1, 6, 11, 12), (2, 7, 8, 13), (3, 4, 9, 14)]

def mix (v : Array UInt64) (quarter : Nat × Nat × Nat × Nat) (x y : UInt64) : Array UInt64 :=
  let (i, j, k, l) := quarter
  let a := v.getD i 0 + v.getD j 0 + x
  let d := rotateRight (v.getD l 0 ^^^ a) 32
  let c := v.getD k 0 + d
  let b := rotateRight (v.getD j 0 ^^^ c) 24
  let a := a + b + y
  let d := rotateRight (d ^^^ a) 16
  let c := c + d
  let b := rotateRight (b ^^^ c) 63
  (((v.setIfInBounds i a).setIfInBounds j b).setIfInBounds k c).setIfInBounds l d

def round (block : Array UInt64) (v : Array UInt64) (schedule : Array Nat) : Array UInt64 :=
  quarters.zipIdx.foldl (fun v (quarter, i) =>
    let input (n : Nat) : UInt64 := block.getD (schedule.getD n 0) 0
    mix v quarter (input (2 * i)) (input (2 * i + 1))) v

/-- Takes in one block; `taken` counts the bytes of the message up to its end. -/
def compress (h : Array UInt64) (block : Array UInt64) (taken : Nat) (last : Bool) : Array UInt64 :=
  let v := h ++ initial
  let v := v.modify 12 (· ^^^ UInt64.ofNat taken)
  let v := if last then v.modify 14 (· ^^^ 0xffffffffffffffff) else v
  let v := schedules.foldl (round block) v
  h.mapIdx fun i w => w ^^^ v.getD i 0 ^^^ v.getD (i + 8) 0

def digest (size : Nat) (message : Array UInt8) : List UInt8 :=
  let count := max 1 ((message.size + 127) / 128)
  let start := initial.modify 0 (· ^^^ 0x01010000 ^^^ UInt64.ofNat size)
  let h := (List.range count).foldl (fun h i =>
    let block := ((List.range 16).map fun k => word message (128 * i + 8 * k)).toArray
    compress h block (min (128 * (i + 1)) message.size) (i + 1 == count)) start
  (h.toList.flatMap fun w => bytesLE 8 w.toNat).take size

end Entitlement.Blake2b
