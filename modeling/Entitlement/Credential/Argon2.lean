import Entitlement.Credential.Blake2b

/-!
The Argon2 password hash. Memory is a square of blocks, a row to each lane, which is filled in passes;
each new block mixes the one before it with one chosen by what the memory holds (variant d), by the
place alone (variant i), or by the place for the first half of the first pass (variant id).
-/

namespace Entitlement.Argon2

open Blake2b (bytesLE rotateRight word)

inductive Variant where
  | d | i | id
deriving DecidableEq

def Variant.number : Variant → Nat
  | .d => 0
  | .i => 1
  | .id => 2

def Variant.text : Variant → String
  | .d => "argon2d"
  | .i => "argon2i"
  | .id => "argon2id"

structure Parameters where
  variant : Variant := .id
  version : Nat := 19
  memory : Nat := 19456
  passes : Nat := 2
  lanes : Nat := 1
  /-- Bytes that go into the hash beside the password and the salt. -/
  associated : List UInt8 := []
deriving DecidableEq

/-- 128 words. -/
abbrev Block := Array UInt64

def emptyBlock : Block := Array.replicate 128 0

/-- A digest of any length, chained from digests of 64 bytes of which each gives 32. -/
def stretch (size : Nat) (message : List UInt8) : List UInt8 :=
  let seed := (bytesLE 4 size ++ message).toArray
  if size ≤ 64 then Blake2b.digest size seed
  else
    let rec chain : Nat → Nat → List UInt8 → List UInt8
      | 0, _, _ => []
      | fuel + 1, left, previous =>
        if left ≤ 64 then Blake2b.digest left previous.toArray
        else
          let next := Blake2b.digest 64 previous.toArray
          next.take 32 ++ chain fuel (left - 32) next
    let first := Blake2b.digest 64 seed
    first.take 32 ++ chain size (size - 32) first

structure Quarter where
  a : UInt64
  b : UInt64
  c : UInt64
  d : UInt64

/-- The sum of two words and twice the product of their lower halves. -/
@[inline] def blend (x y : UInt64) : UInt64 := x + y + 2 * (x &&& 0xffffffff) * (y &&& 0xffffffff)

@[inline] def Quarter.mix (q : Quarter) : Quarter :=
  let a := blend q.a q.b
  let d := rotateRight (q.d ^^^ a) 32
  let c := blend q.c d
  let b := rotateRight (q.b ^^^ c) 24
  let a := blend a b
  let d := rotateRight (d ^^^ a) 16
  let c := blend c d
  let b := rotateRight (b ^^^ c) 63
  ⟨a, b, c, d⟩

/-- Mixes the sixteen words at the given places of a block, as the columns and then the diagonals of
a square. -/
@[inline] def mixAt (p : Nat → Nat) (block : Block) : Block :=
  let w (i : Nat) : UInt64 := block.getD (p i) 0
  let ⟨v0, v4, v8, v12⟩ := Quarter.mix ⟨w 0, w 4, w 8, w 12⟩
  let ⟨v1, v5, v9, v13⟩ := Quarter.mix ⟨w 1, w 5, w 9, w 13⟩
  let ⟨v2, v6, v10, v14⟩ := Quarter.mix ⟨w 2, w 6, w 10, w 14⟩
  let ⟨v3, v7, v11, v15⟩ := Quarter.mix ⟨w 3, w 7, w 11, w 15⟩
  let ⟨v0, v5, v10, v15⟩ := Quarter.mix ⟨v0, v5, v10, v15⟩
  let ⟨v1, v6, v11, v12⟩ := Quarter.mix ⟨v1, v6, v11, v12⟩
  let ⟨v2, v7, v8, v13⟩ := Quarter.mix ⟨v2, v7, v8, v13⟩
  let ⟨v3, v4, v9, v14⟩ := Quarter.mix ⟨v3, v4, v9, v14⟩
  let block := (block.setIfInBounds (p 0) v0).setIfInBounds (p 1) v1
  let block := (block.setIfInBounds (p 2) v2).setIfInBounds (p 3) v3
  let block := (block.setIfInBounds (p 4) v4).setIfInBounds (p 5) v5
  let block := (block.setIfInBounds (p 6) v6).setIfInBounds (p 7) v7
  let block := (block.setIfInBounds (p 8) v8).setIfInBounds (p 9) v9
  let block := (block.setIfInBounds (p 10) v10).setIfInBounds (p 11) v11
  let block := (block.setIfInBounds (p 12) v12).setIfInBounds (p 13) v13
  (block.setIfInBounds (p 14) v14).setIfInBounds (p 15) v15

def xorBlocks (x y : Block) : Block := Array.zipWith (· ^^^ ·) x y

/-- Mixes two blocks: first the rows of their sum, then its columns, and the sum once more. -/
def compress (x y : Block) : Block :=
  let sum := xorBlocks x y
  let rows := Nat.fold 8 (fun i _ block => mixAt (fun k => 16 * i + k) block) sum
  let columns := Nat.fold 8 (fun i _ block => mixAt (fun k => 2 * i + 16 * (k / 2) + k % 2) block) rows
  xorBlocks columns sum

/-- A memory with its measures. -/
structure Memory where
  blocks : Array Block
  segment : Nat
  lanes : Nat

def Memory.lane (memory : Memory) : Nat := 4 * memory.segment

/-- Where a segment stands: its pass, the quarter of the memory and the lane. -/
structure Place where
  pass : Nat
  slice : Nat
  lane : Nat

/-- The choices of a segment whose addresses depend on the place alone, 128 to a block. -/
def addressBlock (parameters : Parameters) (size : Nat) (place : Place) (counter : Nat) : Block :=
  let input : Array UInt64 := #[UInt64.ofNat place.pass, UInt64.ofNat place.lane, UInt64.ofNat place.slice,
    UInt64.ofNat size, UInt64.ofNat parameters.passes, UInt64.ofNat parameters.variant.number,
    UInt64.ofNat counter]
  compress emptyBlock (compress emptyBlock (input ++ Array.replicate 121 0))

/-- The addresses of a segment depend on its place alone. -/
def Parameters.independent (parameters : Parameters) (place : Place) : Bool :=
  match parameters.variant with
  | .d => false
  | .i => true
  | .id => place.pass == 0 && place.slice < 2

/-- How many of the blocks of a lane are open to be chosen for the block at `index` of a segment. -/
def openBlocks (memory : Memory) (place : Place) (index lane : Nat) : Nat :=
  let complete := if place.pass == 0 then place.slice * memory.segment else memory.lane - memory.segment
  if place.lane == lane then complete + index - 1
  else if index == 0 then complete - 1
  else complete

/-- The index of the block that a pseudo-random word chooses; later blocks are likelier. -/
def chosen (memory : Memory) (place : Place) (index : Nat) (random : UInt64) : Nat :=
  let lane :=
    if place.pass == 0 && place.slice == 0 then place.lane else (random >>> 32).toNat % memory.lanes
  let area := openBlocks memory place index lane
  let low := random.toNat % 0x100000000
  let back := (area * ((low * low) >>> 32)) >>> 32
  let start := if place.pass == 0 || place.slice == 3 then 0 else (place.slice + 1) * memory.segment
  lane * memory.lane + (start + (area - 1 - back)) % memory.lane

/-- Fills the block at `index` of a segment. -/
def fillBlock (parameters : Parameters) (place : Place) (addresses : Option Block) (memory : Memory)
    (index : Nat) : Memory :=
  let offset := place.slice * memory.segment + index
  let here := place.lane * memory.lane + offset
  let before := if offset == 0 then here + memory.lane - 1 else here - 1
  let previous := memory.blocks.getD before emptyBlock
  let random := match addresses with
    | some block => block.getD (index % 128) 0
    | none => previous.getD 0 0
  let fresh := compress previous (memory.blocks.getD (chosen memory place index random) emptyBlock)
  let fresh :=
    if place.pass == 0 || parameters.version == 16 then fresh
    else xorBlocks fresh (memory.blocks.getD here emptyBlock)
  { memory with blocks := memory.blocks.setIfInBounds here fresh }

/-- Fills a segment; the first two blocks of a lane are there from the start. -/
def fillSegment (parameters : Parameters) (memory : Memory) (place : Place) : Memory :=
  let first := if place.pass == 0 && place.slice == 0 then 2 else 0
  let size := memory.blocks.size
  let addresses (index : Nat) : Block := addressBlock parameters size place (index / 128 + 1)
  let step (filled : Memory × Option Block) (index : Nat) : Memory × Option Block :=
    let (memory, current) := filled
    let current :=
      if parameters.independent place then
        if index % 128 == 0 || current.isNone then some (addresses index) else current
      else none
    (fillBlock parameters place current memory index, current)
  ((List.range' first (memory.segment - first)).foldl step (memory, none)).1

def seedBytes (parameters : Parameters) (size : Nat) (password salt : List UInt8) : List UInt8 :=
  let sized (bytes : List UInt8) : List UInt8 := bytesLE 4 bytes.length ++ bytes
  Blake2b.digest 64 <| List.toArray <|
    bytesLE 4 parameters.lanes ++ bytesLE 4 size ++ bytesLE 4 parameters.memory
      ++ bytesLE 4 parameters.passes ++ bytesLE 4 parameters.version
      ++ bytesLE 4 parameters.variant.number ++ sized password ++ sized salt ++ sized []
      ++ sized parameters.associated

def blockOfBytes (bytes : Array UInt8) : Block := ((List.range 128).map fun i => word bytes (8 * i)).toArray

def start (parameters : Parameters) (seed : List UInt8) : Memory :=
  let segment := max 2 (parameters.memory / (4 * parameters.lanes))
  let row (lane : Nat) : List Block :=
    let opening (i : Nat) : Block :=
      blockOfBytes (stretch 1024 (seed ++ bytesLE 4 i ++ bytesLE 4 lane)).toArray
    opening 0 :: opening 1 :: List.replicate (4 * segment - 2) emptyBlock
  { blocks := ((List.range parameters.lanes).flatMap row).toArray, segment, lanes := parameters.lanes }

def hash (parameters : Parameters) (size : Nat) (password salt : List UInt8) : List UInt8 :=
  let places := (List.range parameters.passes).flatMap fun pass =>
    (List.range 4).flatMap fun slice =>
      (List.range parameters.lanes).map fun lane => ({ pass, slice, lane } : Place)
  let memory := start parameters (seedBytes parameters size password salt)
  let filled := places.foldl (fillSegment parameters) memory
  let last (lane : Nat) : Block := filled.blocks.getD ((lane + 1) * filled.lane - 1) emptyBlock
  let sum := (List.range parameters.lanes).foldl (fun block lane => xorBlocks block (last lane)) emptyBlock
  stretch size (sum.toList.flatMap fun w => bytesLE 8 w.toNat)

end Entitlement.Argon2
