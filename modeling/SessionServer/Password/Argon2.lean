import SessionServer.Password.Argon2.Block

/-!
Argon2: a password hash that takes memory as well as time. Memory is a matrix of blocks with one row
a lane; each pass goes over it in four slices, and each new block is made from the one before it and
one that the reference index picks.
-/

namespace SessionServer.Password.Argon2

/-- How blocks to refer to are picked: by the memory's content, by addresses of their own, or by
addresses in the first half of the first pass and by content after it. -/
inductive Variant where
  | dependent
  | independent
  | hybrid
  deriving DecidableEq, Repr

def Variant.number : Variant → Nat
  | .dependent => 0
  | .independent => 1
  | .hybrid => 2

/-- The parameters of a hash. The memory is counted in blocks. -/
structure Parameters where
  variant : Variant
  version : Nat
  memory : Nat
  passes : Nat
  lanes : Nat
  /-- Data that is hashed along. -/
  associated : Bytes := []
  deriving DecidableEq, Repr

/-- A number as four octets, least significant first. -/
def octets4 (n : Nat) : Bytes :=
  [UInt8.ofNat n, UInt8.ofNat (n / 0x100), UInt8.ofNat (n / 0x10000), UInt8.ofNat (n / 0x1000000)]

/-- Octets behind their number. -/
def counted (octets : Bytes) : Bytes := octets4 octets.length ++ octets

/-- Digests in a chain: the first 32 octets of each but the last one, which has `length` octets. -/
def chain : (links : Nat) → (digest : Bytes) → (length : Nat) → Bytes
  | 0, digest, length => Digest.Blake2b.digest length digest
  | links + 1, digest, length =>
      let next := Digest.Blake2b.digest 64 digest
      next.take 32 ++ chain links next length

/-- A digest of any length. -/
def longDigest (length : Nat) (message : Bytes) : Bytes :=
  let message := octets4 length ++ message
  if length ≤ 64 then Digest.Blake2b.digest length message
  else
    let links := (length + 31) / 32 - 2
    chain links message (length - 32 * links)

/-- The blocks of one lane. -/
def Parameters.laneLength (parameters : Parameters) : Nat :=
  4 * (parameters.memory / (4 * parameters.lanes))

/-- The blocks of one slice of a lane. -/
def Parameters.segmentLength (parameters : Parameters) : Nat := parameters.laneLength / 4

/-- The digest that all blocks start from. -/
def start (parameters : Parameters) (length : Nat) (password salt : Bytes) : Bytes :=
  Digest.Blake2b.digest 64
    (octets4 parameters.lanes ++ octets4 length ++ octets4 parameters.memory ++
      octets4 parameters.passes ++ octets4 parameters.version ++
      octets4 parameters.variant.number ++ counted password ++ counted salt ++ counted [] ++
      counted parameters.associated)

structure Position where
  pass : Nat
  slice : Nat
  lane : Nat

/-- Whether the blocks of a segment are picked by addresses. -/
def Position.isAddressed (parameters : Parameters) (position : Position) : Bool :=
  match parameters.variant with
  | .dependent => false
  | .independent => true
  | .hybrid => position.pass = 0 && position.slice < 2

/-- The block with the addresses number `count` of a segment, 128 addresses each. -/
def addresses (parameters : Parameters) (position : Position) (count : Nat) : Block :=
  let word (n : Nat) : UInt64 := UInt64.ofNat n
  let blocks := parameters.laneLength * parameters.lanes
  let input : Block := Array.replicate 64 { low := 0, high := 0 }
  let input := input.setIfInBounds 0 { low := word position.pass, high := word position.lane }
  let input := input.setIfInBounds 1 { low := word position.slice, high := word blocks }
  let input := input.setIfInBounds 2
    { low := word parameters.passes, high := word parameters.variant.number }
  let input := input.setIfInBounds 3 { low := word count, high := 0 }
  compress Block.zero (compress Block.zero input)

/-- The word that picks a block, out of a block of addresses. -/
def addressAt (block : Block) (i : Nat) : UInt64 :=
  let pair := block.pair (i / 2)
  if i % 2 = 0 then pair.low else pair.high

/-- The index of the block that `random` picks for block `index` of a segment. -/
def reference (parameters : Parameters) (position : Position) (index : Nat) (random : UInt64) :
    Nat :=
  let laneLength := parameters.laneLength
  let segmentLength := parameters.segmentLength
  let lane :=
    if position.pass = 0 ∧ position.slice = 0 then position.lane
    else (random >>> 32).toNat % parameters.lanes
  let finished :=
    if position.pass = 0 then position.slice * segmentLength else laneLength - segmentLength
  let area :=
    if lane = position.lane then finished + index - 1
    else if index = 0 then finished - 1 else finished
  let low := random &&& 0xFFFFFFFF
  let square := (low * low) >>> 32
  let relative := area - 1 - ((area * square.toNat) >>> 32)
  let first :=
    if position.pass ≠ 0 ∧ position.slice ≠ 3 then (position.slice + 1) * segmentLength else 0
  lane * laneLength + (first + relative) % laneLength

@[inline] def blockAt (memory : Array Block) (i : Nat) : Block := (memory[i]?).getD #[]

/-- Fills `count` blocks of a segment from block `index` on. `table` is the block of addresses for
that block. -/
def fillSegment (parameters : Parameters) (position : Position) :
    (count : Nat) → (index : Nat) → (table : Block) → Array Block → Array Block
  | 0, _, _, memory => memory
  | count + 1, index, table, memory =>
      let laneStart := position.lane * parameters.laneLength
      let column := position.slice * parameters.segmentLength + index
      let current := laneStart + column
      let previous := if column = 0 then laneStart + parameters.laneLength - 1 else current - 1
      let addressed := position.isAddressed parameters
      let table :=
        if addressed ∧ index % 128 = 0 then addresses parameters position (index / 128 + 1)
        else table
      let random :=
        if addressed then addressAt table (index % 128) else ((blockAt memory previous).pair 0).low
      let result := compress (blockAt memory previous)
        (blockAt memory (reference parameters position index random))
      let result :=
        if position.pass = 0 ∨ parameters.version = 16 then result
        else result.xor (blockAt memory current)
      fillSegment parameters position count (index + 1) table
        (memory.setIfInBounds current result)

/-- Fills a segment. The first two blocks of each lane are there from the start. -/
def fill (parameters : Parameters) (memory : Array Block) (position : Position) : Array Block :=
  if position.pass = 0 ∧ position.slice = 0 then
    let table :=
      if position.isAddressed parameters then addresses parameters position 1 else Block.zero
    fillSegment parameters position (parameters.segmentLength - 2) 2 table memory
  else fillSegment parameters position parameters.segmentLength 0 Block.zero memory

/-- The segments in the order in which they are filled. -/
def positions (parameters : Parameters) : List Position :=
  (List.range parameters.passes).flatMap fun pass =>
    (List.range 4).flatMap fun slice =>
      (List.range parameters.lanes).map fun lane => { pass := pass, slice := slice, lane := lane }

/-- The memory with the first two blocks of each lane. -/
def seeded (parameters : Parameters) (digest : Bytes) : Array Block :=
  let empty : Array Block :=
    Array.replicate (parameters.laneLength * parameters.lanes) Block.zero
  (List.range parameters.lanes).foldl
    (fun memory lane =>
      let block (n : Nat) : Block :=
        Block.ofOctets (longDigest 1024 (digest ++ octets4 n ++ octets4 lane))
      (memory.setIfInBounds (lane * parameters.laneLength) (block 0)).setIfInBounds
        (lane * parameters.laneLength + 1) (block 1))
    empty

/-- The hash of a password, `length` octets long. -/
def hash (parameters : Parameters) (length : Nat) (password salt : Bytes) : Bytes :=
  let memory := seeded parameters (start parameters length password salt)
  let memory := (positions parameters).foldl (fill parameters) memory
  let last := (List.range parameters.lanes).foldl
    (fun block lane =>
      block.xor (blockAt memory (lane * parameters.laneLength + parameters.laneLength - 1)))
    Block.zero
  longDigest length last.octets

end SessionServer.Password.Argon2
