import SessionServer.Digest.Blake2b

/-!
Blocks of memory for password hashing: 1024 octets, kept as 64 pairs of words, and how two blocks are
compressed into one.
-/

namespace SessionServer.Password.Argon2

/-- Two neighbouring words of a block. -/
structure Pair where
  low : UInt64
  high : UInt64
  deriving DecidableEq, Inhabited

/-- A block of memory, 64 pairs long. -/
abbrev Block := Array Pair

def Block.zero : Block := Array.replicate 64 { low := 0, high := 0 }

def pairs : List UInt64 → List Pair
  | low :: high :: rest => { low := low, high := high } :: pairs rest
  | _ => []

def Block.ofOctets (octets : Bytes) : Block := (pairs (Digest.Blake2b.words octets)).toArray

def Block.octets (block : Block) : Bytes :=
  block.toList.flatMap fun pair => Digest.Blake2b.octets pair.low ++ Digest.Blake2b.octets pair.high

@[inline] def Block.pair (block : Block) (i : Nat) : Pair :=
  (block[i]?).getD { low := 0, high := 0 }

/-- Adds two words and twice the product of their lower halves. -/
@[inline] def multiplyAdd (x y : UInt64) : UInt64 :=
  x + y + 2 * ((x &&& 0xFFFFFFFF) * (y &&& 0xFFFFFFFF))

/-- Four words that are mixed together. -/
structure Quarter where
  a : UInt64
  b : UInt64
  c : UInt64
  d : UInt64

@[inline] def mix (a b c d : UInt64) : Quarter :=
  let a := multiplyAdd a b
  let d := Digest.Blake2b.rotate (d ^^^ a) 32
  let c := multiplyAdd c d
  let b := Digest.Blake2b.rotate (b ^^^ c) 24
  let a := multiplyAdd a b
  let d := Digest.Blake2b.rotate (d ^^^ a) 16
  let c := multiplyAdd c d
  let b := Digest.Blake2b.rotate (b ^^^ c) 63
  { a := a, b := b, c := c, d := d }

/-- Mixes eight pairs of a block, `stride` apart from `start` on. -/
def permute (block : Block) (start stride : Nat) : Block :=
  let p0 := block.pair start
  let p1 := block.pair (start + stride)
  let p2 := block.pair (start + 2 * stride)
  let p3 := block.pair (start + 3 * stride)
  let p4 := block.pair (start + 4 * stride)
  let p5 := block.pair (start + 5 * stride)
  let p6 := block.pair (start + 6 * stride)
  let p7 := block.pair (start + 7 * stride)
  let c0 := mix p0.low p2.low p4.low p6.low
  let c1 := mix p0.high p2.high p4.high p6.high
  let c2 := mix p1.low p3.low p5.low p7.low
  let c3 := mix p1.high p3.high p5.high p7.high
  let d0 := mix c0.a c1.b c2.c c3.d
  let d1 := mix c1.a c2.b c3.c c0.d
  let d2 := mix c2.a c3.b c0.c c1.d
  let d3 := mix c3.a c0.b c1.c c2.d
  let block := block.setIfInBounds start { low := d0.a, high := d1.a }
  let block := block.setIfInBounds (start + stride) { low := d2.a, high := d3.a }
  let block := block.setIfInBounds (start + 2 * stride) { low := d3.b, high := d0.b }
  let block := block.setIfInBounds (start + 3 * stride) { low := d1.b, high := d2.b }
  let block := block.setIfInBounds (start + 4 * stride) { low := d2.c, high := d3.c }
  let block := block.setIfInBounds (start + 5 * stride) { low := d0.c, high := d1.c }
  let block := block.setIfInBounds (start + 6 * stride) { low := d1.d, high := d2.d }
  block.setIfInBounds (start + 7 * stride) { low := d3.d, high := d0.d }

def Block.xor (first second : Block) : Block :=
  first.mapIdx fun i pair =>
    let other := second.pair i
    { low := pair.low ^^^ other.low, high := pair.high ^^^ other.high }

/-- Compresses two blocks into one: the rows and then the columns of their exclusive or are mixed,
and the exclusive or is mixed in once more. -/
def compress (first second : Block) : Block :=
  let both := first.xor second
  let rows := permute (permute (permute (permute (permute (permute (permute (permute both
    0 1) 8 1) 16 1) 24 1) 32 1) 40 1) 48 1) 56 1
  let columns := permute (permute (permute (permute (permute (permute (permute (permute rows
    0 8) 1 8) 2 8) 3 8) 4 8) 5 8) 6 8) 7 8
  columns.xor both

end SessionServer.Password.Argon2
