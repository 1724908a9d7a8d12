import SessionServer.Text.Utf8

/-!
BLAKE2b without a key: a digest of one to 64 octets. Words are 64 bits wide and stored least
significant octet first.
-/

namespace SessionServer.Digest.Blake2b

/-- The initial chaining value, before the length of the digest is mixed in. -/
def initial : Array UInt64 :=
  #[0x6a09e667f3bcc908, 0xbb67ae8584caa73b, 0x3c6ef372fe94f82b, 0xa54ff53a5f1d36f1,
    0x510e527fade682d1, 0x9b05688c2b3e6c1f, 0x1f83d9abfb41bd6b, 0x5be0cd19137e2179]

/-- In which order each round uses the words of a block. -/
def schedule : List (List Nat) :=
  [[0, 1, 2, 3, 4, 5, 6, 7, 8, 9, 10, 11, 12, 13, 14, 15],
    [14, 10, 4, 8, 9, 15, 13, 6, 1, 12, 0, 2, 11, 7, 5, 3],
    [11, 8, 12, 0, 5, 2, 15, 13, 10, 14, 3, 6, 7, 1, 9, 4],
    [7, 9, 3, 1, 13, 12, 11, 14, 2, 6, 5, 10, 4, 0, 15, 8],
    [9, 0, 5, 7, 2, 4, 10, 15, 14, 1, 11, 12, 6, 8, 3, 13],
    [2, 12, 6, 10, 0, 11, 8, 3, 4, 13, 7, 5, 15, 14, 1, 9],
    [12, 5, 1, 15, 14, 13, 4, 10, 0, 7, 6, 3, 9, 2, 8, 11],
    [13, 11, 7, 14, 12, 1, 3, 9, 5, 0, 15, 4, 8, 6, 2, 10],
    [6, 15, 14, 9, 11, 3, 0, 8, 12, 2, 13, 7, 1, 4, 10, 5],
    [10, 2, 8, 4, 7, 6, 1, 5, 15, 11, 9, 14, 3, 12, 13, 0],
    [0, 1, 2, 3, 4, 5, 6, 7, 8, 9, 10, 11, 12, 13, 14, 15],
    [14, 10, 4, 8, 9, 15, 13, 6, 1, 12, 0, 2, 11, 7, 5, 3]]

/-- The columns and then the diagonals of the working state. -/
def quarters : List (Nat × Nat × Nat × Nat) :=
  [(0, 4, 8, 12), (1, 5, 9, 13), (2, 6, 10, 14), (3, 7, 11, 15),
    (0, 5, 10, 15), (1, 6, 11, 12), (2, 7, 8, 13), (3, 4, 9, 14)]

/-- `word` rotated right by `n` bits, for `n` between 1 and 63. -/
@[inline] def rotate (word : UInt64) (n : UInt64) : UInt64 := (word >>> n) ||| (word <<< (64 - n))

def at? (state : Array UInt64) (i : Nat) : UInt64 := (state[i]?).getD 0

/-- Mixes two words of the block into four words of the working state. -/
def mix (state : Array UInt64) (at4 : Nat × Nat × Nat × Nat) (x y : UInt64) : Array UInt64 :=
  let (i, j, k, l) := at4
  let a := at? state i + at? state j + x
  let d := rotate (at? state l ^^^ a) 32
  let c := at? state k + d
  let b := rotate (at? state j ^^^ c) 24
  let a := a + b + y
  let d := rotate (d ^^^ a) 16
  let c := c + d
  let b := rotate (b ^^^ c) 63
  (((state.setIfInBounds i a).setIfInBounds j b).setIfInBounds k c).setIfInBounds l d

/-- The words of octets, eight octets each. -/
def words : Bytes → List UInt64
  | a :: b :: c :: d :: e :: f :: g :: h :: rest =>
      (a.toUInt64 ||| (b.toUInt64 <<< 8) ||| (c.toUInt64 <<< 16) ||| (d.toUInt64 <<< 24) |||
        (e.toUInt64 <<< 32) ||| (f.toUInt64 <<< 40) ||| (g.toUInt64 <<< 48) |||
        (h.toUInt64 <<< 56)) :: words rest
  | _ => []

def octets (word : UInt64) : Bytes :=
  [word.toUInt8, (word >>> 8).toUInt8, (word >>> 16).toUInt8, (word >>> 24).toUInt8,
    (word >>> 32).toUInt8, (word >>> 40).toUInt8, (word >>> 48).toUInt8, (word >>> 56).toUInt8]

/-- One round: each quarter takes the next two words of the block in the round's order. -/
def round (block : Array UInt64) (state : Array UInt64) (order : List Nat) : Array UInt64 :=
  (quarters.zipIdx).foldl
    (fun state (at4, n) =>
      let pick (i : Nat) : UInt64 := at? block ((order[i]?).getD 0)
      mix state at4 (pick (2 * n)) (pick (2 * n + 1)))
    state

/-- The chaining value after a block; `count` octets of the message have been taken up with it. -/
def compress (chain : Array UInt64) (block : Bytes) (count : Nat) (last : Bool) : Array UInt64 :=
  let blockWords := (words block).toArray
  let low := UInt64.ofNat count
  let high := UInt64.ofNat (count >>> 64)
  let second := (initial.modify 4 (· ^^^ low)).modify 5 (· ^^^ high)
  let second := if last then second.modify 6 (fun word => ~~~word) else second
  let state := schedule.foldl (round blockWords) (chain ++ second)
  Array.ofFn fun i : Fin 8 => at? chain i ^^^ at? state i ^^^ at? state (i + 8)

/-- Mixes in the rest of a message, all blocks but the last one whole; `fuel` bounds their number. -/
def absorb : (fuel : Nat) → Array UInt64 → Bytes → (count : Nat) → Array UInt64
  | 0, chain, _, _ => chain
  | fuel + 1, chain, bytes, count =>
      let block := bytes.take 128
      let rest := bytes.drop 128
      let count := count + block.length
      if rest.isEmpty then
        compress chain (block ++ List.replicate (128 - block.length) 0) count true
      else absorb fuel (compress chain block count false) rest count

def digest (length : Nat) (message : Bytes) : Bytes :=
  let chain := initial.modify 0 (· ^^^ 0x01010000 ^^^ UInt64.ofNat length)
  let final := absorb (message.length / 128 + 1) chain message 0
  (final.toList.flatMap octets).take length

end SessionServer.Digest.Blake2b
