import SessionServer.Text.Utf8

/-!
SHA-256. Words are 32 bits wide and stored most significant octet first; a message is followed by a
one bit, zeros, and its length in bits, and then mixed in block by block.
-/

namespace SessionServer.Digest.Sha256

/-- The eight words of the chaining value. -/
structure State where
  a : UInt32
  b : UInt32
  c : UInt32
  d : UInt32
  e : UInt32
  f : UInt32
  g : UInt32
  h : UInt32

/-- The chaining value before the first block. -/
def State.initial : State :=
  { a := 0x6a09e667, b := 0xbb67ae85, c := 0x3c6ef372, d := 0xa54ff53a
    e := 0x510e527f, f := 0x9b05688c, g := 0x1f83d9ab, h := 0x5be0cd19 }

/-- The word that each round adds. -/
def roundConstants : List UInt32 :=
  [0x428a2f98, 0x71374491, 0xb5c0fbcf, 0xe9b5dba5, 0x3956c25b, 0x59f111f1, 0x923f82a4, 0xab1c5ed5,
    0xd807aa98, 0x12835b01, 0x243185be, 0x550c7dc3, 0x72be5d74, 0x80deb1fe, 0x9bdc06a7, 0xc19bf174,
    0xe49b69c1, 0xefbe4786, 0x0fc19dc6, 0x240ca1cc, 0x2de92c6f, 0x4a7484aa, 0x5cb0a9dc, 0x76f988da,
    0x983e5152, 0xa831c66d, 0xb00327c8, 0xbf597fc7, 0xc6e00bf3, 0xd5a79147, 0x06ca6351, 0x14292967,
    0x27b70a85, 0x2e1b2138, 0x4d2c6dfc, 0x53380d13, 0x650a7354, 0x766a0abb, 0x81c2c92e, 0x92722c85,
    0xa2bfe8a1, 0xa81a664b, 0xc24b8b70, 0xc76c51a3, 0xd192e819, 0xd6990624, 0xf40e3585, 0x106aa070,
    0x19a4c116, 0x1e376c08, 0x2748774c, 0x34b0bcb5, 0x391c0cb3, 0x4ed8aa4a, 0x5b9cca4f, 0x682e6ff3,
    0x748f82ee, 0x78a5636f, 0x84c87814, 0x8cc70208, 0x90befffa, 0xa4506ceb, 0xbef9a3f7, 0xc67178f2]

/-- `word` rotated right by `n` bits, for `n` between 1 and 31. -/
def rotate (word : UInt32) (n : UInt32) : UInt32 := (word >>> n) ||| (word <<< (32 - n))

/-- The word of four octets, most significant first. -/
def word (a b c d : UInt8) : UInt32 :=
  (a.toUInt32 <<< 24) ||| (b.toUInt32 <<< 16) ||| (c.toUInt32 <<< 8) ||| d.toUInt32

def words : Bytes → List UInt32
  | a :: b :: c :: d :: rest => word a b c d :: words rest
  | _ => []

/-- The octets of a word, most significant first. -/
def octets (word : UInt32) : Bytes :=
  [(word >>> 24).toUInt8, (word >>> 16).toUInt8, (word >>> 8).toUInt8, word.toUInt8]

/-- One more word of the message schedule, from the sixteen before it. -/
def extend (schedule : Array UInt32) : Array UInt32 :=
  let at' (back : Nat) : UInt32 := schedule[schedule.size - back]?.getD 0
  let x := at' 15
  let y := at' 2
  let s0 := rotate x 7 ^^^ rotate x 18 ^^^ (x >>> 3)
  let s1 := rotate y 17 ^^^ rotate y 19 ^^^ (y >>> 10)
  schedule.push (at' 16 + s0 + at' 7 + s1)

/-- The 64 words that the rounds over a block use. -/
def schedule (block : Bytes) : List UInt32 :=
  ((List.range 48).foldl (fun schedule _ => extend schedule) (words block).toArray).toList

/-- One round, with its constant and its word of the schedule. -/
def round (state : State) (constant scheduled : UInt32) : State :=
  let s1 := rotate state.e 6 ^^^ rotate state.e 11 ^^^ rotate state.e 25
  let choice := (state.e &&& state.f) ^^^ (~~~state.e &&& state.g)
  let t1 := state.h + s1 + choice + constant + scheduled
  let s0 := rotate state.a 2 ^^^ rotate state.a 13 ^^^ rotate state.a 22
  let majority := (state.a &&& state.b) ^^^ (state.a &&& state.c) ^^^ (state.b &&& state.c)
  { a := t1 + (s0 + majority), b := state.a, c := state.b, d := state.c
    e := state.d + t1, f := state.e, g := state.f, h := state.g }

def compress (state : State) (block : Bytes) : State :=
  let mixed := (roundConstants.zip (schedule block)).foldl
    (fun state pair => round state pair.1 pair.2) state
  { a := state.a + mixed.a, b := state.b + mixed.b, c := state.c + mixed.c, d := state.d + mixed.d
    e := state.e + mixed.e, f := state.f + mixed.f, g := state.g + mixed.g, h := state.h + mixed.h }

/-- The message with its end mark, filled up to whole blocks. -/
def padded (message : Bytes) : Bytes :=
  let bits := 8 * message.length
  let zeros := (119 - message.length % 64) % 64
  message ++ 0x80 :: List.replicate zeros 0 ++
    (List.range 8).map fun i => UInt8.ofNat (bits / Nat.pow 256 (7 - i))

/-- Mixes in `count` blocks. -/
def absorb : Nat → State → Bytes → State
  | 0, state, _ => state
  | count + 1, state, bytes => absorb count (compress state (bytes.take 64)) (bytes.drop 64)

/-- The 32 octets of the digest. -/
def digest (message : Bytes) : Bytes :=
  let bytes := padded message
  let state := absorb (bytes.length / 64) State.initial bytes
  octets state.a ++ octets state.b ++ octets state.c ++ octets state.d ++
    octets state.e ++ octets state.f ++ octets state.g ++ octets state.h

theorem digest_length (message : Bytes) : (digest message).length = 32 := by
  simp [digest, octets]

end SessionServer.Digest.Sha256
