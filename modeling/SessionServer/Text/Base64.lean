import SessionServer.Text.Utf8

/-!
Base 64 without padding, in either alphabet. Reading is strict: no padding, no other character, and
the bits of the last digit that no octet uses are zero. So each octet sequence has one text.
-/

namespace SessionServer.Text.Base64

/-- Which two characters stand for the digits 62 and 63. -/
inductive Alphabet where
  /-- The characters plus and slash. -/
  | standard
  /-- The characters hyphen and underscore. -/
  | url
  deriving DecidableEq, Repr

/-- The characters for the digits 62 and 63. -/
def Alphabet.last : Alphabet → Char × Char
  | .standard => ('+', '/')
  | .url => ('-', '_')

def digit (alphabet : Alphabet) (n : Nat) : Char :=
  if n < 26 then Char.ofNat (65 + n)
  else if n < 52 then Char.ofNat (71 + n)
  else if n < 62 then Char.ofNat (n - 4)
  else if n = 62 then alphabet.last.1
  else alphabet.last.2

def value? (alphabet : Alphabet) (c : Char) : Option Nat :=
  if 'A' ≤ c ∧ c ≤ 'Z' then some (c.toNat - 65)
  else if 'a' ≤ c ∧ c ≤ 'z' then some (c.toNat - 71)
  else if '0' ≤ c ∧ c ≤ '9' then some (c.toNat + 4)
  else if c = alphabet.last.1 then some 62
  else if c = alphabet.last.2 then some 63
  else none

/-- Four digits for three octets; two for a last one, three for a last two. -/
def encode (alphabet : Alphabet) : Bytes → List Char
  | [] => []
  | [a] => [digit alphabet (a.toNat / 4), digit alphabet (a.toNat % 4 * 16)]
  | [a, b] =>
      [digit alphabet (a.toNat / 4), digit alphabet (a.toNat % 4 * 16 + b.toNat / 16),
        digit alphabet (b.toNat % 16 * 4)]
  | a :: b :: c :: rest =>
      digit alphabet (a.toNat / 4) :: digit alphabet (a.toNat % 4 * 16 + b.toNat / 16) ::
        digit alphabet (b.toNat % 16 * 4 + c.toNat / 64) :: digit alphabet (c.toNat % 64) ::
          encode alphabet rest

/-- Reads a text that `encode` can have written. -/
def decode (alphabet : Alphabet) : List Char → Option Bytes
  | [] => some []
  | [_] => none
  | [p, q] => do
      let x ← value? alphabet p
      let y ← value? alphabet q
      if y % 16 = 0 then return [UInt8.ofNat (x * 4 + y / 16)] else none
  | [p, q, r] => do
      let x ← value? alphabet p
      let y ← value? alphabet q
      let z ← value? alphabet r
      if z % 4 = 0 then
        return [UInt8.ofNat (x * 4 + y / 16), UInt8.ofNat (y % 16 * 16 + z / 4)]
      else none
  | p :: q :: r :: s :: rest => do
      let x ← value? alphabet p
      let y ← value? alphabet q
      let z ← value? alphabet r
      let w ← value? alphabet s
      let bytes ← decode alphabet rest
      return UInt8.ofNat (x * 4 + y / 16) :: UInt8.ofNat (y % 16 * 16 + z / 4) ::
        UInt8.ofNat (z % 4 * 64 + w) :: bytes

end SessionServer.Text.Base64
