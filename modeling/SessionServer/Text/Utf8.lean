/-!
UTF-8. `encode` writes characters as octets, `decode` accepts exactly the well-formed octet
sequences: no overlong forms, no surrogates, nothing past U+10FFFF.
-/

namespace SessionServer

abbrev Bytes := List UInt8

namespace Utf8

def encodeChar (c : Char) : Bytes :=
  let n := c.toNat
  if n < 0x80 then [UInt8.ofNat n]
  else if n < 0x800 then [UInt8.ofNat (0xC0 + n / 0x40), UInt8.ofNat (0x80 + n % 0x40)]
  else if n < 0x10000 then
    [UInt8.ofNat (0xE0 + n / 0x1000), UInt8.ofNat (0x80 + n / 0x40 % 0x40),
      UInt8.ofNat (0x80 + n % 0x40)]
  else
    [UInt8.ofNat (0xF0 + n / 0x40000), UInt8.ofNat (0x80 + n / 0x1000 % 0x40),
      UInt8.ofNat (0x80 + n / 0x40 % 0x40), UInt8.ofNat (0x80 + n % 0x40)]

def encode (chars : List Char) : Bytes := chars.flatMap encodeChar

/-- The value of a continuation octet, if `b` is one. -/
def continuation? (b : UInt8) : Option Nat :=
  if 0x80 ≤ b.toNat ∧ b.toNat < 0xC0 then some (b.toNat - 0x80) else none

/-- Reads one character off the front: the character and how many octets after the first it took,
or nothing if the octets start with no character. -/
def decodeChar (first : UInt8) (rest : Bytes) : Option (Char × Nat) :=
  let lead := first.toNat
  if lead < 0x80 then some (Char.ofNat lead, 0)
  else if lead < 0xC2 then none
  else if lead < 0xE0 then
    match rest.take 1 with
    | [b] => do
        let x ← continuation? b
        return (Char.ofNat ((lead - 0xC0) * 0x40 + x), 1)
    | _ => none
  else if lead < 0xF0 then
    match rest.take 2 with
    | [b, c] => do
        let x ← continuation? b
        let y ← continuation? c
        let n := (lead - 0xE0) * 0x1000 + x * 0x40 + y
        if 0x800 ≤ n ∧ ¬ (0xD800 ≤ n ∧ n < 0xE000) then return (Char.ofNat n, 2) else none
    | _ => none
  else if lead < 0xF5 then
    match rest.take 3 with
    | [b, c, d] => do
        let x ← continuation? b
        let y ← continuation? c
        let z ← continuation? d
        let n := (lead - 0xF0) * 0x40000 + x * 0x1000 + y * 0x40 + z
        if 0x10000 ≤ n ∧ n < 0x110000 then return (Char.ofNat n, 3) else none
    | _ => none
  else none

/-- Reads characters in front of `read`, newest first, until the octets end or stop being UTF-8.
`skip` counts the octets that belong to the character read last; `taken` the octets of whole
characters. -/
def scan : Bytes → (skip taken : Nat) → (read : List Char) → List Char × Nat × Bool
  | [], skip, taken, read => (read, taken, skip = 0)
  | b :: rest, 0, taken, read =>
      match decodeChar b rest with
      | some (c, more) => scan rest more (taken + 1 + more) (c :: read)
      | none => (read, taken, false)
  | _ :: rest, skip + 1, taken, read => scan rest skip taken read

/-- The text that `bytes` encode, if they are UTF-8. -/
def decode (bytes : Bytes) : Option (List Char) :=
  match scan bytes 0 0 [] with
  | (read, _, true) => some read.reverse
  | (_, _, false) => none

/-- How many octets at the start of `bytes` are whole characters. -/
def validLength (bytes : Bytes) : Nat := (scan bytes 0 0 []).2.1

def ofString (text : String) : Bytes := encode text.toList

/-- The string that `bytes` encode, if they are UTF-8. -/
def toString? (bytes : Bytes) : Option String := (decode bytes).map String.ofList

/-- How many octets make up the malformed sequence that starts with `first`, or nothing if the octets
end inside a sequence that was well formed so far. -/
def malformedLength? (first : UInt8) (rest : Bytes) : Option Nat :=
  let within (low high : UInt8) (b : UInt8) : Bool := low ≤ b && b ≤ high
  let follow (expected : List (UInt8 → Bool)) : Option Nat :=
    let good := ((rest.zip expected).takeWhile fun pair => pair.2 pair.1).length
    if good = rest.length ∧ good < expected.length then none else some (good + 1)
  let more := within 0x80 0xBF
  if within 0xC2 0xDF first then follow [more]
  else if first = 0xE0 then follow [within 0xA0 0xBF, more]
  else if first = 0xED then follow [within 0x80 0x9F, more]
  else if within 0xE1 0xEF first then follow [more, more]
  else if first = 0xF0 then follow [within 0x90 0xBF, more, more]
  else if within 0xF1 0xF3 first then follow [more, more, more]
  else if first = 0xF4 then follow [within 0x80 0x8F, more, more]
  else some 1

/-- Reads every octet: each malformed sequence becomes one replacement character. `skip` counts the
octets that belong to what was read last. -/
def replacing : Bytes → (skip : Nat) → List Char
  | [], _ => []
  | _ :: rest, skip + 1 => replacing rest skip
  | b :: rest, 0 =>
      match decodeChar b rest with
      | some (c, more) => c :: replacing rest more
      | none =>
          match malformedLength? b rest with
          | some length => '\uFFFD' :: replacing rest (length - 1)
          | none => ['\uFFFD']

/-- The text of the octets, with a replacement character for each malformed sequence. -/
def decodeLossy (bytes : Bytes) : List Char := replacing bytes 0

structure Malformed where
  /-- How many octets before it are well formed. -/
  index : Nat
  /-- How many octets it takes, unless it is cut off by the end. -/
  length? : Option Nat
  deriving DecidableEq, Repr

def malformed? (bytes : Bytes) : Option Malformed :=
  let index := validLength bytes
  match bytes.drop index with
  | [] => none
  | b :: rest => some { index := index, length? := malformedLength? b rest }

theorem encode_append (first second : List Char) :
    encode (first ++ second) = encode first ++ encode second := by
  simp [encode]

end Utf8

end SessionServer
