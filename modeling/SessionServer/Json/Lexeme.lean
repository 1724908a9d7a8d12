import SessionServer.Json.Number
import SessionServer.Text.Hex

/-!
The smallest parts of a JSON text: blanks, words and quoted text. Quoted text is read to its closing
quote first; octets in it that are not UTF-8 are refused after that.
-/

namespace SessionServer.Json

def isBlank (b : UInt8) : Bool := b = 0x20 || b = 0x0A || b = 0x09 || b = 0x0D

def skipBlanks : Bytes → Bytes
  | [] => []
  | b :: rest => if isBlank b then skipBlanks rest else b :: rest

def word : (expected : Bytes) → Bytes → Except Fault Bytes
  | [], bytes => .ok bytes
  | _ :: _, [] => refuse .missingValue []
  | e :: expected, b :: rest => if b = e then word expected rest else refuse .expectedWord rest

def hex? (bytes : Bytes) : Except Fault Nat :=
  match bytes with
  | a :: b :: c :: d :: rest =>
      let value (octet : UInt8) := Text.Hex.value? (Char.ofNat octet.toNat)
      match value a, value b, value c, value d with
      | some w, some x, some y, some z => .ok (w * 0x1000 + x * 0x100 + y * 0x10 + z)
      | _, _, _, _ => refuse .invalidEscape rest
  | _ => refuse .unclosedText []

/-- The character that a letter behind a backslash stands for. -/
def shortEscape? (b : UInt8) : Option Char :=
  if b = 0x22 then some '"'
  else if b = 0x5C then some '\\'
  else if b = 0x2F then some '/'
  else if b = 0x62 then some '\x08'
  else if b = 0x66 then some '\x0C'
  else if b = 0x6E then some '\n'
  else if b = 0x72 then some '\r'
  else if b = 0x74 then some '\t'
  else none

/-- Whether a number is the first half of a surrogate pair. -/
def isHighSurrogate (n : Nat) : Bool := 0xD800 ≤ n && n < 0xDC00

/-- Whether a number is the second half of a surrogate pair. -/
def isLowSurrogate (n : Nat) : Bool := 0xDC00 ≤ n && n < 0xE000

/-- The character of an escape with hexadecimal digits, which stand at the front, and how many octets
it takes. A character past U+FFFF is written as two escapes. -/
def hexEscape (bytes : Bytes) : Except Fault (Char × Nat) := do
  let high ← hex? bytes
  let rest := bytes.drop 4
  if isLowSurrogate high then refuse .unpairedSurrogate rest
  else if !isHighSurrogate high then return (Char.ofNat high, 4)
  else
    match rest with
    | [] => refuse .unclosedText []
    | [b] => if b = 0x5C then refuse .unclosedText [] else refuse .unfinishedPair []
    | b :: c :: more =>
        if b ≠ 0x5C then refuse .unfinishedPair (c :: more)
        else if c ≠ 0x75 then refuse .unfinishedPair more
        else
          let low ← hex? more
          if isLowSurrogate low then
            return (Char.ofNat (0x10000 + (high - 0xD800) * 0x400 + (low - 0xDC00)), 10)
          else refuse .unpairedSurrogate (more.drop 4)

/-- The character of the escape behind a backslash, and how many octets the escape takes. -/
def escape (bytes : Bytes) : Except Fault (Char × Nat) :=
  match bytes with
  | [] => refuse .unclosedText []
  | b :: rest =>
      match shortEscape? b with
      | some c => .ok (c, 1)
      | none =>
          if b = 0x75 then
            match hexEscape rest with
            | .ok (c, length) => .ok (c, length + 1)
            | .error fault => .error fault
          else refuse .invalidEscape rest

/-- Reads text up to its closing quote in front of `read`, newest first. `skip` counts the octets
that belong to the character read last, and `tainted` the octets of the text as it is read, from the
first one on that is not UTF-8. A refusal because of those speaks of the octet that lies so many
before the end. -/
def textFrom : Bytes → (skip : Nat) → (read : List Char) → (tainted : Nat) →
    Except Fault (List Char × Bytes)
  | [], _, _, _ => refuse .unclosedText []
  | _ :: rest, skip + 1, read, tainted => textFrom rest skip read tainted
  | b :: rest, 0, read, tainted =>
      let more (c : Char) := if tainted = 0 then 0 else tainted + c.utf8Size
      if b = 0x22 then
        if tainted = 0 then .ok (read.reverse, rest) else refuseBehind .invalidText tainted rest
      else if b = 0x5C then
        match escape rest with
        | .ok (c, length) => textFrom rest length (c :: read) (more c)
        | .error fault => .error fault
      else if b < 0x20 then refuse .controlCharacter rest
      else
        match Utf8.decodeChar b rest with
        | some (c, length) => textFrom rest length (c :: read) (more c)
        | none => textFrom rest 0 read (tainted + 1)

def quoted : Reader (List Char) := fun bytes => textFrom bytes 0 [] 0

/-- How many octets the escape behind a backslash takes, whichever character it stands for. -/
def escapeLength (bytes : Bytes) : Except Fault Nat :=
  match bytes with
  | [] => refuse .unclosedText []
  | b :: rest =>
      if (shortEscape? b).isSome then .ok 1
      else if b = 0x75 then
        match hex? rest with
        | .ok _ => .ok 5
        | .error fault => .error fault
      else refuse .invalidEscape rest

/-- Passes over text up to its closing quote without asking which characters it holds. -/
def skipTextFrom : Bytes → (skip : Nat) → Except Fault Bytes
  | [], _ => refuse .unclosedText []
  | _ :: rest, skip + 1 => skipTextFrom rest skip
  | b :: rest, 0 =>
      if b = 0x22 then .ok rest
      else if b = 0x5C then
        match escapeLength rest with
        | .ok length => skipTextFrom rest length
        | .error fault => .error fault
      else if b < 0x20 then refuse .controlCharacter (b :: rest)
      else skipTextFrom rest 0

def skipText (bytes : Bytes) : Except Fault Bytes := skipTextFrom bytes 0

end SessionServer.Json
