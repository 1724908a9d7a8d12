import SessionServer.Json.Lexeme

/-!
Passing over a value that nobody asked for. Its grammar is checked, its depth is not limited, and
neither the size of its numbers nor the characters of its texts matter.
-/

namespace SessionServer.Json

inductive Enclosure where
  | list
  | object
  deriving DecidableEq, Repr

def Enclosure.close : Enclosure → UInt8
  | .list => 0x5D
  | .object => 0x7D

/-- The fault of a text that ends inside it. -/
def Enclosure.unclosed : Enclosure → Cause
  | .list => .unclosedList
  | .object => .unclosedObject

/-- The fault of a value in it that neither a comma nor the end follows. -/
def Enclosure.unended : Enclosure → Cause
  | .list => .expectedListEnd
  | .object => .expectedObjectEnd

def skipExponent (bytes : Bytes) : Except Fault Bytes :=
  let rest := match bytes with
    | 0x2B :: rest => rest
    | 0x2D :: rest => rest
    | _ => bytes
  match rest with
  | [] => refuse .invalidNumber []
  | b :: rest => if isDigit b then .ok (skipDigits rest 0).2 else refuse .invalidNumber rest

/-- Passes over what may follow the digits before a point. -/
def skipAfterWhole (bytes : Bytes) : Except Fault Bytes :=
  match bytes with
  | [] => .ok []
  | b :: rest =>
      if b = 0x2E then
        let (count, rest) := skipDigits rest 0
        if count = 0 then refuseNext .invalidNumber rest
        else
          match rest with
          | c :: more => if isExponentMark c then skipExponent more else .ok rest
          | [] => .ok []
      else if isExponentMark b then skipExponent rest
      else .ok bytes

def skipNumber (bytes : Bytes) : Except Fault Bytes :=
  match bytes with
  | [] => refuse .invalidNumber []
  | b :: rest =>
      if b = 0x30 then
        match rest with
        | next :: _ => if isDigit next then refuseNext .invalidNumber rest else skipAfterWhole rest
        | [] => .ok []
      else if isDigit b then skipAfterWhole (skipDigits rest 0).2
      else refuse .invalidNumber rest

/-- Passes over a value without parts, or tells what the value encloses. -/
def skipOpening (bytes : Bytes) : Except Fault (Option Enclosure × Bytes) :=
  let plain (result : Except Fault Bytes) : Except Fault (Option Enclosure × Bytes) :=
    match result with
    | .ok rest => .ok (none, rest)
    | .error fault => .error fault
  match bytes with
  | [] => refuseNext .missingValue []
  | b :: rest =>
      if b = 0x6E then plain (word [0x75, 0x6C, 0x6C] rest)
      else if b = 0x74 then plain (word [0x72, 0x75, 0x65] rest)
      else if b = 0x66 then plain (word [0x61, 0x6C, 0x73, 0x65] rest)
      else if b = 0x2D then plain (skipNumber rest)
      else if isDigit b then plain (skipNumber bytes)
      else if b = 0x22 then plain (skipText rest)
      else if b = 0x5B then .ok (some .list, rest)
      else if b = 0x7B then .ok (some .object, rest)
      else refuseNext .expectedValue bytes

/-- Passes over the key and the colon of an object's next member. -/
def skipKey (bytes : Bytes) : Except Fault Bytes :=
  match skipBlanks bytes with
  | [] => refuseNext .unclosedObject []
  | b :: rest =>
      if b ≠ 0x22 then refuseNext .keyNotText (b :: rest)
      else
        match skipText rest with
        | .error fault => .error fault
        | .ok rest =>
            match skipBlanks rest with
            | [] => refuseNext .unclosedObject []
            | b :: rest => if b = 0x3A then .ok rest else refuseNext .expectedColon (b :: rest)

/-- What stands next: a value within `within`, which is next itself behind its key, or the end of
the outermost value. -/
inductive Next where
  | value (within : List Enclosure)
  | done

/-- Passes over the ends of enclosures, up to where the next value stands or the last enclosure has
ended. `comma` tells whether a value stood before, so that a comma may follow. -/
def skipEnds : List Enclosure → (comma : Bool) → Bytes → Except Fault (Next × Bytes)
  | [], _, bytes => .ok (.done, bytes)
  | inner :: outer, comma, bytes =>
      match skipBlanks bytes with
      | [] => refuseNext inner.unclosed []
      | b :: rest =>
          if b = 0x2C ∧ comma then .ok (.value (inner :: outer), rest)
          else if b = inner.close then skipEnds outer true rest
          else if comma then refuseNext inner.unended (b :: rest)
          else .ok (.value (inner :: outer), b :: rest)

/-- Passes over a value within `within` and over all that follows it up to the end of the outermost
enclosure. Each step passes over an octet at least, so `fuel` is the length of the text. -/
def skipWithin : (fuel : Nat) → (within : List Enclosure) → Bytes → Except Fault Bytes
  | 0, _, bytes => refuseNext .missingValue bytes
  | fuel + 1, within, bytes =>
      match skipOpening (skipBlanks bytes) with
      | .error fault => .error fault
      | .ok (opened, rest) =>
          let (within, comma) := match opened with
            | some enclosure => (enclosure :: within, false)
            | none => (within, true)
          match skipEnds within comma rest with
          | .error fault => .error fault
          | .ok (.done, rest) => .ok rest
          | .ok (.value (.object :: outer), rest) =>
              match skipKey rest with
              | .error fault => .error fault
              | .ok rest => skipWithin fuel (.object :: outer) rest
          | .ok (.value within, rest) => skipWithin fuel within rest

def skipValue (bytes : Bytes) : Except Fault Bytes := skipWithin (bytes.length + 1) [] bytes

end SessionServer.Json
