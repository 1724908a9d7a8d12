import SessionServer.Json.Fault
import SessionServer.Text.Shortest

/-!
Numbers in JSON. A number without fraction and exponent that fits a 64-bit word is exact; every
other one is the double that its significant digits and its power of ten make.
-/

namespace SessionServer.Json

inductive Number where
  | natural (value : Nat)
  | negative (value : Int)
  | double (value : Float)

/-- How doubles are written: positionally between `1e-5` and `1e16`. -/
def doubleStyle : Text.Shortest.Style := { least := -5, greatest := 16 }

def doubleText (value : Float) : String :=
  let bits := value.toBits.toNat
  let magnitude := bits % (1 <<< 63)
  let sign := if magnitude < bits then ['-'] else []
  let shortest := Text.Shortest.ofBits magnitude
  let text := if magnitude = 0 then ['0', '.', '0']
    else Text.Shortest.write doubleStyle shortest.1 shortest.2
  String.ofList (sign ++ text)

/-- A number as a value that was found in the wrong place. -/
def Number.found : Number → Found
  | .natural value => .integer value
  | .negative value => .integer value
  | .double value => .double (doubleText value)

def isDigit (b : UInt8) : Bool := 0x30 ≤ b && b ≤ 0x39

def digitValue (b : UInt8) : Nat := b.toNat - 0x30

def isExponentMark (b : UInt8) : Bool := b = 0x65 || b = 0x45

/-- The digits at the front that can be appended to `value` within a 64-bit word: the resulting
value, how many there were, and what remains. -/
def takeDigits : Bytes → (value count : Nat) → Nat × Nat × Bytes
  | [], value, count => (value, count, [])
  | b :: rest, value, count =>
      if isDigit b && 10 * value + digitValue b ≤ Text.Decimal.maxWord then
        takeDigits rest (10 * value + digitValue b) (count + 1)
      else (value, count, b :: rest)

/-- How many digits stand at the front, and what follows them. -/
def skipDigits : Bytes → (count : Nat) → Nat × Bytes
  | [], count => (count, [])
  | b :: rest, count => if isDigit b then skipDigits rest (count + 1) else (count, b :: rest)

/-- Ten to the power `n`, rounded once, for `n` up to 308. -/
def powerOfTen (n : Nat) : Float := Float.ofScientific 1 false n

/-- `value · 10 ^ exponent`, one rounding a step; nothing if it is past all doubles. -/
def scale : (steps : Nat) → Float → (exponent : Int) → Option Float
  | 0, value, _ => some value
  | steps + 1, value, exponent =>
      if exponent.natAbs ≤ 308 then
        if 0 ≤ exponent then
          let scaled := value * powerOfTen exponent.natAbs
          if scaled.isInf then none else some scaled
        else some (value / powerOfTen exponent.natAbs)
      else if value == 0.0 then some value
      else if 0 ≤ exponent then none
      else scale steps (value / powerOfTen 308) (exponent + 308)

/-- The double with these significant digits and this power of ten. -/
def double (negative : Bool) (significand : Nat) (exponent : Int) (rest : Bytes) :
    Except Fault (Number × Bytes) :=
  match scale 8 (UInt64.ofNat significand).toFloat exponent with
  | some value => .ok (.double (if negative then -value else value), rest)
  | none => refuse .numberOutOfRange rest

/-- The largest exponent that is told from infinity. -/
def maxExponent : Nat := 2147483647

/-- Reads the digits of an exponent after its first one. An exponent past every bound makes zero, or
is refused if it is positive and the digits before it are not all zeros. -/
def exponentDigits (negative : Bool) (significand : Nat) (start : Int) (positive : Bool) :
    Bytes → (value : Nat) → Except Fault (Number × Bytes)
  | [], value => double negative significand (if positive then start + value else start - value) []
  | b :: rest, value =>
      if isDigit b then
        if maxExponent < 10 * value + digitValue b then
          if significand ≠ 0 ∧ positive then refuse .numberOutOfRange rest
          else .ok (.double (if negative then -0.0 else 0.0), (skipDigits rest 0).2)
        else exponentDigits negative significand start positive rest (10 * value + digitValue b)
      else
        double negative significand (if positive then start + value else start - value) (b :: rest)

def exponent (negative : Bool) (significand : Nat) (start : Int) (bytes : Bytes) :
    Except Fault (Number × Bytes) :=
  let (positive, rest) := match bytes with
    | 0x2B :: rest => (true, rest)
    | 0x2D :: rest => (false, rest)
    | _ => (true, bytes)
  match rest with
  | [] => refuse .missingValue []
  | b :: rest =>
      if isDigit b then exponentDigits negative significand start positive rest (digitValue b)
      else refuse .invalidNumber rest

/-- Reads what may follow the last digit that counts. -/
def afterDigits (negative : Bool) (significand : Nat) (start : Int) (bytes : Bytes) :
    Except Fault (Number × Bytes) :=
  match bytes with
  | b :: rest =>
      if isExponentMark b then exponent negative significand start rest
      else double negative significand start bytes
  | [] => double negative significand start []

/-- Reads the digits behind the point. Those that no longer fit the significand are dropped. -/
def fraction (negative : Bool) (significand : Nat) (start : Int) (bytes : Bytes) :
    Except Fault (Number × Bytes) :=
  let (value, count, rest) := takeDigits bytes significand 0
  match rest with
  | [] => if count = 0 then refuseNext .missingValue [] else double negative value (start - count) []
  | b :: _ =>
      if isDigit b then afterDigits negative value (start - count) (skipDigits rest 0).2
      else if count = 0 then refuseNext .invalidNumber rest
      else afterDigits negative value (start - count) rest

/-- Reads what follows the digits before the point, `dropped` of which did not fit. -/
def afterWhole (negative : Bool) (significand dropped : Nat) (bytes : Bytes) :
    Except Fault (Number × Bytes) :=
  let exact : Except Fault (Number × Bytes) :=
    if dropped ≠ 0 then double negative significand dropped bytes
    else if negative then
      if significand = 0 ∨ Text.Decimal.maxSigned + 1 < significand then
        double true significand 0 bytes
      else .ok (.negative (-(significand : Int)), bytes)
    else .ok (.natural significand, bytes)
  match bytes with
  | [] => exact
  | b :: rest =>
      if b = 0x2E then fraction negative significand dropped rest
      else if isExponentMark b then exponent negative significand dropped rest
      else exact

def number (negative : Bool) (bytes : Bytes) : Except Fault (Number × Bytes) :=
  match bytes with
  | [] => refuse .missingValue []
  | b :: rest =>
      if b = 0x30 then
        match rest with
        | [] => afterWhole negative 0 0 []
        | next :: _ =>
            if isDigit next then refuseNext .invalidNumber rest else afterWhole negative 0 0 rest
      else if isDigit b then
        let (value, _, rest) := takeDigits rest (digitValue b) 0
        let (dropped, rest) := skipDigits rest 0
        afterWhole negative value dropped rest
      else refuse .invalidNumber rest

end SessionServer.Json
