/-!
Decimal numerals. Numbers are written without sign or leading zeros; what is accepted when reading
depends on the place: bare digits, or digits behind an optional sign.
-/

namespace SessionServer.Text.Decimal

def maxWord : Nat := 18446744073709551615

def maxSigned : Nat := 9223372036854775807

def ofNat (n : Nat) : List Char := Nat.toDigits 10 n

/-- Digits of an integer, behind a minus sign when it is negative. -/
def ofInt (n : Int) : List Char :=
  if n < 0 then '-' :: ofNat n.natAbs else ofNat n.natAbs

/-- Appends the digits in `chars` to the number `value`. -/
def digits? : List Char → (value : Nat) → Option Nat
  | [], value => some value
  | c :: rest, value => if c.isDigit then digits? rest (10 * value + (c.toNat - 48)) else none

/-- Reads one or more digits. -/
def nat? (chars : List Char) : Option Nat :=
  if chars.isEmpty then none else digits? chars 0

/-- Reads digits behind an optional plus sign, up to the largest 64-bit word. -/
def word? (chars : List Char) : Option Nat :=
  let digits := match chars with
    | '+' :: rest => rest
    | _ => chars
  match nat? digits with
  | some n => if n ≤ maxWord then some n else none
  | none => none

/-- Reads digits behind an optional sign, within the range of signed 64-bit numbers. -/
def signed? (chars : List Char) : Option Int :=
  let read (negative : Bool) (digits : List Char) : Option Int :=
    match nat? digits with
    | some n =>
        if negative then if n ≤ maxSigned + 1 then some (-(n : Int)) else none
        else if n ≤ maxSigned then some (n : Int) else none
    | none => none
  match chars with
  | '-' :: rest => read true rest
  | '+' :: rest => read false rest
  | _ => read false chars

end SessionServer.Text.Decimal
