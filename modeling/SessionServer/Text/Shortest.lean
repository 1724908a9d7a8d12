/-!
The shortest decimal that a binary double is nearest to. The digits are found in exact arithmetic:
a double stands for an interval of reals, and the fewest digits with a value in that interval win;
of two such values the nearer.
-/

namespace SessionServer.Text.Shortest

/-- A positive double as a fraction over a denominator, with the two ends of the interval that
rounds to it over the same denominator, and whether the ends belong to it. -/
structure Interval where
  low : Nat
  value : Nat
  high : Nat
  denominator : Nat
  closed : Bool

/-- The interval of the positive double with these bits. -/
def Interval.ofBits (bits : Nat) : Interval :=
  let exponentBits := (bits >>> 52) % (1 <<< 11)
  let fraction := bits % (1 <<< 52)
  let mantissa := if exponentBits = 0 then fraction else fraction + (1 <<< 52)
  let exponent : Int := (if exponentBits = 0 then 1 else exponentBits : Nat) - 1075
  let narrow := fraction = 0 ∧ 1 < exponentBits
  let scale := if 2 ≤ exponent then 1 <<< (exponent.toNat - 2) else 1
  let denominator := if 2 ≤ exponent then 1 else 1 <<< (2 - exponent).toNat
  { low := (4 * mantissa - if narrow then 1 else 2) * scale
    value := 4 * mantissa * scale
    high := (4 * mantissa + 2) * scale
    denominator := denominator
    closed := mantissa % 2 = 0 }

/-- Whether `numerator / denominator` lies in the interval. -/
def Interval.contains (interval : Interval) (numerator denominator : Nat) : Bool :=
  let lower := interval.low * denominator
  let upper := interval.high * denominator
  let point := numerator * interval.denominator
  if interval.closed then lower ≤ point && point ≤ upper else lower < point && point < upper

/-- The power of ten just above a positive fraction. -/
def magnitude (numerator denominator : Nat) : Int :=
  if denominator ≤ numerator then (Nat.toDigits 10 (numerator / denominator)).length
  else
    match (List.range 400).find? fun i => denominator ≤ numerator * Nat.pow 10 (i + 1) with
    | some i => -(i : Int)
    | none => 0

/-- The decimal `digits · 10 ^ exponent` nearest to the interval's value among those with `count`
digits, if one lies in the interval. -/
def Interval.nearest? (interval : Interval) (count : Nat) : Option (Nat × Int) :=
  let exponent := magnitude interval.value interval.denominator - count
  let up := if 0 ≤ exponent then Nat.pow 10 exponent.toNat else 1
  let down := if 0 ≤ exponent then 1 else Nat.pow 10 (-exponent).toNat
  let scaled := interval.value * down
  let unit := interval.denominator * up
  let below := scaled / unit
  let fits (n : Nat) : Bool := interval.contains (n * up) down
  let remainder := scaled % unit
  let belowIsNearer := 2 * remainder < unit || (2 * remainder = unit && below % 2 = 0)
  if fits below && (belowIsNearer || !fits (below + 1)) then some (below, exponent)
  else if fits (below + 1) then some (below + 1, exponent)
  else none

/-- The digits and the exponent of the shortest decimal of a positive double. -/
def ofBits (bits : Nat) : Nat × Int :=
  let interval := Interval.ofBits bits
  ((List.range 17).findSome? fun i => interval.nearest? (i + 1)).getD (0, 0)

/-- Where positional notation ends: a number is written positionally when the power of ten just
above it lies strictly above `least` and is at most `greatest`. -/
structure Style where
  least : Int
  greatest : Int

/-- Writes a decimal: positionally with at least one digit on either side of the point, else one
digit, the others behind a point, and the exponent with its sign behind an `e`. -/
def write (style : Style) (digits : Nat) (exponent : Int) : List Char :=
  let trimmed := ((Nat.toDigits 10 digits).reverse.dropWhile (· = '0')).reverse
  let text := if trimmed.isEmpty then ['0'] else trimmed
  let above : Int := (Nat.toDigits 10 digits).length + exponent
  if text = ['0'] then ['0', '.', '0']
  else if 0 < above ∧ above ≤ style.greatest then
    let whole := (text ++ List.replicate (above.toNat - text.length) '0').take above.toNat
    let fraction := text.drop above.toNat
    whole ++ '.' :: (if fraction.isEmpty then ['0'] else fraction)
  else if style.least < above ∧ above ≤ 0 then
    '0' :: '.' :: (List.replicate (-above).toNat '0' ++ text)
  else
    let head := text.take 1
    let tail := text.drop 1
    let power := above - 1
    let sign := if power < 0 then '-' else '+'
    (if tail.isEmpty then head else head ++ '.' :: tail) ++
      'e' :: sign :: Nat.toDigits 10 power.natAbs

end SessionServer.Text.Shortest
