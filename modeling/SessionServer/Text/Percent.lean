import SessionServer.Text.Blank
import SessionServer.Text.Hex

/-!
Percent signs in locations: an octet may be written as a percent sign and two hexadecimal digits. A
percent sign that no two digits follow stands for itself.
-/

namespace SessionServer.Text.Percent

/-- The octets that a text with percent signs stands for. -/
def decode : Bytes → Bytes
  | [] => []
  | b :: rest =>
      if b = 0x25 then
        match rest with
        | high :: low :: more =>
            match Hex.value? (Char.ofNat high.toNat), Hex.value? (Char.ofNat low.toNat) with
            | some x, some y => UInt8.ofNat (16 * x + y) :: decode more
            | _, _ => b :: decode (high :: low :: more)
        | _ => b :: rest
      else b :: decode rest

/-- One side of a parameter: a plus sign stands for a blank, and octets that are not UTF-8 become
replacement characters. -/
def component (chars : List Char) : String :=
  let octets := (Utf8.encode chars).map fun b => if b = 0x2B then 0x20 else b
  String.ofList (Utf8.decodeLossy (decode octets))

/-- The parameters of a query, by name and value. -/
def parameters (query : List Char) : List (String × String) :=
  ((splitAll '&' query).filter (· ≠ [])).map fun part =>
    match splitOnce '=' part with
    | some (name, value) => (component name, component value)
    | none => (component part, "")

end SessionServer.Text.Percent
