import SessionServer.Text.Printable

/-!
Text shown in double quotes for a person to read. Quotes and backslashes are escaped, and so is
every character that would not show as itself.
-/

namespace SessionServer.Text.Quoted

/-- One character as it stands between the quotes. -/
def char (c : Char) : List Char :=
  if c = '\x00' then ['\\', '0']
  else if c = '\t' then ['\\', 't']
  else if c = '\r' then ['\\', 'r']
  else if c = '\n' then ['\\', 'n']
  else if c = '\\' ∨ c = '"' then ['\\', c]
  else if isPrintable c then [c]
  else ['\\', 'u', '\x7b'] ++ Nat.toDigits 16 c.toNat ++ ['\x7d']

def encode (text : String) : String :=
  String.ofList ('"' :: text.toList.flatMap char ++ ['"'])

end SessionServer.Text.Quoted
