import SessionServer.Text.Decimal
import SessionServer.Text.Hex
import SessionServer.Text.Quoted

/-!
Writing JSON: no blanks, members in the order given, and escapes only where the format demands them.
-/

namespace SessionServer.Json

inductive Document where
  | null
  | boolean (value : Bool)
  | natural (value : Nat)
  | integer (value : Int)
  | text (content : String)
  | list (elements : List Document)
  | object (members : List (String × Document))

/-- One character of a text: quotes, backslashes and control characters are escaped. -/
def writeChar (c : Char) : List Char :=
  if c = '"' then ['\\', '"']
  else if c = '\\' then ['\\', '\\']
  else if c = '\x08' then ['\\', 'b']
  else if c = '\t' then ['\\', 't']
  else if c = '\n' then ['\\', 'n']
  else if c = '\x0C' then ['\\', 'f']
  else if c = '\r' then ['\\', 'r']
  else if c.toNat < 0x20 then
    ['\\', 'u', '0', '0', Text.Hex.digit (c.toNat / 16), Text.Hex.digit (c.toNat % 16)]
  else [c]

def writeText (content : String) : List Char :=
  '"' :: (content.toList.flatMap writeChar ++ ['"'])

mutual

def Document.write : Document → List Char
  | .null => ['n', 'u', 'l', 'l']
  | .boolean true => ['t', 'r', 'u', 'e']
  | .boolean false => ['f', 'a', 'l', 's', 'e']
  | .natural value => Text.Decimal.ofNat value
  | .integer value => Text.Decimal.ofInt value
  | .text content => writeText content
  | .list elements => '[' :: (writeElements elements ++ [']'])
  | .object members => '\x7b' :: (writeMembers members ++ ['\x7d'])

def writeElements : List Document → List Char
  | [] => []
  | [element] => element.write
  | element :: rest => element.write ++ ',' :: writeElements rest

def writeMembers : List (String × Document) → List Char
  | [] => []
  | [(key, value)] => writeText key ++ ':' :: value.write
  | (key, value) :: rest => writeText key ++ ':' :: (value.write ++ ',' :: writeMembers rest)

end

def Document.render (document : Document) : String := String.ofList document.write

end SessionServer.Json
