import SessionServer.Json.Lexeme

/-!
Moving from part to part inside a list or an object, and out of it at its end.
-/

namespace SessionServer.Json

/-- Whether another element follows in a list, and what remains in front of it or of the end. -/
def nextElement (first : Bool) (bytes : Bytes) : Except Fault (Bool × Bytes) :=
  match skipBlanks bytes with
  | [] => refuseNext .unclosedList []
  | b :: rest =>
      if b = 0x5D then .ok (false, b :: rest)
      else if first then .ok (true, b :: rest)
      else if b = 0x2C then
        match skipBlanks rest with
        | [] => refuseNext .missingValue []
        | c :: rest =>
            if c = 0x5D then refuseNext .trailingComma (c :: rest) else .ok (true, c :: rest)
      else refuseNext .expectedListEnd (b :: rest)

/-- Whether another member follows in an object, and what remains behind the quote that opens its
key, or in front of the end. -/
def nextKey (first : Bool) (bytes : Bytes) : Except Fault (Bool × Bytes) :=
  match skipBlanks bytes with
  | [] => refuseNext .unclosedObject []
  | b :: rest =>
      if b = 0x7D then .ok (false, b :: rest)
      else if first then
        if b = 0x22 then .ok (true, rest) else refuseNext .keyNotText (b :: rest)
      else if b = 0x2C then
        match skipBlanks rest with
        | [] => refuseNext .missingValue []
        | c :: rest =>
            if c = 0x22 then .ok (true, rest)
            else if c = 0x7D then refuseNext .trailingComma (c :: rest)
            else refuseNext .keyNotText (c :: rest)
      else refuseNext .expectedObjectEnd (b :: rest)

def colon (bytes : Bytes) : Except Fault Bytes :=
  match skipBlanks bytes with
  | [] => refuseNext .unclosedObject []
  | b :: rest => if b = 0x3A then .ok rest else refuseNext .expectedColon (b :: rest)

def endList (bytes : Bytes) : Except Fault Bytes :=
  match skipBlanks bytes with
  | [] => refuseNext .unclosedList []
  | b :: rest =>
      if b = 0x5D then .ok rest
      else if b = 0x2C then
        match skipBlanks rest with
        | [] => refuseNext .trailingCharacters []
        | c :: rest =>
            if c = 0x5D then refuseNext .trailingComma (c :: rest)
            else refuseNext .trailingCharacters (c :: rest)
      else refuseNext .trailingCharacters (b :: rest)

def endObject (bytes : Bytes) : Except Fault Bytes :=
  match skipBlanks bytes with
  | [] => refuseNext .unclosedObject []
  | b :: rest =>
      if b = 0x7D then .ok rest
      else if b = 0x2C then refuseNext .trailingComma (b :: rest)
      else refuseNext .trailingCharacters (b :: rest)

/-- What is unread once the end was tried, whether it stood there or not. -/
def leave (result : Except Fault Bytes) : Bytes :=
  match result with
  | .ok rest => rest
  | .error fault => fault.unread

/-- Nothing but blanks may follow the outermost value. -/
def endText (bytes : Bytes) : Except Fault Unit :=
  match skipBlanks bytes with
  | [] => .ok ()
  | b :: rest => refuseNext .trailingCharacters (b :: rest)

end SessionServer.Json
