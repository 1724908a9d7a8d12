import SessionServer.Json.Enclosed

/-!
Whole values as trees. Reading a tree is strict: texts are UTF-8 without lone surrogates, numbers
are in range, and containers are nested at most 127 deep.
-/

namespace SessionServer.Json

/-- A JSON value. Members of an object keep their order and may share a key. -/
inductive Tree where
  | null
  | boolean (value : Bool)
  | number (value : Number)
  | text (content : String)
  | list (elements : List Tree)
  | object (members : List (String × Tree))

/-- A result of reading, behind a conversion. -/
def Reader.map {α β : Type} (f : α → β) (read : Reader α) : Reader β := fun bytes =>
  match read bytes with
  | .ok (value, rest) => .ok (f value, rest)
  | .error fault => .error fault

/-- The elements of a list up to its end, behind `done`, newest first. -/
def elementsFrom (item : Reader Tree) :
    (fuel : Nat) → (first : Bool) → (done : List Tree) → Reader (List Tree)
  | 0, _, _, bytes => refuseNext .missingValue bytes
  | fuel + 1, first, done, bytes =>
      match nextElement first bytes with
      | .error fault => .error fault
      | .ok (false, rest) => .ok (done.reverse, rest)
      | .ok (true, rest) =>
          match item rest with
          | .error fault => .error fault
          | .ok (value, rest) => elementsFrom item fuel false (value :: done) rest

/-- The members of an object up to its end, behind `done`, newest first. -/
def membersFrom (item : Reader Tree) :
    (fuel : Nat) → (first : Bool) → (done : List (String × Tree)) → Reader (List (String × Tree))
  | 0, _, _, bytes => refuseNext .missingValue bytes
  | fuel + 1, first, done, bytes =>
      match nextKey first bytes with
      | .error fault => .error fault
      | .ok (false, rest) => .ok (done.reverse, rest)
      | .ok (true, rest) =>
          match quoted rest with
          | .error fault => .error fault
          | .ok (key, rest) =>
              match colon rest with
              | .error fault => .error fault
              | .ok rest =>
                  match item rest with
                  | .error fault => .error fault
                  | .ok (value, rest) =>
                      membersFrom item fuel false ((String.ofList key, value) :: done) rest

/-- A container behind its opening octet. A fault inside it leaves the end read if the end is what
stands next. -/
def container {α : Type} (close : Bytes → Except Fault Bytes) (parts : Reader α) : Reader α :=
  fun bytes =>
    match parts bytes with
    | .error fault => .error { fault with unread := leave (close fault.unread) }
    | .ok (value, rest) =>
        match close rest with
        | .ok rest => .ok (value, rest)
        | .error fault => .error fault

/-- Reads a value in which containers are nested less than `depth` deep. -/
def tree : (depth : Nat) → Reader Tree
  | 0, bytes => refuseNext .tooDeep bytes
  | depth + 1, bytes =>
      let known (value : Tree) (result : Except Fault Bytes) : Except Fault (Tree × Bytes) :=
        match result with
        | .ok rest => .ok (value, rest)
        | .error fault => .error fault
      match skipBlanks bytes with
      | [] => refuseNext .missingValue []
      | b :: rest =>
          if b = 0x6E then known .null (word [0x75, 0x6C, 0x6C] rest)
          else if b = 0x74 then known (.boolean true) (word [0x72, 0x75, 0x65] rest)
          else if b = 0x66 then known (.boolean false) (word [0x61, 0x6C, 0x73, 0x65] rest)
          else if b = 0x2D then Reader.map .number (number true) rest
          else if isDigit b then Reader.map .number (number false) (b :: rest)
          else if b = 0x22 then Reader.map (fun chars => .text (String.ofList chars)) quoted rest
          else if b = 0x5B then
            if depth = 0 then refuseNext .tooDeep (b :: rest)
            else
              Reader.map .list
                (container endList (elementsFrom (tree depth) (rest.length + 1) true [])) rest
          else if b = 0x7B then
            if depth = 0 then refuseNext .tooDeep (b :: rest)
            else
              Reader.map .object
                (container endObject (membersFrom (tree depth) (rest.length + 1) true [])) rest
          else refuseNext .expectedValue (b :: rest)

/-- How deep containers may be nested, the first one too deep. -/
def depthLimit : Nat := 128

/-- The value that a text holds, with nothing but blanks around it. -/
def Tree.ofBytes? (bytes : Bytes) : Option Tree :=
  match tree depthLimit bytes with
  | .error _ => none
  | .ok (value, rest) =>
      match endText rest with
      | .ok () => some value
      | .error _ => none

def Tree.text? : Tree → Option String
  | .text content => some content
  | _ => none

end SessionServer.Json
