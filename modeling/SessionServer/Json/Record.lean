import SessionServer.Json.Tree
import SessionServer.Json.Skip

/-!
Records: values with a fixed set of named fields. A record is written as an object, whose unknown
members are passed over, or as the list of its fields in order.
-/

namespace SessionServer.Json

structure Field (α : Type) where
  name : String
  required : Bool
  read : Reader α

/-- The fields of a record, and the name by which a refusal speaks of it. -/
structure Record (α : Type) where
  name : String
  fields : List (Field α)

/-- The value of each field, as far as it has been read. -/
abbrev Slots (α : Type) := List (Option α)

namespace Record

variable {α : Type}

/-- A value of another kind than expected, as the cause of a refusal. Lists and objects are not read,
all else is. -/
def mismatch (bytes : Bytes) : Except Fault (Found × Bytes) :=
  let known (found : Found) (result : Except Fault Bytes) : Except Fault (Found × Bytes) :=
    match result with
    | .ok rest => .ok (found, rest)
    | .error fault => .error fault
  match bytes with
  | [] => refuseNext .missingValue []
  | b :: rest =>
      if b = 0x6E then known .null (word [0x75, 0x6C, 0x6C] rest)
      else if b = 0x74 then known (.boolean true) (word [0x72, 0x75, 0x65] rest)
      else if b = 0x66 then known (.boolean false) (word [0x61, 0x6C, 0x73, 0x65] rest)
      else if b = 0x2D then Reader.map Number.found (number true) rest
      else if isDigit b then Reader.map Number.found (number false) bytes
      else if b = 0x22 then Reader.map (fun chars => .text (String.ofList chars)) quoted rest
      else if b = 0x5B then .ok (.list, bytes)
      else if b = 0x7B then .ok (.object, bytes)
      else refuseNext .expectedValue bytes

def refuseKind {β : Type} (expected : String) (bytes : Bytes) : Except Fault β :=
  match mismatch bytes with
  | .error fault => .error fault
  | .ok (found, rest) => refuse (.wrongKind found expected) rest

def text : Reader String := fun bytes =>
  match skipBlanks bytes with
  | [] => refuseNext .missingValue []
  | b :: rest =>
      if b = 0x22 then Reader.map String.ofList quoted rest
      else refuseKind "a string" (b :: rest)

/-- Reads a number without sign, fraction and exponent that fits a 64-bit word. -/
def natural : Reader Nat := fun bytes =>
  match skipBlanks bytes with
  | [] => refuseNext .missingValue []
  | b :: rest =>
      if isDigit b then
        match number false (b :: rest) with
        | .error fault => .error fault
        | .ok (.natural value, rest) => .ok (value, rest)
        | .ok (value, rest) => refuse (.wrongKind value.found "u64") rest
      else refuseKind "u64" (b :: rest)

/-- Adds the place to a fault that names none. -/
def within (place : Place) {β : Type} (result : Except Fault β) : Except Fault β :=
  match result with
  | .error fault => .error { fault with place := place }
  | .ok value => .ok value

/-- The index of the field with this name, and the field. -/
def find? (fields : List (Field α)) (name : String) : Option (Nat × Field α) :=
  match fields.findIdx? (·.name == name) with
  | some index => fields[index]?.map (index, ·)
  | none => none

/-- The first required field without a value. -/
def missing? : List (Field α) → Slots α → Option String
  | field :: fields, slot :: slots =>
      if field.required && slot.isNone then some field.name else missing? fields slots
  | _, _ => none

/-- Reads the members of an object up to its end into the slots of their fields. -/
def membersFrom (fields : List (Field α)) :
    (fuel : Nat) → (first : Bool) → Slots α → Reader (Slots α)
  | 0, _, _, bytes => refuseNext .missingValue bytes
  | fuel + 1, first, slots, bytes =>
      match nextKey first bytes with
      | .error fault => .error fault
      | .ok (false, rest) =>
          match missing? fields slots with
          | some name => refuse (.missingField name) (leave (endObject rest))
          | none => .ok (slots, rest)
      | .ok (true, rest) =>
          match quoted rest with
          | .error fault => .error fault
          | .ok (chars, rest) =>
              let key := String.ofList chars
              match find? fields key with
              | none =>
                  match colon rest with
                  | .error fault => .error fault
                  | .ok rest =>
                      match within (.member key) (skipValue rest) with
                      | .error fault => .error fault
                      | .ok rest => membersFrom fields fuel false slots rest
              | some (index, field) =>
                  if ((slots[index]?).getD none).isSome then
                    refuse (.duplicateField key) (leave (endObject rest))
                  else
                    match colon rest with
                    | .error fault => .error fault
                    | .ok rest =>
                        match within (.member key) (field.read rest) with
                        | .error fault => .error fault
                        | .ok (value, rest) =>
                            membersFrom fields fuel false (slots.set index (some value)) rest

/-- Reads the fields in order from a list; `index` counts those read. -/
def elementsFrom (record : Record α) :
    List (Field α) → (index : Nat) → Reader (Slots α)
  | [], _, bytes => .ok ([], bytes)
  | field :: fields, index, bytes =>
      match nextElement (index = 0) bytes with
      | .error fault => .error fault
      | .ok (false, rest) =>
          let count := String.ofList (Text.Decimal.ofNat record.fields.length)
          refuse (.wrongLength index (record.name ++ " with " ++ count ++ " elements"))
            (leave (endList rest))
      | .ok (true, rest) =>
          match within (.element index) (field.read rest) with
          | .error fault => .error fault
          | .ok (value, rest) =>
              match elementsFrom record fields (index + 1) rest with
              | .error fault => .error fault
              | .ok (slots, rest) => .ok (some value :: slots, rest)

def object (record : Record α) : Reader (Slots α) := fun bytes =>
  let slots := List.replicate record.fields.length none
  match membersFrom record.fields (bytes.length + 1) true slots bytes with
  | .error fault => .error fault
  | .ok (slots, rest) =>
      match endObject rest with
      | .error fault => .error fault
      | .ok rest => .ok (slots, rest)

/-- Reads a record behind the bracket that opens its list of fields. -/
def list (record : Record α) : Reader (Slots α) := fun bytes =>
  match elementsFrom record record.fields 0 bytes with
  | .error fault => .error fault
  | .ok (slots, rest) =>
      match endList rest with
      | .error fault => .error fault
      | .ok rest => .ok (slots, rest)

def read (record : Record α) : Reader (Slots α) := fun bytes =>
  match skipBlanks bytes with
  | [] => refuseNext .missingValue []
  | b :: rest =>
      if b = 0x7B then record.object rest
      else if b = 0x5B then record.list rest
      else refuseKind record.name (b :: rest)

/-- The record that a text holds, with nothing but blanks around it. -/
def ofBytes (record : Record α) (bytes : Bytes) : Except Fault (Slots α) :=
  match record.read bytes with
  | .error fault => .error fault
  | .ok (slots, rest) =>
      match endText rest with
      | .error fault => .error fault
      | .ok () => .ok slots

end Record

end SessionServer.Json
