/-!
Media types of request bodies: a type and a subtype of token characters, and parameters behind
semicolons.
-/

namespace SessionServer.Http.MediaType

def isToken (c : Char) : Bool := c.isAlphanum || "!#$%&'*+-.^_`|~".toList.contains c

def isQuotable (c : Char) : Bool := 0x1F < c.toNat && c.toNat ≠ 0x7F

/-- What follows a quoted value: the rest behind a semicolon, or nothing more. -/
def afterQuoted : List Char → Option (List Char)
  | [] => some []
  | ' ' :: rest => afterQuoted rest
  | ';' :: rest => some rest
  | _ => none

/-- What follows a quoted value, which ends at the next quote. -/
def quotedEnd : List Char → Option (List Char)
  | [] => none
  | c :: rest =>
      if c = '"' then afterQuoted rest else if isQuotable c then quotedEnd rest else none

/-- Whether parameters are well formed. A quoted value has one character at least, which may be a
quote. Each step passes over a character, so `fuel` is the length. -/
def parameters : (fuel : Nat) → List Char → Bool
  | 0, chars => chars.isEmpty
  | _, [] => true
  | fuel + 1, ' ' :: rest => parameters fuel rest
  | fuel + 1, chars =>
      let name := chars.takeWhile isToken
      match chars.drop name.length with
      | '=' :: value =>
          if name.isEmpty then false
          else
            match value with
            | ['"'] => false
            | '"' :: first :: rest =>
                if isQuotable first then
                  match quotedEnd rest with
                  | some rest => parameters fuel rest
                  | none => false
                else false
            | _ =>
                let plain := value.takeWhile isToken
                match value.drop plain.length with
                | [] => true
                | ';' :: rest => if plain.isEmpty then false else parameters fuel rest
                | _ => false
      | _ => false

/-- A subtype's part before its last plus sign, and the part behind it. A plus sign at the front is
part of the name. -/
def suffix (subtype : List Char) : List Char × Option (List Char) :=
  let last := (subtype.reverse.takeWhile (· ≠ '+')).reverse
  if last.length + 1 < subtype.length then
    (subtype.take (subtype.length - last.length - 1), some last)
  else (subtype, none)

/-- Whether a media type is JSON: an application type whose name, or the part behind whose last plus
sign, is `json`. -/
def isJson (chars : List Char) : Bool :=
  let type := chars.takeWhile isToken
  match chars.drop type.length with
  | '/' :: rest =>
      let subtype := rest.takeWhile isToken
      let wellFormed := match rest.drop subtype.length with
        | [] => true
        | ';' :: more => !subtype.isEmpty && parameters more.length more
        | _ => false
      let (name, behind) := suffix (subtype.map Char.toLower)
      wellFormed && type.map Char.toLower == "application".toList &&
        (name == "json".toList || behind == some "json".toList)
  | _ => false

end SessionServer.Http.MediaType
