import SessionServer.Password.Encoded

/-!
Hashing passwords for storage, and checking a password against what is stored. A text that is no
password hash matches no password.
-/

namespace SessionServer.Password

/-- How many octets the hash of a new password has. -/
def outputLength : Nat := 32

/-- The text to store for a password, with 16 random octets as salt. -/
def hash (salt : Bytes) (password : String) : String :=
  let shape : Encoded :=
    { variant := .hybrid, salt := salt, output := List.replicate outputLength 0 }
  { shape with output := shape.compute password : Encoded }.toText

/-- Whether a password is the one that a stored text was made from. -/
def verify (password stored : String) : Bool :=
  match Encoded.ofString? stored with
  | some encoded => encoded.compute password == encoded.output
  | none => false

end SessionServer.Password
