import SessionServer.Text.Blank
import SessionServer.Text.Utf8

/-!
Where the signing secret comes from: an environment variable, which is cleared once it was read, or
else a file. Either way it has a least length. A variable that is not UTF-8 counts as unset, and stays.
-/

namespace SessionServer.Settings.Secret

/-- How many octets a secret must have. -/
def minLength : Nat := 32

inductive File where
  | missing
  | directory
  /-- The path leads through something that is no directory. -/
  | beyondFile
  /-- The path, or a name in it, is too long. -/
  | nameTooLong
  | content (octets : Bytes)
  deriving DecidableEq, Repr

inductive ReadFault where
  | missing
  | directory
  | beyondFile
  | nameTooLong
  | notText
  deriving DecidableEq, Repr

def ReadFault.describe : ReadFault → String
  | .missing => "No such file or directory (os error 2)"
  | .directory => "Is a directory (os error 21)"
  | .beyondFile => "Not a directory (os error 20)"
  | .nameTooLong => "File name too long (os error 36)"
  | .notText => "stream did not contain valid UTF-8"

def File.text : File → Except ReadFault String
  | .missing => .error .missing
  | .directory => .error .directory
  | .beyondFile => .error .beyondFile
  | .nameTooLong => .error .nameTooLong
  | .content octets =>
      match Utf8.toString? octets with
      | some text => .ok text
      | none => .error .notText

inductive Failure where
  /-- Neither the variable nor a file is given. -/
  | required
  | tooShort
  | unreadable (path : String) (fault : ReadFault)
  deriving DecidableEq, Repr

/-- The secret or why there is none, and whether the variable is still set. -/
structure Loaded where
  secret : Except Failure String
  variableStays : Bool

def check (secret : String) : Except Failure String :=
  if secret.utf8ByteSize < minLength then .error .tooShort else .ok secret

/-- The secret in a file, without the blanks around it. -/
def ofFile (path : String) (file : File) : Except Failure String :=
  match file.text with
  | .ok text => check (Text.trimmed text)
  | .error fault => .error (.unreadable path fault)

/-- Loads the secret from the variable, or else from the file at a path. -/
def load (environment : Option Bytes) (file : Option (String × File)) : Loaded :=
  match environment.bind Utf8.toString? with
  | some secret => { secret := check secret, variableStays := false }
  | none =>
      { secret :=
          match file with
          | some (path, file) => ofFile path file
          | none => .error .required
        variableStays := environment.isSome }

end SessionServer.Settings.Secret
