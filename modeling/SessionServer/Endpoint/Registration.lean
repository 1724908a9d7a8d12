import SessionServer.Endpoint.Site
import SessionServer.Password.Hash
import SessionServer.Socket.Message

/-!
Registration: a new account with an email address, a display name and a password. Address and name
are taken without the blanks around them, the password as it is.
-/

namespace SessionServer.Endpoint.Registration

structure Form where
  email : String
  displayName : String
  password : String
  deriving DecidableEq, Repr

def record : Json.Record String :=
  { name := "struct CreateUserRequest"
    fields := [textField "email", textField "display_name", textField "password"] }

def Form.ofSlots (slots : Json.Slots String) : Form :=
  { email := fieldAt slots 0, displayName := fieldAt slots 1, password := fieldAt slots 2 }

/-- How many octets an address may have. -/
def maxEmailLength : Nat := 254

/-- How many characters a display name may have. -/
def maxNameLength : Nat := 64

/-- How many characters a password must have. -/
def minPasswordLength : Nat := 8

/-- How many characters a password may have. -/
def maxPasswordLength : Nat := 128

/-- Whether the first at sign of an address has something on either side. -/
def isAddress (email : String) : Bool :=
  match Text.splitOnce '@' email.toList with
  | some (before, after) => !before.isEmpty && !after.isEmpty
  | none => false

def checkEmail (email : String) : Except Http.Refusal Unit :=
  if email.isEmpty then .error (.badRequest "Email cannot be empty")
  else if maxEmailLength < email.utf8ByteSize then .error (.badRequest "Email is too long")
  else if isAddress email then .ok ()
  else .error (.badRequest "Invalid email address")

def checkName (displayName : String) : Except Http.Refusal Unit :=
  if displayName.isEmpty then .error (.badRequest "Display name cannot be empty")
  else if maxNameLength < displayName.length then
    .error (.badRequest "Display name cannot be longer than 64 characters")
  else .ok ()

def checkPassword (password : String) : Except Http.Refusal Unit :=
  if password.length < minPasswordLength ∨ maxPasswordLength < password.length then
    .error (.badRequest "Password must be between 8 and 128 characters")
  else .ok ()

/-- Checks an address, a name and a password in this order. -/
def check (email displayName password : String) : Except Http.Refusal Unit :=
  match checkEmail email with
  | .error refusal => .error refusal
  | .ok () =>
      match checkName displayName with
      | .error refusal => .error refusal
      | .ok () => checkPassword password

/-- Registers an account: the database afterwards, and the new account's principal. -/
def register (database : Database) (moment : Moment) (form : Form) :
    Database × Except Http.Refusal Principal :=
  let email := Text.trimmed form.email
  let displayName := Text.trimmed form.displayName
  match check email displayName form.password with
  | .error refusal => (database, .error refusal)
  | .ok () =>
      match database.createAccount email displayName (Password.hash moment.salt form.password) with
      | (database, .ok id) => (database, .ok { id := id, email := email, displayName := displayName })
      | (database, .error .emailTaken) =>
          (database, .error (.conflict "Email is already registered"))
      | (database, .error _) => (database, .error .ofDatabase)

def answer (site : Site) (moment : Moment) (request : Http.Request) : Site × Http.Response :=
  match Http.JsonBody.read record request with
  | .error response => (site, response)
  | .ok slots =>
      match register site.stores.database moment (Form.ofSlots slots) with
      | (database, .ok principal) =>
          (site.withDatabase database, Http.Response.json 201 principal.document)
      | (database, .error refusal) => (site.withDatabase database, refusal.response)

end SessionServer.Endpoint.Registration
