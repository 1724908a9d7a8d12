import SessionServer.Settings.Arguments
import SessionServer.Settings.Help
import SessionServer.Text.Blank

/-!
Reading the command line. An option whose value is the next argument stays open until the next option
or the end shows that its value is all there; only then is the value looked at. Options that the
command line leaves out are taken from the environment.
-/

namespace SessionServer.Settings

/-- An option that is still open: which one, and its value as far as it was given. -/
structure Pending where
  switch : Switch
  value : Option String
  deriving DecidableEq, Repr

/-- A command line as far as it was read. -/
structure Progress where
  arguments : Arguments := {}
  /-- The options that were set. -/
  given : List Switch := []
  pending : Option Pending := none
  deriving DecidableEq, Repr

namespace Progress

/-- Sets an option, which may not have been set before. -/
def settle (progress : Progress) (switch : Switch) (value : String) : Except Rejection Progress :=
  if switch ∈ progress.given then .error .argumentConflict
  else
    match progress.arguments.set switch value with
    | .ok arguments =>
        .ok { progress with arguments := arguments, given := switch :: progress.given }
    | .error rejection => .error rejection

def close (progress : Progress) : Except Rejection Progress :=
  match progress.pending with
  | none => .ok progress
  | some { value := none, .. } => .error .invalidValue
  | some { switch := switch, value := some value } =>
      ({ progress with pending := none } : Progress).settle switch value

def take (progress : Progress) (option : Description) (attached : Option String) (long : Bool) :
    Except Rejection Progress :=
  match option.value, attached with
  | none, some _ => .error .tooManyValues
  | none, none =>
      match progress.close with
      | .error rejection => .error rejection
      | .ok progress =>
          if option.switch = .help then .error (.help long)
          else progress.settle option.switch "true"
  | some _, some value =>
      match progress.close with
      | .error rejection => .error rejection
      | .ok progress => progress.settle option.switch value
  | some _, none =>
      match progress.close with
      | .error rejection => .error rejection
      | .ok progress =>
          .ok { progress with pending := some { switch := option.switch, value := none } }

def takeLong (progress : Progress) (rest : List Char) : Except Rejection Progress :=
  let (name, attached) := match Text.splitOnce '=' rest with
    | some (name, value) => (String.ofList name, some (String.ofList value))
    | none => (String.ofList rest, none)
  match byLong? name with
  | some option => progress.take option attached true
  | none => .error .unknownArgument

/-- Takes an argument behind one hyphen: a short name, and a value that may be attached to it. -/
def takeShort (progress : Progress) (name : Char) (rest : List Char) : Except Rejection Progress :=
  match byShort? name with
  | none => .error .unknownArgument
  | some option =>
      if option.value.isNone then progress.take option none false
      else
        match rest with
        | [] => progress.take option none false
        | '=' :: value => progress.take option (some (String.ofList value)) false
        | value => progress.take option (some (String.ofList value)) false

/-- Takes an argument that is no option: the value of the option that waits for one. -/
def takeValue (progress : Progress) (value : String) : Except Rejection Progress :=
  match progress.pending with
  | some { switch := switch, value := none } =>
      .ok { progress with pending := some { switch := switch, value := some value } }
  | _ => .error .unknownArgument

/-- Takes arguments in order. Two hyphens alone end the options, and nothing may follow them. -/
def takeAll (progress : Progress) : List String → Except Rejection Progress
  | [] => progress.close
  | argument :: rest =>
      let next : Except Rejection Progress :=
        match argument.toList with
        | '-' :: '-' :: name => progress.takeLong name
        | '-' :: name :: attached => progress.takeShort name attached
        | _ => progress.takeValue argument
      if argument = "--" then if rest.isEmpty then progress.close else .error .unknownArgument
      else
        match next with
        | .ok progress => progress.takeAll rest
        | .error rejection => .error rejection

/-- Sets the options that were not given and whose variables are set. -/
def fromEnvironment (progress : Progress) (environment : Environment) :
    List Description → Except Rejection Progress
  | [] => .ok progress
  | option :: rest =>
      let next : Except Rejection Progress :=
        if option.switch ∈ progress.given then .ok progress
        else
          match option.fallback.bind (environment.lookup ·) with
          | some value => progress.settle option.switch value
          | none => .ok progress
      match next with
      | .ok progress => progress.fromEnvironment environment rest
      | .error rejection => .error rejection

end Progress

def Arguments.parse (arguments : List String) (environment : Environment) :
    Except Rejection Arguments :=
  match ({} : Progress).takeAll arguments with
  | .error rejection => .error rejection
  | .ok progress =>
      match progress.fromEnvironment environment descriptions with
      | .error rejection => .error rejection
      | .ok progress => .ok progress.arguments

end SessionServer.Settings
