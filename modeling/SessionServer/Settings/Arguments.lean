import SessionServer.Revocation.Backing
import SessionServer.Settings.Option

/-!
What the options set, and which values they take.
-/

namespace SessionServer.Settings

inductive LogFormat where
  | pretty
  | json
  | compact
  deriving DecidableEq, Repr

structure Arguments where
  port : Nat := 7300
  database : String := "parley.db"
  secretFile : Option String := none
  sessionLifetime : Nat := 86400
  backing : Revocation.Backing := .database
  purgeInterval : Nat := 300
  pingInterval : Option Nat := none
  secureCookies : Bool := false
  logFormat : LogFormat := .pretty
  deriving DecidableEq, Repr

/-- Why a command line is not accepted. Asking for help is one of the reasons. -/
inductive Rejection where
  | help (long : Bool)
  /-- A value is missing, or is not one of the choices. -/
  | invalidValue
  /-- A value is not a number within its bounds. -/
  | valueValidation
  | unknownArgument
  /-- An option is given twice. -/
  | argumentConflict
  /-- A value is given to an option that takes none. -/
  | tooManyValues
  deriving DecidableEq, Repr

def maxPort : Nat := 65535

def port? (value : String) : Except Rejection Nat :=
  match Text.Decimal.signed? value.toList with
  | some (.ofNat n) => if n ≤ maxPort then .ok n else .error .valueValidation
  | _ => .error .valueValidation

/-- Reads a number that is at least `least`. -/
def atLeast? (least : Nat) (value : String) : Except Rejection Nat :=
  match Text.Decimal.word? value.toList with
  | some n => if least ≤ n then .ok n else .error .valueValidation
  | none => .error .valueValidation

def choice? {α : Type} (choices : List (String × α)) (value : String) : Except Rejection α :=
  match choices.lookup value with
  | some chosen => .ok chosen
  | none => .error .invalidValue

/-- The shortest lifetime of a session, in seconds. -/
def minLifetime : Nat := 60

/-- The shortest interval, in seconds. -/
def minInterval : Nat := 1

namespace Arguments

def set (arguments : Arguments) (switch : Switch) (value : String) : Except Rejection Arguments :=
  match switch with
  | .port => (port? value).map fun n => { arguments with port := n }
  | .database => .ok { arguments with database := value }
  | .secretFile => .ok { arguments with secretFile := some value }
  | .sessionLifetime =>
      (atLeast? minLifetime value).map fun n => { arguments with sessionLifetime := n }
  | .blacklist =>
      (choice? [("database", .database), ("memory", .memory)] value).map fun backing =>
        { arguments with backing := backing }
  | .purgeInterval =>
      (atLeast? minInterval value).map fun n => { arguments with purgeInterval := n }
  | .pingInterval =>
      (atLeast? minInterval value).map fun n => { arguments with pingInterval := some n }
  | .secureCookies =>
      (choice? [("true", true), ("false", false)] value).map fun secure =>
        { arguments with secureCookies := secure }
  | .logFormat =>
      (choice? [("pretty", .pretty), ("json", .json), ("compact", .compact)] value).map
        fun format => { arguments with logFormat := format }
  | .help => .ok arguments

end Arguments

end SessionServer.Settings
