import SessionServer.Revocation.Register
import SessionServer.Text.Decimal

/-!
Where a register is kept, and what follows from it. In memory, times are kept as they are, and an
entry found ended is dropped at once. In the database, times are signed 64-bit numbers, a later time
counts as the last of them, and only a purge drops entries.
-/

namespace SessionServer.Revocation

inductive Backing where
  | memory
  | database
  deriving DecidableEq, Repr

namespace Backing

/-- A time as it is kept. -/
def kept : Backing → Nat → Nat
  | .memory, time => time
  | .database, time => min time Text.Decimal.maxSigned

def revoke (backing : Backing) (register : Register) (token : String) (expiry : Nat) : Register :=
  register.record (digest token) (backing.kept expiry)

/-- Whether a token is revoked at `now`, and the register after the question. -/
def isRevoked (backing : Backing) (register : Register) (token : String) (now : Nat) :
    Register × Bool :=
  let key := digest token
  if register.holds key (backing.kept now) then (register, true)
  else
    match backing with
    | .memory => (register.drop key, false)
    | .database => (register, false)

/-- Drops the entries that have ended by `now`, and counts them. -/
def purge (backing : Backing) (register : Register) (now : Nat) : Register × Nat :=
  (register.live (backing.kept now), register.endedCount (backing.kept now))

end Backing

end SessionServer.Revocation
