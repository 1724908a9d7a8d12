import SessionServer.Limit.Address

/-!
Limits on how often a client may ask. Each client has a number of requests to spend; a request beyond
them is refused and costs nothing. Time gives requests back, but here no time passes.
-/

namespace SessionServer.Limit

/-- Who asks: an address on the network, or a caller within the process. -/
inductive Client where
  | internal
  | peer (address : Address)
  deriving DecidableEq, Repr

/-- What the requests of a client are counted under. -/
def Client.key : Client → String
  | .internal => "local"
  | .peer address => String.ofList address.write

/-- How many requests have been spent under each key, out of `burst`. -/
structure Limiter where
  burst : Nat
  spent : List (String × Nat) := []
  deriving DecidableEq, Repr

namespace Limiter

/-- How many requests a client has spent. -/
def spentBy (limiter : Limiter) (client : Client) : Nat := (limiter.spent.lookup client.key).getD 0

def spend : List (String × Nat) → String → List (String × Nat)
  | [], key => [(key, 1)]
  | entry :: rest, key =>
      if entry.1 = key then (key, entry.2 + 1) :: rest else entry :: spend rest key

/-- Asks for one more request: whether it is granted, and the limiter afterwards. -/
def grant (limiter : Limiter) (client : Client) : Limiter × Bool :=
  if limiter.spentBy client < limiter.burst then
    ({ limiter with spent := spend limiter.spent client.key }, true)
  else (limiter, false)

end Limiter

/-- The limiter of logins, before any request. -/
def logins : Limiter := { burst := 10 }

/-- The limiter of registrations, before any request. -/
def registrations : Limiter := { burst := 5 }

end SessionServer.Limit
