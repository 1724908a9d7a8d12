import SessionServer.Server.State

/-!
The purges that a running server makes by itself: one when it starts, and one whenever an interval has
gone by.
-/

namespace SessionServer.Server

/-- When purges come due in the `span` milliseconds after `start`, which counts seconds. An interval of
zero never ends, so that no purge comes due. -/
def dueTimes (interval span start : Nat) : List Nat :=
  (List.range (span / interval)).map fun n => start + (n + 1) * interval / 1000

/-- The server after a purge of its own. -/
def State.cleanUp (state : State) (now : Nat) : State :=
  state.withStores (state.site.stores.cleanUp now).1

end SessionServer.Server
