import SessionServer.Server.Operation
import SessionServer.Socket.Conversation

/-!
A server with its open sockets. Each socket belongs to the session that opened it, and what its
keepalive finds at a tick is what the stores tell of that session then.
-/

namespace SessionServer.Server

structure OpenSocket where
  session : Session.Authenticated
  conversation : Socket.Conversation
  deriving DecidableEq, Repr

/-- A server with the sockets that were ever opened, the oldest first. -/
structure Live where
  state : State
  sockets : List OpenSocket := []
  deriving DecidableEq, Repr

inductive Event where
  | operation (operation : Operation)
  /-- Somebody asks for a socket; the clock may fail. -/
  | connect (headers : Http.Headers) (clock : Option Nat)
  /-- A keepalive ticks; the clock may fail. -/
  | tick (socket : Nat) (clock : Option Nat)
  /-- Any other step of a conversation. -/
  | converse (socket : Nat) (step : Socket.Step)

namespace Live

/-- Checks a session again, as keepalives do: without a time, or without an answer, it is not good. -/
def recheck (state : State) (session : Session.Authenticated) : Option Nat → State × Bool
  | none => (state, false)
  | some now =>
      let (stores, result) := Session.recheck state.site.endpointStores session now
      ({ state with site := state.site.withStores stores }, result.isOk)

/-- Opens a socket for the session that a request presents. -/
def connect (live : Live) (headers : Http.Headers) (clock : Option Nat) :
    Live × Except Session.Error Unit :=
  let (site, result) := Endpoint.Session.authenticate live.state.site clock headers
  let state := { live.state with site := site }
  match result with
  | .error error => ({ live with state := state }, .error error)
  | .ok session =>
      let opened : OpenSocket :=
        { session := session, conversation := { user := session.principal } }
      ({ state := state, sockets := live.sockets ++ [opened] }, .ok ())

/-- The server after a step of one of its conversations, if the step is possible. -/
def converse? (live : Live) (index : Nat) (step : Socket.Step) : Option Live :=
  (live.sockets[index]?).bind fun socket =>
    (socket.conversation.step? step).map fun conversation =>
      { live with
        sockets := live.sockets.set index { socket with conversation := conversation } }

/-- The server after an event, if the event is possible. Only the stores decide what a tick finds. -/
def step? (live : Live) : Event → Option Live
  | .operation operation => some { live with state := (live.state.step operation).1 }
  | .connect headers clock => some (live.connect headers clock).1
  | .tick index clock =>
      (live.sockets[index]?).bind fun socket =>
        let (state, good) := recheck live.state socket.session clock
        { live with state := state }.converse? index (.tick good)
  | .converse _ (.tick _) => none
  | .converse index step => live.converse? index step

/-- The server after events, if each is possible in its turn. -/
def run? (live : Live) : List Event → Option Live
  | [] => some live
  | event :: later => (live.step? event).bind fun next => next.run? later

end Live

end SessionServer.Server
