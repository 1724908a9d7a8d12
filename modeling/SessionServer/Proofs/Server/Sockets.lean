import SessionServer.Proofs.Endpoint.Effects
import SessionServer.Proofs.Server.Calls
import SessionServer.Proofs.Server.Logout
import SessionServer.Proofs.Socket.Causes
import SessionServer.Server.Live

/-!
Open sockets of a server. Each one says what a conversation may say to the principal of its session, and once
the session was logged out no tick finds it good any more, whatever is done to the server in between.
-/

namespace SessionServer.Server
open Revocation (Call digest)
open Session (Authenticated Stores checkCall?)
open Socket (Conversation)
open Text.Decimal (maxSigned)

/-- The time at which an event reads the clock. -/
def Event.reading? : Event → Option Nat
  | .operation done => done.reading?
  | .connect _ clock => clock
  | .tick _ clock => clock
  | .converse _ _ => none

/-- Whether an event empties the register of revoked tokens. -/
def Event.Empties (state : State) : Event → Prop
  | .operation done => done.Empties state
  | .connect _ _ | .tick _ _ | .converse _ _ => False

namespace Live

/-- What a server finds of a request for a socket. -/
def found (live : Live) (headers : Http.Headers) (clock : Option Nat) :
    State × Except Session.Error Authenticated :=
  let found := Endpoint.Session.authenticate live.state.site clock headers
  ({ live.state with site := found.1 }, found.2)

/-- The server after stores were asked by one of its endpoints. -/
def afterAsking (live : Live) (stores : Stores) : State :=
  { live.state with site := live.state.site.withStores stores }

/-- What events do to a server with its sockets. -/
inductive Move (before : Live) : Event → Live → Prop where
  | operated (operation : Operation) :
      Move before (.operation operation)
        { before with state := (before.state.step operation).1 }
  | refused {headers : Http.Headers} {clock : Option Nat} {error : Session.Error}
      (bad : (before.found headers clock).2 = .error error) :
      Move before (.connect headers clock) { before with state := (before.found headers clock).1 }
  | opened {headers : Http.Headers} {clock : Option Nat} {session : Authenticated}
      (good : (before.found headers clock).2 = .ok session) :
      Move before (.connect headers clock)
        { state := (before.found headers clock).1
          sockets := before.sockets ++
            [{ session := session, conversation := { user := session.principal } }] }
  | ticked {index : Nat} {clock : Option Nat} {socket : OpenSocket} {conversation : Conversation}
      (there : before.sockets[index]? = some socket)
      (stepped : socket.conversation.step? (.tick (recheck before.state socket.session clock).2) =
        some conversation) :
      Move before (.tick index clock)
        { state := (recheck before.state socket.session clock).1
          sockets := before.sockets.set index { socket with conversation := conversation } }
  | conversed {index : Nat} {step : Socket.Step} {socket : OpenSocket} {conversation : Conversation}
      (there : before.sockets[index]? = some socket)
      (stepped : socket.conversation.step? step = some conversation)
      (other : ∀ good, step ≠ .tick good) :
      Move before (.converse index step)
        { before with
          sockets := before.sockets.set index { socket with conversation := conversation } }

variable {before after live last : Live} {event : Event} {index : Nat} {socket : OpenSocket}
  {events : List Event}

theorem of_converse? {step : Socket.Step} (conversed : before.converse? index step = some after) :
    ∃ socket conversation, before.sockets[index]? = some socket ∧
      socket.conversation.step? step = some conversation ∧
      after = { before with
        sockets := before.sockets.set index { socket with conversation := conversation } } := by
  obtain ⟨socket, there, stepped⟩ := Option.bind_eq_some_iff.mp conversed
  obtain ⟨conversation, said, rfl⟩ := Option.map_eq_some_iff.mp stepped
  exact ⟨socket, conversation, there, said, rfl⟩

theorem connect_of_found {headers : Http.Headers} {clock : Option Nat} {session : Authenticated}
    (good : (live.found headers clock).2 = .ok session) :
    (live.connect headers clock).1 =
      { state := (live.found headers clock).1
        sockets := live.sockets ++
          [{ session := session, conversation := { user := session.principal } }] } := by
  unfold connect
  simp only
  split
  next bad => cases good.symm.trans bad
  next again =>
    cases good.symm.trans again
    rfl

/-- A request for a socket is checked in one way, whether or not its connection can become a socket. One is
opened where the endpoint would only miss the upgrade, and where none is opened the endpoint refuses the
session for the same reason; the site is the same afterwards. -/
theorem connect_agrees (live : Live) (moment : Endpoint.Moment) (asked : Http.Request) :
    let (site, response) := Endpoint.Session.socket live.state.site moment asked
    (∃ session : Authenticated,
      live.connect asked.headers moment.clock =
        ({ state := { live.state with site := site }
           sockets := live.sockets ++
            [{ session := session, conversation := { user := session.principal } }] }, .ok ()) ∧
      response =
        { status := 400, contentType := some "text/plain; charset=utf-8"
          body := "Expected WebSocket upgrade" }) ∨
    ∃ error,
      live.connect asked.headers moment.clock =
        ({ live with state := { live.state with site := site } }, .error error) ∧
      response = Http.Refusal.ofSession error live.state.site.policy.secureCookies := by
  unfold Endpoint.Session.socket Endpoint.Session.authenticated connect
  rcases Endpoint.Session.authenticate live.state.site moment.clock asked.headers with
    ⟨site, error | session⟩
  · exact .inr ⟨error, rfl, rfl⟩
  · exact .inl ⟨session, rfl, rfl⟩

theorem move_of_step? (stepped : before.step? event = some after) : before.Move event after := by
  cases event with
  | operation operation =>
    cases stepped
    exact .operated operation
  | connect headers clock =>
    have reached : (before.connect headers clock).1 = after := Option.some.inj stepped
    rw [← reached]
    unfold connect
    simp only
    split
    next error bad => exact .refused bad
    next session good => exact .opened good
  | tick index clock =>
    obtain ⟨socket, there, stepped⟩ := Option.bind_eq_some_iff.mp stepped
    obtain ⟨other, conversation, found, said, rfl⟩ := of_converse? stepped
    cases there.symm.trans found
    exact .ticked there said
  | converse index step =>
    have untimed : ∀ good, step ≠ .tick good := by
      rintro good rfl
      cases stepped
    have conversed : before.converse? index step = some after := by
      cases step with
      | tick good => exact absurd rfl (untimed good)
      | _ => exact stepped
    obtain ⟨socket, conversation, there, said, rfl⟩ := of_converse? conversed
    exact .conversed there said untimed

/-- What endpoints ask is asked of the server's register. -/
theorem afterAsking_receive (live : Live) (people : Session.People) (call : Option Call) :
    live.afterAsking { live.state.site.endpointStores.receive call with people := people } =
      { live.state with
        site := { live.state.site with stores := live.state.site.stores.receive call } } := by
  rw [afterAsking, Endpoint.withStores_receive]

/-- An event carries out an operation, or asks the register for a token at most. -/
theorem state_of_move (move : before.Move event after) :
    (∃ operation, event = .operation operation ∧ after.state = (before.state.step operation).1) ∨
      ∃ call, (∀ put, call = some put → ∃ token now, put = .ask token now ∧ event.reading? = some now) ∧
        after.state = { before.state with
          site := { before.state.site with stores := before.state.site.stores.receive call } } := by
  have found (headers : Http.Headers) (clock : Option Nat) :
      ∃ call, (∀ put, call = some put → ∃ token now, put = .ask token now ∧ clock = some now) ∧
        (before.found headers clock).1 =
          { before.state with
            site := { before.state.site with stores := before.state.site.stores.receive call } } := by
    refine ⟨clock.bind (checkCall? headers), ?_, ?_⟩
    · intro put called
      obtain ⟨now, reads, asked⟩ := Option.bind_eq_some_iff.mp called
      obtain ⟨token, -, rfl⟩ := Option.map_eq_some_iff.mp asked
      exact ⟨token, now, rfl, reads⟩
    · rw [Live.found, ← Endpoint.authenticate_stores]
  cases move with
  | operated operation => exact .inl ⟨operation, rfl, rfl⟩
  | @refused headers clock => exact .inr (found headers clock)
  | @opened headers clock => exact .inr (found headers clock)
  | @ticked _ clock socket =>
    right
    cases clock with
    | none => exact ⟨none, nofun, rfl⟩
    | some now =>
      have asked := (Session.recheck_fst before.state.site.endpointStores socket.session now).trans
        (Stores.isRevoked_fst _ socket.session.token now)
      refine ⟨some (.ask socket.session.token now), ?_, ?_⟩
      · rintro put ⟨⟩
        exact ⟨socket.session.token, now, rfl, rfl⟩
      · show before.afterAsking (Session.recheck before.state.site.endpointStores socket.session now).1 = _
        rw [asked]
        exact before.afterAsking_receive _ _
  | conversed => exact .inr ⟨none, nofun, rfl⟩

theorem setup_of_move (move : before.Move event after) : after.state.setup = before.state.setup := by
  rcases state_of_move move with ⟨operation, -, same⟩ | ⟨call, -, same⟩
  · rw [same, State.step_setup]
  · rw [same]

theorem settled_of_move (move : before.Move event after) (settled : before.state.IsSettled) :
    after.state.IsSettled := by
  rcases state_of_move move with ⟨operation, -, same⟩ | ⟨call, -, same⟩
  · rw [same]
    exact settled.step
  · rw [same]
    exact settled.receive call

/-- Which operations empty the register does not change with events. -/
theorem empties_of_move (move : before.Move event after) (settled : before.state.IsSettled)
    {operation : Operation} : operation.Empties after.state ↔ operation.Empties before.state := by
  have afterwards := settled_of_move move settled
  rcases state_of_move move with ⟨done, -, same⟩ | ⟨call, -, same⟩
  · rw [same]
    exact settled.step_empties
  · cases operation with
    | restart =>
      have path : after.state.site.stores.database.path = before.state.site.stores.database.path := by
        obtain ⟨_, _, framed⟩ := before.state.site.stores.receive_frame call
        rw [same, framed]
      show ¬ _ ↔ ¬ _
      rw [afterwards.isDurable_iff, settled.isDurable_iff, setup_of_move move, State.IsOnFile, path,
        State.IsOnFile]
    | _ => exact Iff.rfl

theorem event_empties_of_move (move : before.Move event after) (settled : before.state.IsSettled)
    {other : Event} : other.Empties after.state ↔ other.Empties before.state := by
  cases other with
  | operation done => exact empties_of_move move settled
  | _ => exact Iff.rfl

theorem backing_of_move (move : before.Move event after) (settled : before.state.IsSettled) :
    after.state.site.stores.backing = before.state.site.stores.backing := by
  rw [(settled_of_move move settled).backing, setup_of_move move, settled.backing]

/-- A revocation that is kept after an event was kept before it, or comes of it in one of the usual ways. -/
theorem entries_of_move (move : before.Move event after) (settled : before.state.IsSettled)
    (spared : ¬ event.Empties before.state) {now : Nat}
    (clock : ∀ reading, event.reading? = some reading → reading = now) {changed : Revocation.Register}
    (kept : after.state.site.stores.entries? = some changed) :
    ∃ register, before.state.site.stores.entries? = some register ∧
      Revocation.Change before.state.site.stores.backing now register changed := by
  have received {call : Option Call}
      (usual : ∀ put, call = some put → put ≠ .flush ∧
        ∀ reading, put.reading? = some reading → reading = now)
      (kept : (before.state.site.stores.receive call).entries? = some changed) :
      ∃ register, before.state.site.stores.entries? = some register ∧
        Revocation.Change before.state.site.stores.backing now register changed := by
    rcases before.state.site.stores.entries?_receive call with same | ⟨put, register, called, there, written⟩
    · exact ⟨changed, same ▸ kept, .keep⟩
    · rw [written] at kept
      cases kept
      obtain ⟨unflushed, timed⟩ := usual put called
      exact ⟨register, there, put.change unflushed timed⟩
  rcases state_of_move move with ⟨operation, rfl, same⟩ | ⟨call, asks, same⟩
  · rw [same] at kept
    rcases settled.step_entries operation with result | lost | ⟨empties, -⟩
    · rw [result] at kept
      refine received ?_ kept
      intro put called
      refine ⟨?_, ?_⟩
      · rintro rfl
        cases Operation.calls_of_call? called with
        | flush direct =>
          subst direct
          exact spared trivial
      · exact fun reading reads => clock reading ((Operation.calls_of_call? called).reading? reads)
    · rw [lost] at kept
      cases kept
    · exact absurd empties spared
  · rw [same] at kept
    refine received ?_ kept
    intro put called
    obtain ⟨token, time, rfl, reads⟩ := asks put called
    refine ⟨nofun, ?_⟩
    rintro reading ⟨⟩
    exact clock time reads

/-- The step of one of the conversations that an event is. -/
def stepOf? (live : Live) (index : Nat) : Event → Option Socket.Step
  | .tick other clock =>
      if other = index then
        (live.sockets[index]?).map fun socket => .tick (recheck live.state socket.session clock).2
      else none
  | .converse other step => if other = index then some step else none
  | .operation _ | .connect _ _ => none

/-- The steps of one of the conversations that events are. -/
def stepsOf (live : Live) (index : Nat) : List Event → List Socket.Step
  | [] => []
  | event :: later =>
      match live.step? event with
      | some next => (live.stepOf? index event).toList ++ next.stepsOf index later
      | none => []

/-- A socket goes on by the steps that events are for it, and stays its session's. -/
theorem conversation_of_move (move : before.Move event after) (there : before.sockets[index]? = some socket) :
    ∃ conversation, after.sockets[index]? = some { socket with conversation := conversation } ∧
      socket.conversation.run? (before.stepOf? index event).toList = some conversation := by
  have bound : index < before.sockets.length := (List.getElem?_eq_some_iff.mp there).1
  cases move with
  | operated => exact ⟨socket.conversation, there, rfl⟩
  | refused => exact ⟨socket.conversation, there, rfl⟩
  | opened =>
    refine ⟨socket.conversation, ?_, rfl⟩
    rw [List.getElem?_append_left bound]
    exact there
  | @ticked other clock mover conversation found stepped =>
    by_cases own : other = index
    · subst own
      cases found.symm.trans there
      refine ⟨conversation, List.getElem?_set_self bound, ?_⟩
      simp only [stepOf?, if_true, there, Option.map_some, Option.toList_some, Conversation.run?, stepped,
        Option.bind_some]
    · refine ⟨socket.conversation, ?_, ?_⟩
      · rw [List.getElem?_set_ne own]
        exact there
      · simp only [stepOf?, if_neg own]
        rfl
  | @conversed other step mover conversation found stepped =>
    by_cases own : other = index
    · subst own
      cases found.symm.trans there
      refine ⟨conversation, List.getElem?_set_self bound, ?_⟩
      simp only [stepOf?, if_true, Option.toList_some, Conversation.run?, stepped, Option.bind_some]
    · refine ⟨socket.conversation, ?_, ?_⟩
      · rw [List.getElem?_set_ne own]
        exact there
      · simp only [stepOf?, if_neg own]
        rfl

theorem conversation_of_run (ran : live.run? events = some last)
    (there : live.sockets[index]? = some socket) :
    ∃ conversation, last.sockets[index]? = some { socket with conversation := conversation } ∧
      socket.conversation.run? (live.stepsOf index events) = some conversation := by
  induction events generalizing live socket with
  | nil =>
    cases ran
    exact ⟨socket.conversation, there, rfl⟩
  | cons event later ih =>
    obtain ⟨next, stepped, goesOn⟩ := Option.bind_eq_some_iff.mp ran
    obtain ⟨between, reached, said⟩ := conversation_of_move (move_of_step? stepped) there
    obtain ⟨conversation, found, saidLater⟩ := ih goesOn reached
    refine ⟨conversation, found, ?_⟩
    simp only [stepsOf, stepped, Conversation.run?_append, said, Option.bind_some]
    exact saidLater

/-- Whether the session of a socket is that of a token which the server has signed, and the socket says what
a conversation with its principal can say. -/
structure IsOpened (secret : Bytes) (socket : OpenSocket) : Prop where
  verified : ∃ claims, Token.verify? secret socket.session.token = some claims ∧
    socket.session.expiresAt = claims.expiresAt
  said : ∃ steps,
    ({ user := socket.session.principal } : Conversation).run? steps = some socket.conversation

/-- A server on its database, with sockets that it has opened. -/
structure IsSound (live : Live) : Prop where
  settled : live.state.IsSettled
  opened : ∀ socket ∈ live.sockets, IsOpened live.state.setup.policy.secret socket

theorem isSound_of_start {setup : Setup} {files remaining : Database.Files} {state : State}
    (started : State.start setup files = (remaining, .ok state)) : ({ state := state } : Live).IsSound :=
  ⟨State.isSettled_of_start started, fun _ member => absurd member List.not_mem_nil⟩

/-- A session that was found good has a token with a good signature. -/
theorem isOpened_of_found {headers : Http.Headers} {clock : Option Nat} {session : Authenticated}
    (good : (live.found headers clock).2 = .ok session) :
    IsOpened live.state.site.policy.secret
      { session := session, conversation := { user := session.principal } } := by
  obtain ⟨now, -, checked⟩ := Endpoint.authenticate_eq_ok good
  unfold Session.validate at checked
  split at checked
  next => cases checked
  next token _ =>
    rw [Session.validateToken_snd] at checked
    obtain ⟨-, claims, principal, read, -, rfl⟩ := Session.verdict_eq_ok_iff.mp checked
    exact ⟨⟨claims, (Token.verify?_of_read read).1, rfl⟩, [], rfl⟩

theorem IsOpened.step {secret : Bytes} {step : Socket.Step} {conversation : Conversation}
    (opened : IsOpened secret socket) (stepped : socket.conversation.step? step = some conversation) :
    IsOpened secret { socket with conversation := conversation } := by
  obtain ⟨steps, ran⟩ := opened.said
  refine ⟨opened.verified, steps ++ [step], ?_⟩
  simp only [Conversation.run?_append, ran, Option.bind_some, Conversation.run?, stepped]

theorem IsSound.move (sound : before.IsSound) (move : before.Move event after) : after.IsSound := by
  have setup := setup_of_move move
  have changed {index : Nat} {step : Socket.Step} {mover : OpenSocket} {conversation : Conversation}
      (there : before.sockets[index]? = some mover)
      (stepped : mover.conversation.step? step = some conversation) :
      ∀ socket ∈ before.sockets.set index { mover with conversation := conversation },
        IsOpened before.state.setup.policy.secret socket := by
    intro socket member
    rcases List.mem_or_eq_of_mem_set member with old | rfl
    · exact sound.opened socket old
    · exact (sound.opened mover (List.mem_of_getElem? there)).step stepped
  have settled := settled_of_move move sound.settled
  cases move with
  | operated operation =>
    refine ⟨settled, ?_⟩
    rw [setup]
    exact sound.opened
  | refused bad => exact ⟨settled, sound.opened⟩
  | opened good =>
    refine ⟨settled, ?_⟩
    intro socket member
    rcases List.mem_append.mp member with old | new
    · exact sound.opened socket old
    · rw [List.mem_singleton.mp new, setup, ← sound.settled.policy]
      exact isOpened_of_found good
  | @ticked index clock mover conversation there stepped =>
    refine ⟨settled, ?_⟩
    rw [setup]
    exact changed there stepped
  | conversed there stepped => exact ⟨settled, changed there stepped⟩

theorem IsSound.run (sound : live.IsSound) (ran : live.run? events = some last) : last.IsSound := by
  induction events generalizing live with
  | nil =>
    cases ran
    exact sound
  | cons event later ih =>
    obtain ⟨next, stepped, goesOn⟩ := Option.bind_eq_some_iff.mp ran
    exact ih (sound.move (move_of_step? stepped)) goesOn

end Live

end SessionServer.Server
