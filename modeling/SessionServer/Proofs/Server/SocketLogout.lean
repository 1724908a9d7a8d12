import SessionServer.Proofs.Server.Sockets

/-!
Sockets and logouts. Once the session of a socket was logged out, no tick finds it good any more, whatever is
done to the server in between, and so the socket's client gets no further ping.
-/

namespace SessionServer

namespace Session.Stores
open Revocation (digest)
open Text.Decimal (maxSigned)

variable {before : Stores} {session : Authenticated} {now later : Nat}

/-- Whether the register that is kept, if any, holds a session's token from a time on until it expires. -/
def Ends (stores : Stores) (session : Authenticated) (now : Nat) : Prop :=
  ∀ later, now ≤ later → later < maxSigned → later < session.expiresAt →
    ∀ register, stores.entries? = some register →
      register.holds (digest session.token) (stores.backing.kept later) = true

/-- A session that has ended is not found good again: it is revoked, or has expired, or nobody can tell. -/
theorem Ends.recheck (ends : before.Ends session now) (order : now ≤ later) (bound : later < maxSigned) :
    ∃ error, (recheck before session later).2 = .error error := by
  rw [recheck_snd]
  rcases asked : (before.isRevoked session.token later).2 with fault | _ | _
  · exact ⟨_, rfl⟩
  · simp only
    refine ⟨.invalidOrExpiredToken, if_neg ?_⟩
    intro unexpired
    obtain ⟨register, answered⟩ := register_of_isRevoked asked
    have held := ends later order bound unexpired register (register_eq_ok_iff.mp answered).2
    rw [isRevoked_of_register answered, Revocation.Backing.isRevoked_snd, held] at asked
    cases asked
  · exact ⟨_, rfl⟩

end Session.Stores

namespace Server
open Revocation (digest)
open Session (Authenticated Stores)
open Socket (Conversation)
open Text.Decimal (maxSigned)

/-- Whether an outcome tells that a session was ended. -/
def Outcome.EndsSession : Outcome → Prop
  | .done => True
  | .response answer => answer.status = 200
  | _ => False

/-- A logout that succeeds ends the session of a token with a good signature. -/
theorem State.ends_of_logout {state : State} {operation : Operation} {session : Authenticated}
    {claims : Token.Claims} {now : Nat} (policy : state.site.policy = state.setup.policy)
    (verified : Token.verify? state.setup.policy.secret session.token = some claims)
    (expiry : session.expiresAt = claims.expiresAt)
    (out : operation.loggedOut? = some (session.token, now))
    (done : (state.step operation).2.EndsSession) :
    (state.step operation).1.site.stores.Ends session now := by
  intro later order bound unexpired register present
  rw [expiry] at unexpired
  have revoked {stores : Stores} (same : stores.entries? = some register)
      (keeps : stores.Keeps (digest session.token) later) :
      register.holds (digest session.token) (stores.backing.kept later) = true := by
    obtain ⟨other, kept, held⟩ := keeps
    cases kept.symm.trans same
    exact held
  have read : Token.read state.setup.policy.secret session.token now = .ok claims :=
    (Token.read_of_verify? verified now).trans (if_pos (Nat.lt_of_le_of_lt order unexpired))
  cases operation with
  | logout headers time =>
    obtain ⟨token, presented, same⟩ := Option.map_eq_some_iff.mp out
    cases same
    have accepted : (Session.logout state.setup.policy.secret state.site.stores headers now).2 = .ok () := by
      have told : (Operation.outcome .sessionError (fun _ => .done)
          (Session.logout state.setup.policy.secret state.site.stores headers now).2).EndsSession := done
      cases result : (Session.logout state.setup.policy.secret state.site.stores headers now).2 with
      | ok => rfl
      | error error =>
        rw [result] at told
        exact told.elim
    exact revoked present (Session.logout_keeps presented accepted read bound unexpired)
  | request moment asked =>
    simp only [Operation.loggedOut?] at out
    split at out
    next deletion =>
      obtain ⟨time, reads, found⟩ := Option.bind_eq_some_iff.mp out
      obtain ⟨token, presented, same⟩ := Option.map_eq_some_iff.mp found
      cases same
      have answered := Endpoint.handle_of_deleted moment asked state.site deletion.1 deletion.2
      have succeeded : (Endpoint.handle state.site moment asked).2.status = 200 := done
      rw [answered, Endpoint.logout_status, reads, Endpoint.Session.endSession, policy] at succeeded
      rw [step_request_fst, answered, Endpoint.logout_fst, reads, Endpoint.Session.endSession,
        policy] at present ⊢
      exact revoked present (Session.logout_keeps presented succeeded read bound unexpired)
    next => cases out
  | _ => cases out

namespace Live

variable {before after live last : Live} {event : Event} {index : Nat} {socket : OpenSocket}
  {events : List Event} {now : Nat}

/-- A session that has ended stays so, whatever happens short of a flush. -/
theorem ends_of_move (move : before.Move event after) (settled : before.state.IsSettled)
    (spared : ¬ event.Empties before.state) {session : Authenticated} {later : Nat}
    (ends : before.state.site.stores.Ends session now) (order : now ≤ later)
    (past : ∀ reading, event.reading? = some reading → reading ≤ later) :
    after.state.site.stores.Ends session later := by
  intro time since bound unexpired changed kept
  -- What an event does without reading the clock it does at any time, so also at the last one.
  obtain ⟨reading, before, reads⟩ : ∃ reading, reading ≤ later ∧
      ∀ other, event.reading? = some other → other = reading := by
    cases read : event.reading? with
    | none => exact ⟨later, Nat.le_refl later, nofun⟩
    | some reading =>
      refine ⟨reading, past reading read, ?_⟩
      intro other same
      exact (Option.some.inj same).symm
  obtain ⟨register, there, change⟩ := entries_of_move move settled spared reads kept
  have held := ends time (Nat.le_trans order since) bound unexpired register there
  rw [backing_of_move move settled]
  exact change.holds (Nat.le_trans before since) bound held

/-- A tick after the end of a session does not find it good. -/
theorem stepOf?_of_ends (there : live.sockets[index]? = some socket)
    (ends : live.state.site.stores.Ends socket.session now)
    (order : ∀ reading, event.reading? = some reading → now ≤ reading ∧ reading < maxSigned)
    (stepped : live.step? event = some after) : live.stepOf? index event ≠ some (.tick true) := by
  cases move_of_step? stepped with
  | operated | refused | opened => exact (Option.some_ne_none _).symm
  | @ticked other clock mover conversation =>
    simp only [stepOf?, there, Option.map_some]
    split
    next own =>
      cases clock with
      | none =>
        intro good
        cases good
      | some reading =>
        obtain ⟨since, bound⟩ := order reading rfl
        have again : live.state.site.endpointStores.Ends socket.session now := ends
        obtain ⟨error, bad⟩ := again.recheck since bound
        have found : (recheck live.state socket.session (some reading)).2 = false := by
          show (Session.recheck live.state.site.endpointStores socket.session reading).2.isOk = false
          rw [bad]
          rfl
        rw [found]
        intro good
        cases good
    next => exact (Option.some_ne_none _).symm
  | @conversed other step mover conversation found said untimed =>
    simp only [stepOf?]
    split
    next =>
      intro same
      exact untimed true (Option.some.inj same)
    next => exact (Option.some_ne_none _).symm

/-- Whatever happens to a server short of a flush, no tick finds a session good that has ended. -/
theorem tick_not_mem_stepsOf (ran : live.run? events = some last) (settled : live.state.IsSettled)
    (there : live.sockets[index]? = some socket)
    (ends : live.state.site.stores.Ends socket.session now)
    (spared : ∀ event ∈ events, ¬ event.Empties live.state)
    (order : ∀ reading ∈ events.filterMap Event.reading?, now ≤ reading)
    (ordered : (events.filterMap Event.reading?).Pairwise (· ≤ ·))
    (bound : ∀ reading ∈ events.filterMap Event.reading?, reading < maxSigned) :
    .tick true ∉ live.stepsOf index events := by
  induction events generalizing live socket now with
  | nil => exact List.not_mem_nil
  | cons event later ih =>
    obtain ⟨next, stepped, goesOn⟩ := Option.bind_eq_some_iff.mp ran
    have move := move_of_step? stepped
    obtain ⟨spares, sparedLater⟩ := List.forall_mem_cons.mp spared
    obtain ⟨time, since, clock, orderLater, orderedLater⟩ := exists_next order ordered
    have below : ∀ reading, event.reading? = some reading → reading < maxSigned := by
      intro reading reads
      exact bound reading (List.mem_filterMap.mpr ⟨event, List.mem_cons_self, reads⟩)
    have boundLater : ∀ reading ∈ later.filterMap Event.reading?, reading < maxSigned := by
      intro reading member
      obtain ⟨other, among, reads⟩ := List.mem_filterMap.mp member
      exact bound reading (List.mem_filterMap.mpr ⟨other, List.mem_cons_of_mem _ among, reads⟩)
    obtain ⟨conversation, reached, -⟩ := conversation_of_move move there
    have here : live.stepOf? index event ≠ some (.tick true) :=
      stepOf?_of_ends there ends (fun reading reads => ⟨(clock reading reads).1, below reading reads⟩) stepped
    have rest := ih goesOn (settled_of_move move settled) reached
      (ends_of_move move settled spares ends since fun reading reads => (clock reading reads).2)
      (fun other member empties => sparedLater other member ((event_empties_of_move move settled).mp empties))
      orderLater orderedLater boundLater
    simp only [stepsOf, stepped, List.mem_append, Option.mem_toList, not_or]
    exact ⟨here, rest⟩

/-- Sockets keep their discipline, in whichever order ticks and checks, frames of the client, turns of the
queue, failures and ends of tasks come: what is written is a beginning of the greeting, chatter and the
farewell, with no more pings than good ticks and no more refusals than binary frames, and a tick that does not
find the session good is followed by no ping. Once the session of a socket was logged out by a request or
directly, and the revocations were not lost afterwards, no tick finds it good, and so none hands a ping over:
from the next tick on no ping is put into the queue. Before that tick there may be one more, if the keepalive
had found the session good before the logout and its ping was not in the queue yet. -/
theorem socket_discipline {setup : Setup} {files remaining : Database.Files} {state : State}
    (started : State.start setup files = (remaining, .ok state)) {past : List Event}
    (ran : ({ state := state } : Live).run? past = some live)
    (there : live.sockets[index]? = some socket) {operation : Operation}
    (out : operation.loggedOut? = some (socket.session.token, now))
    (done : (live.state.step operation).2.EndsSession) {later : List Event}
    (goesOn : live.run? (.operation operation :: later) = some last)
    (spared : ∀ event ∈ later, ¬ event.Empties live.state)
    (ordered : (now :: later.filterMap Event.reading?).Pairwise (· ≤ ·))
    (bound : ∀ reading ∈ later.filterMap Event.reading?, reading < maxSigned) :
    (∀ user steps conversation,
      ({ user := user } : Conversation).run? steps = some conversation →
        Socket.Disciplined user steps conversation) ∧
    (∃ steps, ({ user := socket.session.principal } : Conversation).run? steps =
      some socket.conversation) ∧
    let steps := live.stepsOf index (.operation operation :: later)
    .tick true ∉ steps ∧
      (∀ before good after found, steps = before ++ .tick good :: after →
        socket.conversation.run? before = some found → .ping ∉ found.enqueued (.tick good :: after)) ∧
      (socket.conversation.enqueued steps).count .ping ≤
        (if socket.conversation.keepalive = .offering .ping then 1 else 0) := by
  have sound := (isSound_of_start started).run ran
  obtain ⟨⟨claims, verified, expiry⟩, steps, said⟩ := sound.opened socket (List.mem_of_getElem? there)
  have ends := State.ends_of_logout sound.settled.policy verified expiry out done
  obtain ⟨order, orderedLater⟩ := List.pairwise_cons.mp ordered
  have checks : .tick true ∉ ({ live with state := (live.state.step operation).1 } : Live).stepsOf index
      later :=
    tick_not_mem_stepsOf goesOn sound.settled.step there ends
      (fun event member empties => spared event member
        ((event_empties_of_move (.operated operation) sound.settled).mp empties))
      order orderedLater bound
  have same : live.stepsOf index (.operation operation :: later) =
      ({ live with state := (live.state.step operation).1 } : Live).stepsOf index later := rfl
  rw [← same] at checks
  obtain ⟨conversation, -, saidLater⟩ := conversation_of_run goesOn there
  have orderly := (Conversation.orderly_new socket.session.principal).run said
  refine ⟨fun _ _ _ => Socket.disciplined_of_run, ⟨steps, said⟩, checks, ?_, ?_⟩
  · intro before good after found parts reached
    rw [parts] at checks saidLater
    cases good with
    | true => exact absurd (List.mem_append_right before List.mem_cons_self) checks
    | false => exact orderly.silent_from saidLater reached
  · have pings := orderly.pings_run saidLater
    rw [List.count_eq_zero.mpr checks] at pings
    rw [← Socket.Producer.count_offers]
    omega

theorem run?_append (live : Live) (first later : List Event) :
    live.run? (first ++ later) = (live.run? first).bind fun next => next.run? later := by
  induction first generalizing live with
  | nil => rfl
  | cons event first ih => simp only [List.cons_append, run?, Option.bind_assoc, ih]

/-- A session of an hour for the first account. -/
def firstSession : Token.Claims := { Token.sessionOfAnHour with subject := 1 }

def firstToken : String := String.ofList (Token.sign [0x6B] firstSession)

theorem verify?_firstToken : Token.verify? [0x6B] firstToken = some firstSession :=
  Token.verify?_sign [0x6B] (by decide) (by decide) (by decide)

/-- A server in memory with one account, and no socket. -/
def withAccount : Live :=
  { state := (State.inMemory.step
      (.createAccount firstSession.email firstSession.displayName "hash")).1 }

theorem found_withAccount {headers : Http.Headers}
    (presented : Credential.presented? headers = some firstToken) :
    (withAccount.found headers (some 1700000000)).2 =
      .ok { principal := firstSession.principal, expiresAt := 1700003600, token := firstToken } := by
  have read : Token.read [0x6B] firstToken 1700000000 = .ok firstSession :=
    Token.read_of_verify? verify?_firstToken _
  have known : withAccount.state.site.endpointStores.accountPrincipal 1 =
      .ok (some firstSession.principal) := Database.eq_ok_of_toOption (by decide +kernel)
  show (Session.validate [0x6B] withAccount.state.site.endpointStores headers 1700000000).2 = _
  rw [Session.validate_of_presented presented, Session.validateToken_snd]
  apply Session.verdict_eq_ok_iff.mpr
  refine ⟨rfl, firstSession, firstSession.principal, read, ?_, rfl⟩
  rw [Stores.isRevoked_fst, Stores.principal_receive rfl]
  exact known

theorem serves_withAccount : withAccount.state.site.stores.Serves [] := ⟨rfl, by decide⟩

/-- Nothing is kept in memory, so a question about a token drops nothing. -/
theorem receive_withAccount (token : String) (now : Nat) :
    withAccount.state.site.stores.receive (some (.ask token now)) = withAccount.state.site.stores := by
  rw [Stores.receive_of_serves serves_withAccount]
  exact Stores.setRegister_of_register serves_withAccount.answered

/-- The session of the account. -/
def socketSession : Authenticated :=
  { principal := firstSession.principal, expiresAt := 1700003600, token := firstToken }

/-- A server in memory with a client that has been greeted. -/
def withClient : Live :=
  { state := withAccount.state
    sockets :=
      [{ session := socketSession
         conversation :=
          { user := socketSession.principal, stage := .talking
            written := [.message (.connected socketSession.principal)] } }] }

/-- How the client came to be greeted. -/
def greeting (headers : Http.Headers) : List Event :=
  [.operation (.createAccount firstSession.email firstSession.displayName "hash"),
    .connect headers (some 1700000000), .converse 0 (.greet true)]

theorem run?_greeting {headers : Http.Headers} (presented : Credential.presented? headers = some firstToken) :
    ({ state := State.inMemory } : Live).run? (greeting headers) = some withClient := by
  have unchanged : (withAccount.found headers (some 1700000000)).1 = withAccount.state := by
    have asked : Session.checkCall? headers 1700000000 = some (.ask firstToken 1700000000) := by
      rw [Session.checkCall?, presented]
      rfl
    rw [Live.found, Endpoint.authenticate_stores, Option.bind_some, asked, receive_withAccount]
  show (((withAccount.connect headers (some 1700000000)).1.converse? 0 (.greet true)).bind some) = _
  rw [connect_of_found (found_withAccount presented), unchanged]
  rfl

theorem loggedOut?_logout {headers : Http.Headers}
    (presented : Credential.presented? headers = some firstToken) :
    (Operation.logout headers 1700000100).loggedOut? = some (firstToken, 1700000100) := by
  show (Credential.presented? headers).map (·, 1700000100) = _
  rw [presented]
  rfl

theorem step_logout {headers : Http.Headers} (presented : Credential.presented? headers = some firstToken) :
    (withClient.state.step (.logout headers 1700000100)).2 = .done := by
  have read : Token.read [0x6B] firstToken 1700000100 = .ok firstSession :=
    Token.read_of_verify? verify?_firstToken _
  have logsOut := Session.logout_of_read presented read serves_withAccount
  show Operation.outcome .sessionError (fun _ => .done)
    (Session.logout [0x6B] withAccount.state.site.stores headers 1700000100).2 = .done
  rw [logsOut]
  rfl

/-- A client that has been greeted when its session is logged out elsewhere: the next tick does not find the
session good. -/
theorem socket_discipline_inMemory :
    ∃ headers live last, Credential.presented? headers = some firstToken ∧
      ({ state := State.inMemory } : Live).run?
        [.operation (.createAccount firstSession.email firstSession.displayName "hash"),
          .connect headers (some 1700000000), .converse 0 (.greet true)] = some live ∧
      live.run? [.operation (.logout headers 1700000100), .tick 0 (some 1700000200)] = some last ∧
      live.stepsOf 0 [.operation (.logout headers 1700000100), .tick 0 (some 1700000200)] =
        [.tick false] := by
  obtain ⟨headers, presented⟩ := State.presented?_sign [0x6B] firstSession
  let loggedOut : Live :=
    { withClient with state := (withClient.state.step (.logout headers 1700000100)).1 }
  let checked := recheck loggedOut.state socketSession (some 1700000200)
  have done : (withClient.state.step (.logout headers 1700000100)).2.EndsSession := by
    rw [step_logout presented]
    trivial
  obtain ⟨last, ticked⟩ : ∃ last, loggedOut.step? (.tick 0 (some 1700000200)) = some last :=
    ⟨_, (rfl : ({ loggedOut with state := checked.1 } : Live).converse? 0 (.tick checked.2) = some _)⟩
  have goesOn : withClient.run? [.operation (.logout headers 1700000100), .tick 0 (some 1700000200)] =
      some last := congrArg (·.bind some) ticked
  have steps : withClient.stepsOf 0 [.operation (.logout headers 1700000100), .tick 0 (some 1700000200)] =
      [.tick checked.2] := by
    show loggedOut.stepsOf 0 [.tick 0 (some 1700000200)] = _
    simp only [stepsOf, ticked]
    rfl
  have spared : ∀ event ∈ [Event.tick 0 (some 1700000200)], ¬ event.Empties withClient.state := by
    intro event member
    rw [List.mem_singleton.mp member]
    exact id
  have checks := (socket_discipline State.start_memorySetup (run?_greeting presented)
    (rfl : withClient.sockets[0]? = some _) (loggedOut?_logout presented) done goesOn spared (by decide)
    (by decide)).2.2.1
  refine ⟨headers, withClient, last, presented, run?_greeting presented, goesOn, ?_⟩
  rw [steps] at checks ⊢
  cases found : checked.2 with
  | true =>
    rw [found] at checks
    exact absurd List.mem_cons_self checks
  | false => rfl

/-- A ping may be put into the queue after the logout: the keepalive has found the session good before, and
hands its ping over afterwards. -/
theorem ping_enqueued_after_logout :
    ∃ headers live last socket, Credential.presented? headers = some firstToken ∧
      ({ state := State.inMemory } : Live).run?
        [.operation (.createAccount firstSession.email firstSession.displayName "hash"),
          .connect headers (some 1700000000), .converse 0 (.greet true),
          .tick 0 (some 1700000050)] = some live ∧
      live.sockets[0]? = some socket ∧ socket.session.token = firstToken ∧
      (live.state.step (.logout headers 1700000100)).2 = .done ∧
      live.run? [.operation (.logout headers 1700000100), .converse 0 .keep] = some last ∧
      socket.conversation.enqueued
        (live.stepsOf 0 [.operation (.logout headers 1700000100), .converse 0 .keep]) = [.ping] := by
  obtain ⟨headers, presented⟩ := State.presented?_sign [0x6B] firstSession
  let socket : OpenSocket :=
    { session := socketSession
      conversation :=
        { user := socketSession.principal, stage := .talking, keepalive := .offering .ping
          written := [.message (.connected socketSession.principal)] } }
  have ran : ({ state := State.inMemory } : Live).run?
      (greeting headers ++ [.tick 0 (some 1700000050)]) = some { withClient with sockets := [socket] } := by
    rw [run?_append, run?_greeting presented, Option.bind_some]
    rfl
  refine ⟨headers, { withClient with sockets := [socket] }, _, socket, presented, ran, rfl, rfl,
    step_logout presented, rfl, rfl⟩

end Live

end Server

end SessionServer
