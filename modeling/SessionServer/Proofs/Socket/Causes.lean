import SessionServer.Proofs.Socket.Order

/-!
Nothing is said on a socket without a cause. Each ping stems from a tick that found the session good, and
each refusal from octets that came in; after a tick that found the session to have ended, no ping is put into
the queue any more.
-/

namespace SessionServer.Socket

/-- The message that a step gives cause to. -/
def Step.message? : Step → Option Message
  | .tick good => some (if good then .ping else .sessionRevoked)
  | .receive .binary => some binaryRefusal
  | _ => none

def Producer.offers : Producer → List Message
  | .offering message => [message]
  | .idle | .finished => []

@[simp] theorem Producer.offers_idle : Producer.idle.offers = [] := rfl

@[simp] theorem Producer.offers_finished : Producer.finished.offers = [] := rfl

@[simp] theorem Producer.offers_offering (message : Message) :
    (Producer.offering message).offers = [message] := rfl

theorem Producer.count_offers (producer : Producer) (message : Message) :
    producer.offers.count message = if producer = .offering message then 1 else 0 := by
  cases producer with
  | offering offered =>
    rw [Producer.offers_offering, List.count_singleton]
    simp only [beq_iff_eq, Producer.offering.injEq]
  | _ => rfl

def Writer.holds : Writer → List Message
  | .writing message => [message]
  | .idle | .closing | .finished => []

@[simp] theorem Writer.holds_idle : Writer.idle.holds = [] := rfl

@[simp] theorem Writer.holds_closing : Writer.closing.holds = [] := rfl

@[simp] theorem Writer.holds_finished : Writer.finished.holds = [] := rfl

@[simp] theorem Writer.holds_writing (message : Message) : (Writer.writing message).holds = [message] :=
  rfl

theorem count_frame (written : List Frame) (message other : Message) :
    (written ++ [Frame.message other]).count (Frame.message message) =
      written.count (Frame.message message) + [other].count message := by
  simp [List.count_append, List.count_singleton]

namespace Conversation

variable {before after conversation : Conversation} {step : Step} {message : Message} {steps : List Step}

/-- How often a message was written, or waits to be. -/
def tally (conversation : Conversation) (message : Message) : Nat :=
  conversation.written.count (.message message) + conversation.writer.holds.count message +
    conversation.queue.count message + conversation.keepalive.offers.count message +
    conversation.reader.offers.count message

/-- No message but the greeting is said more often than there was cause to. -/
theorem tally_move (move : before.Move step after) (ungreeting : message ≠ .connected before.user) :
    after.tally message ≤ before.tally message + step.message?.toList.count message := by
  cases move with
  | greeted => simp [tally, push, List.count_append, ungreeting.symm, Step.message?]
  | ungreeted => simp [tally, Step.message?]
  | ticked good running idle =>
    simp only [tally, idle, Producer.offers_idle, Producer.offers_offering, Step.message?,
      Option.toList_some, List.count_nil]
    omega
  | @kept offered running offers =>
    have quiet : (if offered = .sessionRevoked then Producer.finished else .idle).offers = [] := by
      split
      next => rfl
      next => rfl
    simp only [tally, offers, quiet, Producer.offers_offering, List.count_append, List.count_nil]
    omega
  | unkept running offers =>
    simp only [tally, offers, Producer.offers_offering, Producer.offers_finished, List.count_nil]
    omega
  | ignored => exact Nat.le_add_right _ _
  | refused running idle =>
    simp only [tally, idle, Producer.offers_idle, Producer.offers_offering, Step.message?,
      Option.toList_some, List.count_nil]
    omega
  | left found running idle =>
    simp only [tally, idle, Producer.offers_idle, Producer.offers_finished]
    omega
  | reported running offers =>
    simp only [tally, offers, Producer.offers_offering, Producer.offers_idle, List.count_append,
      List.count_nil]
    omega
  | unreported running offers =>
    simp only [tally, offers, Producer.offers_offering, Producer.offers_idle, List.count_nil]
    omega
  | @took head rest running idle next =>
    have split : (head :: rest).count message = [head].count message + rest.count message := by
      rw [← List.singleton_append, List.count_append]
    simp only [tally, idle, next, Writer.holds_idle, Writer.holds_writing, List.count_nil, split]
    omega
  | exhausted running idle =>
    simp only [tally, idle, Writer.holds_idle, Writer.holds_finished]
    omega
  | @wrote held running holds =>
    have quiet : (if held = .sessionRevoked then Writer.closing else .idle).holds = [] := by
      split
      next => rfl
      next => rfl
    simp only [tally, push, holds, quiet, Writer.holds_writing, count_frame, List.count_nil]
    omega
  | closed running closing =>
    simp [tally, push, closing, List.count_append]
  | unwritten =>
    simp only [tally, Writer.holds_finished, List.count_nil]
    omega
  | noticed => exact Nat.le_add_right _ _
  | lapsed => exact Nat.le_add_right _ _

theorem tally_run (ran : before.run? steps = some after) (ungreeting : message ≠ .connected before.user) :
    after.tally message ≤ before.tally message + (steps.filterMap Step.message?).count message := by
  induction steps generalizing before with
  | nil =>
    cases ran
    exact Nat.le_add_right _ _
  | cons step later ih =>
    obtain ⟨next, stepped, goesOn⟩ := Option.bind_eq_some_iff.mp ran
    have move := move_of_step? stepped
    have here := tally_move move ungreeting
    have rest := ih goesOn (by rwa [user_of_move move])
    have split : ((step :: later).filterMap Step.message?).count message =
        step.message?.toList.count message + (later.filterMap Step.message?).count message := by
      rw [List.filterMap_cons]
      cases step.message? with
      | none => simp
      | some caused => rw [Option.toList_some, ← List.count_append, List.singleton_append]
    omega

/-- A message is not written more often than steps gave cause to. -/
theorem count_written_le {user : Principal} (ran : ({ user := user } : Conversation).run? steps = some after)
    (ungreeting : message ≠ .connected user) :
    after.written.count (Frame.message message) ≤ (steps.filterMap Step.message?).count message := by
  have bound := tally_run ran ungreeting
  have nothing : ({ user := user } : Conversation).tally message = 0 := rfl
  have part : after.written.count (Frame.message message) ≤ after.tally message := by
    unfold tally
    omega
  omega

/-- What a conversation puts into its queue in the course of some steps. -/
def enqueued (conversation : Conversation) : List Step → List Message
  | [] => []
  | step :: later =>
      match conversation.step? step with
      | some next => next.queue.drop conversation.queue.length ++ next.enqueued later
      | none => []

/-- A ping is put into the queue only after a tick that found the session good, and once for each. -/
theorem Orderly.pings_move (orderly : before.Orderly) (move : before.Move step after) :
    (after.queue.drop before.queue.length).count .ping + after.keepalive.offers.count .ping ≤
      before.keepalive.offers.count .ping + [step].count (.tick true) := by
  have unchanged : before.queue.drop before.queue.length = [] := List.drop_length
  cases move with
  | ticked good running idle =>
    cases good with
    | true => simp [idle]
    | false => simp [idle]
  | @kept offered running offers =>
    have quiet : (if offered = .sessionRevoked then Producer.finished else .idle).offers = [] := by
      split
      next => rfl
      next => rfl
    simp only [offers, quiet, List.drop_left, Producer.offers_offering, List.count_nil]
    omega
  | unkept running offers => simp
  | @reported offered running offers =>
    obtain rfl := orderly.reported offered offers
    have other : [binaryRefusal].count .ping = 0 := by decide
    simp only [List.drop_left, other]
    omega
  | @took head rest running idle next =>
    have shorter : rest.drop (head :: rest).length = [] :=
      List.drop_eq_nil_of_le (Nat.le_succ rest.length)
    simp only [next, shorter, List.count_nil]
    omega
  | greeted | ungreeted | ignored | refused | left | unreported | exhausted | wrote | closed | unwritten
  | noticed | lapsed =>
    simp only [push, unchanged, List.count_nil]
    omega

theorem Orderly.pings_run (orderly : before.Orderly) (ran : before.run? steps = some after) :
    (before.enqueued steps).count .ping + after.keepalive.offers.count .ping ≤
      before.keepalive.offers.count .ping + steps.count (.tick true) := by
  induction steps generalizing before with
  | nil =>
    cases ran
    simp [enqueued]
  | cons step later ih =>
    obtain ⟨next, stepped, goesOn⟩ := Option.bind_eq_some_iff.mp ran
    have move := move_of_step? stepped
    have here := orderly.pings_move move
    have rest := ih (orderly.move move) goesOn
    have split : (step :: later).count (.tick true) =
        [step].count (.tick true) + later.count (.tick true) := by
      rw [← List.singleton_append, List.count_append]
    simp only [enqueued, stepped, List.count_append, split]
    omega

/-- Whether the keepalive has found the session to have ended. -/
def IsParting (conversation : Conversation) : Prop :=
  conversation.keepalive = .offering .sessionRevoked ∨ conversation.keepalive = .finished

/-- A keepalive that has found the session to have ended does not check it again. -/
theorem IsParting.move (parting : before.IsParting) (move : before.Move step after) :
    after.IsParting ∧ ∀ good, step ≠ .tick good := by
  cases move with
  | ticked good running idle =>
    rcases parting with offers | finished
    · cases offers.symm.trans idle
    · cases finished.symm.trans idle
  | @kept offered running offers =>
    rcases parting with announces | finished
    · cases offers.symm.trans announces
      exact ⟨.inr rfl, nofun⟩
    · cases offers.symm.trans finished
  | unkept => exact ⟨.inr rfl, nofun⟩
  | _ => exact ⟨parting, nofun⟩

theorem IsParting.run (parting : before.IsParting) (ran : before.run? steps = some after) (good : Bool) :
    .tick good ∉ steps := by
  induction steps generalizing before with
  | nil => exact List.not_mem_nil
  | cons step later ih =>
    obtain ⟨next, stepped, goesOn⟩ := Option.bind_eq_some_iff.mp ran
    obtain ⟨stays, untimed⟩ := parting.move (move_of_step? stepped)
    exact List.not_mem_cons_of_ne_of_not_mem (untimed good).symm (ih stays goesOn)

/-- After a tick that found the session to have ended, no ping is put into the queue any more. -/
theorem Orderly.no_ping_after (orderly : before.Orderly) (stepped : before.step? (.tick false) = some after)
    (ran : after.run? steps = some conversation) : .ping ∉ after.enqueued steps := by
  have move := move_of_step? stepped
  have parting : after.IsParting := by
    cases move with
    | ticked => exact .inl rfl
  have bound := (orderly.move move).pings_run ran
  have checks : steps.count (.tick true) = 0 := List.count_eq_zero.mpr (parting.run ran true)
  have offers : after.keepalive.offers.count .ping = 0 := by
    rcases parting with announces | finished
    · rw [announces]
      rfl
    · rw [finished]
      rfl
  exact List.count_eq_zero.mp (by omega)

/-- From a tick on that finds the session to have ended, no ping is put into the queue. -/
theorem Orderly.silent_from {earlier later : List Step} (orderly : before.Orderly)
    (ran : before.run? (earlier ++ .tick false :: later) = some after)
    (reached : before.run? earlier = some conversation) :
    .ping ∉ conversation.enqueued (.tick false :: later) := by
  rw [run?_append, reached, Option.bind_some] at ran
  obtain ⟨next, stepped, goesOn⟩ := Option.bind_eq_some_iff.mp ran
  have quiet : next.queue.drop conversation.queue.length = [] := by
    cases move_of_step? stepped with
    | ticked => exact List.drop_length
  simp only [enqueued, stepped, quiet, List.nil_append]
  exact (orderly.run reached).no_ping_after stepped goesOn

end Conversation

/-- A message that one step alone gives cause to is caused as often as the step is taken. -/
theorem count_caused {message : Message} {cause : Step}
    (only : ∀ step : Step, step.message? = some message ↔ step = cause) (steps : List Step) :
    (steps.filterMap Step.message?).count message = steps.count cause := by
  rw [List.count_filterMap]
  apply List.countP_congr
  intro step _
  simp only [beq_iff_eq, only step]

theorem message?_eq_ping_iff (step : Step) : step.message? = some .ping ↔ step = .tick true := by
  unfold Step.message?
  split
  next good => cases good <;> decide
  next => decide
  next ticks _ => exact iff_of_false nofun fun same => ticks true same

theorem message?_eq_binaryRefusal_iff (step : Step) :
    step.message? = some binaryRefusal ↔ step = .receive .binary := by
  unfold Step.message?
  split
  next good => cases good <;> decide
  next => decide
  next _ refused => exact iff_of_false nofun fun same => refused same

/-- What holds of a conversation with a principal after some steps. -/
structure Disciplined (user : Principal) (steps : List Step) (conversation : Conversation) : Prop where
  /-- What was written begins with the greeting, goes on with chatter, and ends with the farewell. -/
  inOrder : ∃ chatter : List Message, (∀ message ∈ chatter, message.IsChatter) ∧
    conversation.written <+: transcript user chatter ++ farewell
  /-- For each time that octets came in, at most one refusal was written. -/
  refusals : conversation.written.count (Frame.message binaryRefusal) ≤ steps.count (.receive .binary)
  /-- For each tick that found the session good, at most one ping was written. -/
  pings : conversation.written.count (Frame.message .ping) ≤ steps.count (.tick true)
  /-- From a tick on that did not find the session good, no ping was put into the queue. -/
  silence : ∀ before after found, steps = before ++ .tick false :: after →
    ({ user := user } : Conversation).run? before = some found →
      .ping ∉ found.enqueued (.tick false :: after)

/-- Every conversation keeps the discipline, whatever its steps. -/
theorem disciplined_of_run {user : Principal} {steps : List Step} {conversation : Conversation}
    (ran : ({ user := user } : Conversation).run? steps = some conversation) :
    Disciplined user steps conversation := by
  have orderly := Conversation.orderly_new user
  refine ⟨?_, ?_, ?_, ?_⟩
  · have inOrder := (orderly.run ran).isPrefix
    rw [Conversation.user_of_run ran] at inOrder
    exact inOrder
  · rw [← count_caused message?_eq_binaryRefusal_iff]
    exact Conversation.count_written_le ran nofun
  · rw [← count_caused message?_eq_ping_iff]
    exact Conversation.count_written_le ran nofun
  · rintro before after found rfl reached
    exact orderly.silent_from ran reached

end SessionServer.Socket
