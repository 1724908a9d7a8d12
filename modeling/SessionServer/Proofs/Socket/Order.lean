import SessionServer.Proofs.Socket.Moves

/-!
In which order a client is told what on a socket, whatever the order of the steps. First comes the greeting,
then any number of pings and refusals, and then the end of the session and the close, unless the
conversation breaks off.
-/

namespace SessionServer.Socket

/-- What a client is told between the greeting and the end. -/
def Message.IsChatter (message : Message) : Prop := message = .ping ∨ message = binaryRefusal

/-- What has been written after a greeting and some chatter. -/
def transcript (user : Principal) (chatter : List Message) : List Frame :=
  .message (.connected user) :: chatter.map .message

/-- The end of a session, and the close. -/
def farewell : List Frame := [.message .sessionRevoked, .close]

theorem transcript_concat (user : Principal) (chatter : List Message) (message : Message) :
    transcript user chatter ++ [.message message] = transcript user (chatter ++ [message]) := by
  simp [transcript]

/-- What a writer has written when it gets to a state: the end of the session comes last, and the close
only after it. -/
inductive Tells (user : Principal) : Writer → List Frame → Prop where
  | chatting {writer : Writer} {chatter : List Message} (only : ∀ message ∈ chatter, message.IsChatter)
      (open' : writer ≠ .closing) : Tells user writer (transcript user chatter)
  | closing {writer : Writer} {chatter : List Message} (only : ∀ message ∈ chatter, message.IsChatter)
      (ending : writer = .closing ∨ writer = .finished) :
      Tells user writer (transcript user chatter ++ [.message .sessionRevoked])
  | closed {chatter : List Message} (only : ∀ message ∈ chatter, message.IsChatter) :
      Tells user .finished (transcript user chatter ++ farewell)

/-- A writer that has not come to the end has written chatter. -/
theorem Tells.of_open {user : Principal} {writer : Writer} {written : List Frame}
    (tells : Tells user writer written) (closing : writer ≠ .closing) (finished : writer ≠ .finished) :
    ∃ chatter : List Message, (∀ message ∈ chatter, message.IsChatter) ∧
      written = transcript user chatter := by
  cases tells with
  | @chatting _ chatter only => exact ⟨chatter, only, rfl⟩
  | closing _ ending => exact absurd ending (not_or.mpr ⟨closing, finished⟩)
  | closed => exact absurd rfl finished

/-- A writer may end at any time. -/
theorem Tells.finish {user : Principal} {writer : Writer} {written : List Frame}
    (tells : Tells user writer written) : Tells user .finished written := by
  cases tells with
  | chatting only => exact .chatting only nofun
  | closing only => exact .closing only (.inr rfl)
  | closed only => exact .closed only

/-- After a message of the chatter a writer goes on. -/
theorem Tells.chat {user : Principal} {message held : Message} {written : List Frame}
    (tells : Tells user (.writing held) written) (chatter : message.IsChatter) :
    Tells user .idle (written ++ [.message message]) := by
  obtain ⟨before, only, rfl⟩ := tells.of_open nofun nofun
  rw [transcript_concat]
  refine .chatting ?_ nofun
  intro other member
  rcases List.mem_append.mp member with earlier | last
  · exact only other earlier
  · rw [List.mem_singleton.mp last]
    exact chatter

theorem Tells.isPrefix {user : Principal} {writer : Writer} {written : List Frame}
    (tells : Tells user writer written) :
    ∃ chatter : List Message, (∀ message ∈ chatter, message.IsChatter) ∧
      written <+: transcript user chatter ++ farewell := by
  cases tells with
  | @chatting _ chatter only => exact ⟨chatter, only, List.prefix_append _ _⟩
  | @closing _ chatter only =>
    refine ⟨chatter, only, ?_⟩
    exact (List.prefix_append_right_inj _).mpr (List.prefix_append _ [Frame.close])
  | @closed chatter only => exact ⟨chatter, only, List.prefix_refl _⟩

namespace Conversation

/-- A conversation in order: only what may be said waits to be said, and what was said is in order. -/
structure Orderly (conversation : Conversation) : Prop where
  new : conversation.stage = .greeting → conversation = { user := conversation.user }
  kept : ∀ message, conversation.keepalive = .offering message →
    message = .ping ∨ message = .sessionRevoked
  reported : ∀ message, conversation.reader = .offering message → message = binaryRefusal
  queued : ∀ message ∈ conversation.queue, message.IsChatter ∨ message = .sessionRevoked
  held : ∀ message, conversation.writer = .writing message →
    message.IsChatter ∨ message = .sessionRevoked
  told : conversation.running = false ∧ conversation.written = [] ∨
    Tells conversation.user conversation.writer conversation.written

variable {before after conversation : Conversation} {step : Step} {message : Message} {steps : List Step}

theorem orderly_new (user : Principal) : Orderly { user := user } where
  new _ := rfl
  kept := nofun
  reported := nofun
  queued := nofun
  held := nofun
  told := .inl ⟨rfl, rfl⟩

theorem stage_of_running (running : conversation.running = true) : conversation.stage ≠ .greeting := by
  intro greeting
  simp [Conversation.running, greeting] at running

/-- In a conversation that is going on the greeting has been said. -/
theorem Orderly.tells (orderly : conversation.Orderly) (running : conversation.running = true) :
    Tells conversation.user conversation.writer conversation.written := by
  rcases orderly.told with ⟨silent, -⟩ | tells
  · rw [running] at silent
    cases silent
  · exact tells

theorem Orderly.move (orderly : before.Orderly) (move : before.Move step after) : after.Orderly := by
  cases move with
  | greeted new =>
    rw [orderly.new new]
    refine ⟨nofun, nofun, nofun, nofun, nofun, .inr ?_⟩
    have nothing : ∀ message ∈ ([] : List Message), message.IsChatter := nofun
    exact .chatting nothing nofun
  | ungreeted new =>
    rw [orderly.new new]
    exact ⟨nofun, nofun, nofun, nofun, nofun, .inl ⟨rfl, rfl⟩⟩
  | ticked good running idle =>
    refine { orderly with new := fun greeting => absurd greeting (stage_of_running running), kept := ?_ }
    rintro message ⟨⟩
    cases good with
    | true => exact .inl rfl
    | false => exact .inr rfl
  | @kept message running offers =>
    refine { orderly with
      new := fun greeting => absurd greeting (stage_of_running running), kept := ?_, queued := ?_ }
    · intro other offered
      simp only at offered
      split at offered
      next => cases offered
      next => cases offered
    · intro other member
      rcases List.mem_append.mp member with earlier | last
      · exact orderly.queued other earlier
      · rw [List.mem_singleton.mp last]
        exact (orderly.kept message offers).imp_left .inl
  | unkept running offers =>
    exact { orderly with new := fun greeting => absurd greeting (stage_of_running running), kept := nofun }
  | ignored => exact orderly
  | refused running idle =>
    refine { orderly with
      new := fun greeting => absurd greeting (stage_of_running running), reported := ?_ }
    rintro message ⟨⟩
    rfl
  | left found running idle other =>
    exact { orderly with
      new := fun greeting => absurd greeting (stage_of_running running), reported := nofun }
  | @reported message running offers =>
    refine { orderly with
      new := fun greeting => absurd greeting (stage_of_running running), reported := nofun, queued := ?_ }
    intro other member
    rcases List.mem_append.mp member with earlier | last
    · exact orderly.queued other earlier
    · rw [List.mem_singleton.mp last]
      exact .inl (.inr (orderly.reported message offers))
  | unreported running offers =>
    exact { orderly with
      new := fun greeting => absurd greeting (stage_of_running running), reported := nofun }
  | @took message rest running idle next =>
    have queued : ∀ other ∈ message :: rest, other.IsChatter ∨ other = .sessionRevoked :=
      next ▸ orderly.queued
    refine { orderly with
      new := fun greeting => absurd greeting (stage_of_running running), queued := ?_, held := ?_
      told := .inr ?_ }
    · exact fun other member => queued other (List.mem_cons_of_mem message member)
    · rintro other ⟨⟩
      exact queued message List.mem_cons_self
    · have tells := orderly.tells running
      rw [idle] at tells
      obtain ⟨chatter, only, same⟩ := tells.of_open nofun nofun
      rw [same]
      exact .chatting only nofun
  | exhausted running idle =>
    exact { orderly with
      new := fun greeting => absurd greeting (stage_of_running running), held := nofun
      told := .inr (orderly.tells running).finish }
  | @wrote message running holds =>
    refine { orderly with
      new := fun greeting => absurd greeting (stage_of_running running), held := ?_, told := .inr ?_ }
    · intro other held
      simp only at held
      split at held
      next => cases held
      next => cases held
    · have tells := orderly.tells running
      rw [holds] at tells
      simp only [push]
      split
      next ending =>
        obtain ⟨chatter, only, same⟩ := tells.of_open nofun nofun
        rw [same, ending]
        exact .closing only (.inl rfl)
      next goesOn => exact tells.chat ((orderly.held message holds).resolve_right goesOn)
  | closed running closing =>
    refine { orderly with
      new := fun greeting => absurd greeting (stage_of_running running), held := nofun, told := .inr ?_ }
    have tells := orderly.tells running
    rw [closing] at tells
    simp only [push]
    generalize before.written = written at tells ⊢
    cases tells with
    | chatting _ goesOn => exact absurd rfl goesOn
    | closing only =>
      rw [List.append_assoc]
      exact .closed only
  | unwritten running =>
    exact { orderly with
      new := fun greeting => absurd greeting (stage_of_running running), held := nofun
      told := .inr (orderly.tells running).finish }
  | noticed task stage running left =>
    exact { orderly with
      new := fun greeting => absurd greeting left, told := .inr (orderly.tells running) }
  | lapsed running => exact { orderly with new := nofun, told := .inr (orderly.tells running) }

theorem Orderly.run (orderly : before.Orderly) (ran : before.run? steps = some after) :
    after.Orderly := by
  induction steps generalizing before with
  | nil =>
    cases ran
    exact orderly
  | cons step later ih =>
    obtain ⟨next, stepped, goesOn⟩ := Option.bind_eq_some_iff.mp ran
    exact ih (orderly.move (move_of_step? stepped)) goesOn

/-- What was written in a conversation in order begins a whole conversation: the greeting, chatter, and the
farewell. -/
theorem Orderly.isPrefix (orderly : conversation.Orderly) :
    ∃ chatter : List Message, (∀ message ∈ chatter, message.IsChatter) ∧
      conversation.written <+: transcript conversation.user chatter ++ farewell := by
  rcases orderly.told with ⟨-, silent⟩ | tells
  · rw [silent]
    exact ⟨[], nofun, List.nil_prefix⟩
  · exact tells.isPrefix

theorem user_of_move (move : before.Move step after) : after.user = before.user := by
  cases move <;> rfl

theorem user_of_run (ran : before.run? steps = some after) : after.user = before.user := by
  induction steps generalizing before with
  | nil =>
    cases ran
    rfl
  | cons step later ih =>
    obtain ⟨next, stepped, goesOn⟩ := Option.bind_eq_some_iff.mp ran
    exact (ih goesOn).trans (user_of_move (move_of_step? stepped))

end Conversation

end SessionServer.Socket
