import SessionServer.Socket.Conversation

/-!
What a step of a conversation can do: in which states it is possible, and what it leaves.
-/

namespace SessionServer.Socket.Conversation

/-- The ways in which conversations go on. -/
inductive Move (before : Conversation) : Step → Conversation → Prop where
  | greeted (new : before.stage = .greeting) :
      Move before (.greet true)
        { before.push (.message (.connected before.user)) with stage := .talking }
  | ungreeted (new : before.stage = .greeting) :
      Move before (.greet false) { before with stage := .closed }
  | ticked (good : Bool) (running : before.running = true) (idle : before.keepalive = .idle) :
      Move before (.tick good)
        { before with keepalive := .offering (if good then .ping else .sessionRevoked) }
  | kept {message : Message} (running : before.running = true)
      (offers : before.keepalive = .offering message) :
      Move before .keep
        { before with
          queue := before.queue ++ [message]
          keepalive := if message = .sessionRevoked then .finished else .idle }
  | unkept {message : Message} (running : before.running = true)
      (offers : before.keepalive = .offering message) :
      Move before .keep { before with keepalive := .finished }
  | ignored (found : Received) (running : before.running = true) (idle : before.reader = .idle)
      (other : found ≠ .binary) : Move before (.receive found) before
  | refused (running : before.running = true) (idle : before.reader = .idle) :
      Move before (.receive .binary) { before with reader := .offering binaryRefusal }
  | left (found : Received) (running : before.running = true) (idle : before.reader = .idle)
      (other : found ≠ .binary) : Move before (.receive found) { before with reader := .finished }
  | reported {message : Message} (running : before.running = true)
      (offers : before.reader = .offering message) :
      Move before .report { before with queue := before.queue ++ [message], reader := .idle }
  | unreported {message : Message} (running : before.running = true)
      (offers : before.reader = .offering message) : Move before .report { before with reader := .idle }
  | took {message : Message} {rest : List Message} (running : before.running = true)
      (idle : before.writer = .idle) (next : before.queue = message :: rest) :
      Move before .take { before with queue := rest, writer := .writing message }
  | exhausted (running : before.running = true) (idle : before.writer = .idle) :
      Move before .take { before with writer := .finished }
  | wrote {message : Message} (running : before.running = true)
      (holds : before.writer = .writing message) :
      Move before (.write true)
        { before.push (.message message) with
          writer := if message = .sessionRevoked then .closing else .idle }
  | closed (running : before.running = true) (closing : before.writer = .closing) :
      Move before (.write true) { before.push .close with writer := .finished }
  | unwritten (running : before.running = true) (busy : before.writer ≠ .idle) :
      Move before (.write false) { before with writer := .finished }
  | noticed (task : Task) (stage : Stage) (running : before.running = true) (left : stage ≠ .greeting) :
      Move before (.notice task) { before with stage := stage }
  | lapsed (running : before.running = true) : Move before .lapse { before with stage := .closed }

theorem running_of_talking {conversation : Conversation} (talking : conversation.stage = .talking) :
    conversation.running = true := by
  simp [running, talking]

theorem running_of_leaving {conversation : Conversation} (leaving : conversation.stage = .leaving) :
    conversation.running = true := by
  simp [running, leaving]

variable {before after : Conversation} {step : Step}

theorem move_of_step? (stepped : before.step? step = some after) : before.Move step after := by
  cases step with
  | greet delivered =>
    simp only [step?, greet?] at stepped
    split at stepped
    next new =>
      cases delivered with
      | true => cases stepped; exact .greeted new
      | false => cases stepped; exact .ungreeted new
    next => cases stepped
  | tick good =>
    simp only [step?, tick?] at stepped
    split at stepped
    next ready => cases stepped; exact .ticked good ready.1 ready.2
    next => cases stepped
  | keep =>
    simp only [step?, keep?] at stepped
    split at stepped
    next message running offers =>
      split at stepped
      next => cases stepped; exact .unkept running offers
      next =>
        obtain ⟨queue, room, rfl⟩ := Option.map_eq_some_iff.mp stepped
        simp only [enqueue?] at room
        split at room
        next => cases room; exact .kept running offers
        next => cases room
    next => cases stepped
  | receive found =>
    simp only [step?, receive?] at stepped
    split at stepped
    next ready =>
      cases found with
      | text => cases stepped; exact .ignored .text ready.1 ready.2 (by decide)
      | control => cases stepped; exact .ignored .control ready.1 ready.2 (by decide)
      | binary => cases stepped; exact .refused ready.1 ready.2
      | close => cases stepped; exact .left .close ready.1 ready.2 (by decide)
      | lost => cases stepped; exact .left .lost ready.1 ready.2 (by decide)
    next => cases stepped
  | report =>
    simp only [step?, report?] at stepped
    split at stepped
    next message running offers =>
      split at stepped
      next => cases stepped; exact .unreported running offers
      next =>
        obtain ⟨queue, room, rfl⟩ := Option.map_eq_some_iff.mp stepped
        simp only [enqueue?] at room
        split at room
        next => cases room; exact .reported running offers
        next => cases room
    next => cases stepped
  | take =>
    simp only [step?, take?] at stepped
    split at stepped
    next ready =>
      split at stepped
      next message rest next => cases stepped; exact .took ready.1 ready.2 next
      next =>
        split at stepped
        next => cases stepped; exact .exhausted ready.1 ready.2
        next => cases stepped
    next => cases stepped
  | write delivered =>
    simp only [step?, write?] at stepped
    split at stepped
    next message running holds =>
      cases delivered with
      | true => cases stepped; exact .wrote running holds
      | false =>
        cases stepped
        exact .unwritten running (by simp [holds])
    next running closing =>
      cases delivered with
      | true => cases stepped; exact .closed running closing
      | false =>
        cases stepped
        exact .unwritten running (by simp [closing])
    next => cases stepped
  | notice task =>
    simp only [step?, notice?] at stepped
    split at stepped
    next =>
      split at stepped
      next talking _ => cases stepped; exact .noticed _ _ (running_of_talking talking) (by decide)
      next talking _ _ => cases stepped; exact .noticed _ _ (running_of_talking talking) (by decide)
      next leaving _ => cases stepped; exact .noticed _ _ (running_of_leaving leaving) (by decide)
      next => cases stepped
    next => cases stepped
  | lapse =>
    simp only [step?, lapse?] at stepped
    split at stepped
    next leaving => cases stepped; exact .lapsed (running_of_leaving leaving)
    next => cases stepped

end SessionServer.Socket.Conversation
