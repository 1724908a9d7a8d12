import SessionServer.Socket.Message

/-!
What is said on an open socket. Three tasks share it: the keepalive checks the session at every tick,
the reader reads what the client sends, and the writer writes what the other two have put into a
queue. Whoever hosts the socket ends all of them once one has ended, but waits for the writer if the
keepalive was first. The tasks run in any order, so a conversation goes on by steps, each of which is
possible in some states only.
-/

namespace SessionServer.Socket

inductive Frame where
  | message (message : Message)
  | close
  deriving DecidableEq, Repr

inductive Received where
  | text
  | binary
  /-- A ping or a pong. -/
  | control
  | close
  /-- The connection has ended or failed. -/
  | lost
  deriving DecidableEq, Repr

inductive Task where
  | keepalive
  | reader
  | writer
  deriving DecidableEq, Repr

/-- A task that puts messages into the queue. -/
inductive Producer where
  | idle
  /-- Waits until the queue has room for a message. -/
  | offering (message : Message)
  | finished
  deriving DecidableEq, Repr

/-- The task that empties the queue. -/
inductive Writer where
  | idle
  | writing (message : Message)
  /-- The session's end is announced; the close comes next. -/
  | closing
  | finished
  deriving DecidableEq, Repr

/-- How far a conversation has come. -/
inductive Stage where
  /-- The client has not been greeted. -/
  | greeting
  | talking
  /-- The keepalive has ended, and the writer may finish. -/
  | leaving
  | closed
  deriving DecidableEq, Repr

/-- How many messages the queue holds at most. -/
def capacity : Nat := 32

/-- What a client is told that sends octets. -/
def binaryRefusal : Message := .error "Binary frames are not supported"

/-- A conversation with the principal whose session opened it. -/
structure Conversation where
  user : Principal
  stage : Stage := .greeting
  keepalive : Producer := .idle
  reader : Producer := .idle
  writer : Writer := .idle
  /-- The messages that wait, the oldest first. -/
  queue : List Message := []
  /-- What has been written, the oldest first. -/
  written : List Frame := []
  deriving DecidableEq, Repr

inductive Step where
  /-- Writes the greeting, or fails to. -/
  | greet (delivered : Bool)
  /-- The keepalive finds the session good or not. -/
  | tick (good : Bool)
  /-- The keepalive puts its message into the queue, or finds that the writer has ended. -/
  | keep
  /-- The reader finds something. -/
  | receive (found : Received)
  /-- The reader puts its message into the queue, or finds that the writer has ended. -/
  | report
  /-- The writer takes the next message, or ends as there will be none. -/
  | take
  /-- The writer writes what it holds, or fails to. -/
  | write (delivered : Bool)
  /-- The host sees that a task has ended. -/
  | notice (task : Task)
  /-- The host waits no longer for the writer. -/
  | lapse
  deriving DecidableEq, Repr

namespace Conversation

def running (conversation : Conversation) : Bool :=
  conversation.stage = .talking || conversation.stage = .leaving

def ended (conversation : Conversation) : Task → Bool
  | .keepalive => conversation.keepalive = .finished
  | .reader => conversation.reader = .finished
  | .writer => conversation.writer = .finished

def push (conversation : Conversation) (frame : Frame) : Conversation :=
  { conversation with written := conversation.written ++ [frame] }

def greet? (conversation : Conversation) (delivered : Bool) : Option Conversation :=
  if conversation.stage = .greeting then
    some
      (if delivered
        then { conversation.push (.message (.connected conversation.user)) with stage := .talking }
        else { conversation with stage := .closed })
  else none

def tick? (conversation : Conversation) (good : Bool) : Option Conversation :=
  if conversation.running ∧ conversation.keepalive = .idle then
    some { conversation with keepalive := .offering (if good then .ping else .sessionRevoked) }
  else none

/-- The queue with one more message: none while it is full. -/
def enqueue? (conversation : Conversation) (message : Message) : Option (List Message) :=
  if conversation.queue.length < capacity then some (conversation.queue ++ [message]) else none

/-- What the keepalive does with its message. The end of a session is the last that it says. -/
def keep? (conversation : Conversation) : Option Conversation :=
  match conversation.running, conversation.keepalive with
  | true, .offering message =>
      if conversation.writer = .finished then some { conversation with keepalive := .finished }
      else
        (conversation.enqueue? message).map fun queue =>
          { conversation with
            queue := queue
            keepalive := if message = .sessionRevoked then .finished else .idle }
  | _, _ => none

def receive? (conversation : Conversation) (found : Received) : Option Conversation :=
  if conversation.running ∧ conversation.reader = .idle then
    match found with
    | .text | .control => some conversation
    | .binary => some { conversation with reader := .offering binaryRefusal }
    | .close | .lost => some { conversation with reader := .finished }
  else none

/-- What the reader does with its message: it reads on, whether or not the message is taken. -/
def report? (conversation : Conversation) : Option Conversation :=
  match conversation.running, conversation.reader with
  | true, .offering message =>
      if conversation.writer = .finished then some { conversation with reader := .idle }
      else
        (conversation.enqueue? message).map fun queue =>
          { conversation with queue := queue, reader := .idle }
  | _, _ => none

def take? (conversation : Conversation) : Option Conversation :=
  if conversation.running ∧ conversation.writer = .idle then
    match conversation.queue with
    | message :: queue => some { conversation with queue := queue, writer := .writing message }
    | [] =>
        if conversation.ended .keepalive ∧ conversation.ended .reader
          then some { conversation with writer := .finished }
          else none
  else none

/-- What the writer does with what it holds. It closes the socket after it has announced the end of
the session, and ends when something cannot be written. -/
def write? (conversation : Conversation) (delivered : Bool) : Option Conversation :=
  match conversation.running, conversation.writer with
  | true, .writing message =>
      some
        (if delivered
          then
            { conversation.push (.message message) with
              writer := if message = .sessionRevoked then .closing else .idle }
          else { conversation with writer := .finished })
  | true, .closing =>
      some { (if delivered then conversation.push .close else conversation) with
        writer := .finished }
  | _, _ => none

/-- What the host does when it sees that a task has ended. -/
def notice? (conversation : Conversation) (task : Task) : Option Conversation :=
  if conversation.ended task then
    match conversation.stage, task with
    | .talking, .keepalive => some { conversation with stage := .leaving }
    | .talking, _ => some { conversation with stage := .closed }
    | .leaving, .writer => some { conversation with stage := .closed }
    | _, _ => none
  else none

def lapse? (conversation : Conversation) : Option Conversation :=
  if conversation.stage = .leaving then some { conversation with stage := .closed } else none

/-- The conversation after a step, if the step is possible. -/
def step? (conversation : Conversation) : Step → Option Conversation
  | .greet delivered => conversation.greet? delivered
  | .tick good => conversation.tick? good
  | .keep => conversation.keep?
  | .receive found => conversation.receive? found
  | .report => conversation.report?
  | .take => conversation.take?
  | .write delivered => conversation.write? delivered
  | .notice task => conversation.notice? task
  | .lapse => conversation.lapse?

/-- The conversation after steps, if each is possible in its turn. -/
def run? (conversation : Conversation) : List Step → Option Conversation
  | [] => some conversation
  | step :: later => (conversation.step? step).bind fun next => next.run? later

/-- Nothing is possible in a conversation that is closed. -/
theorem step?_of_closed {conversation : Conversation} (closed : conversation.stage = .closed)
    (step : Step) : conversation.step? step = none := by
  cases step <;>
    simp [step?, greet?, tick?, keep?, receive?, report?, take?, write?, notice?, lapse?, running,
      closed]

theorem run?_append (conversation : Conversation) (first later : List Step) :
    conversation.run? (first ++ later) =
      (conversation.run? first).bind fun next => next.run? later := by
  induction first generalizing conversation with
  | nil => rfl
  | cons step first ih =>
    simp only [List.cons_append, run?, Option.bind_assoc, ih]

end Conversation

end SessionServer.Socket
