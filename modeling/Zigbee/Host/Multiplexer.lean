import Zigbee.Host.Channel
import Zigbee.Radio.Incoming

/-!
# The multiplexer

Callers share one serial line. Three tasks serve it: the receiver reads frames, the router
sends responses to the writer and everybody else's indications to the broadcast, and the
writer writes what callers have submitted, in order. After a request the writer waits for
its response, or until its deadline, before it writes anything else.

`Multiplexer.apply` says what each move of a task or a caller does. A move that is not
possible yields `none`. Tasks and callers run in any order, so a run is any list of moves.
A caller may go at any time; the writer notices it later, and till then may still take the
response that nobody waits for.
-/

namespace Zigbee.Host

open Radio Serial

/-- How long a caller waits for a response. -/
structure Patience where
  /-- What it waits for. -/
  name : String
  milliseconds : Nat
  deadline : Nat
deriving DecidableEq, Repr

/-- A frame that a caller has submitted. -/
structure Submission where
  id : Nat
  frame : Frame
  /-- How long its caller waits; nobody waits for the response to an order. -/
  patience : Option Patience
deriving DecidableEq, Repr

/-- What a caller learns about its submission. -/
inductive Outcome where
  /-- The order is in the queue. -/
  | accepted
  /-- The radio has answered. -/
  | answered (response : Frame)
  | failed (reason : Failure)

/-- How far the receiver is. -/
inductive ReceiverState where
  | running
  | ended (result : Except Failure Unit)

/-- What the writer does. -/
inductive WriterState where
  | idle
  /-- It waits for the response to a request with the given name and limits. -/
  | waiting (request : Submission) (patience : Patience)
  | ended (result : Except Failure Unit)

/-- The state of the line and its tasks. -/
structure Multiplexer where
  /-- What has arrived and has not been read. -/
  received : List UInt8 := []
  /-- Whether the radio still holds its end of the line. -/
  connected : Bool := true
  /-- Whether the line takes what is written. -/
  writable : Bool := true
  /-- Whether the tasks have been told to stop. -/
  stopping : Bool := false
  /-- Whether all callers have let go of the line, so that nothing more is submitted. -/
  released : Bool := false
  receiver : ReceiverState := .running
  /-- Frames on their way to the router. -/
  inbox : List Frame := []
  /-- Whether the router runs. -/
  routing : Bool := true
  /-- Responses on their way to the writer. -/
  responses : List Frame := []
  writer : WriterState := .idle
  /-- Submissions on their way to the writer. -/
  queue : List Submission := []
  /-- Submissions that wait for a place in the queue. -/
  blocked : List Submission := []
  /-- Requests in the queue or in flight whose callers have gone. -/
  abandoned : List Nat := []
  /-- What callers have not yet been told about their submissions. -/
  outcomes : List (Nat × Outcome) := []
  /-- Frames that have been written and not yet been taken from the line. -/
  written : List Frame := []
  indications : Broadcast Indication
  /-- A log of the frames that have been read. -/
  frames : Broadcast Frame
  errors : Channel Failure

/-- A move of a task or a caller. Moves that look at the clock carry the time. -/
inductive Move where
  | submit (s : Submission)
  | enter
  | giveUp (id : Nat)
  /-- A caller has waited long enough. -/
  | expire (id now : Nat)
  | release
  | arrive (bytes : List UInt8)
  | disconnect
  /-- The line stops to take what is written. -/
  | jam
  | stop
  | receive
  /-- The receiver stops because it has been told to. -/
  | halt
  | route
  | takeResponse
  | takeSubmission (now : Nat)
  /-- The writer stops to wait for a response. -/
  | withdraw (now : Nat)
  | finish

namespace Multiplexer

/-- How many submissions the queue holds, and how many frames the inbox. -/
def queueCapacity : Nat := 32

/-- The multiplexer that has just been started. -/
def initial : Multiplexer where
  indications := { capacity := 64 }
  frames := { capacity := 128 }
  errors := { capacity := 100 }

variable (m : Multiplexer)

/-! ### Callers -/

/-- Whether the writer has ended. -/
def isEnded : Bool :=
  match m.writer with
  | .ended _ => true
  | _ => false

/-- Tell a caller about its submission. -/
def tell (id : Nat) (outcome : Outcome) : Multiplexer :=
  { m with outcomes := m.outcomes ++ [(id, outcome)] }

/-- Put a submission into the queue. An order is done with that. -/
def enqueue (s : Submission) : Multiplexer :=
  let m := { m with queue := m.queue ++ [s] }
  match s.patience with
  | none => m.tell s.id .accepted
  | some _ => m

/-- Submit a frame: it enters the queue, or waits for a place there, or fails if the writer
has ended. -/
def submit (s : Submission) : Multiplexer :=
  if m.isEnded then m.tell s.id (.failed .transportClosed)
  else if m.queue.length < queueCapacity ∧ m.blocked.isEmpty then m.enqueue s
  else { m with blocked := m.blocked ++ [s] }

/-- Give the free place in the queue to the submission that has waited longest. -/
def enter : Option Multiplexer :=
  match m.blocked with
  | s :: rest =>
    if m.queue.length < queueCapacity then some ({ m with blocked := rest }.enqueue s) else none
  | [] => none

/-- The submissions of which the writer awaits a response or has yet to take. -/
def underWay : List Submission :=
  (match m.writer with
    | .waiting request _ => [request]
    | _ => []) ++ m.queue

/-- Whether a caller waits for the response to the submission. -/
def isAwaited (s : Submission) : Bool := s.patience.isSome && !m.abandoned.contains s.id

/-- Forget a caller. Its request stays where it is, but in the queue it is never written, and
in flight the writer will notice that nobody waits for it. -/
def giveUp (id : Nat) : Multiplexer :=
  { m with
    blocked := m.blocked.filter (·.id != id)
    abandoned := if m.underWay.any (fun s => s.id == id && m.isAwaited s)
      then m.abandoned ++ [id] else m.abandoned
    outcomes := m.outcomes.filter (·.1 != id) }

/-- The outcome of a request that is answered too late. -/
def timedOut (patience : Patience) : Outcome :=
  .failed (.timeout patience.milliseconds patience.name)

/-- Whether the caller of the request is still there and has waited long enough. -/
def isOverdue (now : Nat) (s : Submission) : Bool :=
  match s.patience with
  | some patience => decide (patience.deadline ≤ now ∧ s.id ∉ m.abandoned)
  | none => false

/-- Let the caller of a request in the queue or in flight lose its patience: it learns that
its time is over, and goes. -/
def expire (id now : Nat) : Option Multiplexer :=
  match m.underWay.find? (fun s => s.id == id && m.isOverdue now s) with
  | some s =>
    s.patience.map fun patience =>
      { m with abandoned := m.abandoned ++ [id] }.tell id (timedOut patience)
  | none => none

/-- Let go of the line; whoever waits for something holds it. -/
def release : Option Multiplexer :=
  if m.blocked.isEmpty ∧ ¬ m.underWay.any m.isAwaited then some { m with released := true }
  else none

/-- Take the outcomes. -/
def takeOutcomes : List (Nat × Outcome) × Multiplexer :=
  (m.outcomes, { m with outcomes := [] })

/-- Take the written frames. -/
def takeWritten : List Frame × Multiplexer :=
  (m.written, { m with written := [] })

/-! ### The receiver -/

/-- The receiver has read something that is no frame. -/
def failReceiver (error : FrameError) (rest : List UInt8) : Multiplexer :=
  { m with
    received := rest
    receiver := .ended (.error (.ofFrameError error))
    errors := m.errors.push .transportClosed }

/-- Read a frame, if the inbox has room for it. Without the router the frame is the last. -/
def receive : Option Multiplexer :=
  match m.receiver with
  | .ended _ => none
  | .running =>
    if m.inbox.length < queueCapacity then
      match Frame.scan m.received with
      | .frame f rest =>
        let next := { m with received := rest, frames := m.frames.push f }
        some (if m.routing then { next with inbox := m.inbox ++ [f] }
          else { next with receiver := .ended (.ok ()) })
      | .failed error rest => some (m.failReceiver error rest)
      | .incomplete => if m.connected then none else some (m.failReceiver .endOfStream [])
    else none

/-- Stop to read, if the tasks have been told to stop. -/
def halt : Option Multiplexer :=
  match m.receiver with
  | .ended _ => none
  | .running => if m.stopping then some { m with receiver := .ended (.ok ()) } else none

/-! ### The router -/

/-- Route a frame that is no response. -/
def deliver (f : Frame) : Multiplexer :=
  if f.type = .asyncRequest then
    match Indication.decode f.subsystem f.command f.payload with
    | .ok i => { m with indications := m.indications.push i }
    | .error e => { m with errors := m.errors.push e }
  else { m with errors := m.errors.push (.unsupportedFrame f.type f.subsystem) }

/-- Whether the receiver has ended. -/
def isDeaf : Bool :=
  match m.receiver with
  | .ended _ => true
  | .running => false

/-- Route the next frame, or end with the receiver. A response has to wait until the writer
has taken the one before. -/
def route : Option Multiplexer :=
  if m.routing then
    match m.inbox with
    | f :: rest =>
      if f.type = .syncResponse then
        if m.isEnded then some { m with inbox := [], routing := false }
        else if m.responses.isEmpty then some { m with inbox := rest, responses := [f] }
        else none
      else some ({ m with inbox := rest }.deliver f)
    | [] => if m.isDeaf then some { m with routing := false } else none
  else none

/-! ### The writer -/

/-- End a request with an outcome, which its caller learns unless it has gone. -/
def conclude (s : Submission) (outcome : Outcome) : Multiplexer :=
  if s.id ∈ m.abandoned then { m with abandoned := m.abandoned.erase s.id }
  else m.tell s.id outcome

/-- What the writer's end means for a submission. -/
def forsake (s : Submission) : Multiplexer :=
  if m.isAwaited s then m.tell s.id (.failed .transportClosed) else m

/-- End the writer, and with it all tasks. -/
def endWriter (result : Except Failure Unit) : Multiplexer :=
  let told := m.queue.foldl forsake m
  let told := m.blocked.foldl (fun m s => m.tell s.id (.failed .transportClosed)) told
  { told with
    writer := .ended result
    stopping := true
    queue := []
    blocked := []
    abandoned := [] }

/-- Why a frame cannot be written. -/
def writeFailure? (f : Frame) : Option Failure :=
  match f.render with
  | .error e => some (.codec e)
  | .ok _ => if m.connected && m.writable then none else some (.io .brokenPipe)

/-- Write a submission. A failure ends the writer. Writing is one step: a frame that the line
has not yet taken as a whole is no state of its own. -/
def transmit (s : Submission) : Multiplexer :=
  match m.writeFailure? s.frame with
  | some reason => (m.forsake s).endWriter (.error reason)
  | none =>
    { m with
      written := m.written ++ [s.frame]
      writer := match s.patience with
        | some patience => .waiting s patience
        | none => .idle }

/-- Whether the writer, when it takes the submission, writes it: an order always, a request
if its caller is still there and its deadline has not passed. -/
def isDue (now : Nat) (s : Submission) : Bool :=
  match s.patience with
  | none => true
  | some patience => !m.abandoned.contains s.id && decide (now < patience.deadline)

/-- Take the next submission and write it, or end it if it is not due any more. -/
def takeSubmission (now : Nat) : Option Multiplexer :=
  match m.writer, m.queue with
  | .idle, s :: rest =>
    let next := { m with queue := rest }
    if m.isDue now s then some (next.transmit s)
    else s.patience.map fun patience => next.conclude s (timedOut patience)
  | _, _ => none

/-- What a response means to the request that waits. -/
def match? (request response : Frame) : Option Outcome :=
  match response.errorCode? with
  | some code => some (.failed (.errorFrame request.subsystem request.command code))
  | none =>
    if response.subsystem = request.subsystem ∧ response.command = request.command then
      some (.answered response)
    else none

/-- Report a response that nobody waits for. -/
def reportOrphan (response : Frame) : Multiplexer :=
  { m with errors := m.errors.push (.orphanResponse response.subsystem response.command) }

/-- Take a response. -/
def takeResponse : Option Multiplexer :=
  match m.responses with
  | [] => none
  | response :: rest =>
    let next := { m with responses := rest }
    match m.writer with
    | .idle => some (next.reportOrphan response)
    | .waiting request _ =>
      match match? request.frame response with
      | some outcome => some ({ next with writer := .idle }.conclude request outcome)
      | none => some (next.reportOrphan response)
    | .ended _ => none

/-- Stop to wait for a response whose time is over, or for which nobody waits any more. -/
def withdraw (now : Nat) : Option Multiplexer :=
  match m.writer with
  | .waiting request patience =>
    if request.id ∈ m.abandoned ∨ patience.deadline ≤ now then
      some ({ m with writer := .idle }.conclude request (timedOut patience))
    else none
  | _ => none

/-- Whether no response can come any more. -/
def isSilent : Bool := !m.routing && m.responses.isEmpty

/-- Whether no submission can come any more. -/
def isDrained : Bool := m.released && m.queue.isEmpty && m.blocked.isEmpty

/-- Go on without the router or without callers: no response will come to the request that
waits, and an idle writer ends. -/
def finish : Option Multiplexer :=
  match m.writer with
  | .idle => if m.isSilent || m.isDrained then some (m.endWriter (.ok ())) else none
  | .waiting request _ =>
    if m.isSilent then
      some ({ m with writer := .idle }.conclude request (.failed .transportClosed))
    else none
  | .ended _ => none

/-! ### Moves -/

/-- What a move does. -/
def apply : Move → Option Multiplexer
  | .submit s => if m.released then none else some (m.submit s)
  | .enter => m.enter
  | .giveUp id => some (m.giveUp id)
  | .expire id now => m.expire id now
  | .release => m.release
  | .arrive bytes => if m.connected then some { m with received := m.received ++ bytes } else none
  | .disconnect => some { m with connected := false }
  | .jam => some { m with writable := false }
  | .stop => some { m with stopping := true }
  | .receive => m.receive
  | .halt => m.halt
  | .route => m.route
  | .takeResponse => m.takeResponse
  | .takeSubmission now => m.takeSubmission now
  | .withdraw now => m.withdraw now
  | .finish => m.finish

/-- The state after a list of moves. -/
def run : Multiplexer → List Move → Option Multiplexer
  | m, [] => some m
  | m, move :: rest => (m.apply move).bind (·.run rest)

/-- The moves that tasks and timers make by themselves, in the order in which they are
tried. -/
def tasks (now : Nat) : List Move :=
  .withdraw now :: m.underWay.map (.expire ·.id now) ++
    [.takeResponse, .finish, .enter, .takeSubmission now, .route, .halt, .receive]

/-- Make the first possible move of a task. -/
def next? (now : Nat) : Option Multiplexer :=
  (m.tasks now).findSome? m.apply

/-- The result of the tasks, once all have ended: the first failure, if there was one. -/
def result? : Option (Except Failure Unit) :=
  match m.receiver, m.writer with
  | .ended first, .ended second =>
    if m.routing then none
    else some (match first with
      | .error e => .error e
      | .ok () => second)
  | _, _ => none

/-- The next time at which a request times out. -/
def deadlines : List Nat :=
  (match m.writer with
    | .waiting _ patience => [patience.deadline]
    | _ => []) ++
  m.queue.filterMap fun s =>
    if s.id ∈ m.abandoned then none else s.patience.map (·.deadline)

end Multiplexer

end Zigbee.Host
