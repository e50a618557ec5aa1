import Zigbee.Host.State

/-!
# Running the host

`State.next?` makes one step of one task: of the multiplexer, of the coordinator that hands
indications on, of the stack that looks at what the coordinator routes, or of a call that
gets its answer. Calls come last, so what has been received is handed on before anybody
reacts to it. `State.settle` makes steps until none is possible; the clock stands still
meanwhile.
-/

namespace Zigbee.Host

open Cluster Radio

namespace State

variable (s : State)

/-! ### The coordinator -/

/-- Take the next indication: the waiters see it first, then it is routed. -/
def takeIndication : Option State :=
  match s.mux.indications.items with
  | [] => none
  | i :: rest =>
    some { s with
      mux := { s.mux with indications := { s.mux.indications with items := rest } }
      waiters := (s.waiters.dispatch i).2
      routes := s.routes.route i }

/-- Pass a failure of the multiplexer on. -/
def takeLineError : Option State :=
  match s.mux.errors.items with
  | [] => none
  | e :: rest =>
    some { s with
      mux := { s.mux with errors := { s.mux.errors with items := rest } }
      routes := s.routes.report e }

/-- Stop to listen once the multiplexer has ended: no waiter can be completed any more. -/
def stopListening : Option State :=
  if s.mux.result?.isSome then
    some { s with listening := false, waiters := s.waiters.close }
  else none

/-- A step of the coordinator. -/
def listen : Option State :=
  if s.listening ∧ s.setting.level ≠ .multiplexer then
    s.takeIndication <|> s.takeLineError <|> s.stopListening
  else none

/-! ### The stack -/

/-- Put an announcement into the queue of the registration. -/
def takeAnnouncement : Option State :=
  match s.routes.announce.items with
  | [] => none
  | a :: rest =>
    let (offer, announced) := s.announced.offer a
    some { s with
      routes := { s.routes with announce := { s.routes.announce with items := rest } }
      announced := announced
      reports := s.reports.reportResult (offer.check "registration queue") }

/-- Remove a device from the database and tell the owner. -/
def unregister (ieee : String) : State :=
  match s.store.remove ieee with
  | (.error e, store) => { s with store, reports := s.reports.report e }
  | (.ok d, store) =>
    let (result, reports) := s.reports.publish (.unregistered d)
    { s with store, reports := reports.reportResult result }

/-- Unregister a device that has left. -/
def takeDeparture : Option State :=
  match s.routes.leave.items with
  | [] => none
  | (_, ieee, _) :: rest =>
    some ({ s with routes := { s.routes with leave := { s.routes.leave with items := rest } } }
      |>.unregister ieee)

/-- Pass over news of the trust center. -/
def takeTrustCenter : Option State :=
  match s.routes.trustCenter.items with
  | [] => none
  | _ :: rest =>
    some { s with
      routes := { s.routes with trustCenter := { s.routes.trustCenter with items := rest } } }

/-- Read a message and tell the owner. Its device has to be known. -/
def processMessage (incoming : IncomingMessage) : State :=
  match Message.decode incoming with
  | .error e => { s with reports := s.reports.report e }
  | .ok message =>
    match s.store.deviceAt? incoming.source with
    | none => { s with reports := s.reports.report (.unknownDevice incoming.source) }
    | some device =>
      let (_, store) := s.store.recordSeen incoming.source incoming.linkQuality s.setting.moment
      let (result, reports) := s.reports.publishMessage ⟨device, message⟩
      { s with store, reports := reports.reportResult result }

/-- Take the next message. -/
def takeMessage : Option State :=
  match s.routes.incoming.items with
  | [] => none
  | incoming :: rest =>
    some ({ s with
      routes := { s.routes with incoming := { s.routes.incoming with items := rest } } }
      |>.processMessage incoming)

/-- Take the next failure; a fatal one stops the multiplexer. -/
def takeFailure : Option State :=
  match s.routes.errors.items with
  | [] => none
  | e :: rest =>
    some { s with
      routes := { s.routes with errors := { s.routes.errors with items := rest } }
      mux := if e.isFatal then { s.mux with stopping := true } else s.mux
      reports := s.reports.report e }

/-- Stop once the coordinator has stopped. -/
def stopDispatching : Option State :=
  if s.listening then none else some { s with dispatching := false }

/-- A step of the stack. -/
def dispatch : Option State :=
  if s.dispatching ∧ s.setting.level = .stack then
    s.takeAnnouncement <|> s.takeDeparture <|> s.takeTrustCenter <|> s.takeMessage <|>
      s.takeFailure <|> s.stopDispatching
  else none

/-- Whether a device is being registered. -/
def isRegistering : Bool := s.tasks.any (·.owner == .registrar)

/-- Register the next device; one is registered after the other. -/
def registerNext : Option State :=
  match s.announced.items with
  | [] => none
  | a :: rest =>
    if s.isRegistering then none
    else
      let s := { s with announced := { s.announced with items := rest } }
      some (s.begin .registrar do
        register s.setting.config.timeouts a
        return .nothing)

/-! ### Calls -/

/-- The state without the call, and the call. -/
def extract (p : Task → Bool) : Option (Task × State) :=
  match s.tasks.find? p with
  | none => none
  | some task => some (task, { s with tasks := s.tasks.eraseP p })

/-- Whether the call waits for the outcome of the submission. -/
def Task.awaits (ticket : Nat) (t : Task) : Bool :=
  match t.pending with
  | .response n _ _ | .acceptance n _ => n == ticket
  | .indication .. => false

/-- What a call makes of the outcome of its submission. -/
def resume (task : Task) (outcome : Outcome) : State :=
  match task.pending with
  | .response _ kind next =>
    let answer := match outcome with
      | .answered f => (kind.answer.read f.payload).mapError .codec
      | .failed e => .error e
      | .accepted => .error .transportClosed
    advance task.owner s task.held (next answer)
  | .acceptance _ next =>
    let answer := match outcome with
      | .failed e => .error e
      | _ => .ok ()
    advance task.owner s task.held (next answer)
  | .indication .. => s

/-- Tell a call about its submission. -/
def takeOutcome : Option State :=
  match s.mux.outcomes with
  | [] => none
  | (ticket, outcome) :: rest =>
    let s := { s with mux := { s.mux with outcomes := rest } }
    match s.extract (Task.awaits ticket) with
    | some (task, s) => some (s.resume task outcome)
    | none => some s

/-- Whether the call waits for an indication and has got it, has waited in vain, or has
waited too long. -/
def isDue (t : Task) : Bool :=
  match t.pending with
  | .indication waiter _ _ deadline _ =>
    match s.waiters.expectation waiter with
    | .possible => decide (deadline ≤ s.clock)
    | _ => true
  | _ => false

/-- Whether the call waits for the waiter. -/
def Task.waitsFor (waiter : Nat) (t : Task) : Bool :=
  match t.pending with
  | .indication n _ _ _ _ => n == waiter
  | _ => false

/-- The call that goes on next: one whose indication has come, in the order in which they
came, or else the one that has waited longest. -/
def dueTask : Option Task :=
  (s.waiters.completed.findSome? fun (waiter, _) => s.tasks.find? (Task.waitsFor waiter)) <|>
    s.tasks.find? s.isDue

/-- Let a call go on that has waited for an indication. -/
def takeIndicationOfCall : Option State :=
  match s.dueTask with
  | none => none
  | some task =>
    match task.pending with
    | .indication waiter kind milliseconds _ next =>
      let answer := match s.waiters.expectation waiter with
        | .met i => contentOf kind i
        | .possible => .error (.timeout milliseconds kind.name)
        | .lost => .error .transportClosed
      let s := { s with
        waiters := s.waiters.remove waiter
        tasks := s.tasks.eraseP (Task.waitsFor waiter) }
      some (advance task.owner s task.held (next answer))
    | _ => none

/-! ### The owner -/

/-- Write the log of frames to the capture file, if there is one. -/
def capture : Option State :=
  if s.setting.captures ∧ ¬ s.mux.frames.items.isEmpty then
    some { s with
      captured := s.captured ++ s.mux.frames.items
      mux := { s.mux with frames := s.mux.frames.clear } }
  else none

/-- Write the reports to the log, if the owner keeps one. -/
def writeLog : Option State :=
  if s.setting.logs ∧ ¬ s.reports.isEmpty then
    some { s with log := s.log ++ s.reports.log, reports := s.reports.clear }
  else none

/-! ### Steps -/

/-- The first possible step. -/
def next? : Option State :=
  s.capture <|> s.dispatch <|> s.listen <|>
  ((s.mux.next? s.clock).map fun mux => { s with mux }) <|>
  s.takeOutcome <|> s.takeIndicationOfCall <|> s.registerNext <|> s.writeLog

/-- Make steps until none is possible, at most `fuel` of them. -/
def settleFor : (fuel : Nat) → State → State
  | 0, s => s
  | fuel + 1, s =>
    match s.next? with
    | none => s
    | some next => settleFor fuel next

/-- More steps than the host makes before it waits for the radio or the clock. -/
def enough : Nat := 1000000

/-- Make steps until none is possible. -/
def settle : State := settleFor enough s

/-- The times at which something happens by itself. -/
def deadlines : List Nat :=
  s.mux.deadlines ++ s.tasks.filterMap fun t =>
    match t.pending with
    | .indication _ _ _ deadline _ => some deadline
    | _ => none

/-- Whether all tasks have come to their end. -/
def isStopped : Bool := ¬ s.dispatching ∧ s.announced.items.isEmpty ∧ ¬ s.isRegistering

end State

end Zigbee.Host
