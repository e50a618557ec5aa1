import Zigbee.Host.Schedule
import Zigbee.Simulation.Radio

/-!
# Sessions

A host talks to a scripted radio over a line without delay, on a clock that only moves when
it is told to. Whenever several things happen at one moment, the timers of the host come
first, then what the radio has promised for that moment, then its answers to what the host
sends now.
-/

namespace Zigbee.Simulation

open Host Serial

/-- A session. -/
structure Session where
  host : Host.State
  radio : Radio
  /-- When the database is written next, if it is written regularly. -/
  snapshot : Option Nat := none
  /-- Whether the end of the multiplexer has been asked for. -/
  joined : Bool := false
  /-- The frames that the radio has heard, with their times. -/
  heard : List (Nat × Frame) := []

namespace Session

variable (s : Session)

/-- The present time. -/
def now : Nat := s.host.clock

/-- Let the host run, and the radio hear and send, once. Nothing is left to do if the host
has sent nothing and the radio neither. -/
def exchangeOnce : Bool × Session :=
  let host := s.host.settle
  let (written, mux) := host.mux.takeWritten
  let radio := written.foldl (fun radio f => radio.hear s.now f) s.radio
  let (bytes, radio) := radio.send s.now
  (written.isEmpty && bytes.isEmpty,
   { s with
     host := { host with mux := { mux with received := mux.received ++ bytes } }
     radio
     heard := s.heard ++ written.map fun f => (s.now, f) })

/-- Let host and radio run at the present moment, in at most `fuel` turns. -/
def exchangeFor : (fuel : Nat) → Session → Session
  | 0, s => s
  | fuel + 1, s =>
    let (finished, s) := s.exchangeOnce
    if finished then s else exchangeFor fuel s

/-- More turns than host and radio take at one moment. -/
def enough : Nat := 100000

/-- Let host and radio run until nothing more happens at the present moment. -/
def exchange : Session := exchangeFor enough s

/-! ### The clock -/

/-- The next moment after the present one at which something happens by itself. -/
def nextMoment? : Option Nat :=
  let times := s.host.deadlines ++ s.radio.scheduled.map (·.time) ++ s.snapshot.toList
  (times.filter (s.now < ·)).min?

/-- How often the database is written. -/
def snapshotInterval : Nat := 30000

/-- Write the database if it is time to. -/
def takeSnapshot : Session :=
  match s.snapshot with
  | none => s
  | some time =>
    if time ≤ s.now then
      { s with
        host := { s.host with store := s.host.store.save.2 }
        snapshot := some (time + snapshotInterval) }
    else s

/-- Move the clock and let happen what happens then. -/
def moveTo (time : Nat) : Session :=
  { s with host := { s.host with clock := time } }.exchange.takeSnapshot

/-- Move the clock to the given time, stopping at most `fuel` times before. -/
def advanceFor (target : Nat) : (fuel : Nat) → Session → Session
  | 0, s => s.moveTo target
  | fuel + 1, s =>
    match s.nextMoment? with
    | some time => if time < target then advanceFor target fuel (s.moveTo time) else s.moveTo target
    | none => s.moveTo target

/-- Let so much time pass. -/
def wait (milliseconds : Nat) : Session := advanceFor (s.now + milliseconds) enough s

/-! ### What the user of the host does -/

/-- Start a call. -/
def call (name : String) (call : Call Reply) : Session :=
  { s with host := s.host.begin (.caller name) call }.exchange

/-- Give a call up. -/
def cancel (name : String) : Session := { s with host := s.host.cancel name }.exchange

/-- Change the multiplexer from outside. -/
def disturb (change : Multiplexer → Multiplexer) : Session :=
  { s with host := { s.host with mux := change s.host.mux } }.exchange

/-- Let bytes arrive from the radio. -/
def receive (bytes : List UInt8) : Session :=
  s.disturb fun mux =>
    if mux.connected then { mux with received := mux.received ++ bytes } else mux

/-- Take the radio's end off the line. -/
def disconnect : Session :=
  { s with radio := { rules := [] } }.disturb ({ · with connected := false })

/-- Stop the multiplexer. -/
def stop : Session := s.disturb ({ · with stopping := true })

/-- Give the radio another script. -/
def instruct (rules : List Rule) : Session := { s with radio := { s.radio with rules } }

/-- Let nobody take reports any more, except the failures of a bare multiplexer. -/
def deafen : Session :=
  let mux := s.host.mux
  { s with host := match s.host.setting.level with
    | .multiplexer => { s.host with mux := { mux with
        indications := mux.indications.abandon, frames := mux.frames.abandon } }
    | .coordinator => { s.host with routes := s.host.routes.abandon }
    | .stack => { s.host with
        reports := s.host.reports.abandon
        setting := { s.host.setting with logs := false } } }

/-- Put a directory in the way of the database, or take it away. -/
def changeDisk (change : Database.Disk → Database.Disk) : Session :=
  let store := s.host.store
  { s with host := { s.host with store := { store with disk := change store.disk } } }

/-! ### The end -/

/-- What is known of the multiplexer's end. -/
inductive Fate where
  | running
  | ended (result : Except Failure Unit)

/-- Wait a moment for something to become true. -/
def waitFor (condition : Session → Bool) : Session :=
  if condition s then s else s.wait 1

/-- What is known of the multiplexer's end. -/
def fate : Fate :=
  match s.host.mux.result? with
  | some result => .ended result
  | none => .running

/-- Ask for the multiplexer's end. -/
def joinMultiplexer : Fate × Session :=
  let s := s.waitFor (·.host.mux.result?.isSome)
  (s.fate, s)

/-- Ask for the ends of the multiplexer and the coordinator; they can be asked for once. -/
def joinCoordinator : Option (Fate × Bool) × Session :=
  if s.joined then (none, s)
  else
    let (fate, s) := s.joinMultiplexer
    let s := s.waitFor (!·.host.listening)
    (some (fate, !s.host.listening), { s with joined := true })

/-- Ask for the end of the stack. Whoever asks again learns nothing more. -/
def joinStack : Fate × Session :=
  if s.joined then (.ended (.ok ()), s)
  else
    let (fate, s) := s.joinMultiplexer
    (fate, { s with joined := true })

/-- Stop everything and write the database. -/
def shutdown : Except Failure Unit × Session :=
  let s := { s.stop with snapshot := none }
  let result := if s.joined then .ok () else s.host.mux.result?.getD (.ok ())
  let (saved, store) := s.host.store.save
  (match saved with
    | .error e => .error e
    | .ok _ => result,
   { s with host := { s.host with store }, joined := true })

/-! ### The start -/

/-- The session of a host that has done nothing. -/
def initial (setting : Host.Setting) (store : Database.Store) (rules : List Rule) : Session :=
  let mux := Multiplexer.initial
  let attended := setting.level = .multiplexer ∨ setting.captures
  { host := {
      setting
      store
      mux := if attended then mux else { mux with frames := mux.frames.abandon } }
    radio := { rules } }

/-- Let time pass until the stack has started or failed to, stopping at most `fuel` times. -/
def untilStarted : (fuel : Nat) → Session → Session
  | 0, s => s
  | fuel + 1, s =>
    if s.host.started.isSome then s
    else match s.nextMoment? with
      | some time => untilStarted fuel (s.moveTo time)
      | none => s

/-- Start the stack: bring the radio up, and write the database regularly from then on. If
that fails, everything is stopped again. -/
def start : Except Failure String × Session :=
  let bringUp : Call Reply := do
    bringUp s.host.setting.config
    return .nothing
  let s := untilStarted enough { s with host := s.host.begin .starter bringUp }.exchange
  match s.host.started with
  | some (.error e) => (.error e, s.shutdown.2)
  | _ => (.ok s.host.networkAddress, { s with snapshot := some (s.now + snapshotInterval) })

/-! ### Reports -/

/-- Something in one of the owner's queues. -/
inductive Event where
  /-- So many items have been lost. -/
  | lagged (count : Nat)
  | indication (i : Radio.Indication)
  | frame (f : Frame)
  | record (layout : Record.Layout) (value : layout.Carrier)
  | device (d : Device)
  | message (m : DeviceMessage)
  | failure (e : Failure)

/-- The events of a broadcast. -/
def eventsOf {α : Type} (b : Broadcast α) (event : α → Event) : List Event :=
  (if b.lost = 0 then [] else [.lagged b.lost]) ++ b.items.map event

/-- The events in the owner's queues, by queue. -/
def events : List (String × List Event) :=
  let mux := s.host.mux
  let routes := s.host.routes
  let reports := s.host.reports
  match s.host.setting.level with
  | .multiplexer =>
    [("messages", eventsOf mux.indications .indication),
     ("frames", eventsOf mux.frames .frame),
     ("errors", mux.errors.items.map .failure)]
  | .coordinator =>
    [("announce", routes.announce.items.map (.record _)),
     ("leave", routes.leave.items.map (.record _)),
     ("trust_center", routes.trustCenter.items.map (.record _)),
     ("incoming", routes.incoming.items.map fun m => .record _ m.toFields),
     ("errors", routes.errors.items.map .failure)]
  | .stack =>
    [("registered", reports.registered.items.map .device),
     ("became_available", reports.becameAvailable.items.map .device),
     ("unregistered", reports.unregistered.items.map .device),
     ("incoming", reports.incoming.items.map .message),
     ("errors", reports.errors.items.map .failure)]

/-- The session with the owner's queues empty. -/
def clearEvents : Session :=
  let mux := s.host.mux
  { s with host := match s.host.setting.level with
    | .multiplexer => { s.host with mux := { mux with
        indications := mux.indications.clear, frames := mux.frames.clear,
        errors := mux.errors.clear } }
    | .coordinator => { s.host with routes := s.host.routes.clear }
    | .stack => { s.host with reports := s.host.reports.clear } }

/-- The session with nothing left to tell but the events in the queues. -/
def clearReport : Session :=
  { s with heard := [], host := { s.host with ended := [], log := [] } }

end Session

end Zigbee.Simulation
