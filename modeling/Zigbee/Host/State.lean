import Zigbee.Database.Store
import Zigbee.Host.BringUp
import Zigbee.Host.Multiplexer
import Zigbee.Host.Registration
import Zigbee.Host.Reports
import Zigbee.Host.Routes

/-!
# The state of the host

Everything that the tasks of the host share, and the calls that are under way. A call is a
program that has been run up to an effect whose answer has to be waited for.
-/

namespace Zigbee.Host

open Cluster Radio Settings

/-- How much of the host runs. -/
inductive Level where
  /-- The multiplexer alone. -/
  | multiplexer
  /-- The coordinator on top of it. -/
  | coordinator
  /-- The registration of devices on top of that. -/
  | stack
deriving DecidableEq, Repr

/-- What a call returns. -/
inductive Reply where
  | nothing
  | record (layout : Record.Layout) (value : layout.Carrier)
  | network (c : Network.NetworkConfiguration)
  | frame (f : Cluster.Frame)
  /-- The network address of the coordinator, its light and its network. -/
  | identity (address : String) (led : Bool) (c : Network.NetworkConfiguration)
  | devices (ds : List Device)
  /-- A device, and how well it was last heard. -/
  | device (d : Option Device) (quality : Option (BitVec 8))

/-- In whose name a call runs. -/
inductive Owner where
  | caller (name : String)
  /-- The start of the stack. -/
  | starter
  /-- The registration of devices. -/
  | registrar
deriving DecidableEq, Repr

/-- The rest of a call. -/
abbrev Rest := Program (Except Failure Reply)

/-- What a call waits for. -/
inductive Pending where
  /-- The response to a submission. -/
  | response (ticket : Nat) (kind : RequestKind)
      (next : Except Failure kind.answer.Carrier → Rest)
  /-- That an order enters the queue. -/
  | acceptance (ticket : Nat) (next : Except Failure Unit → Rest)
  /-- The indication of a waiter, up to a deadline. -/
  | indication (waiter : Nat) (kind : IndicationKind) (milliseconds deadline : Nat)
      (next : Except Failure kind.layout.Carrier → Rest)

/-- A call that is under way. -/
structure Task where
  owner : Owner
  /-- The waiters that it has registered. -/
  held : List Nat
  pending : Pending

/-- A call that has ended. -/
structure Ended where
  time : Nat
  name : String
  result : Except Failure Reply

/-- What surrounds the host: its settings, the local time, and the text of the present
moment. -/
structure Setting where
  level : Level
  config : Config
  /-- How many milliseconds a request may take. -/
  requestLimit : Nat := 5000
  localTime : LocalTime
  moment : String
  /-- Whether the owner keeps a log instead of taking reports. -/
  logs : Bool := false
  /-- Whether received frames are written to a capture file. -/
  captures : Bool := false

/-- The host. -/
structure State where
  setting : Setting
  /-- Milliseconds since the start. -/
  clock : Nat := 0
  mux : Multiplexer := .initial
  waiters : Waiters := {}
  routes : Routes := {}
  /-- Whether the coordinator still takes indications. -/
  listening : Bool := true
  /-- Devices that have announced themselves. -/
  announced : Channel Announcement := { capacity := 100 }
  /-- Whether what the coordinator routes is still looked at. -/
  dispatching : Bool := true
  store : Database.Store
  reports : Reports := {}
  counter : TransactionCounter := .initial
  address : Option String := none
  /-- The calls, in the order in which they began to wait. -/
  tasks : List Task := []
  /-- How many submissions have been made. -/
  submitted : Nat := 0
  ended : List Ended := []
  started : Option (Except Failure Unit) := none
  log : List Log.Line := []
  captured : List Serial.Frame := []

namespace State

variable (s : State)

/-- The address of the coordinator before its start. -/
def usualAddress : String := "0x0000"

/-- The network address of the coordinator. -/
def networkAddress : String := s.address.getD usualAddress

/-- The end of a call. -/
def complete (owner : Owner) (result : Except Failure Reply) : State :=
  match owner with
  | .caller name => { s with ended := s.ended ++ [⟨s.clock, name, result⟩] }
  | .starter => { s with started := some (result.map fun _ => ()) }
  | .registrar => { s with reports := s.reports.reportResult (result.map fun _ => ()) }

/-- Let a call wait. -/
def suspend (owner : Owner) (held : List Nat) (pending : Pending) : State :=
  { s with tasks := s.tasks ++ [⟨owner, held, pending⟩] }

/-- Submit a frame; the answer is its ticket. -/
def submit (frame : Serial.Frame) (patience : Option Patience) : Nat × State :=
  let ticket := s.submitted + 1
  (ticket, { s with submitted := ticket, mux := s.mux.submit ⟨ticket, frame, patience⟩ })

/-- An indication of the expected kind. -/
def contentOf (kind : IndicationKind) (i : Indication) : Except Failure kind.layout.Carrier :=
  if h : i.kind = kind then .ok (h ▸ i.fields)
  else .error (.unexpectedResponse ("expected " ++ kind.name ++ ", got " ++ i.kind.name))

/-- Run a call until it ends or has to wait. -/
def advance (owner : Owner) : State → (held : List Nat) → Rest → State
  | s, _, .done result => s.complete owner result
  | s, held, .perform (.request kind fields) next =>
    match kind.layout.write fields with
    | .error e => advance owner s held (next (.error (.codec e)))
    | .ok payload =>
      let limit := s.setting.requestLimit
      let (ticket, s) := s.submit (kind.frame payload)
        (some ⟨kind.name, limit, s.clock + limit⟩)
      s.suspend owner held (.response ticket kind next)
  | s, held, .perform (.order kind fields) next =>
    match kind.layout.write fields with
    | .error e => advance owner s held (next (.error (.codec e)))
    | .ok payload =>
      let (ticket, s) := s.submit (kind.frame payload) none
      s.suspend owner held (.acceptance ticket next)
  | s, held, .perform (.register pattern) next =>
    let (waiter, waiters) := s.waiters.register pattern
    advance owner { s with waiters } (waiter :: held) (next waiter)
  | s, held, .perform (.await waiter kind milliseconds) next =>
    match s.waiters.expectation waiter with
    | .met i =>
      advance owner { s with waiters := s.waiters.remove waiter } held (next (contentOf kind i))
    | .lost => advance owner s held (next (.error .transportClosed))
    | .possible =>
      s.suspend owner held (.indication waiter kind milliseconds (s.clock + milliseconds) next)
  | s, held, .perform (.dismiss waiter) next =>
    advance owner { s with waiters := s.waiters.remove waiter } (held.erase waiter) (next ())
  | s, held, .perform (.encode builder) next =>
    let (frame, counter) := builder.encode s.counter
    advance owner { s with counter } held (next frame)
  | s, held, .perform .localTime next => advance owner s held (next s.setting.localTime)
  | s, held, .perform .networkAddress next => advance owner s held (next s.networkAddress)
  | s, held, .perform (.adoptAddress address) next =>
    advance owner { s with address := s.address <|> some address } held (next ())
  | s, held, .perform (.device ieee) next => advance owner s held (next (s.store.device? ieee))
  | s, held, .perform .devices next => advance owner s held (next s.store.devices)
  | s, held, .perform (.linkQuality ieee) next =>
    advance owner s held (next ((s.store.state? ieee).map (·.linkQuality)))
  | s, held, .perform (.insert d) next =>
    let (result, store) := s.store.insert d
    advance owner { s with store } held (next result)
  | s, held, .perform (.publish news) next =>
    let (result, reports) := s.reports.publish news
    advance owner { s with reports } held (next result)

/-- Begin a call. -/
def begin (owner : Owner) (call : Call Reply) : State := advance owner s [] call

/-- Give a call up: its waiters are forgotten, and what it has submitted is not awaited any
more. -/
def cancel (name : String) : State :=
  match s.tasks.find? (·.owner == .caller name) with
  | none => s
  | some task =>
    { s with
      tasks := s.tasks.filter (·.owner != .caller name)
      waiters := task.held.foldl Waiters.remove s.waiters
      mux := match task.pending with
        | .response ticket _ _ | .acceptance ticket _ => s.mux.giveUp ticket
        | .indication .. => s.mux }

end State

end Zigbee.Host
