import Zigbee.Cluster.FrameBuilder
import Zigbee.Device
import Zigbee.Host.Retry
import Zigbee.Host.Waiters
import Zigbee.Radio.Request

/-!
# Programs of the host

What the host does in the name of a caller is a program: a tree of effects, each followed
by what to do with its answer. A program says nothing about how effects are carried out or
what happens meanwhile, so it can be run against a radio, a script or a proof.
-/

namespace Zigbee.Host

open Radio

/-- The local time of day. -/
structure LocalTime where
  year : BitVec 16
  month : BitVec 8
  day : BitVec 8
  hour : BitVec 8
  minute : BitVec 8
  second : BitVec 8
deriving DecidableEq, Repr

/-- What the owner of the host is told about a device. -/
inductive DeviceNews where
  /-- A new device has been interrogated. -/
  | registered (d : Device)
  /-- A known device has joined again. -/
  | becameAvailable (d : Device)
  | unregistered (d : Device)

/-- What a program asks for. -/
inductive Effect where
  /-- The radio's response to a request. -/
  | request (kind : RequestKind) (fields : kind.layout.Carrier)
  /-- To send an order. -/
  | order (kind : ResetKind) (fields : kind.layout.Carrier)
  /-- A new waiter. -/
  | register (pattern : Pattern)
  /-- The indication of a waiter, for so long. -/
  | await (waiter : Nat) (kind : IndicationKind) (milliseconds : Nat)
  /-- To forget a waiter. -/
  | dismiss (waiter : Nat)
  /-- The next frame of the cluster library, with its number. -/
  | encode (builder : Cluster.FrameBuilder)
  | localTime
  /-- The network address of the coordinator. -/
  | networkAddress
  /-- To keep the network address, if none is known yet. -/
  | adoptAddress (address : String)
  /-- The device with an extended address. -/
  | device (ieee : String)
  /-- Every device. -/
  | devices
  /-- How well a device was last heard. -/
  | linkQuality (ieee : String)
  /-- To keep a device. -/
  | insert (d : Device)
  /-- To tell the owner. -/
  | publish (news : DeviceNews)

/-- The answer to an effect. -/
@[reducible] def Effect.Answer : Effect → Type
  | .request kind _ => Except Failure kind.answer.Carrier
  | .order _ _ => Except Failure Unit
  | .register _ => Nat
  | .await _ kind _ => Except Failure kind.layout.Carrier
  | .dismiss _ => Unit
  | .encode _ => Except Failure (UInt8 × List UInt8)
  | .localTime => LocalTime
  | .networkAddress => String
  | .adoptAddress _ => Unit
  | .device _ => Option Device
  | .devices => List Device
  | .linkQuality _ => Option (BitVec 8)
  | .insert _ => Except Failure Unit
  | .publish _ => Except Failure Unit

/-- A program with a result. -/
inductive Program (α : Type) where
  | done (result : α)
  | perform (effect : Effect) (next : effect.Answer → Program α)

namespace Program

/-- A program, and then another one that depends on its result. -/
def bind {α β : Type} : Program α → (α → Program β) → Program β
  | done a, f => f a
  | perform effect next, f => perform effect fun answer => (next answer).bind f

instance : Monad Program where
  pure := done
  bind := bind

/-- The program of a single effect. -/
def ofEffect (effect : Effect) : Program effect.Answer := perform effect done

@[simp] theorem bind_done {α : Type} (p : Program α) : p.bind done = p := by
  induction p with
  | done a => rfl
  | perform effect next ih => simp [bind, ih]

theorem bind_bind {α β γ : Type} (p : Program α) (f : α → Program β) (g : β → Program γ) :
    (p.bind f).bind g = p.bind fun a => (f a).bind g := by
  induction p with
  | done a => rfl
  | perform effect next ih => simp [bind, ih]

end Program

/-- A program that may fail. -/
abbrev Call (α : Type) := ExceptT Failure Program α

namespace Call

/-- An effect that cannot fail. -/
def ask (effect : Effect) : Call effect.Answer := ExceptT.lift (.ofEffect effect)

/-- The radio's response to a request. -/
def request (kind : RequestKind) (fields : kind.layout.Carrier) : Call kind.answer.Carrier :=
  ExceptT.mk (.ofEffect (.request kind fields))

/-- Send an order. -/
def order (kind : ResetKind) (fields : kind.layout.Carrier) : Call Unit :=
  ExceptT.mk (.ofEffect (.order kind fields))

/-- The indication of a waiter, for so long. -/
def await (waiter : Nat) (kind : IndicationKind) (milliseconds : Nat) :
    Call kind.layout.Carrier :=
  ExceptT.mk (.ofEffect (.await waiter kind milliseconds))

/-- The next frame of the cluster library, with its number. -/
def encode (builder : Cluster.FrameBuilder) : Call (UInt8 × List UInt8) :=
  ExceptT.mk (.ofEffect (.encode builder))

/-- Keep a device. -/
def insert (d : Device) : Call Unit := ExceptT.mk (.ofEffect (.insert d))

/-- Tell the owner. -/
def publish (news : DeviceNews) : Call Unit := ExceptT.mk (.ofEffect (.publish news))

/-- The value of a check. -/
def check {α : Type} (result : Except Failure α) : Call α := ExceptT.mk (.done result)

/-- Register a waiter, use it, and forget it whatever comes. -/
def withWaiter {α : Type} (pattern : Pattern) (use : Nat → Call α) : Call α := do
  let waiter ← ask (.register pattern)
  let result ← ExceptT.lift (use waiter).run
  ask (.dismiss waiter)
  check result

end Call

end Zigbee.Host
