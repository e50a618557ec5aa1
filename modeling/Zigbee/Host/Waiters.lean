import Zigbee.Failure
import Zigbee.Radio.Indication

/-!
# Waiting for indications

A waiter is registered with a pattern and completed by the first indication that matches
it. It is registered before the request whose answer it waits for, so an answer that comes
early is not missed. One indication completes every waiter that it matches.
-/

namespace Zigbee.Host

open Radio

/-- Which indications a waiter accepts. -/
structure Pattern where
  kind : IndicationKind
  accepts : kind.layout.Carrier → Bool

namespace Pattern

/-- Whether the indication is of the kind and accepted. -/
def isMet (p : Pattern) (i : Indication) : Bool :=
  if h : i.kind = p.kind then p.accepts (h ▸ i.fields) else false

/-- Any indication of a kind. -/
def any (kind : IndicationKind) : Pattern := ⟨kind, fun _ => true⟩

end Pattern

/-- Somebody who waits. -/
structure Waiter where
  id : Nat
  pattern : Pattern

/-- The waiters. -/
structure Waiters where
  /-- How many waiters have been registered. The count has no bound here; a word of 64 bits
  holds it for the first `2 ^ 64 - 1` of them. -/
  issued : Nat := 0
  /-- Those that still wait, in the order of their registration. -/
  pending : List Waiter := []
  /-- The indications that completed others, until these take them. -/
  completed : List (Nat × Indication) := []
  /-- Whether no indications will come any more. -/
  closed : Bool := false

/-- What a waiter has to expect. -/
inductive Expectation where
  /-- Its indication has come. -/
  | met (i : Indication)
  /-- Its indication may still come. -/
  | possible
  /-- Its indication will not come. -/
  | lost

namespace Waiters

/-- Register a waiter; the answer is its number. -/
def register (w : Waiters) (pattern : Pattern) : Nat × Waiters :=
  let id := w.issued + 1
  (id, { w with
    issued := id
    pending := if w.closed then w.pending else w.pending ++ [⟨id, pattern⟩] })

/-- Hand an indication to every waiter that it matches; the answer is their number. -/
def dispatch (w : Waiters) (i : Indication) : Nat × Waiters :=
  let met := w.pending.filter (·.pattern.isMet i)
  (met.length, { w with
    pending := w.pending.filter (!·.pattern.isMet i)
    completed := w.completed ++ met.map fun waiter => (waiter.id, i) })

/-- Forget a waiter. -/
def remove (w : Waiters) (id : Nat) : Waiters :=
  { w with
    pending := w.pending.filter (·.id != id)
    completed := w.completed.filter (·.1 != id) }

/-- Let no indication come to any waiter, now or later. -/
def close (w : Waiters) : Waiters := { w with pending := [], closed := true }

/-- What a waiter has to expect. -/
def expectation (w : Waiters) (id : Nat) : Expectation :=
  match w.completed.lookup id with
  | some i => .met i
  | none => if w.pending.any (·.id == id) then .possible else .lost

/-- What a waiter gets that waits for so long while nothing happens. -/
def waitAlone (w : Waiters) (id milliseconds : Nat) (kind : IndicationKind) :
    Except Failure Indication × Waiters :=
  (match w.expectation id with
    | .met i => .ok i
    | .possible => .error (.timeout milliseconds kind.name)
    | .lost => .error .transportClosed,
   w.remove id)

end Waiters

end Zigbee.Host
