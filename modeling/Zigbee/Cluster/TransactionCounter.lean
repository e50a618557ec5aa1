/-!
# Transaction numbers

The frames of the cluster library that are sent are numbered 1 to 255 and then from 1
again; zero is never given out.
-/

namespace Zigbee.Cluster

/-- The number of the next frame. -/
structure TransactionCounter where
  next : UInt8
  next_ne_zero : next ≠ 0 := by decide
deriving DecidableEq, Repr

namespace TransactionCounter

/-- The counter whose next number is `first`, or one instead of zero. -/
def startingAt (first : UInt8) : TransactionCounter :=
  if h : first = 0 then ⟨1, by decide⟩ else ⟨first, h⟩

/-- The counter of a host that has sent nothing. -/
def initial : TransactionCounter := startingAt 1

/-- The counter after its next number has been given out. -/
def advance (c : TransactionCounter) : TransactionCounter :=
  startingAt (c.next + 1)

@[simp] theorem startingAt_next (c : TransactionCounter) : startingAt c.next = c := by
  simp [startingAt, c.next_ne_zero]

/-- The next `count` numbers. -/
def upcoming (c : TransactionCounter) : Nat → List UInt8
  | 0 => []
  | count + 1 => c.next :: c.advance.upcoming count

end TransactionCounter

end Zigbee.Cluster
