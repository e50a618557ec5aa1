import Zigbee.Wire.CodecError

/-!
# Reading position

A cursor is the unread rest of an input together with the number of bytes already
read. A reader takes a cursor and returns a value with the cursor behind it.
`inField` names a reader after a field: a failure inside it then carries that name
and the position at which the field starts.
-/

namespace Zigbee.Wire

/-- The unread rest of an input and the offset at which it starts. -/
structure Cursor where
  position : Nat
  rest : List UInt8
deriving DecidableEq, Repr

/-- A partial function from a position to a value and the position behind it. -/
abbrev Reader (α : Type) := Cursor → Except CodecError (α × Cursor)

namespace Cursor

/-- The start of an input. -/
def start (bytes : List UInt8) : Cursor := ⟨0, bytes⟩

/-- The number of bytes left. -/
def remaining (c : Cursor) : Nat := c.rest.length

/-- The position `n` bytes further on. -/
def skip (c : Cursor) (n : Nat) : Cursor := ⟨c.position + n, c.rest.drop n⟩

/-- The next `n` bytes; a shorter rest is a truncated input. -/
def take (n : Nat) : Reader (List UInt8) := fun c =>
  let front := c.rest.take n
  if front.length = n then .ok (front, c.skip n) else .error (.truncated n c.remaining)

/-- All the bytes that are left. -/
def takeRest : Reader (List UInt8) := fun c =>
  .ok (c.rest, ⟨c.position + c.rest.length, []⟩)

theorem take_eq_ok {n : Nat} {c : Cursor} (h : n ≤ c.rest.length) :
    take n c = .ok (c.rest.take n, c.skip n) := by
  simp [take, h]

theorem take_eq_error {n : Nat} {c : Cursor} (h : c.rest.length < n) :
    take n c = .error (.truncated n c.remaining) := by
  simp [take, Nat.ne_of_lt h, Nat.min_eq_right (Nat.le_of_lt h)]

@[simp] theorem take_append (front back : List UInt8) (position : Nat) :
    take front.length ⟨position, front ++ back⟩
      = .ok (front, ⟨position + front.length, back⟩) := by
  simp [take, skip]

end Cursor

/-- A failure of `result` becomes a failure in the field `name` at `offset`. -/
def inField {α : Type} (name : String) (offset : Nat) :
    Except CodecError α → Except CodecError α
  | .ok value => .ok value
  | .error source => .error (.field name offset source)

@[simp] theorem inField_ok {α : Type} (name : String) (offset : Nat) (value : α) :
    inField name offset (.ok value) = .ok value := rfl

@[simp] theorem inField_error {α : Type} (name : String) (offset : Nat) (source : CodecError) :
    inField (α := α) name offset (.error source) = .error (.field name offset source) := rfl

end Zigbee.Wire
