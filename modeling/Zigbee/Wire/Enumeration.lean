import Zigbee.Wire.Integer

/-!
# Closed sets of named numbers

An enumeration lists the names and numbers of a closed set and says in how many bytes
its numbers are carried. A member is a number of the list, so a number outside the
set cannot be held; reading one is an error that names the set.
-/

namespace Zigbee.Wire

/-- A closed set of named numbers of `size` bytes each. -/
structure Enumeration where
  name : String
  size : Nat
  members : List (String × Nat)
deriving DecidableEq, Repr

namespace Enumeration

variable (e : Enumeration)

/-- The numbers of the set, in the order of the list. -/
def codes : List Nat := e.members.map (·.2)

/-- A number of the set. -/
structure Member where
  code : Nat
  listed : code ∈ e.codes

instance : DecidableEq e.Member := fun a b =>
  if h : a.code = b.code then .isTrue (by cases a; cases b; cases h; rfl)
  else .isFalse fun eq => h (eq ▸ rfl)

variable {e}

theorem Member.ext {a b : e.Member} (h : a.code = b.code) : a = b := by
  cases a; cases b; cases h; rfl

/-- The name of a member: the first one listed for its number. -/
def Member.name (m : e.Member) : String :=
  ((e.members.find? (·.2 == m.code)).map (·.1)).getD ""

variable (e)

/-- The member with the given number. -/
def ofCode? (code : Nat) : Option e.Member :=
  if h : code ∈ e.codes then some ⟨code, h⟩ else none

/-- The member with the given name. -/
def ofName? (name : String) : Option e.Member := do
  let (_, code) ← e.members.find? (·.1 == name)
  e.ofCode? code

/-- The member with the given number; a number outside the set is an error. -/
def ofCode (code : Nat) : Except CodecError e.Member :=
  match e.ofCode? code with
  | some m => .ok m
  | none => .error (.unsupportedVariant e.name code)

/-- The number of the set that the low bytes of `bits` denote. -/
def ofBits (bits : Nat) : Except CodecError e.Member :=
  e.ofCode (bits % capacity e.size)

@[simp] theorem ofCode?_code (m : e.Member) : e.ofCode? m.code = some m := by
  simp [ofCode?, m.listed]

@[simp] theorem ofCode_code (m : e.Member) : e.ofCode m.code = .ok m := by
  simp [ofCode]

/-- Write a member as its number. -/
def encode (m : e.Member) : List UInt8 :=
  littleEndian e.size m.code

/-- Read a member from its number. -/
def decode : Reader e.Member := fun c => do
  let (code, c) ← getUInt e.size .little c
  let m ← e.ofCode code
  return (m, c)

end Enumeration

end Zigbee.Wire
