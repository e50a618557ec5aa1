import Zigbee.Proofs.Record.Reading
import Zigbee.Proofs.Wire.AddressText

/-!
# Readers that take just what was written

`Consumes read bytes value` says that a reader takes the bytes as the value wherever they
stand, whatever follows, and stops behind them. A reader that is put together from others
consumes what these consume, so a proof about it has the shape of its definition.
-/

namespace Zigbee.Wire

/-- The reader takes the bytes as the value, wherever they stand, and stops behind them. -/
def Consumes {α : Type} (read : Reader α) (bytes : List UInt8) (value : α) : Prop :=
  ∀ position rest, read ⟨position, bytes ++ rest⟩ = .ok (value, ⟨position + bytes.length, rest⟩)

theorem bind_of_ok {ε α β : Type} {x : Except ε α} {a : α} (f : α → Except ε β)
    (h : x = .ok a) : (x >>= f) = f a := by
  rw [h]
  rfl

namespace Consumes

variable {α β : Type} {read : Reader α} {bytes front back : List UInt8} {a : α} {b : β}

/-- A value that is there without reading. -/
theorem pure (value : α) : Consumes (fun c => .ok (value, c)) [] value := fun _ _ => rfl

theorem map {f : α → β} (h : Consumes read bytes a) :
    Consumes (fun c => do let (a, c) ← read c; return (f a, c)) bytes (f a) :=
  fun position rest => bind_of_ok _ (h position rest)

/-- What is made of the value that was read takes nothing more. -/
theorem andReturn {next : α × Cursor → Except CodecError (β × Cursor)} {b' : β}
    (h : Consumes read bytes a) (value : ∀ c, next (a, c) = .ok (b', c)) (same : b' = b) :
    Consumes (fun c => read c >>= next) bytes b :=
  fun position rest => same ▸ (bind_of_ok _ (h position rest)).trans (value _)

/-- Two readers take two strings of bytes one after the other. -/
theorem andThen {next : α × Cursor → Except CodecError (β × Cursor)}
    (first : Consumes read front a) (second : Consumes (fun c => next (a, c)) back b) :
    Consumes (fun c => read c >>= next) (front ++ back) b := by
  intro position rest
  rw [List.append_assoc, List.length_append, ← Nat.add_assoc]
  exact (bind_of_ok _ (first position _)).trans (second _ rest)

/-- A check that passes takes nothing. -/
theorem check {γ : Type} {x : Except CodecError γ} {g : γ}
    {next : Cursor → γ → Except CodecError (β × Cursor)} (passes : x = .ok g)
    (rest : Consumes (fun c => next c g) bytes b) : Consumes (fun c => x >>= next c) bytes b :=
  fun position more => (bind_of_ok _ passes).trans (rest position more)

theorem ifTrue {p : Prop} [Decidable p] {x y : Reader β} (holds : p) (taken : Consumes x bytes b) :
    Consumes (fun c => if p then x c else y c) bytes b :=
  fun position rest => (if_pos holds).trans (taken position rest)

theorem ifFalse {p : Prop} [Decidable p] {x y : Reader β} (fails : ¬p)
    (taken : Consumes y bytes b) : Consumes (fun c => if p then x c else y c) bytes b :=
  fun position rest => (if_neg fails).trans (taken position rest)

theorem named {name : String} (h : Consumes read bytes a) :
    Consumes (fun c => inField name c.position (read c)) bytes a :=
  fun position rest => inField_eq_ok.mpr (h position rest)

/-- A number that its slot can hold. -/
theorem number {width n : Nat} (narrow : width ≤ 8) (fits : n < capacity width)
    (order : ByteOrder) :
    Consumes (getUInt width order) (order.arrange (littleEndian width n)) n := by
  intro position rest
  rw [getUInt_arrange order n position rest narrow, Nat.mod_eq_of_lt fits,
    ByteOrder.length_arrange, length_littleEndian]

theorem littleEndian {width n : Nat} (narrow : width ≤ 8) (fits : n < capacity width) :
    Consumes (getUInt width .little) (littleEndian width n) n :=
  number narrow fits .little

/-- A count behind which as many things are read. -/
theorem length {width n : Nat} {count : List UInt8} (narrow : width ≤ 8)
    (written : putLength n width = .ok count) : Consumes (getLength width) count n := by
  unfold putLength at written
  split at written
  · rename_i bytes number
    obtain rfl := Except.ok.inj written
    obtain ⟨fits, rfl⟩ := putUInt_eq_ok.mp number
    exact littleEndian narrow fits
  · cases written

theorem take (bytes : List UInt8) : Consumes (Cursor.take bytes.length) bytes bytes :=
  fun position rest => Cursor.take_append bytes rest position

theorem octets {count : Nat} (octets : Attribute.Octets count) :
    Consumes (Attribute.readOctets count) octets.val octets :=
  fun position rest => @Record.Layout.reads_octets [] _ octets position rest

theorem address {text : String} {width : Nat} (narrow : width ≤ 8)
    (written : HexAddress.encode text width = .ok bytes) :
    Consumes (HexAddress.decode width) bytes (HexAddress.carried width text) := by
  obtain ⟨value, parsed, rfl⟩ := HexAddress.encode_eq_ok.mp written
  have fits := HexAddress.lt_capacity_of_parse? parsed
  rw [HexAddress.carried, parsed]
  exact (littleEndian narrow fits).map

end Consumes

end Zigbee.Wire

namespace Zigbee.Wire.Enumeration

/-- Whether the numbers of the set fit into the bytes in which they are carried. -/
def isSound (e : Enumeration) : Bool := decide (e.size ≤ 8) && e.codes.all (· < capacity e.size)

theorem size_le_of_isSound {e : Enumeration} (sound : e.isSound = true) : e.size ≤ 8 := by
  simp only [isSound, Bool.and_eq_true, decide_eq_true_eq] at sound
  exact sound.1

theorem code_lt_of_isSound {e : Enumeration} (sound : e.isSound = true) (m : e.Member) :
    m.code < capacity e.size := by
  simp only [isSound, Bool.and_eq_true, List.all_eq_true, decide_eq_true_eq] at sound
  exact sound.2 m.code m.listed

/-- A member is read back from its number. -/
theorem consumes_decode {e : Enumeration} (sound : e.isSound = true) (m : e.Member) :
    Consumes e.decode (e.encode m) m := by
  rw [← List.append_nil (e.encode m)]
  refine (Consumes.littleEndian (size_le_of_isSound sound) (code_lt_of_isSound sound m)).andThen ?_
  exact .check (e.ofCode_code m) (.pure m)

end Zigbee.Wire.Enumeration
