import Zigbee.Proofs.Serial.Stream

/-!
# Packets with any header

A packet is what travels between the start byte and the check byte, whatever its two header
bytes mean. Its bytes are found again at the start of any stream that begins with them, and
they are a frame if the subsystem in the header has a name. All types of frames have one.
-/

namespace Zigbee.Serial

/-- What travels as a frame. -/
structure Packet where
  header : UInt8
  command : UInt8
  payload : List UInt8
  fits : payload.length ≤ 255

namespace Packet

/-- The bytes of a packet. -/
def bytes (p : Packet) : List UInt8 :=
  let content := [p.payload.length.toUInt8, p.header, p.command] ++ p.payload
  startByte :: content ++ [checksum content]

/-- What the receiver makes of a packet. -/
def parts (p : Packet) : Except FrameError Frame := Frame.ofParts p.header p.command p.payload

/-- The frame that the packet is. -/
def frame? (p : Packet) : Option Frame := p.parts.toOption

/-- Whether the subsystem in the header has a name. -/
def IsNamed (p : Packet) : Prop := (Subsystem.ofCode? (p.header.toNat % 32)).isSome = true

instance (p : Packet) : Decidable p.IsNamed := inferInstanceAs (Decidable (_ = _))

/-- A packet is found at the start of a stream. -/
theorem scan_bytes (p : Packet) (more : List UInt8) : Frame.scan (p.bytes ++ more) =
    match p.parts with
    | .ok f => .frame f more
    | .error e => .failed e more := by
  have length : p.payload.length.toUInt8.toNat = p.payload.length := by
    have fits := p.fits
    simp only [Nat.toUInt8_eq, UInt8.toNat_ofNat']
    omega
  unfold parts
  cases hparts : Frame.ofParts p.header p.command p.payload with
  | ok f => simp [bytes, Frame.scan, length, hparts]
  | error e => simp [bytes, Frame.scan, length, hparts]

theorem isSome_typeOfCode : ∀ code < 8, (FrameType.ofCode? code).isSome = true := by decide

/-- Whether a packet is a frame depends on its subsystem alone. -/
theorem parts_cases (p : Packet) :
    (p.IsNamed ∧ ∃ f, p.parts = .ok f ∧ p.frame? = some f) ∨
    (¬ p.IsNamed ∧ p.frame? = none ∧ ∃ e, p.parts = .error (.unknownHeader e)) := by
  have inside : p.header.toNat / 32 < 8 := by
    have := p.header.toNat_lt
    omega
  obtain ⟨type, htype⟩ := Option.isSome_iff_exists.mp (isSome_typeOfCode _ inside)
  unfold IsNamed frame? parts Frame.ofParts
  rw [htype]
  cases Subsystem.ofCode? (p.header.toNat % 32) with
  | some subsystem => exact .inl ⟨rfl, _, rfl, rfl⟩
  | none => exact .inr ⟨by simp, rfl, _, rfl⟩

end Packet

end Zigbee.Serial
