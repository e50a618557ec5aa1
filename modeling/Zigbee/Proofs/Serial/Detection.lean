import Zigbee.Proofs.Serial.Packet
import Zigbee.Proofs.Serial.Sequence

/-!
# What the check byte detects

Bytes in the form of a frame are read as one exactly if everything behind the start byte, the
check byte included, sums up to zero, and the header names a subsystem. Sums are exclusive or,
so the sum of what is received differs from that of what was sent by the sum of the
differences. A change of a single byte is therefore always noticed, and a change of several
bytes unless the differences cancel. Only the length byte is different: it moves the check byte.
-/

namespace Zigbee.Serial

/-! ### Sums of bytes -/

variable {front back sent received : List UInt8} {b : UInt8}

theorem foldl_xor (start : UInt8) (bytes : List UInt8) :
    bytes.foldl (· ^^^ ·) start = start ^^^ checksum bytes := by
  induction bytes generalizing start with
  | nil => exact UInt8.xor_zero.symm
  | cons b rest ih =>
    rw [checksum, List.foldl_cons, List.foldl_cons, ih, ih, UInt8.zero_xor, UInt8.xor_assoc]

theorem checksum_cons : checksum (b :: back) = b ^^^ checksum back := by
  rw [checksum, List.foldl_cons, foldl_xor, UInt8.zero_xor]

theorem checksum_append : checksum (front ++ back) = checksum front ^^^ checksum back := by
  rw [checksum, List.foldl_append, foldl_xor, ← checksum]

/-- A check byte is the right one if it cancels what it covers. -/
theorem checksum_concat_eq_zero : checksum (front ++ [b]) = 0 ↔ b = checksum front := by
  rw [checksum_append, checksum_cons, show checksum [] = 0 from rfl, UInt8.xor_zero,
    UInt8.xor_eq_zero_iff]
  exact eq_comm

/-- The differences between two strings of bytes, byte for byte. -/
def differences (sent received : List UInt8) : List UInt8 :=
  List.zipWith (· ^^^ ·) sent received

theorem differences_cons {a : UInt8} : differences (a :: sent) (b :: received) =
    (a ^^^ b) :: differences sent received := rfl

theorem checksum_differences (length : sent.length = received.length) :
    checksum (differences sent received) = checksum sent ^^^ checksum received := by
  induction sent generalizing received with
  | nil =>
    obtain rfl := List.length_eq_zero_iff.mp length.symm
    rfl
  | cons a sent ih =>
    cases received with
    | nil => cases length
    | cons b received =>
      rw [differences_cons, checksum_cons, checksum_cons, checksum_cons, ih (Nat.succ.inj length)]
      ac_rfl

/-- If one byte is replaced, that is the only difference. -/
theorem checksum_differences_set {i : Nat} (inside : i < sent.length) :
    checksum (differences sent (sent.set i b)) = sent[i] ^^^ b := by
  induction sent generalizing i with
  | nil => cases inside
  | cons a sent ih =>
    cases i with
    | zero =>
      rw [List.set_cons_zero, differences_cons, checksum_cons, checksum_differences rfl,
        UInt8.xor_self, UInt8.xor_zero, List.getElem_cons_zero]
    | succ i =>
      rw [List.set_cons_succ, differences_cons, checksum_cons, UInt8.xor_self, UInt8.zero_xor,
        ih (Nat.lt_of_succ_lt_succ inside), List.getElem_cons_succ]

/-! ### Bytes in the form of a frame -/

/-- The lower five bits of a header byte are the number of a subsystem. -/
def NamesSubsystem (header : UInt8) : Prop := ∃ s : Subsystem, s.code = header.toNat % 32

theorem isSome_subsystem_iff {code : Nat} :
    (Subsystem.ofCode? code).isSome = true ↔ ∃ s : Subsystem, s.code = code := by
  rw [Subsystem.ofCode?, List.find?_isSome]
  constructor
  · rintro ⟨s, -, same⟩
    exact ⟨s, beq_iff_eq.mp same⟩
  · rintro ⟨s, rfl⟩
    exact ⟨s, by cases s <;> decide, beq_self_eq_true _⟩

namespace Frame

variable {length header command check : UInt8} {payload more : List UInt8} {f : Frame}

/-- What stands behind the start byte of bytes in the form of a frame. -/
def envelope (length header command : UInt8) (payload : List UInt8) (check : UInt8) :
    List UInt8 :=
  length :: header :: command :: payload ++ [check]

theorem checksum_envelope_eq_zero :
    checksum (envelope length header command payload check) = 0 ↔
      check = checksum (length :: header :: command :: payload) := checksum_concat_eq_zero

/-- The stream begins with a frame. -/
def Begins (stream : List UInt8) : Prop := ∃ f rest, readLast stream = (.ok f, rest)

theorem exists_ofParts_iff (fits : payload.length ≤ 255) :
    (∃ f, ofParts header command payload = .ok f) ↔ NamesSubsystem header := by
  have cases := Packet.parts_cases ⟨header, command, payload, fits⟩
  rw [Packet.parts, Packet.IsNamed, isSome_subsystem_iff] at cases
  obtain ⟨named, f, found, -⟩ | ⟨unnamed, -, e, failed⟩ := cases
  · exact ⟨fun _ => named, fun _ => ⟨f, found⟩⟩
  · refine ⟨fun ⟨f, found⟩ => ?_, fun named => absurd named unnamed⟩
    cases found.symm.trans failed

/-- Bytes in the form of a frame are read to their end, and are what their header makes of them
if the check byte is right. -/
theorem readLast_envelope (fills : payload.length = length.toNat) :
    readLast (startByte :: envelope length header command payload check ++ more) =
      if checksum (envelope length header command payload check) = 0 then
        (ofParts header command payload, more)
      else (.error (.badChecksum check (checksum (length :: header :: command :: payload))),
        more) := by
  have taken : (payload ++ check :: more).take length.toNat = payload := by
    rw [← fills, List.take_left]
  have left : (payload ++ check :: more).drop length.toNat = check :: more := by
    rw [← fills, List.drop_left]
  have shape : startByte :: envelope length header command payload check ++ more =
      startByte :: length :: header :: command :: (payload ++ check :: more) := by
    simp [envelope]
  rw [shape, readLast, scan, if_neg (Decidable.not_not.mpr rfl)]
  simp only [taken, left, List.cons_append, List.nil_append]
  by_cases right : check = checksum (length :: header :: command :: payload)
  · rw [if_neg (Decidable.not_not.mpr right), if_pos (checksum_envelope_eq_zero.mpr right)]
    cases ofParts header command payload <;> rfl
  · rw [if_pos right, if_neg fun zero => right (checksum_envelope_eq_zero.mp zero)]

/-- Bytes in the form of a frame begin with one exactly if their sum is zero and the header
names a subsystem. -/
theorem begins_envelope_iff (fills : payload.length = length.toNat) :
    Begins (startByte :: envelope length header command payload check ++ more) ↔
      checksum (envelope length header command payload check) = 0 ∧ NamesSubsystem header := by
  have fits : payload.length ≤ 255 := by
    have small := length.toNat_lt
    omega
  rw [Begins, readLast_envelope fills, ← exists_ofParts_iff fits]
  by_cases right : checksum (envelope length header command payload check) = 0
  · rw [if_pos right]
    exact ⟨fun ⟨f, rest, read⟩ => ⟨right, f, (Prod.mk.inj read).1⟩,
      fun ⟨_, f, found⟩ => ⟨f, more, Prod.ext found rfl⟩⟩
  · rw [if_neg right]
    refine ⟨fun ⟨f, rest, read⟩ => ?_, fun ⟨zero, _⟩ => absurd zero right⟩
    cases (Prod.mk.inj read).1

/-- A frame that fits is sent in the form of a frame, with the sum zero. -/
theorem bytes_eq_envelope (fits : f.Fits) :
    ∃ length, f.payload.length = length.toNat ∧
      f.bytes = startByte ::
        envelope length f.headerByte f.command f.payload
          (checksum (length :: f.headerByte :: f.command :: f.payload)) := by
  refine ⟨f.payload.length.toUInt8, ?_, rfl⟩
  unfold Fits at fits
  simp only [Nat.toUInt8_eq, UInt8.toNat_ofNat']
  omega

/-- Behind the start byte, what is sent cancels. -/
theorem checksum_bytes : checksum f.bytes = startByte := by
  rw [bytes, List.cons_append, checksum_cons, checksum_concat_eq_zero.mpr rfl, UInt8.xor_zero]

/-- Bytes of the same number and with the same first two are in the form of the same length. -/
theorem exists_envelope {received : List UInt8}
    (same : received.length =
      (startByte :: envelope length header command payload check).length)
    (front : received.take 2 = [startByte, length]) :
    ∃ header' command' payload' check', payload'.length = payload.length ∧
      received = startByte :: envelope length header' command' payload' check' := by
  match received, same, front with
  | start :: length' :: header' :: command' :: body, same, front =>
    obtain ⟨rfl, rfl⟩ : start = startByte ∧ length' = length := by simpa using front
    obtain rfl | ⟨payload', check', rfl⟩ := List.eq_nil_or_concat body
    · simp [envelope] at same
    · refine ⟨header', command', payload', check', ?_, ?_⟩
      · simpa [envelope] using same
      · simp [envelope]

/-! ### Changes on the way -/

variable {received : List UInt8}

/-- Where start and length are as they were sent, what is received has the form of a frame, and
its sum is that of the differences. -/
theorem exists_form_of_changed (fits : f.Fits) (same : received.length = f.bytes.length)
    (front : received.take 2 = f.bytes.take 2) :
    ∃ length header command payload check, payload.length = length.toNat ∧
      received = startByte :: envelope length header command payload check ∧
      checksum (envelope length header command payload check) =
        checksum (differences f.bytes received) := by
  obtain ⟨length, fills, sent⟩ := bytes_eq_envelope fits
  obtain ⟨header, command, payload, check, count, rfl⟩ :=
    exists_envelope (sent ▸ same) (front.trans (congrArg (List.take 2) sent))
  refine ⟨length, header, command, payload, check, count.trans fills, rfl, ?_⟩
  rw [checksum_differences same.symm, checksum_bytes, checksum_cons, ← UInt8.xor_assoc,
    UInt8.xor_self, UInt8.zero_xor]

/-- What is received in place of a frame begins with one exactly if the differences cancel and
the header still names a subsystem. -/
theorem begins_changed_iff (fits : f.Fits) (same : received.length = f.bytes.length)
    (front : received.take 2 = f.bytes.take 2) :
    Begins (received ++ more) ↔
      checksum (differences f.bytes received) = 0 ∧ NamesSubsystem (received.getD 2 0) := by
  obtain ⟨length, header, command, payload, check, fills, form, sum⟩ :=
    exists_form_of_changed fits same front
  rw [← sum, form]
  exact begins_envelope_iff fills

/-- Differences that do not cancel are noticed by the check byte. -/
theorem readLast_of_difference (more : List UInt8) (fits : f.Fits)
    (same : received.length = f.bytes.length) (front : received.take 2 = f.bytes.take 2)
    (differ : checksum (differences f.bytes received) ≠ 0) :
    ∃ expected actual, readLast (received ++ more) =
      (.error (.badChecksum expected actual), more) := by
  obtain ⟨length, header, command, payload, check, fills, form, sum⟩ :=
    exists_form_of_changed fits same front
  rw [form, readLast_envelope fills, sum, if_neg differ]
  exact ⟨_, _, rfl⟩

/-- A byte that is replaced, the length apart, is noticed where it stands first by the start
byte, and anywhere else by the check byte. -/
theorem readLast_set (fits : f.Fits) {i : Nat} (inside : i < f.bytes.length) {b : UInt8}
    (elsewhere : i ≠ 1) (new : b ≠ f.bytes[i]) :
    ∃ e rest, readLast (f.bytes.set i b ++ more) = (.error e, rest) ∧
      (e = .badStart b ∨ ∃ expected actual, e = .badChecksum expected actual) := by
  cases i with
  | zero =>
    have started : b ≠ startByte := new
    have replaced : f.bytes.set 0 b ++ more = b :: (f.bytes.tail ++ more) := rfl
    refine ⟨.badStart b, f.bytes.tail ++ more, ?_, .inl rfl⟩
    have scanned : scan (b :: (f.bytes.tail ++ more)) =
        .failed (.badStart b) (f.bytes.tail ++ more) := if_pos started
    rw [replaced, readLast, scanned]
  | succ i =>
    -- the length is as it was, so the check byte is where it was sent
    have front : (f.bytes.set (i + 1) b).take 2 = f.bytes.take 2 :=
      List.take_set_of_le (by omega)
    have differ : checksum (differences f.bytes (f.bytes.set (i + 1) b)) ≠ 0 := by
      rw [checksum_differences_set inside]
      exact fun cancels => new (UInt8.xor_eq_zero_iff.mp cancels).symm
    obtain ⟨expected, actual, read⟩ :=
      readLast_of_difference more fits List.length_set front differ
    exact ⟨_, _, read, .inr ⟨expected, actual, rfl⟩⟩

/-- Bytes in the form of a frame are read as one exactly if their sum behind the start byte is
zero and the header names a subsystem. So of a frame that is sent no byte but the length can be
changed without notice, and of changes behind the length only such as cancel. -/
theorem detects_changes :
    (∀ (length header command check : UInt8) (payload more : List UInt8),
      payload.length = length.toNat →
      (Begins (startByte :: envelope length header command payload check ++ more) ↔
        checksum (envelope length header command payload check) = 0 ∧ NamesSubsystem header)) ∧
    (∀ (f : Frame) (sent more : List UInt8), f.render = .ok sent →
      (∀ (i : Nat) (inside : i < sent.length) (b : UInt8), i ≠ 1 → b ≠ sent[i] →
        ∃ e rest, readLast (sent.set i b ++ more) = (.error e, rest) ∧
          (e = .badStart b ∨ ∃ expected actual, e = .badChecksum expected actual)) ∧
      (∀ received : List UInt8, received.length = sent.length →
        received.take 2 = sent.take 2 →
        (Begins (received ++ more) ↔
          checksum (differences sent received) = 0 ∧ NamesSubsystem (received.getD 2 0)))) := by
  refine ⟨fun length header command check payload more => begins_envelope_iff,
    fun f sent more rendered => ?_⟩
  obtain ⟨fits, rfl⟩ := render_eq_ok.mp rendered
  exact ⟨fun i inside b => readLast_set fits inside, fun received => begins_changed_iff fits⟩

/-- The bytes of a request with two bytes of payload. -/
def request : List UInt8 := [0xfe, 2, 0x21, 8, 3, 0, 0x28]

/-- One bit of the payload is missed, the same bit in two bytes is not, and without a subsystem
there is no frame. -/
theorem detects_changes_request :
    Begins (request ++ [0xfe]) ∧ ¬ Begins [0xfe, 0, 0x3f, 0, 0x3f] ∧
    (∃ e rest, readLast ([0xfe, 2, 0x21, 8, 0x43, 0, 0x28] ++ [0xfe]) = (.error e, rest) ∧
      (e = .badStart 0x43 ∨ ∃ expected actual, e = .badChecksum expected actual)) ∧
    Begins ([0xfe, 2, 0x21, 8, 0x43, 0x40, 0x28] ++ [0xfe]) := by
  obtain ⟨forms, changes⟩ := detects_changes
  have rendered : render ⟨.syncRequest, .sys, 8, [3, 0]⟩ = .ok request := rfl
  obtain ⟨single, several⟩ := changes _ request [0xfe] rendered
  refine ⟨(forms 2 0x21 8 0x28 [3, 0] [0xfe] rfl).mpr ⟨rfl, .sys, rfl⟩, fun begins => ?_,
    single 4 (by decide) 0x43 (by decide) (by decide),
    (several [0xfe, 2, 0x21, 8, 0x43, 0x40, 0x28] rfl rfl).mpr ⟨rfl, .sys, rfl⟩⟩
  obtain ⟨-, s, named⟩ := (forms 0 0x3f 0 0x3f [] [] rfl).mp begins
  cases s <;> cases named

end Frame

end Zigbee.Serial
