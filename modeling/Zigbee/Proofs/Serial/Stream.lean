import Zigbee.Serial.Frame

/-!
# Frames in a stream

The bytes of a frame that fits are found again at the start of any stream that begins with
them, and what has been found stays found when more bytes arrive.
-/

namespace Zigbee.Serial.Frame

/-- Whether the payload fits into one frame. -/
def Fits (f : Frame) : Prop := f.payload.length ≤ 255

instance (f : Frame) : Decidable f.Fits := inferInstanceAs (Decidable (_ ≤ _))

/-- The bytes of a frame that fits. -/
def bytes (f : Frame) : List UInt8 :=
  let content := [f.payload.length.toUInt8, f.headerByte, f.command] ++ f.payload
  startByte :: content ++ [checksum content]

theorem render_of_fits {f : Frame} (h : f.Fits) : f.render = .ok f.bytes := by
  unfold Fits at h
  simp only [render, bytes, if_pos h]

theorem render_of_not_fits {f : Frame} (h : ¬ f.Fits) :
    f.render = .error (.lengthOverflow f.payload.length 1) := by
  unfold Fits at h
  simp only [render, if_neg h]

theorem headerByte_toNat (f : Frame) :
    f.headerByte.toNat = 32 * f.type.code + f.subsystem.code := by
  have type := f.type.code_lt
  have subsystem := f.subsystem.code_lt
  simp only [headerByte, Nat.toUInt8_eq, UInt8.toNat_ofNat']
  omega

theorem ofParts_headerByte (f : Frame) : ofParts f.headerByte f.command f.payload = .ok f := by
  have subsystem := f.subsystem.code_lt
  have high : f.headerByte.toNat / 32 = f.type.code := by
    rw [headerByte_toNat]
    omega
  have low : f.headerByte.toNat % 32 = f.subsystem.code := by
    rw [headerByte_toNat]
    omega
  simp only [ofParts, high, low, FrameType.ofCode?_code, Subsystem.ofCode?_code]

/-- A frame that fits is found at the start of a stream. -/
theorem scan_bytes {f : Frame} (h : f.Fits) (more : List UInt8) :
    scan (f.bytes ++ more) = .frame f more := by
  have length : f.payload.length.toUInt8.toNat = f.payload.length := by
    simp only [Fits] at h
    simp only [Nat.toUInt8_eq, UInt8.toNat_ofNat']
    omega
  simp [bytes, scan, length, ofParts_headerByte]

/-- What has been found, with more bytes behind it. -/
def Scan.followedBy (more : List UInt8) : Scan → Scan
  | .frame f rest => .frame f (rest ++ more)
  | .failed error rest => .failed error (rest ++ more)
  | .incomplete => .incomplete

/-- What has been found, be it a frame or not, stays so when more bytes arrive. -/
theorem scan_append {received : List UInt8} (found : scan received ≠ .incomplete)
    (more : List UInt8) : scan (received ++ more) = (scan received).followedBy more := by
  match received, found with
  | start :: length :: header :: command :: body, found =>
    simp only [scan, List.cons_append] at found ⊢
    by_cases started : start ≠ startByte
    · rw [if_pos started, if_pos started]
      rfl
    · rw [if_neg started] at found
      rw [if_neg started, if_neg started]
      cases hdrop : body.drop length.toNat with
      | nil => simp [hdrop] at found
      | cons check tail =>
        have enough : length.toNat ≤ body.length := by
          have := congrArg List.length hdrop
          simp only [List.length_drop, List.length_cons] at this
          omega
        rw [List.take_append_of_le_length enough, List.drop_append_of_le_length enough, hdrop,
          List.cons_append]
        simp only
        split
        · rfl
        · cases ofParts header command (body.take length.toNat) <;> rfl
  | [], found => simp [scan] at found
  | [start], found | [start, length], found | [start, length, header], found =>
    by_cases started : start ≠ startByte
    · simp [scan, started, Scan.followedBy]
    · simp [scan, started] at found

/-- A frame that has been found stays found when more bytes arrive. -/
theorem scan_append_of_frame {f : Frame} {received rest : List UInt8}
    (h : scan received = .frame f rest) (more : List UInt8) :
    scan (received ++ more) = .frame f (rest ++ more) := by
  rw [scan_append (by simp [h]), h]
  rfl

/-- What is found in the first bytes of a stream of frames is the first frame. -/
theorem eq_of_scan_stream {f g : Frame} {received rest more later : List UInt8} (fits : g.Fits)
    (h : scan received = .frame f rest) (stream : received ++ more = g.bytes ++ later) :
    f = g ∧ rest ++ more = later := by
  have found := scan_append_of_frame h more
  rw [stream, scan_bytes fits] at found
  simp only [Scan.frame.injEq] at found
  exact ⟨found.1.symm, found.2.symm⟩

end Zigbee.Serial.Frame
