import Zigbee.Proofs.Serial.Stream

/-!
# Frames one after the other

A stream begins with a frame exactly if it begins with the bytes that the frame is written as:
the length, the two header bytes and the check byte leave no choice. So reading takes a frame
whole and nothing behind it, and a sequence of frames is read back from its bytes in order,
whatever they are followed by.
-/

namespace Zigbee.Serial

/-- The number under which a type is found is its own. -/
theorem FrameType.code_of_ofCode? {code : Nat} {t : FrameType} (h : ofCode? code = some t) :
    t.code = code := by
  have found := List.find?_some h
  exact beq_iff_eq.mp found

theorem Subsystem.code_of_ofCode? {code : Nat} {s : Subsystem} (h : ofCode? code = some s) :
    s.code = code := by
  have found := List.find?_some h
  exact beq_iff_eq.mp found

namespace Frame

variable {f : Frame} {stream rest : List UInt8} {frames : List Frame}

/-- No two header bytes stand for the same type and subsystem. -/
theorem eq_of_ofParts {header command : UInt8} {payload : List UInt8}
    (h : ofParts header command payload = .ok f) :
    f.headerByte = header ∧ f.command = command ∧ f.payload = payload := by
  unfold ofParts at h
  split at h
  · cases h
  · rename_i type htype
    split at h
    · cases h
    · rename_i subsystem hsubsystem
      obtain rfl := Except.ok.inj h
      refine ⟨UInt8.toNat_inj.mp ?_, rfl, rfl⟩
      rw [headerByte_toNat, FrameType.code_of_ofCode? htype, Subsystem.code_of_ofCode? hsubsystem]
      exact Nat.div_add_mod header.toNat 32

/-- A frame that is found stands at the start of the stream, byte for byte. -/
theorem eq_of_scan (h : scan stream = .frame f rest) : f.Fits ∧ stream = f.bytes ++ rest := by
  match stream, h with
  | start :: length :: header :: command :: body, h =>
    simp only [scan] at h
    split at h
    · cases h
    · rename_i started
      obtain rfl : start = startByte := Decidable.not_not.mp started
      split at h
      · rename_i check more behind
        split at h
        · cases h
        · rename_i checked
          split at h
          · rename_i found parts
            obtain ⟨rfl, rfl⟩ := Scan.frame.inj h
            obtain ⟨hheader, hcommand, hpayload⟩ := eq_of_ofParts parts
            have whole : body = found.payload ++ check :: more := by
              rw [hpayload, ← behind, List.take_append_drop]
            have count : found.payload.length = length.toNat := by
              have enough := congrArg List.length behind
              rw [List.length_drop, List.length_cons] at enough
              rw [hpayload, List.length_take]
              omega
            have small := length.toNat_lt
            refine ⟨show found.payload.length ≤ 255 by omega, ?_⟩
            have sum : check = checksum ([length, header, command] ++ found.payload) := by
              rw [hpayload]
              exact Decidable.not_not.mp checked
            have prefixed : found.payload.length.toUInt8 = length := by
              rw [count]
              exact UInt8.ofNat_toNat
            rw [bytes, prefixed, hheader, hcommand, whole, sum]
            simp
          · cases h
      · cases h
  | [], h => cases h
  | [start], h | [start, length], h | [start, length, header], h =>
    simp only [scan] at h
    split at h <;> cases h

theorem render_eq_ok {content : List UInt8} :
    f.render = .ok content ↔ f.Fits ∧ content = f.bytes := by
  by_cases fits : f.Fits
  · simp [render_of_fits fits, fits, eq_comm]
  · simp [render_of_not_fits fits, fits]

/-- Reading succeeds just on the bytes of a frame, and leaves what follows them. -/
theorem readLast_eq_ok : readLast stream = (.ok f, rest) ↔
    ∃ taken, f.render = .ok taken ∧ stream = taken ++ rest := by
  constructor
  · intro read
    unfold readLast at read
    split at read
    · rename_i found more scanned
      obtain ⟨same, rfl⟩ := Prod.mk.inj read
      obtain rfl := Except.ok.inj same
      obtain ⟨fits, whole⟩ := eq_of_scan scanned
      exact ⟨found.bytes, render_of_fits fits, whole⟩
    · cases (Prod.mk.inj read).1
    · cases (Prod.mk.inj read).1
  · rintro ⟨taken, rendered, rfl⟩
    obtain ⟨fits, rfl⟩ := render_eq_ok.mp rendered
    rw [readLast, scan_bytes fits]

/-- The bytes of frames that are written one after the other. -/
def renderAll : List Frame → Except Wire.CodecError (List UInt8)
  | [] => .ok []
  | f :: rest => do
    let front ← f.render
    let back ← renderAll rest
    return front ++ back

/-- Read so many frames, one after the other, unless one of them cannot be read. -/
def readMany : Nat → List UInt8 → Except FrameError (List Frame) × List UInt8
  | 0, stream => (.ok [], stream)
  | count + 1, stream =>
    match readLast stream with
    | (.ok f, rest) =>
      let (frames, left) := readMany count rest
      (frames.map (f :: ·), left)
    | (.error e, rest) => (.error e, rest)

/-- Frames can be written one after the other if each of them can be written. -/
theorem exists_renderAll (fit : ∀ f ∈ frames, f.Fits) :
    ∃ content, renderAll frames = .ok content := by
  induction frames with
  | nil => exact ⟨[], rfl⟩
  | cons f more ih =>
    obtain ⟨first, others⟩ := List.forall_mem_cons.mp fit
    obtain ⟨back, written⟩ := ih others
    refine ⟨f.bytes ++ back, ?_⟩
    rw [renderAll, render_of_fits first, written]
    rfl

theorem renderAll_cons_eq_ok {content : List UInt8} :
    renderAll (f :: frames) = .ok content ↔ ∃ front back, f.render = .ok front ∧
      renderAll frames = .ok back ∧ content = front ++ back := by
  rw [renderAll]
  cases f.render with
  | error e => simp [bind, Except.bind]
  | ok front =>
    cases renderAll frames with
    | error e => simp [bind, Except.bind]
    | ok back => simp [bind, Except.bind, pure, Except.pure, eq_comm]

/-- Frames are read back from their bytes, and what follows is left. -/
theorem readMany_renderAll {content : List UInt8} (written : renderAll frames = .ok content)
    (trailer : List UInt8) :
    readMany frames.length (content ++ trailer) = (.ok frames, trailer) := by
  induction frames generalizing content with
  | nil =>
    obtain rfl := Except.ok.inj written
    rfl
  | cons f more ih =>
    obtain ⟨front, back, first, others, rfl⟩ := renderAll_cons_eq_ok.mp written
    have read := readLast_eq_ok.mpr ⟨front, first, List.append_assoc front back trailer⟩
    rw [List.length_cons, readMany, read]
    simp only [ih others]
    rfl

/-- Whoever reads on after the last of the frames reads what follows them as if it stood alone. -/
theorem readAll_renderAll {content : List UInt8} (written : renderAll frames = .ok content)
    (trailer : List UInt8) :
    readAll (content ++ trailer) = (frames ++ (readAll trailer).1, (readAll trailer).2) := by
  induction frames generalizing content with
  | nil =>
    obtain rfl := Except.ok.inj written
    rfl
  | cons f more ih =>
    obtain ⟨front, back, first, others, rfl⟩ := renderAll_cons_eq_ok.mp written
    obtain ⟨fits, rfl⟩ := render_eq_ok.mp first
    have scanned : scan (f.bytes ++ back ++ trailer) = .frame f (back ++ trailer) := by
      rw [List.append_assoc, scan_bytes fits]
    rw [readAll]
    split
    · rename_i found left same
      obtain ⟨rfl, rfl⟩ := Scan.frame.inj (scanned.symm.trans same)
      rw [ih others]
      rfl
    · rename_i same
      cases scanned.symm.trans same
    · rename_i same
      cases scanned.symm.trans same

/-- Frames that fit are read back from the bytes they are written as, in order, and what follows
them is left unread, to be read as if it stood alone. What a frame is read from is the one string
of bytes that the frame is written as. -/
theorem streams_read_back :
    (∀ frames : List Frame, (∀ f ∈ frames, f.payload.length ≤ 255) →
      ∃ content, renderAll frames = .ok content ∧ ∀ trailer,
        readMany frames.length (content ++ trailer) = (.ok frames, trailer) ∧
        readAll (content ++ trailer) = (frames ++ (readAll trailer).1, (readAll trailer).2)) ∧
    (∀ (stream rest : List UInt8) (f : Frame), readLast stream = (.ok f, rest) →
      ∃ taken, f.render = .ok taken ∧ stream = taken ++ rest) := by
  refine ⟨fun frames fit => ?_, fun stream rest f => readLast_eq_ok.mp⟩
  obtain ⟨content, written⟩ := exists_renderAll fit
  exact ⟨content, written, fun trailer =>
    ⟨readMany_renderAll written trailer, readAll_renderAll written trailer⟩⟩

/-- A request, and an empty answer of no subsystem. -/
def exchanged : List Frame := [⟨.syncRequest, .sys, 8, [3, 0]⟩, ⟨.syncResponse, .reserved0, 0, []⟩]

/-- Two frames are read back from their bytes ahead of the start of a third, and the bytes of the
first are the ones it is read from. -/
theorem streams_read_back_exchanged :
    let content := [0xfe, 2, 0x21, 8, 3, 0, 0x28, 0xfe, 0, 0x60, 0, 0x60]
    readMany 2 (content ++ [0xfe, 2]) = (.ok exchanged, [0xfe, 2]) ∧
    ∃ taken, render ⟨.syncRequest, .sys, 8, [3, 0]⟩ = .ok taken ∧
      content ++ [0xfe, 2] = taken ++ [0xfe, 0, 0x60, 0, 0x60, 0xfe, 2] := by
  have fit : ∀ f ∈ exchanged, f.payload.length ≤ 255 := by decide
  obtain ⟨content, written, reads⟩ := streams_read_back.1 exchanged fit
  obtain rfl : _ = content := Except.ok.inj written
  exact ⟨(reads [0xfe, 2]).1, streams_read_back.2 _ _ _ rfl⟩

end Frame

end Zigbee.Serial
