import Zigbee.Serial.Header
import Zigbee.Text.Hex

/-!
# Frames on the serial line

A frame is the start byte, the length of the payload, two header bytes, the payload
and a check byte, the exclusive or of everything between the start byte and itself.
`Frame.render` writes a frame. `Frame.scan` reads one from the bytes received so far:
it finds a frame, asks for more bytes, or reports why the bytes are no frame.
-/

namespace Zigbee.Serial

open Wire

/-- A frame; its length and check byte follow from it. -/
structure Frame where
  type : FrameType
  subsystem : Subsystem
  command : UInt8
  payload : List UInt8
deriving DecidableEq, Repr

/-- The first byte of every frame. -/
def startByte : UInt8 := 0xfe

/-- The exclusive or of all bytes. -/
def checksum (bytes : List UInt8) : UInt8 :=
  bytes.foldl (· ^^^ ·) 0

/-- Why received bytes are no frame. -/
inductive FrameError where
  /-- The first byte is not the start byte. -/
  | badStart (byte : UInt8)
  /-- The check byte `expected` was sent, but the content gives `actual`. -/
  | badChecksum (expected actual : UInt8)
  /-- The frame is intact, but nothing has the number in its header. -/
  | unknownHeader (error : CodecError)
  /-- The stream ended before the frame did. -/
  | endOfStream
deriving DecidableEq, Repr

namespace Frame

/-- The first header byte. -/
def headerByte (f : Frame) : UInt8 :=
  (32 * f.type.code + f.subsystem.code).toUInt8

/-- The bytes of a frame; a payload beyond one length byte does not fit. -/
def render (f : Frame) : Except CodecError (List UInt8) :=
  if f.payload.length ≤ 255 then
    let content := [f.payload.length.toUInt8, f.headerByte, f.command] ++ f.payload
    .ok (startByte :: content ++ [checksum content])
  else .error (.lengthOverflow f.payload.length 1)

/-- The frame with the given header bytes and payload. -/
def ofParts (header command : UInt8) (payload : List UInt8) : Except FrameError Frame :=
  match FrameType.ofCode? (header.toNat / 32) with
  | none => .error (.unknownHeader
      (.unsupportedVariant FrameType.enumeration.name (header.toNat / 32)))
  | some type =>
    match Subsystem.ofCode? (header.toNat % 32) with
    | none => .error (.unknownHeader
        (.unsupportedVariant Subsystem.enumeration.name (header.toNat % 32)))
    | some subsystem => .ok ⟨type, subsystem, command, payload⟩

/-- What the received bytes begin with. -/
inductive Scan where
  /-- A frame, and the bytes behind it. -/
  | frame (f : Frame) (rest : List UInt8)
  /-- Bytes that are no frame, and those behind them. -/
  | failed (error : FrameError) (rest : List UInt8)
  /-- The start of a frame, or nothing at all. -/
  | incomplete
deriving Repr

/-- Look for a frame at the start of the bytes. A wrong first byte is skipped alone; a
frame with a wrong check byte or an unknown header is skipped as a whole. -/
def scan : List UInt8 → Scan
  | [] => .incomplete
  | start :: rest =>
    if start ≠ startByte then .failed (.badStart start) rest
    else match rest with
      | length :: header :: command :: body =>
        let payload := body.take length.toNat
        match body.drop length.toNat with
        | check :: rest =>
          let actual := checksum ([length, header, command] ++ payload)
          if check ≠ actual then .failed (.badChecksum check actual) rest
          else match ofParts header command payload with
            | .ok f => .frame f rest
            | .error e => .failed e rest
        | [] => .incomplete
      | _ => .incomplete

/-- Read a frame from a stream that has ended: where more bytes would be needed, the
stream is over and nothing is left of it. -/
def readLast (bytes : List UInt8) : Except FrameError Frame × List UInt8 :=
  match scan bytes with
  | .frame f rest => (.ok f, rest)
  | .failed e rest => (.error e, rest)
  | .incomplete => (.error .endOfStream, [])

theorem length_rest_lt_of_scan_frame {bytes rest : List UInt8} {f : Frame}
    (h : scan bytes = .frame f rest) : rest.length < bytes.length := by
  match bytes, h with
  | start :: length :: header :: command :: body, h =>
    simp only [scan] at h
    split at h
    · simp at h
    · split at h
      · rename_i hdrop
        split at h
        · simp at h
        · split at h
          · simp only [Scan.frame.injEq] at h
            obtain ⟨-, rfl⟩ := h
            have := congrArg List.length hdrop
            simp only [List.length_drop, List.length_cons] at this ⊢
            omega
          · simp at h
      · simp at h
  | [], h => simp [scan] at h
  | [start], h => simp only [scan] at h; split at h <;> simp at h
  | [start, length], h => simp only [scan] at h; split at h <;> simp at h
  | [start, length, header], h => simp only [scan] at h; split at h <;> simp at h

/-- The frames at the start of a finished stream, why reading them stopped, and the
bytes left over. -/
def readAll (bytes : List UInt8) : List Frame × FrameError × List UInt8 :=
  match h : scan bytes with
  | .frame f rest =>
    have := length_rest_lt_of_scan_frame h
    let (frames, last) := readAll rest
    (f :: frames, last)
  | .failed e rest => ([], e, rest)
  | .incomplete => ([], .endOfStream, [])
termination_by bytes.length

/-- One line about a frame. -/
def describe (f : Frame) : String :=
  let payload := Text.Hex.ofBytes f.payload
  s!"CommandType={f.type.code} Subsystem={f.subsystem.code} Command={f.command} Payload={payload}"

/-- The code with which the radio refuses a request that it cannot read: it answers in
the name of the reserved subsystem. -/
def errorCode? (f : Frame) : Option UInt8 :=
  if f.type = .syncResponse ∧ f.subsystem = .reserved0 ∧ f.command = 0 then
    some (f.payload.headD 0)
  else none

end Frame

/-- What an error code of the radio means. -/
def errorCodeText (code : UInt8) : String :=
  if code = 1 then "Invalid subsystem"
  else if code = 2 then "Invalid command ID"
  else if code = 3 then "Invalid parameter"
  else if code = 4 then "Invalid length"
  else s!"unknown error code: {code}"

end Zigbee.Serial
