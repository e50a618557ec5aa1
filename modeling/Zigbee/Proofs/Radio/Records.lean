import Zigbee.Proofs.Record.Acceptance
import Zigbee.Radio.Incoming
import Zigbee.Radio.Memory
import Zigbee.Radio.Request

/-!
# The radio's records read back

The layouts of all requests, answers, orders, stored parameters and indications pass the
checks under which records are read back. So whatever the radio sends is canonical and could
be sent again, and a canonical record arrives as it has been written. No two indications
share a key, so an indication is recognised by its own.
-/

namespace Zigbee.Radio

open Record Wire

/-- The layouts of what is exchanged with the radio, and of the parts that recur in them. -/
inductive RadioRecord : Layout → Prop where
  | request (kind : RequestKind) : RadioRecord kind.layout
  | answer (kind : RequestKind) : RadioRecord kind.answer
  | reset (kind : ResetKind) : RadioRecord kind.layout
  | parameter (item : MemoryItem) : RadioRecord item.layout
  | indication (kind : IndicationKind) : RadioRecord kind.layout
  | clockTime : RadioRecord clockTime
  | blockFailures : RadioRecord blockFailures
  | discoveredNetwork : RadioRecord discoveredNetwork
  | neighbor : RadioRecord neighbor
  | route : RadioRecord route
  | bindingTarget : RadioRecord bindingTarget
  | binding : RadioRecord binding
  | beacon : RadioRecord beacon

namespace RadioRecord

variable {L : Layout}

/-- Every layout of the radio passes the checks, and none holds an attribute value. -/
theorem isSound_and_isPlain (record : RadioRecord L) :
    L.isSound = true ∧ L.isPlain = true := by
  cases record with
  | request kind => cases kind <;> exact ⟨by decide +kernel, by decide +kernel⟩
  | answer kind => cases kind <;> exact ⟨by decide +kernel, by decide +kernel⟩
  | reset kind => cases kind <;> exact ⟨by decide +kernel, by decide +kernel⟩
  | parameter item => cases item <;> exact ⟨by decide +kernel, by decide +kernel⟩
  | indication kind => cases kind <;> exact ⟨by decide +kernel, by decide +kernel⟩
  | clockTime | blockFailures | discoveredNetwork | neighbor | route | bindingTarget | binding
  | beacon => exact ⟨by decide +kernel, by decide +kernel⟩

/-- What has been read is canonical, and what it is written as reads the same. -/
theorem accepted (record : RadioRecord L) {c c' : Cursor} {v : L.Carrier}
    (read : L.decode [] c = .ok (v, c')) :
    L.Canonical [] v ∧ ∃ bytes, L.write v = .ok bytes ∧ bytes.length ≤ c.remaining ∧
      c' = c.skip bytes.length ∧
      L.decode [] (Cursor.start bytes) = .ok (v, ⟨bytes.length, []⟩) := by
  obtain ⟨sound, plain⟩ := record.isSound_and_isPlain
  obtain ⟨canonical, rewritten⟩ := Layout.accepts sound plain read
  obtain ⟨bytes, written, inside, moved⟩ := rewritten 0
  have back := canonical.readsBack sound written 0 [] fun _ => rfl
  rw [List.append_nil, Nat.zero_add] at back
  exact ⟨canonical, bytes, written, inside, moved, back⟩

/-- A canonical record is read back from its bytes, whatever follows them. -/
theorem decode_write (record : RadioRecord L) {v : L.Carrier} {bytes : List UInt8}
    (canonical : L.Canonical [] v) (written : L.write v = .ok bytes) (tail : List UInt8)
    (atEnd : L.isOpen = true → tail = []) :
    L.decode [] (Cursor.start (bytes ++ tail)) = .ok (v, ⟨bytes.length, tail⟩) := by
  have back := canonical.readsBack record.isSound_and_isPlain.1 written 0 tail atEnd
  rwa [Nat.zero_add] at back

end RadioRecord

namespace Indication

/-- The key of an indication is its own. -/
theorem ofKey?_key (kind : IndicationKind) :
    IndicationKind.ofKey? kind.key.1 kind.key.2 = some kind := by
  cases kind <;> rfl

/-- An indication is recognised by its key and read from its payload. -/
theorem decode_key {indication : Indication} {payload : List UInt8}
    (canonical : indication.kind.layout.Canonical [] indication.fields)
    (written : indication.kind.layout.write indication.fields = .ok payload) :
    decode indication.kind.key.1 indication.kind.key.2 payload = .ok indication := by
  have read := (RadioRecord.indication indication.kind).decode_write canonical written []
    fun _ => rfl
  rw [List.append_nil] at read
  have whole := Layout.read_eq_ok.mpr ⟨_, read⟩
  rw [decode, ofKey?_key]
  show Except.map _ (Except.mapError _ (indication.kind.layout.read payload)) = _
  rw [whole]
  rfl

end Indication

/-- The records of the radio and their bytes say the same. Whatever is read is canonical, is
written in as many bytes as have been read, and reads the same from these; a canonical record
is read back from its bytes, whatever follows them unless it is open; and an indication is
recognised by its key. -/
theorem records_read_back :
    (∀ L, RadioRecord L → ∀ (c c' : Cursor) (v : L.Carrier), L.decode [] c = .ok (v, c') →
      L.Canonical [] v ∧ ∃ bytes, L.write v = .ok bytes ∧ bytes.length ≤ c.remaining ∧
        c' = c.skip bytes.length ∧
        L.decode [] (Cursor.start bytes) = .ok (v, ⟨bytes.length, []⟩)) ∧
    (∀ L, RadioRecord L → ∀ (v : L.Carrier) (bytes tail : List UInt8),
      L.Canonical [] v → L.write v = .ok bytes → (L.isOpen = true → tail = []) →
      L.decode [] (Cursor.start (bytes ++ tail)) = .ok (v, ⟨bytes.length, tail⟩)) ∧
    (∀ (indication : Indication) (payload : List UInt8),
      indication.kind.layout.Canonical [] indication.fields →
      indication.kind.layout.write indication.fields = .ok payload →
      Indication.decode indication.kind.key.1 indication.kind.key.2 payload = .ok indication) := by
  refine ⟨?_, ?_, ?_⟩
  · intro L record c c' v read
    exact record.accepted read
  · intro L record v bytes tail canonical written atEnd
    exact record.decode_write canonical written tail atEnd
  · intro indication payload canonical written
    exact Indication.decode_key canonical written

/-- The answer of a device that has bound one endpoint to the short address of another device. -/
def Indication.boundOnce : Indication :=
  ⟨.zdoMgmtBindRsp, ("0x1a2b", Status.success, 1, 0,
    [("0x00124b0001020304", 1, 6, (⟨2, by decide⟩, some "0x3c4d", none, none, ()), ())], ())⟩

/-- The bytes of that answer. -/
def Indication.boundOncePayload : List UInt8 :=
  [0x2b, 0x1a, 0, 1, 0, 1, 4, 3, 2, 1, 0, 0x4b, 0x12, 0, 1, 6, 0, 2, 0x4d, 0x3c]

open Indication in
theorem records_read_back_boundOnce :
    boundOnce.kind.layout.Canonical [] boundOnce.fields ∧
    boundOnce.kind.layout.decode [] (Cursor.start (boundOncePayload ++ [0xff])) =
      .ok (boundOnce.fields, ⟨20, [0xff]⟩) ∧
    Indication.decode .zdo 0xb3 boundOncePayload = .ok boundOnce := by
  have read : boundOnce.kind.layout.decode [] (Cursor.start boundOncePayload) =
      .ok (boundOnce.fields, ⟨20, []⟩) := by rfl
  have written : boundOnce.kind.layout.write boundOnce.fields = .ok boundOncePayload := by rfl
  have canonical := (records_read_back.1 _ (.indication .zdoMgmtBindRsp) _ _ _ read).1
  refine ⟨canonical, ?_, records_read_back.2.2 boundOnce _ canonical written⟩
  exact records_read_back.2.1 _ (.indication .zdoMgmtBindRsp) _ _ [0xff] canonical written nofun

end Zigbee.Radio
