import Zigbee.Cluster.Frame
import Zigbee.Proofs.Cluster.Naming
import Zigbee.Proofs.Record.Verbatim

/-!
# Frames read back

A frame that says in its control byte whether it has a manufacturer's code is read back from
its bytes; every frame that a command is built into is one of these. The payload then says
which command it is: by its number alone if it belongs to all clusters, else by its cluster,
its direction and its number, which no other command shares. Conversely the header has no bit
to spare, so the bytes of a frame are those it is read from.
-/

namespace Zigbee.Cluster

open Record Wire

variable {bytes : List UInt8}

/-! ### Headers -/

theorem isSound_frameLayout : frameLayout.isSound = true := by decide +kernel

theorem keepsBytes_frameLayout : frameLayout.keepsBytes = true := by decide +kernel

theorem fits_frameType (t : FrameType) : (choice "frame_type" frameTypes 0x3).Fits t := by
  have every : ∀ code ∈ frameTypes.codes,
      carriedBits 0x3 (BitVec.ofNat 64 code) = BitVec.ofNat 64 code := by decide +kernel
  exact every t.code t.listed

theorem fits_direction (d : Direction) : (choice "direction" directions 0x8).Fits d := by
  have every : ∀ code ∈ directions.codes,
      carriedBits 0x8 (BitVec.ofNat 64 code) = BitVec.ofNat 64 code := by decide +kernel
  exact every d.code d.listed

theorem fits_reserved : (small "reserved" 0xe0).Fits (0 : BitVec 8) := by
  show carriedBits 0xe0 0 = 0
  decide +kernel

namespace RawFrame

variable {f : RawFrame}

/-- The control byte says whether there is a manufacturer's code, and the bits it reserves are
clear. -/
structure WellFormed (f : RawFrame) : Prop where
  announced : f.control.manufacturerSpecific = f.manufacturerCode.isSome
  reserved : f.control.reserved = 0

theorem canonical_toFields (wellFormed : f.WellFormed) :
    frameLayout.Canonical [] f.toFields := by
  obtain ⟨⟨type, specific, direction, disable, reserved⟩, code, number, id, payload⟩ := f
  obtain ⟨announced, clear⟩ := wellFormed
  dsimp only at announced clear
  subst announced clear
  refine ⟨⟨?_, trivial⟩, ?_, fun _ _ => trivial, trivial, trivial, trivial, trivial⟩
  · exact ⟨fits_frameType type, BitField.fits_of_isFirm (by decide +kernel),
      fits_direction direction, BitField.fits_of_isFirm (by decide +kernel), fits_reserved, trivial⟩
  · cases code <;> rfl

theorem decode_eq_ok : decode bytes = .ok f ↔ frameLayout.read bytes = .ok f.toFields := by
  unfold decode
  cases frameLayout.read bytes with
  | ok fields =>
    constructor
    · intro same
      obtain rfl : ofFields fields = f := Except.ok.inj same
      rfl
    · intro same
      exact congrArg (fun fields => Except.ok (ofFields fields)) (Except.ok.inj same)
  | error e => exact iff_of_false nofun nofun

/-- Nothing is left over behind a frame. -/
theorem rest_eq_nil {fields : frameLayout.Carrier} {c c' : Cursor}
    (read : frameLayout.decode [] c = .ok (fields, c')) : c'.rest = [] := by
  obtain ⟨control, code, number, id, payload, ⟨⟩⟩ := fields
  obtain ⟨second, -, read⟩ := Layout.decode_field_eq_ok.mp read
  obtain ⟨third, -, read⟩ := decode_optional_eq_ok.mp read
  obtain ⟨fourth, -, read⟩ := Layout.decode_field_eq_ok.mp read
  obtain ⟨fifth, -, read⟩ := Layout.decode_field_eq_ok.mp read
  obtain ⟨last, payloadRead, read⟩ := Layout.decode_field_eq_ok.mp read
  cases payloadRead
  cases read
  rfl

/-- A frame is read back from its bytes. -/
theorem decode_of_encode (wellFormed : f.WellFormed) (written : f.encode = .ok bytes) :
    decode bytes = .ok f := by
  have read := (canonical_toFields wellFormed).readsBack isSound_frameLayout written 0 []
    fun _ => rfl
  rw [List.append_nil] at read
  exact decode_eq_ok.mpr (Layout.read_eq_ok.mpr ⟨_, read⟩)

/-- A frame has the bytes it is read from. -/
theorem encode_of_decode (read : decode bytes = .ok f) : f.encode = .ok bytes := by
  obtain ⟨c, read⟩ := Layout.read_eq_ok.mp (decode_eq_ok.mp read)
  obtain ⟨front, here, written⟩ := Layout.verbatim keepsBytes_frameLayout read
  rw [rest_eq_nil read, List.append_nil] at here
  obtain rfl : bytes = front := here
  exact written 0

end RawFrame

/-! ### Payloads -/

theorem GlobalKind.isSound_layout (kind : GlobalKind) : kind.layout.isSound = true := by
  cases kind <;> decide +kernel

theorem LocalKind.isSound_layout (kind : LocalKind) : kind.layout.isSound = true := by
  cases kind <;> decide +kernel

/-- No two commands share their cluster, their direction and their number. -/
theorem LocalKind.ofKey?_key (kind : LocalKind) :
    LocalKind.ofKey? kind.clusterCode kind.direction kind.id = some kind := by
  cases kind <;> rfl

theorem LocalKind.isSome_ofCode? (kind : LocalKind) :
    (clusterIds.ofCode? kind.clusterCode).isSome = true := by
  cases kind <;> rfl

/-- A canonical record is all there is in its bytes. -/
theorem read_write {L : Layout} {v : L.Carrier} (sound : L.isSound = true)
    (canonical : L.Canonical [] v) (written : L.write v = .ok bytes) : L.read bytes = .ok v := by
  have read := canonical.readsBack sound written 0 [] fun _ => rfl
  rw [List.append_nil] at read
  exact Layout.read_eq_ok.mpr ⟨_, read⟩

theorem GlobalCommand.decode_of_encode {command : GlobalCommand}
    (canonical : (Command.general command).Canonical) (written : command.encode = .ok bytes) :
    GlobalCommand.decode command.kind.id bytes = .ok command := by
  rw [GlobalCommand.decode, GlobalKind.ofId?_id]
  have read := read_write command.kind.isSound_layout canonical written
  show Except.map _ (Except.mapError _ (command.kind.layout.read bytes)) = _
  rw [read]
  rfl

theorem LocalCommand.decode_of_encode {command : LocalCommand} {cluster : BitVec 16}
    (canonical : (Command.specific command).Canonical)
    (belongs : cluster.toNat = command.kind.clusterCode) (written : command.encode = .ok bytes) :
    LocalCommand.decode cluster command.kind.direction command.kind.id bytes = .ok command := by
  have known : ¬(clusterIds.ofCode? command.kind.clusterCode).isNone = true := by
    rw [Option.isNone_eq_false_iff.mpr command.kind.isSome_ofCode?]
    exact Bool.false_ne_true
  rw [LocalCommand.decode, belongs, if_neg known, LocalKind.ofKey?_key]
  have read := read_write command.kind.isSound_layout canonical written
  show Except.map _ (Except.mapError _ (command.kind.layout.read bytes)) = _
  rw [read]
  rfl

/-! ### Frames of commands -/

namespace Command

/-- The frame type of the command. -/
def frameType : Command → FrameType
  | general _ => .profileWide
  | specific _ => .clusterSpecific

/-- The direction in which the command is sent. -/
def direction : Command → Direction
  | general _ => .toServer
  | specific c => c.kind.direction

/-- The cluster knows the command. -/
def BelongsTo (cluster : BitVec 16) : Command → Prop
  | general _ => True
  | specific c => cluster.toNat = c.kind.clusterCode

/-- The builder of the command. -/
def builder : Command → FrameBuilder
  | general c => .general c
  | specific c => .specific c

/-- The frame of the command with a payload. -/
def frame (command : Command) (code : Option (BitVec 16)) (disable : Bool) (number : UInt8)
    (payload : List UInt8) : RawFrame :=
  ⟨⟨command.frameType, code.isSome, command.direction, disable, 0⟩, code, number, command.id,
    payload⟩

end Command

namespace FrameBuilder

/-- The settings that a caller may add to a command: a manufacturer's code, and whether the
command is not to be acknowledged. -/
def options (code : Option (BitVec 16)) (disable : Bool) : List FrameSetting :=
  code.toList.map .manufacturerCode ++ [.disableDefaultResponse disable]

variable {command : Command} {code : Option (BitVec 16)} {disable : Bool} {number : UInt8}

/-- A command is built into its frame, if its payload can be written. -/
theorem build_builder : (command.builder.setAll (options code disable)).build number =
    (command.encode.mapError .codec).map (command.frame code disable number) := by
  cases command <;> cases code <;> rfl

theorem encode_fst_eq_ok {b : FrameBuilder} {counter : TransactionCounter} :
    (b.encode counter).1 = .ok (number, bytes) ↔
      ∃ frame, b.build counter.next = .ok frame ∧ frame.encode = .ok bytes ∧
        counter.next = number := by
  unfold encode
  cases b.build counter.next with
  | error e => exact iff_of_false nofun nofun
  | ok frame =>
    constructor
    · intro sent
      refine ⟨frame, rfl, ?_⟩
      cases written : frame.encode with
      | error e => simp only [written, reduceCtorEq] at sent
      | ok front =>
        simp only [written, Except.ok.injEq, Prod.mk.injEq] at sent
        exact ⟨congrArg _ sent.2, sent.1⟩
    · rintro ⟨_, ⟨⟩, written, rfl⟩
      simp only [written]

end FrameBuilder

/-- What is sent for a command is its frame around its payload. -/
theorem exists_payload {command : Command} {code : Option (BitVec 16)} {disable : Bool}
    {counter : TransactionCounter} {number : UInt8}
    (sent : ((command.builder.setAll (FrameBuilder.options code disable)).encode counter).1 =
      .ok (number, bytes)) :
    ∃ payload, command.encode = .ok payload ∧
      (command.frame code disable number payload).encode = .ok bytes := by
  obtain ⟨frame, built, written, rfl⟩ := FrameBuilder.encode_fst_eq_ok.mp sent
  rw [FrameBuilder.build_builder] at built
  cases payloadWritten : command.encode with
  | error e => rw [payloadWritten] at built; cases built
  | ok payload =>
    rw [payloadWritten] at built
    cases built
    exact ⟨payload, rfl, written⟩

namespace Frame

variable {command : Command} {cluster : BitVec 16} {payload : List UInt8}

/-- The payload of the frame of a command holds the command, up to names. -/
theorem resolve_frame (code : Option (BitVec 16)) (disable : Bool) (number : UInt8)
    (canonical : command.Canonical) (belongs : command.BelongsTo cluster)
    (written : command.encode = .ok payload) :
    ∃ resolved, resolve cluster (command.frame code disable number payload) = .ok resolved ∧
      resolved.unnamed = command := by
  cases command with
  | general c =>
    have read := GlobalCommand.decode_of_encode canonical written
    refine ⟨.general ((findCluster? cluster).elim c c.resolveNames), ?_, ?_⟩
    · exact (if_pos rfl).trans (bind_eq_ok.mpr ⟨c, read, rfl⟩)
    · have same := canonical.unnamed_eq
      cases findCluster? cluster with
      | none => exact same
      | some descriptor =>
        have named := GlobalCommand.unnamed_resolveNames descriptor c
        exact (congrArg Command.general named).trans same
  | specific c =>
    have read := LocalCommand.decode_of_encode canonical belongs written
    have local_ : FrameType.clusterSpecific ≠ FrameType.profileWide := by decide
    exact ⟨.specific c, (if_neg local_).trans (bind_eq_ok.mpr ⟨c, read, rfl⟩), canonical.unnamed_eq⟩

end Frame

/-- A canonical command that is sent is read back on its cluster, on any cluster if it belongs
to all of them: with the number it has been sent under and the settings of its frame, and with
nothing added to it but names of attributes. Whatever is read as a frame is the one string of
bytes that the frame is written as. -/
theorem frames_read_back :
    (∀ (command : Command) (code : Option (BitVec 16)) (disable : Bool)
        (counter : TransactionCounter) (cluster : BitVec 16) (number : UInt8)
        (bytes : List UInt8),
      command.Canonical → command.BelongsTo cluster →
      ((command.builder.setAll (FrameBuilder.options code disable)).encode counter).1 =
        .ok (number, bytes) →
      sequenceNumber? bytes = some number ∧
      ∃ frame, Frame.decode cluster bytes = .ok frame ∧
        frame.control.type = command.frameType ∧
        frame.control.direction = command.direction ∧
        frame.manufacturerCode = code ∧
        frame.control.disableDefaultResponse = disable ∧
        frame.sequenceNumber = number ∧
        frame.commandId = command.id ∧
        frame.command.unnamed = command) ∧
    (∀ (bytes : List UInt8) (f : RawFrame), RawFrame.decode bytes = .ok f →
      f.encode = .ok bytes) := by
  refine ⟨?_, fun bytes f read => RawFrame.encode_of_decode read⟩
  intro command code disable counter cluster number bytes canonical belongs sent
  obtain ⟨payload, payloadWritten, written⟩ := exists_payload sent
  have read := RawFrame.decode_of_encode ⟨rfl, rfl⟩ written
  obtain ⟨resolved, resolves, same⟩ :=
    Frame.resolve_frame code disable number canonical belongs payloadWritten
  refine ⟨by rw [sequenceNumber?, read]; rfl, ?_⟩
  refine ⟨⟨(command.frame code disable number payload).control, code, number, command.id, resolved⟩,
    ?_, rfl, rfl, rfl, rfl, rfl, rfl, same⟩
  rw [Frame.decode, read]
  exact bind_eq_ok.mpr ⟨_, rfl, bind_eq_ok.mpr ⟨resolved, resolves, rfl⟩⟩

/-- The report of a lamp that has been switched on. -/
def Command.lampReport : Command :=
  .general ⟨.reportAttributes, ([("", 0, .boolean true, ())], ())⟩

theorem frames_read_back_lampReport :
    Command.lampReport.Canonical ∧ Command.lampReport.BelongsTo 6 ∧
    (∃ frame, Frame.decode 6 [0x14, 0x5f, 0x11, 0x2a, 0x0a, 0, 0, 0x10, 1] = .ok frame ∧
      frame.manufacturerCode = some 0x115f ∧ frame.control.disableDefaultResponse = true ∧
      frame.sequenceNumber = 0x2a ∧ frame.command.unnamed = Command.lampReport) ∧
    RawFrame.encode ⟨⟨.profileWide, true, .toServer, true, 0⟩, some 0x115f, 0x2a, 0x0a,
      [0, 0, 0x10, 1]⟩ = .ok [0x14, 0x5f, 0x11, 0x2a, 0x0a, 0, 0, 0x10, 1] := by
  have canonical : Command.lampReport.Canonical := by
    refine ⟨fun x member => ?_, trivial⟩
    obtain rfl := List.mem_singleton.mp member
    exact ⟨rfl, trivial, trivial, trivial⟩
  obtain ⟨-, frame, read, -, -, code, disable, number, -, same⟩ :=
    frames_read_back.1 Command.lampReport (some 0x115f) true (.startingAt 0x2a) 6 0x2a
      [0x14, 0x5f, 0x11, 0x2a, 0x0a, 0, 0, 0x10, 1] canonical trivial (by rfl)
  exact ⟨canonical, trivial, ⟨frame, read, code, disable, number, same⟩,
    frames_read_back.2 _ _ (by rfl)⟩

end Zigbee.Cluster
