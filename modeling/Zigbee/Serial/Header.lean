import Zigbee.Wire.Enumeration

/-!
# Frame headers

The two header bytes of a frame hold its type in the upper three bits, the subsystem
in the lower five, and the number of the command. All eight types have a name; of the
subsystem numbers only some have.
-/

namespace Zigbee.Serial

/-- The type of a frame. -/
inductive FrameType where
  | poll
  /-- A request that is answered at once. -/
  | syncRequest
  /-- A request or indication that is not answered. -/
  | asyncRequest
  /-- The answer to a request. -/
  | syncResponse
  | reserved0
  | reserved1
  | reserved2
  | reserved3
deriving DecidableEq, Repr

namespace FrameType

/-- Every frame type. -/
def all : List FrameType :=
  [poll, syncRequest, asyncRequest, syncResponse, reserved0, reserved1, reserved2, reserved3]

/-- The number in the upper three bits. -/
def code : FrameType → Nat
  | poll => 0
  | syncRequest => 1
  | asyncRequest => 2
  | syncResponse => 3
  | reserved0 => 4
  | reserved1 => 5
  | reserved2 => 6
  | reserved3 => 7

/-- The name of the type. -/
def name : FrameType → String
  | poll => "Poll"
  | syncRequest => "Sreq"
  | asyncRequest => "Areq"
  | syncResponse => "Srsp"
  | reserved0 => "Res0"
  | reserved1 => "Res1"
  | reserved2 => "Res2"
  | reserved3 => "Res3"

/-- The frame types as a set of named numbers. -/
def enumeration : Wire.Enumeration :=
  ⟨"CommandType", 1, all.map fun t => (t.name, t.code)⟩

/-- The type with the given number. -/
def ofCode? (code : Nat) : Option FrameType :=
  all.find? (·.code == code)

/-- The type with the given name. -/
def ofName? (name : String) : Option FrameType :=
  all.find? (·.name == name)

@[simp] theorem ofCode?_code (t : FrameType) : ofCode? t.code = some t := by
  cases t <;> rfl

theorem code_lt (t : FrameType) : t.code < 8 := by
  cases t <;> decide

end FrameType

/-- The part of the radio's firmware that a frame concerns. -/
inductive Subsystem where
  | reserved0
  | sys
  | mac
  | nwk
  | af
  | zdo
  | sapi
  | util
  | dbg
  | app
  | ota
  | znp
  | spare12
  | ubl
  | reserved14
  | appCnf
  | reserved16
  | protobuf
  | reserved18
  | reserved19
  | reserved20
  | gp
deriving DecidableEq, Repr

namespace Subsystem

/-- Every subsystem. -/
def all : List Subsystem :=
  [reserved0, sys, mac, nwk, af, zdo, sapi, util, dbg, app, ota, znp, spare12, ubl, reserved14,
   appCnf, reserved16, protobuf, reserved18, reserved19, reserved20, gp]

/-- The number in the lower five bits. -/
def code : Subsystem → Nat
  | reserved0 => 0
  | sys => 1
  | mac => 2
  | nwk => 3
  | af => 4
  | zdo => 5
  | sapi => 6
  | util => 7
  | dbg => 8
  | app => 9
  | ota => 10
  | znp => 11
  | spare12 => 12
  | ubl => 13
  | reserved14 => 14
  | appCnf => 15
  | reserved16 => 16
  | protobuf => 17
  | reserved18 => 18
  | reserved19 => 19
  | reserved20 => 20
  | gp => 21

/-- The name of the subsystem. -/
def name : Subsystem → String
  | reserved0 => "Res0"
  | sys => "Sys"
  | mac => "Mac"
  | nwk => "Nwk"
  | af => "Af"
  | zdo => "Zdo"
  | sapi => "Sapi"
  | util => "Util"
  | dbg => "Dbg"
  | app => "App"
  | ota => "Ota"
  | znp => "Znp"
  | spare12 => "Spare12"
  | ubl => "Ubl"
  | reserved14 => "Res14"
  | appCnf => "AppCnf"
  | reserved16 => "Res16"
  | protobuf => "Protobuf"
  | reserved18 => "Res18"
  | reserved19 => "Res19"
  | reserved20 => "Res20"
  | gp => "Gp"

/-- The subsystems as a set of named numbers. -/
def enumeration : Wire.Enumeration :=
  ⟨"Subsystem", 1, all.map fun s => (s.name, s.code)⟩

/-- The subsystem with the given number. -/
def ofCode? (code : Nat) : Option Subsystem :=
  all.find? (·.code == code)

/-- The subsystem with the given name. -/
def ofName? (name : String) : Option Subsystem :=
  all.find? (·.name == name)

@[simp] theorem ofCode?_code (s : Subsystem) : ofCode? s.code = some s := by
  cases s <;> rfl

theorem code_lt (s : Subsystem) : s.code < 32 := by
  cases s <;> decide

end Subsystem

end Zigbee.Serial
