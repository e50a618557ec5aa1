import Mathlib.Data.List.Induction
import Zigbee.Cluster.FrameBuilder
import Zigbee.Proofs.Record.Writing

/-!
# What a built frame carries

The settings of a frame may come in any order and any number. Read as histories, they say
which commands have been given, and which numbers and directions have been set apart from
them. A number or a direction that has been set stays above every command, whether it comes
before or behind it. The payload follows the last command, but the number and the direction
that commands provide are those of the first one: a second command does not replace them.
-/

namespace Zigbee.Cluster

namespace FrameSetting

/-- The command that is given, if the setting gives one. -/
def command? : FrameSetting → Option Command
  | FrameSetting.command given => some given
  | _ => none

/-- The command's number that is set, if the setting sets one. -/
def commandId? : FrameSetting → Option UInt8
  | FrameSetting.commandId given => some given
  | _ => none

/-- The direction that is set, if the setting sets one. -/
def direction? : FrameSetting → Option Direction
  | FrameSetting.direction given => some given
  | _ => none

end FrameSetting

namespace FrameBuilder

/-- The commands that are given, in order. -/
def commandsOf (settings : List FrameSetting) : List Command :=
  settings.filterMap FrameSetting.command?

/-- The directions of the commands of single clusters that are given, in order. -/
def commandDirectionsOf (settings : List FrameSetting) : List Direction :=
  (commandsOf settings).filterMap directionOf

/-- The numbers that are set apart from the commands, in order. -/
def idsOf (settings : List FrameSetting) : List UInt8 :=
  settings.filterMap FrameSetting.commandId?

/-- The directions that are set apart from the commands, in order. -/
def directionsOf (settings : List FrameSetting) : List Direction :=
  settings.filterMap FrameSetting.direction?

/-- The payload is that of the last command, and empty if there is none. -/
def CarriesLast (settings : List FrameSetting) (payload : List UInt8) : Prop :=
  match (commandsOf settings).getLast? with
  | some command => command.encode = .ok payload
  | none => payload = []

/-- Payload, number and direction of a frame are those of the last command, where number and
direction have not been set apart from it. -/
structure FollowsLast (settings : List FrameSetting) (frame : RawFrame) : Prop where
  payload : CarriesLast settings frame.payload
  commandId : some frame.commandId =
    ((idsOf settings).getLast? <|> (commandsOf settings).getLast?.map Command.id)
  direction : some frame.control.direction =
    ((directionsOf settings).getLast? <|> (commandDirectionsOf settings).getLast?)

variable {settings : List FrameSetting} {s : FrameSetting} {b : FrameBuilder} {number : UInt8}
  {frame : RawFrame} {payload : List UInt8}

/-! ### The builder behind a list of settings -/

theorem setAll_concat : b.setAll (settings ++ [s]) = (b.setAll settings).set s := by
  rw [setAll, List.foldl_append]
  rfl

theorem commandsOf_concat :
    commandsOf (settings ++ [s]) = commandsOf settings ++ s.command?.toList := by
  rw [commandsOf, List.filterMap_append]
  cases s <;> rfl

theorem commandDirectionsOf_concat : commandDirectionsOf (settings ++ [s]) =
    commandDirectionsOf settings ++ (s.command?.bind directionOf).toList := by
  rw [commandDirectionsOf, commandsOf_concat, List.filterMap_append]
  cases s.command? with
  | none => rfl
  | some command => cases provided : directionOf command <;> simp [provided, commandDirectionsOf]

theorem idsOf_concat : idsOf (settings ++ [s]) = idsOf settings ++ s.commandId?.toList := by
  rw [idsOf, List.filterMap_append]
  cases s <;> rfl

theorem directionsOf_concat :
    directionsOf (settings ++ [s]) = directionsOf settings ++ s.direction?.toList := by
  rw [directionsOf, List.filterMap_append]
  cases s <;> rfl

theorem command_setAll : (empty.setAll settings).command = (commandsOf settings).getLast? := by
  induction settings using List.reverseRecOn with
  | nil => rfl
  | append_singleton settings s ih =>
    rw [setAll_concat, commandsOf_concat]
    cases s with
    | command command => simp [set, FrameSetting.command?]
    | _ => simpa [set, FrameSetting.command?] using ih

/-- A number that has been set stays; else it is that of the first command. -/
theorem commandId_setAll : (empty.setAll settings).commandId =
    ((idsOf settings).getLast? <|> (commandsOf settings).head?.map Command.id) := by
  induction settings using List.reverseRecOn with
  | nil => rfl
  | append_singleton settings s ih =>
    rw [setAll_concat, commandsOf_concat, idsOf_concat]
    cases s with
    | command command =>
      simp [set, FrameSetting.command?, FrameSetting.commandId?, ih, List.head?_append]
    | commandId id => simp [set, FrameSetting.commandId?]
    | _ => simpa [set, FrameSetting.command?, FrameSetting.commandId?] using ih

/-- A direction that has been set stays; else it is that of the first command that has one. -/
theorem direction_setAll : (empty.setAll settings).direction =
    ((directionsOf settings).getLast? <|> (commandDirectionsOf settings).head?) := by
  induction settings using List.reverseRecOn with
  | nil => rfl
  | append_singleton settings s ih =>
    rw [setAll_concat, commandDirectionsOf_concat, directionsOf_concat]
    cases s with
    | command command =>
      cases provided : directionOf command <;>
        simp [set, FrameSetting.command?, FrameSetting.direction?, ih, List.head?_append, provided]
    | direction direction => simp [set, FrameSetting.direction?]
    | _ => simpa [set, FrameSetting.command?, FrameSetting.direction?] using ih

/-! ### The frame -/

theorem required_eq_ok {α : Type} {part : Option α} {reason : String} {value : α} :
    required part reason = .ok value ↔ part = some value := by
  cases part <;> simp [required]

theorem build_eq_ok : b.build number = .ok frame ↔
    ∃ type id direction payload, b.frameType = some type ∧ b.commandId = some id ∧
      b.direction = some direction ∧ b.payload = .ok payload ∧
      frame = ⟨⟨type, b.manufacturerCode.isSome, direction, b.disableDefaultResponse, 0⟩,
        b.manufacturerCode, number, id, payload⟩ := by
  unfold build
  constructor
  · intro built
    obtain ⟨type, typeSet, built⟩ := Wire.bind_eq_ok.mp built
    obtain ⟨id, idSet, built⟩ := Wire.bind_eq_ok.mp built
    obtain ⟨direction, directionSet, built⟩ := Wire.bind_eq_ok.mp built
    obtain ⟨payload, written, built⟩ := Wire.bind_eq_ok.mp built
    cases built
    exact ⟨type, id, direction, payload, required_eq_ok.mp typeSet, required_eq_ok.mp idSet,
      required_eq_ok.mp directionSet, written, rfl⟩
  · rintro ⟨type, id, direction, payload, typeSet, idSet, directionSet, written, rfl⟩
    simp only [typeSet, idSet, directionSet, written, required]
    rfl

theorem carriesLast_of_payload (written : (empty.setAll settings).payload = .ok payload) :
    CarriesLast settings payload := by
  rw [FrameBuilder.payload, command_setAll] at written
  unfold CarriesLast
  cases last : (commandsOf settings).getLast? with
  | none =>
    rw [last] at written
    exact (Except.ok.inj written).symm
  | some command =>
    rw [last] at written
    dsimp only at written ⊢
    cases encoded : command.encode with
    | ok bytes => rw [encoded] at written; cases written; rfl
    | error e => rw [encoded] at written; cases written

/-- The first of a choice decides, and only where there is none the seconds are compared. -/
theorem orElse_congr_iff {α : Type} {first second second' : Option α} :
    (first <|> second) = (first <|> second') ↔ (first = none → second = second') := by
  cases first <;> simp

/-- The payload of a frame that is built is always that of the last command, but the number
and the direction that have not been set come from the first command that provides them. So
the frame is the one of its last command exactly if the number has been set or is that of the
first command as well, and likewise the direction. -/
theorem follows_last_iff (settings : List FrameSetting) (number : UInt8) (frame : RawFrame)
    (built : (empty.setAll settings).build number = .ok frame) :
    CarriesLast settings frame.payload ∧
    some frame.commandId =
      ((idsOf settings).getLast? <|> (commandsOf settings).head?.map Command.id) ∧
    some frame.control.direction =
      ((directionsOf settings).getLast? <|> (commandDirectionsOf settings).head?) ∧
    (FollowsLast settings frame ↔
      (idsOf settings = [] → (commandsOf settings).head?.map Command.id =
        (commandsOf settings).getLast?.map Command.id) ∧
      (directionsOf settings = [] →
        (commandDirectionsOf settings).head? = (commandDirectionsOf settings).getLast?)) := by
  obtain ⟨type, id, direction, payload, -, idSet, directionSet, written, rfl⟩ :=
    build_eq_ok.mp built
  have carries := carriesLast_of_payload written
  rw [commandId_setAll] at idSet
  rw [direction_setAll] at directionSet
  refine ⟨carries, idSet.symm, directionSet.symm, ?_⟩
  have unnumbered : (idsOf settings).getLast? = none ↔ idsOf settings = [] :=
    List.getLast?_eq_none_iff
  have undirected : (directionsOf settings).getLast? = none ↔ directionsOf settings = [] :=
    List.getLast?_eq_none_iff
  rw [← unnumbered, ← orElse_congr_iff, idSet, ← undirected, ← orElse_congr_iff, directionSet]
  exact ⟨fun follows => ⟨follows.commandId, follows.direction⟩,
    fun same => ⟨carries, same.1, same.2⟩⟩

/-- Switching on, and then a level in its place. -/
def levelInPlace : List FrameSetting :=
  [.frameType .clusterSpecific, .command (.specific ⟨.on, ()⟩),
   .command (.specific ⟨.moveToLevel, (254, 10, ())⟩)]

/-- The number that is set for the level makes the frame that of the level. -/
theorem follows_last_levelNumbered :
    (empty.setAll (.commandId 0 :: levelInPlace)).build 1 =
      .ok ⟨⟨.clusterSpecific, false, .toServer, false, 0⟩, none, 1, 0, [0xfe, 0x0a, 0]⟩ ∧
    FollowsLast (.commandId 0 :: levelInPlace)
      ⟨⟨.clusterSpecific, false, .toServer, false, 0⟩, none, 1, 0, [0xfe, 0x0a, 0]⟩ := by
  have built : (empty.setAll (.commandId 0 :: levelInPlace)).build 1 =
      .ok ⟨⟨.clusterSpecific, false, .toServer, false, 0⟩, none, 1, 0, [0xfe, 0x0a, 0]⟩ := rfl
  exact ⟨built, (follows_last_iff _ _ _ built).2.2.2.mpr ⟨nofun, fun _ => rfl⟩⟩

/-- Without it the frame has the number of switching on and the payload of the level. -/
theorem levelInPlace_astray :
    (empty.setAll levelInPlace).build 1 =
      .ok ⟨⟨.clusterSpecific, false, .toServer, false, 0⟩, none, 1, 1, [0xfe, 0x0a, 0]⟩ ∧
    idsOf levelInPlace = [] ∧
    ¬ FollowsLast levelInPlace
      ⟨⟨.clusterSpecific, false, .toServer, false, 0⟩, none, 1, 1, [0xfe, 0x0a, 0]⟩ := by
  refine ⟨rfl, rfl, fun follows => ?_⟩
  have id := follows.commandId
  exact absurd id (by decide +kernel)

end FrameBuilder

end Zigbee.Cluster
