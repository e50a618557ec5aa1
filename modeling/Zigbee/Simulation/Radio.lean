import Zigbee.Serial.Frame

/-!
# A radio that follows a script

The script says with which frames the radio answers a frame from the host, and after which
time. A payload may repeat bytes of the frame that it answers.
-/

namespace Zigbee.Simulation

open Serial

/-- A part of the payload of an answer. -/
inductive Piece where
  | byte (value : UInt8)
  /-- The byte at the position in the payload of the request; zero if there is none. -/
  | copied (position : Nat)
deriving DecidableEq, Repr

/-- A frame of an answer. -/
structure Answer where
  type : FrameType
  subsystem : Subsystem
  command : UInt8
  pieces : List Piece
deriving DecidableEq, Repr

/-- What the radio does with some of the frames from the host. -/
structure Rule where
  subsystem : Subsystem
  command : UInt8
  /-- How the payload has to begin. -/
  opening : List UInt8
  /-- How often the rule may still be used. -/
  uses : Option Nat
  delay : Nat
  answers : List Answer
deriving DecidableEq, Repr

/-- Bytes that the radio will send. -/
structure Transmission where
  time : Nat
  bytes : List UInt8
deriving DecidableEq, Repr

/-- The radio: its script, and what it will send. -/
structure Radio where
  rules : List Rule
  scheduled : List Transmission := []
deriving Repr

namespace Piece

/-- The byte in the answer to the payload. -/
def fill (payload : List UInt8) : Piece → UInt8
  | byte value => value
  | copied position => payload.getD position 0

/-- The pieces in a text of digit pairs and bracketed positions. -/
def parse : List Char → Option (List Piece)
  | [] => some []
  | '{' :: rest => do
    let position ← (String.ofList (rest.takeWhile (· != '}'))).toNat?
    match h : rest.dropWhile (· != '}') with
    | [] => none
    | _ :: more =>
      have : more.length < rest.length := by
        have := congrArg List.length h
        have := (List.dropWhile_sublist (· != '}') (l := rest)).length_le
        simp_all only [List.length_cons]
        omega
      return copied position :: (← parse more)
  | high :: low :: rest => do
    let value ← Text.Hex.value? [high, low]
    return byte value.toUInt8 :: (← parse rest)
  | [_] => none
termination_by cs => cs.length

end Piece

/-- The frame of an answer to the payload. -/
def Answer.fill (payload : List UInt8) (a : Answer) : Frame :=
  ⟨a.type, a.subsystem, a.command, a.pieces.map (·.fill payload)⟩

/-- The bytes of frames; one that is too long is not sent. -/
def rendered (frames : List Frame) : List UInt8 :=
  frames.flatMap fun f => f.render.toOption.getD []

namespace Rule

/-- Whether the rule is for the frame and not used up. -/
def suits (r : Rule) (f : Frame) : Bool :=
  r.subsystem == f.subsystem && r.command == f.command && r.opening.isPrefixOf f.payload
    && r.uses != some 0

/-- The rule after one more use. -/
def used (r : Rule) : Rule := { r with uses := r.uses.map (· - 1) }

end Rule

namespace Radio

/-- The rules after the first suitable one has been used. -/
def useFirst (f : Frame) : List Rule → List Rule
  | [] => []
  | r :: rest => if r.suits f then r.used :: rest else r :: useFirst f rest

/-- Hear a frame at the given time. -/
def hear (radio : Radio) (now : Nat) (f : Frame) : Radio :=
  match radio.rules.find? (·.suits f) with
  | none => radio
  | some rule =>
    { rules := useFirst f radio.rules
      scheduled := radio.scheduled ++
        [⟨now + rule.delay, rendered (rule.answers.map (·.fill f.payload))⟩] }

/-- Send everything whose time has come: in the order of the times, and of the requests. -/
def send (radio : Radio) (now : Nat) : List UInt8 × Radio :=
  let due := (radio.scheduled.filter (·.time ≤ now)).mergeSort fun a b => a.time ≤ b.time
  (due.flatMap (·.bytes), { radio with scheduled := radio.scheduled.filter (now < ·.time) })

end Radio

end Zigbee.Simulation
