import Mathlib.Data.List.Nodup
import Zigbee.Proofs.Cluster.Building
import Zigbee.Proofs.Cluster.Frames

/-!
# The numbers of the frames that are sent

A frame that has been built always says in its control byte whether it has a manufacturer's
code, and that is all that writing its header can fail for. So a call that fails has failed
before a number was taken, and the frames that are sent bear the numbers of the cycle one after
the other, however many calls fail between them. The number stands in the header behind the
control byte and the code, if there is one.
-/

namespace Zigbee.Cluster

open Record Wire

/-! ### The cycle -/

namespace TransactionCounter

/-- The number that stands `count` places behind `first` in the cycle of 1 to 255. -/
def cycled (first count : Nat) : Nat := (first - 1 + count) % 255 + 1

theorem next_pos (c : TransactionCounter) : 0 < c.next.toNat := by
  have different : c.next.toNat ≠ (0 : UInt8).toNat := fun same =>
    c.next_ne_zero (UInt8.toNat_inj.mp same)
  exact Nat.pos_of_ne_zero different

theorem toNat_next_startingAt (first : UInt8) :
    (startingAt first).next.toNat = max first.toNat 1 := by
  unfold startingAt
  split
  · rename_i zero
    rw [zero]
    rfl
  · rename_i nonzero
    exact (Nat.max_eq_left (next_pos ⟨first, nonzero⟩)).symm

theorem toNat_next_advance (c : TransactionCounter) :
    c.advance.next.toNat = c.next.toNat % 255 + 1 := by
  have positive := c.next_pos
  have small := c.next.toNat_lt
  have one : (1 : UInt8).toNat = 1 := rfl
  rw [advance, toNat_next_startingAt, UInt8.toNat_add, one]
  omega

/-- The upcoming numbers go around the cycle. -/
theorem toNat_upcoming (c : TransactionCounter) (count : Nat) :
    (c.upcoming count).map UInt8.toNat = (List.range count).map (cycled c.next.toNat) := by
  have positive := c.next_pos
  have small := c.next.toNat_lt
  induction count generalizing c with
  | zero => rfl
  | succ count ih =>
    have first : c.next.toNat = cycled c.next.toNat 0 := by
      unfold cycled
      omega
    have others (n : Nat) : cycled c.advance.next.toNat n = cycled c.next.toNat (n + 1) := by
      rw [toNat_next_advance]
      unfold cycled
      omega
    rw [upcoming, List.map_cons, ih _ c.advance.next_pos c.advance.next.toNat_lt,
      List.range_succ_eq_map, List.map_cons, List.map_map, ← first]
    exact congrArg _ (List.map_congr_left fun n _ => others n)

theorem toNat_of_getElem?_upcoming {c : TransactionCounter} {count i : Nat} {number : UInt8}
    (there : (c.upcoming count)[i]? = some number) :
    number.toNat = cycled c.next.toNat i := by
  have same := congrArg (·[i]?) (c.toNat_upcoming count)
  simp only [List.getElem?_map, there, Option.map_some] at same
  obtain ⟨j, range, same⟩ := Option.map_eq_some_iff.mp same.symm
  obtain ⟨inside, rfl⟩ := List.getElem?_eq_some_iff.mp range
  rw [← same, List.getElem_range]

/-- Less than one round apart in the cycle the numbers differ. -/
theorem cycled_ne {first i j : Nat} (later : i < j) (near : j < i + 255) :
    cycled first i ≠ cycled first j := by
  unfold cycled
  omega

/-- No number comes twice in one round. -/
theorem nodup_take_drop_upcoming (c : TransactionCounter) (count start : Nat) :
    (((c.upcoming count).drop start).take 255).Nodup := by
  refine List.pairwise_iff_getElem.mpr fun i j insideI insideJ later same => ?_
  have near : j < 255 := by
    rw [List.length_take] at insideJ
    omega
  have place {k : Nat} (inside : k < (((c.upcoming count).drop start).take 255).length) :
      (((c.upcoming count).drop start).take 255)[k].toNat = cycled c.next.toNat (start + k) := by
    have there : (c.upcoming count)[start + k]? =
        some (((c.upcoming count).drop start).take 255)[k] := by
      rw [List.getElem_take, List.getElem_drop, List.getElem?_eq_getElem]
    exact toNat_of_getElem?_upcoming there
  have numbers := (place insideI).symm.trans ((congrArg UInt8.toNat same).trans (place insideJ))
  exact cycled_ne (by omega) (by omega) numbers

end TransactionCounter

/-! ### Writing a frame -/

namespace RawFrame

/-- The place of the transaction number among the bytes of a frame. -/
def numberIndex (f : RawFrame) : Nat := if f.manufacturerCode.isSome then 3 else 1

/-- A well-formed frame can always be written, with its number where it belongs. -/
theorem exists_encode {f : RawFrame} (wellFormed : f.WellFormed) :
    ∃ bytes, f.encode = .ok bytes ∧ bytes[f.numberIndex]? = some f.sequenceNumber ∧
      sequenceNumber? bytes = some f.sequenceNumber := by
  obtain ⟨bytes, written, place⟩ : ∃ bytes, f.encode = .ok bytes ∧
      bytes[f.numberIndex]? = some f.sequenceNumber := by
    obtain ⟨⟨type, specific, direction, disable, reserved⟩, code, number, id, payload⟩ := f
    obtain ⟨announced, -⟩ := wellFormed
    dsimp only at announced
    subst announced
    have same : UInt8.ofNat number.toNat = number := UInt8.ofNat_toNat
    cases code with
    | none => exact ⟨_, rfl, congrArg some same⟩
    | some code => exact ⟨_, rfl, congrArg some same⟩
  refine ⟨bytes, written, place, ?_⟩
  rw [sequenceNumber?, decode_of_encode wellFormed written]
  rfl

end RawFrame

namespace FrameBuilder

variable {b : FrameBuilder} {counter : TransactionCounter}

theorem wellFormed_of_build {number : UInt8} {frame : RawFrame}
    (built : b.build number = .ok frame) :
    frame.WellFormed ∧ frame.sequenceNumber = number ∧
      frame.manufacturerCode = b.manufacturerCode := by
  obtain ⟨type, id, direction, payload, -, -, -, -, rfl⟩ := build_eq_ok.mp built
  exact ⟨⟨rfl, rfl⟩, rfl, rfl⟩

/-- The number is in the header of the frame, behind the manufacturer's code if there is one. -/
structure Bears (b : FrameBuilder) (bytes : List UInt8) (number : UInt8) : Prop where
  decoded : sequenceNumber? bytes = some number
  placed : bytes[if b.manufacturerCode.isSome then 3 else 1]? = some number

/-- All that a frame has to have is set, and its payload can be written. -/
structure IsComplete (b : FrameBuilder) : Prop where
  frameType : b.frameType.isSome
  commandId : b.commandId.isSome
  direction : b.direction.isSome
  payload : ∃ payload, b.payload = .ok payload

theorem isComplete_iff (number : UInt8) :
    b.IsComplete ↔ ∃ frame, b.build number = .ok frame := by
  constructor
  · rintro ⟨typeSet, idSet, directionSet, payload, written⟩
    obtain ⟨type, typeSet⟩ := Option.isSome_iff_exists.mp typeSet
    obtain ⟨id, idSet⟩ := Option.isSome_iff_exists.mp idSet
    obtain ⟨direction, directionSet⟩ := Option.isSome_iff_exists.mp directionSet
    exact ⟨_, build_eq_ok.mpr ⟨type, id, direction, payload, typeSet, idSet, directionSet,
      written, rfl⟩⟩
  · rintro ⟨frame, built⟩
    obtain ⟨type, id, direction, payload, typeSet, idSet, directionSet, written, -⟩ :=
      build_eq_ok.mp built
    exact ⟨Option.isSome_of_eq_some typeSet, Option.isSome_of_eq_some idSet,
      Option.isSome_of_eq_some directionSet, payload, written⟩

/-- A call for a builder that is not complete fails and takes no number, any other one sends a
frame under the next number. -/
theorem encode_cases (b : FrameBuilder) (counter : TransactionCounter) :
    (¬b.IsComplete ∧ ∃ e, b.encode counter = (.error e, counter)) ∨
    (b.IsComplete ∧ ∃ bytes, b.encode counter = (.ok (counter.next, bytes), counter.advance) ∧
      b.Bears bytes counter.next) := by
  rw [isComplete_iff counter.next]
  unfold encode
  cases built : b.build counter.next with
  | error e => exact .inl ⟨nofun, e, rfl⟩
  | ok frame =>
    obtain ⟨wellFormed, number, code⟩ := wellFormed_of_build built
    obtain ⟨bytes, written, placed, decoded⟩ := frame.exists_encode wellFormed
    rw [RawFrame.numberIndex, code] at placed
    rw [number] at placed decoded
    refine .inr ⟨⟨frame, rfl⟩, bytes, ?_, decoded, placed⟩
    simp only [written]

/-! ### Runs -/

/-- One call of a run: the builder, the counter before and behind the call, and its outcome. -/
structure Sending where
  builder : FrameBuilder
  before : TransactionCounter
  outcome : Except Failure (UInt8 × List UInt8)
  behind : TransactionCounter

/-- The calls for a list of builders, one after the other. -/
def sendings (counter : TransactionCounter) : List FrameBuilder → List Sending
  | [] => []
  | b :: rest =>
    ⟨b, counter, (b.encode counter).1, (b.encode counter).2⟩ ::
      sendings (b.encode counter).2 rest

/-- The number that a call has given out, if it has succeeded. -/
def Sending.number? (s : Sending) : Option UInt8 := s.outcome.toOption.map Prod.fst

/-- The numbers of the frames that have been sent, in order. -/
def numbersOf (run : List Sending) : List UInt8 := run.filterMap Sending.number?

/-- A call is careful with numbers: it only fails for a builder that is not complete and then
takes no number, else the frame bears the number that is returned. -/
structure Sending.Careful (s : Sending) : Prop where
  unchanged : ∀ e, s.outcome = .error e → s.behind = s.before ∧ ¬s.builder.IsComplete
  bears : ∀ number bytes, s.outcome = .ok (number, bytes) → s.builder.Bears bytes number

theorem careful_encode (b : FrameBuilder) (counter : TransactionCounter) :
    Sending.Careful ⟨b, counter, (b.encode counter).1, (b.encode counter).2⟩ := by
  obtain ⟨incomplete, e, failed⟩ | ⟨-, bytes, sent, bears⟩ := b.encode_cases counter
  · rw [failed]
    exact ⟨fun _ _ => ⟨rfl, incomplete⟩, nofun⟩
  · rw [sent]
    refine ⟨nofun, fun number bytes' same => ?_⟩
    obtain ⟨rfl, rfl⟩ := Prod.mk.inj (Except.ok.inj same)
    exact bears

theorem careful_run (builders : List FrameBuilder) (counter : TransactionCounter) :
    ∀ s ∈ sendings counter builders, s.Careful := by
  induction builders generalizing counter with
  | nil => exact List.forall_mem_nil _
  | cons b rest ih => exact List.forall_mem_cons.mpr ⟨careful_encode b counter, ih _⟩

/-- The frames of a run have the upcoming numbers of the counter at its start. -/
theorem numbersOf_run (builders : List FrameBuilder) (counter : TransactionCounter) :
    numbersOf (sendings counter builders) =
      counter.upcoming (numbersOf (sendings counter builders)).length := by
  induction builders generalizing counter with
  | nil => rfl
  | cons b rest ih =>
    obtain ⟨-, e, failed⟩ | ⟨-, bytes, sent, -⟩ := b.encode_cases counter
    · have step : numbersOf (sendings counter (b :: rest)) =
          numbersOf (sendings counter rest) := by
        rw [sendings, failed]
        rfl
      rw [step]
      exact ih counter
    · have step : numbersOf (sendings counter (b :: rest)) =
          counter.next :: numbersOf (sendings counter.advance rest) := by
        rw [sendings, sent]
        rfl
      rw [step, List.length_cons, TransactionCounter.upcoming, ← ih]

/-- Whatever is to be sent from any start, a call fails only for a builder that is not complete
and then leaves the counter alone, and the frames that are sent bear the numbers that are
returned: those of the cycle of 1 to 255 from the start on, one after the other, never zero, and
in any 255 successive frames all different. -/
theorem numbered_run (first : UInt8) (builders : List FrameBuilder) :
    (∀ s ∈ sendings (.startingAt first) builders, s.Careful) ∧
    (∀ i number, (numbersOf (sendings (.startingAt first) builders))[i]? = some number →
      number.toNat = TransactionCounter.cycled (max first.toNat 1) i ∧ number ≠ 0) ∧
    ∀ start,
      (((numbersOf (sendings (.startingAt first) builders)).drop start).take 255).Nodup := by
  refine ⟨careful_run builders _, fun i number there => ?_, fun start => ?_⟩
  · rw [numbersOf_run] at there
    have place := TransactionCounter.toNat_of_getElem?_upcoming there
    rw [TransactionCounter.toNat_next_startingAt] at place
    refine ⟨place, fun zero => ?_⟩
    rw [zero] at place
    exact absurd place (Nat.succ_ne_zero _).symm
  · rw [numbersOf_run]
    exact TransactionCounter.nodup_take_drop_upcoming _ _ start

/-- Switching on, a frame without settings, switching on as a manufacturer's command, and
switching on again. -/
def threeOfFour : List FrameBuilder :=
  [specific ⟨.on, ()⟩, empty, (specific ⟨.on, ()⟩).set (.manufacturerCode 0x115f),
   specific ⟨.on, ()⟩]

/-- Around the end of the cycle, with a failure between two frames. -/
theorem numbered_run_threeOfFour :
    numbersOf (sendings (.startingAt 254) threeOfFour) = [254, 255, 1] ∧
    (⟨empty, .startingAt 255, .error (.frameBuilder "frame type must be set"),
      .startingAt 255⟩ : Sending) ∈ sendings (.startingAt 254) threeOfFour ∧
    ¬empty.IsComplete ∧
    ((specific ⟨.on, ()⟩).set (.manufacturerCode 0x115f)).Bears [0x05, 0x5f, 0x11, 255, 0x01]
      255 ∧
    (1 : UInt8).toNat = TransactionCounter.cycled 254 2 ∧
    [(254 : UInt8), 255, 1].Nodup := by
  obtain ⟨careful, places, different⟩ := numbered_run 254 threeOfFour
  have numbers : numbersOf (sendings (.startingAt 254) threeOfFour) = [254, 255, 1] := rfl
  have failed : (⟨empty, .startingAt 255, .error (.frameBuilder "frame type must be set"),
      .startingAt 255⟩ : Sending) ∈ sendings (.startingAt 254) threeOfFour :=
    .tail _ (.head _)
  have sent : (⟨(specific ⟨.on, ()⟩).set (.manufacturerCode 0x115f), .startingAt 255,
      .ok (255, [0x05, 0x5f, 0x11, 255, 0x01]), .startingAt 1⟩ : Sending) ∈
        sendings (.startingAt 254) threeOfFour :=
    .tail _ (.tail _ (.head _))
  refine ⟨numbers, failed, ((careful _ failed).unchanged _ rfl).2, (careful _ sent).bears _ _ rfl,
    (places 2 1 rfl).1, ?_⟩
  have window := different 0
  rw [numbers] at window
  exact window

end FrameBuilder

end Zigbee.Cluster
