import Zigbee.Proofs.Multiplexer.Moves

/-!
# The multiplexer and the radio

At the far end of the line is a radio that answers each request at most once and in order,
whenever it likes, in the request's own subsystem and with its command number, or with an
error frame. In between it sends indications, and the line delivers its bytes in pieces of
any size.

An `Exchange` keeps what the multiplexer itself forgets: which requests have been written,
and which of them each answer is for. The line loses nothing and keeps the order, so the
response that the writer takes after `heard` others is the answer at position `heard`.
-/

namespace Zigbee.Serial.Frame

/-- Whether the frame is a response. -/
def isResponse (f : Frame) : Bool := f.type == .syncResponse

/-- Whether the radio may answer the request so. -/
def Answers (response request : Frame) : Prop :=
  response.type = .syncResponse ∧ response.Fits ∧
    (response.errorCode?.isSome = true ∨
      response.subsystem = request.subsystem ∧ response.command = request.command)

instance (response request : Frame) : Decidable (response.Answers request) :=
  inferInstanceAs (Decidable (_ ∧ _ ∧ (_ ∨ _ ∧ _)))

end Zigbee.Serial.Frame

namespace Zigbee.Host

open Serial

/-- The multiplexer, the radio, and what is on its way between them. -/
structure Exchange where
  mux : Multiplexer := .initial
  /-- What has been written, in order. -/
  asked : List Submission := []
  /-- The answers of the radio, each with the position of what it answers. -/
  answers : List (Nat × Frame) := []
  /-- The bytes that the radio has sent and that have not arrived. -/
  transit : List UInt8 := []
  /-- How many responses the writer has taken. -/
  heard : Nat := 0

/-- What can happen next. -/
inductive Event where
  | host (move : Move)
  | answer (position : Nat) (response : Frame)
  | indicate (f : Frame)
  /-- Some of the bytes in transit arrive. -/
  | deliver (count : Nat)

/-- What an event submits. -/
def Event.submissions : Event → List Submission
  | .host move => move.submissions
  | _ => []

/-- Whether a move makes bytes arrive. -/
def Move.arrives : Move → Bool
  | .arrive _ => true
  | _ => false

/-- Whether a move takes a response. -/
def Move.hears : Move → Bool
  | .takeResponse => true
  | _ => false

namespace Exchange

variable {e next : Exchange} {event : Event}

/-- The line and the radio before anything has been sent. -/
def initial : Exchange := {}

/-- Whether the radio may answer what has been written at the position: it is a request, and
neither it nor a later one has been answered. -/
def MayAnswer (e : Exchange) (position : Nat) (response : Frame) : Prop :=
  (∀ answer ∈ e.answers, answer.1 < position) ∧
    ∃ s ∈ e.asked[position]?, s.frame.type = .syncRequest ∧ response.Answers s.frame

instance (e : Exchange) (position : Nat) (response : Frame) :
    Decidable (e.MayAnswer position response) :=
  inferInstanceAs (Decidable (_ ∧ _))

/-- What an event does; bytes only arrive from the radio. -/
def apply (e : Exchange) : Event → Option Exchange
  | .host move =>
    if move.arrives then none
    else (e.mux.apply move).map fun mux =>
      { e with
        mux
        asked := e.asked ++ e.mux.transmitted move
        heard := if move.hears then e.heard + 1 else e.heard }
  | .answer position response =>
    if e.MayAnswer position response then
      some { e with
        answers := e.answers ++ [(position, response)]
        transit := e.transit ++ response.bytes }
    else none
  | .indicate f =>
    if f.Fits ∧ f.isResponse = false then some { e with transit := e.transit ++ f.bytes }
    else none
  | .deliver count =>
    (e.mux.apply (.arrive (e.transit.take count))).map fun mux =>
      { e with mux, transit := e.transit.drop count }

/-- The state after a list of events. -/
def run : Exchange → List Event → Option Exchange
  | e, [] => some e
  | e, event :: rest => (e.apply event).bind (·.run rest)

/-! ### What an event needs and does -/

theorem host_cases {move : Move} (h : e.apply (.host move) = some next) :
    move.arrives = false ∧ ∃ mux, e.mux.apply move = some mux ∧
      next = { e with
        mux
        asked := e.asked ++ e.mux.transmitted move
        heard := if move.hears then e.heard + 1 else e.heard } := by
  simp only [apply] at h
  split at h
  · simp at h
  · rename_i moves
    obtain ⟨mux, hmove, hnext⟩ := Option.map_eq_some_iff.mp h
    exact ⟨by simpa using moves, mux, hmove, hnext.symm⟩

theorem answer_cases {position : Nat} {response : Frame}
    (h : e.apply (.answer position response) = some next) :
    e.MayAnswer position response ∧ next = { e with
      answers := e.answers ++ [(position, response)]
      transit := e.transit ++ response.bytes } := by
  simp only [apply] at h
  split at h
  · rename_i may
    exact ⟨may, (Option.some.inj h).symm⟩
  · simp at h

theorem indicate_cases {f : Frame} (h : e.apply (.indicate f) = some next) :
    f.Fits ∧ f.isResponse = false ∧ next = { e with transit := e.transit ++ f.bytes } := by
  simp only [apply] at h
  split at h
  · rename_i may
    exact ⟨may.1, may.2, (Option.some.inj h).symm⟩
  · simp at h

theorem deliver_eq {count : Nat} (h : e.apply (.deliver count) = some next) :
    next = { e with
      mux := { e.mux with received := e.mux.received ++ e.transit.take count }
      transit := e.transit.drop count } := by
  obtain ⟨mux, hmove, rfl⟩ := Option.map_eq_some_iff.mp h
  simp only [Multiplexer.apply] at hmove
  split at hmove
  · obtain rfl := Option.some.inj hmove
    rfl
  · simp at hmove

/-! ### The order of requests -/

/-- What has been written and what has yet to be written keep the order of submission. -/
theorem asked_apply (h : e.apply event = some next) :
    (next.asked ++ next.mux.backlog).Sublist (e.asked ++ e.mux.backlog ++ event.submissions) := by
  cases event with
  | host move =>
    obtain ⟨-, mux, hmove, rfl⟩ := host_cases h
    have step := (Multiplexer.backlog_apply hmove).append_left e.asked
    simpa only [List.append_assoc, Event.submissions] using step
  | answer position response =>
    obtain ⟨-, rfl⟩ := answer_cases h
    exact List.sublist_append_left _ _
  | indicate f =>
    obtain ⟨-, -, rfl⟩ := indicate_cases h
    exact List.sublist_append_left _ _
  | deliver count =>
    obtain rfl := deliver_eq h
    exact List.sublist_append_left _ _

theorem asked_run {events : List Event} {e next : Exchange} (h : e.run events = some next) :
    (next.asked ++ next.mux.backlog).Sublist
      (e.asked ++ e.mux.backlog ++ events.flatMap Event.submissions) := by
  induction events generalizing e with
  | nil =>
    obtain rfl := Option.some.inj h
    exact List.sublist_append_left _ _
  | cons event rest ih =>
    obtain ⟨middle, hevent, hrest⟩ := Option.bind_eq_some_iff.mp h
    have tail := (asked_apply hevent).append_right (rest.flatMap Event.submissions)
    rw [List.append_assoc (e.asked ++ e.mux.backlog)] at tail
    exact (ih hrest).trans tail

/-- Whether all submissions of the events have ids of their own. -/
def Numbered (events : List Event) : Prop :=
  ((events.flatMap Event.submissions).map (·.id)).Nodup

theorem nodup_asked {events : List Event} (numbered : Numbered events)
    (h : initial.run events = some e) : (e.asked.map (·.id)).Nodup := by
  have kept : e.asked.Sublist (events.flatMap Event.submissions) :=
    (List.sublist_append_left _ _).trans (asked_run h)
  exact List.Nodup.sublist (kept.map _) numbered

/-! ### What is on its way -/

/-- What is on its way to the writer: the frames `wire`, of which parts may have arrived,
then the inbox, then the response that waits for the writer. -/
def Conserves (e : Exchange) (wire : List Frame) : Prop :=
  e.mux.responses ++ (e.mux.inbox ++ wire).filter Frame.isResponse =
      (e.answers.drop e.heard).map (·.2) ∧
    (e.mux.receiver = .running →
      e.mux.received ++ e.transit = wire.flatMap Frame.bytes ∧ ∀ f ∈ wire, f.Fits)

/-- What holds of all states of a run. -/
structure Sound (e : Exchange) : Prop where
  /-- Answers come in the order of the requests. -/
  ordered : (e.answers.map (·.1)).Pairwise (· < ·)
  /-- Each answers a request that has been written before. -/
  answered : ∀ answer ∈ e.answers, ∃ s, e.asked[answer.1]? = some s ∧ answer.2.Answers s.frame
  /-- The writer waits for the response to what it has written last. -/
  flight : e.mux.flight <:+ e.asked
  heard : e.heard ≤ e.answers.length
  /-- While the writer runs, the answers that it has not heard are on their way. -/
  conserved : e.mux.isEnded = false → ∃ wire, e.Conserves wire

theorem sound_initial : initial.Sound where
  ordered := List.Pairwise.nil
  answered := by simp [initial]
  flight := List.nil_suffix
  heard := Nat.le_refl 0
  conserved := fun _ => ⟨[], rfl, fun _ => ⟨rfl, by simp⟩⟩

/-! ### Frames on their way, move by move -/

variable {mux : Multiplexer} {move : Move} {wire : List Frame}

/-- The receiver reads the first frame of the wire, or ends. -/
theorem conserves_receive (h : e.Conserves wire) (hmove : e.mux.receive = some mux) :
    ∃ wire, { e with mux }.Conserves wire := by
  obtain ⟨order, stream⟩ := h
  obtain ⟨running, ⟨f, rest, found, rfl⟩ | ⟨error, rest, -, rfl⟩ | ⟨-, -, rfl⟩⟩ :=
    Multiplexer.receive_cases hmove
  · obtain ⟨bytes, fits⟩ := stream running
    split
    · cases wire with
      | nil =>
        have empty : e.mux.received = [] := (List.append_eq_nil_iff.mp bytes).1
        simp [empty, Frame.scan] at found
      | cons g later =>
        rw [List.flatMap_cons] at bytes
        obtain ⟨rfl, left⟩ := Frame.eq_of_scan_stream (fits g (List.mem_cons_self ..)) found bytes
        refine ⟨later, ?_, fun _ => ⟨left, fun f hf => fits f (List.mem_cons_of_mem _ hf)⟩⟩
        simpa only [List.append_assoc, List.singleton_append] using order
    · exact ⟨wire, order, fun running => by simp at running⟩
  · exact ⟨wire, order, fun running => by simp [Multiplexer.failReceiver] at running⟩
  · exact ⟨wire, order, fun running => by simp [Multiplexer.failReceiver] at running⟩

/-- The router takes a frame out of the inbox, and keeps it if it is a response. -/
theorem conserves_route (h : e.Conserves wire) (runs : e.mux.isEnded = false)
    (hmove : e.mux.route = some mux) : { e with mux }.Conserves wire := by
  obtain ⟨order, stream⟩ := h
  obtain ⟨-, ⟨f, rest, -, -, ended, rfl⟩ | ⟨f, rest, hinbox, response, free, rfl⟩ |
    ⟨f, rest, hinbox, other, rfl⟩ | ⟨-, -, rfl⟩⟩ := Multiplexer.route_cases hmove
  · simp [runs] at ended
  · refine ⟨?_, stream⟩
    rw [hinbox, free, List.cons_append,
      List.filter_cons_of_pos (by simp [Frame.isResponse, response])]
      at order
    exact order
  · have kept : ∀ m : Multiplexer, m.inbox = rest → m.responses = e.mux.responses →
        m.responses ++ (m.inbox ++ wire).filter Frame.isResponse =
          (e.answers.drop e.heard).map (·.2) := by
      intro m inbox responses
      rw [hinbox, List.cons_append, List.filter_cons_of_neg (by simp [Frame.isResponse, other])]
        at order
      rw [inbox, responses, order]
    obtain ⟨i, hi⟩ | ⟨error, he⟩ := Multiplexer.deliver_cases { e.mux with inbox := rest } f
    · rw [hi]
      exact ⟨kept _ rfl rfl, stream⟩
    · rw [he]
      exact ⟨kept _ rfl rfl, stream⟩
  · exact ⟨order, stream⟩

theorem conserves_line (h : e.Conserves wire) (runs : e.mux.isEnded = false)
    (line : move.isLine = true) (still : move.arrives = false)
    (hmove : e.mux.apply move = some mux) : ∃ wire, { e with mux }.Conserves wire := by
  cases move with
  | receive => exact conserves_receive h hmove
  | route => exact ⟨wire, conserves_route h runs hmove⟩
  | halt =>
    obtain ⟨-, -, rfl⟩ := Multiplexer.halt_eq hmove
    exact ⟨wire, h.1, fun running => by simp at running⟩
  | disconnect | jam | stop =>
    obtain rfl := Option.some.inj hmove
    exact ⟨wire, h⟩
  | arrive bytes => simp [Move.arrives] at still
  | submit | enter | giveUp | expire | release | takeResponse | takeSubmission | withdraw |
    finish => simp [Move.isLine] at line

/-- The other moves leave the line alone. -/
theorem conserves_desk (h : e.Conserves wire) (desk : move.isLine = false)
    (deaf : move.hears = false) (hmove : e.mux.apply move = some mux) :
    { e with mux }.Conserves wire := by
  obtain ⟨same, responses⟩ := Multiplexer.sameLine_of_desk desk hmove
  have other : move ≠ .takeResponse := by
    rintro rfl
    simp [Move.hears] at deaf
  constructor
  · rw [responses other, same.inbox]
    exact h.1
  · rw [same.receiver, same.received]
    exact h.2

/-- The response that the writer takes is the next of the answers. -/
theorem answer_of_response (h : e.Conserves wire) {response : Frame} {rest : List Frame}
    (hresponses : e.mux.responses = response :: rest) :
    ∃ position, e.answers[e.heard]? = some (position, response) := by
  have order := h.1
  rw [hresponses, List.cons_append] at order
  cases hdrop : e.answers.drop e.heard with
  | nil => simp [hdrop] at order
  | cons answer later =>
    rw [hdrop, List.map_cons] at order
    obtain ⟨rfl, -⟩ := List.cons.inj order
    refine ⟨answer.1, ?_⟩
    rw [← List.head?_drop, hdrop]
    rfl

theorem conserves_hear (h : e.Conserves wire) (hmove : e.mux.takeResponse = some mux) :
    { e with mux, heard := e.heard + 1 }.Conserves wire := by
  have desk : Move.takeResponse.isLine = false := rfl
  obtain ⟨same, -⟩ := Multiplexer.sameLine_of_desk desk hmove
  obtain ⟨response, rest, hresponses, taken⟩ := Multiplexer.takeResponse_cases hmove
  have left : mux.responses = rest := by
    obtain ⟨-, rfl⟩ | ⟨request, patience, -, ⟨-, rfl⟩ | ⟨outcome, -, rfl⟩⟩ := taken
    · rfl
    · rfl
    · exact (Multiplexer.sameLine_conclude _ _ _).2
  constructor
  · have order := congrArg List.tail h.1
    rw [hresponses, List.cons_append, List.tail_cons, ← List.map_tail, List.tail_drop] at order
    rw [left, same.inbox]
    exact order
  · rw [same.receiver, same.received]
    exact h.2

/-- The writer takes a response only while answers are on their way. -/
theorem heard_lt_of_takeResponse (sound : e.Sound) (hmove : e.mux.takeResponse = some mux) :
    e.mux.isEnded = false ∧ e.heard < e.answers.length := by
  obtain ⟨response, rest, hresponses, taken⟩ := Multiplexer.takeResponse_cases hmove
  have runs : e.mux.isEnded = false := by
    obtain ⟨hwriter, -⟩ | ⟨request, patience, hwriter, -⟩ := taken
    · simp only [Multiplexer.isEnded, hwriter]
    · simp only [Multiplexer.isEnded, hwriter]
  refine ⟨runs, ?_⟩
  obtain ⟨wire, h⟩ := sound.conserved runs
  obtain ⟨position, hanswer⟩ := answer_of_response h hresponses
  exact (List.getElem?_eq_some_iff.mp hanswer).1

/-! ### Steps and runs -/

theorem sound_host (sound : e.Sound) (h : e.apply (.host move) = some next) : next.Sound := by
  obtain ⟨still, mux, hmove, rfl⟩ := host_cases h
  have runs (now : mux.isEnded = false) : e.mux.isEnded = false := by
    refine Bool.eq_false_iff.mpr fun ended => ?_
    have same := Multiplexer.writer_of_ended ended hmove
    rw [Multiplexer.isEnded, same] at now
    exact absurd ended (by simpa [Multiplexer.isEnded] using now)
  refine ⟨sound.ordered, ?_, ?_, ?_, ?_⟩
  · intro answer hanswer
    obtain ⟨s, hs, matched⟩ := sound.answered answer hanswer
    refine ⟨s, ?_, matched⟩
    rw [List.getElem?_append_left (List.getElem?_eq_some_iff.mp hs).1]
    exact hs
  · obtain ended | ⟨same, none⟩ | written := Multiplexer.flight_apply hmove
    · rw [ended]
      exact List.nil_suffix
    · rw [same, none, List.append_nil]
      exact sound.flight
    · rw [written]
      exact List.suffix_append _ _
  · split
    · rename_i hears
      cases move with
      | takeResponse => exact (heard_lt_of_takeResponse sound hmove).2
      | _ => simp [Move.hears] at hears
    · exact sound.heard
  · intro now
    obtain ⟨wire, carried⟩ := sound.conserved (runs now)
    by_cases line : move.isLine = true
    · obtain ⟨wire, left⟩ := conserves_line carried (runs now) line still hmove
      refine ⟨wire, ?_⟩
      have deaf : move.hears = false := by
        cases move with
        | takeResponse => simp [Move.isLine] at line
        | _ => rfl
      rw [if_neg (by simp [deaf])]
      exact left
    · cases hears : move.hears with
      | true =>
        cases move with
        | takeResponse => exact ⟨wire, conserves_hear carried hmove⟩
        | _ => simp [Move.hears] at hears
      | false => exact ⟨wire, conserves_desk carried (by simpa using line) hears hmove⟩

theorem sound_answer {position : Nat} {response : Frame} (sound : e.Sound)
    (h : e.apply (.answer position response) = some next) : next.Sound := by
  obtain ⟨⟨latest, s, hs, -, matched⟩, rfl⟩ := answer_cases h
  refine ⟨?_, ?_, sound.flight, ?_, ?_⟩
  · rw [List.map_append, List.pairwise_append]
    refine ⟨sound.ordered, List.pairwise_singleton _ _, ?_⟩
    intro earlier hearlier last hlast
    obtain ⟨answer, hanswer, rfl⟩ := List.mem_map.mp hearlier
    obtain rfl := List.mem_singleton.mp hlast
    exact latest answer hanswer
  · intro answer hanswer
    obtain old | new := List.mem_append.mp hanswer
    · exact sound.answered answer old
    · obtain rfl := List.mem_singleton.mp new
      exact ⟨s, hs, matched⟩
  · rw [List.length_append]
    exact Nat.le_add_right_of_le sound.heard
  · intro runs
    obtain ⟨wire, order, stream⟩ := sound.conserved runs
    refine ⟨wire ++ [response], ?_, ?_⟩
    · have type : response.isResponse = true := by simp [Frame.isResponse, matched.1]
      rw [List.drop_append_of_le_length sound.heard, List.map_append, ← order,
        ← List.append_assoc, List.filter_append, List.append_assoc]
      simp [type]
    · intro running
      obtain ⟨bytes, fits⟩ := stream running
      constructor
      · rw [← List.append_assoc, bytes, List.flatMap_append, List.flatMap_singleton]
      · intro f hf
        obtain old | new := List.mem_append.mp hf
        · exact fits f old
        · obtain rfl := List.mem_singleton.mp new
          exact matched.2.1

theorem sound_indicate {f : Frame} (sound : e.Sound) (h : e.apply (.indicate f) = some next) :
    next.Sound := by
  obtain ⟨fitting, other, rfl⟩ := indicate_cases h
  refine ⟨sound.ordered, sound.answered, sound.flight, sound.heard, ?_⟩
  intro runs
  obtain ⟨wire, order, stream⟩ := sound.conserved runs
  refine ⟨wire ++ [f], ?_, ?_⟩
  · rw [← order, ← List.append_assoc, List.filter_append]
    simp [other]
  · intro running
    obtain ⟨bytes, fits⟩ := stream running
    constructor
    · rw [← List.append_assoc, bytes, List.flatMap_append, List.flatMap_singleton]
    · intro g hg
      obtain old | new := List.mem_append.mp hg
      · exact fits g old
      · obtain rfl := List.mem_singleton.mp new
        exact fitting

theorem sound_apply (sound : e.Sound) (h : e.apply event = some next) : next.Sound := by
  cases event with
  | host move => exact sound_host sound h
  | answer position response => exact sound_answer sound h
  | indicate f => exact sound_indicate sound h
  | deliver count =>
    obtain rfl := deliver_eq h
    refine ⟨sound.ordered, sound.answered, sound.flight, sound.heard, ?_⟩
    intro runs
    obtain ⟨wire, order, stream⟩ := sound.conserved runs
    refine ⟨wire, order, fun running => ?_⟩
    obtain ⟨bytes, fits⟩ := stream running
    refine ⟨?_, fits⟩
    rw [List.append_assoc, List.take_append_drop]
    exact bytes

theorem sound_run {events : List Event} {e next : Exchange} (sound : e.Sound)
    (h : e.run events = some next) : next.Sound := by
  induction events generalizing e with
  | nil =>
    obtain rfl := Option.some.inj h
    exact sound
  | cons event rest ih =>
    obtain ⟨middle, hevent, hrest⟩ := Option.bind_eq_some_iff.mp h
    exact ih (sound_apply sound hevent) hrest

end Exchange

end Zigbee.Host
