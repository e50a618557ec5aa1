import Zigbee.Proofs.Multiplexer.History

/-!
# What a move does to frames

A frame that has been read waits in the inbox. The router hands it to the writer, which
takes it for a response, or to everybody else. `Conveys` names what a move can do to the
frames that are on this way: it reads one or finds the line broken, passes one on, ends one,
or leaves them all where they are. With `Deals`, which does the same for submissions, it
covers what a move does.

What has been read in a run is a history (`read`). All frames that are still on their way
are among them, and what waits for the writer are responses.
-/

namespace Zigbee.Host

open Serial

/-- The bytes that arrive with the move. -/
def Move.arrival : Move → List UInt8
  | .arrive bytes => bytes
  | _ => []

namespace Multiplexer

variable {m next : Multiplexer} {move : Move}

/-! ### Reading -/

/-- The frame that the move reads. -/
def reads (m : Multiplexer) : Move → List Frame
  | .receive =>
    match m.receive, Frame.scan m.received with
    | some _, .frame f _ => [f]
    | _, _ => []
  | _ => []

/-- The frames that are read in a run, in order. -/
def read : Multiplexer → List Move → List Frame := history reads

theorem reads_of_found {f : Frame} {rest : List UInt8} (h : m.receive = some next)
    (found : Frame.scan m.received = .frame f rest) : m.reads .receive = [f] := by
  simp only [reads, h, found]

theorem reads_of_not_found (found : ∀ f rest, Frame.scan m.received ≠ .frame f rest) :
    m.reads .receive = [] := by
  simp only [reads]
  split
  · rename_i f rest _ hscan
    exact absurd hscan (found _ _)
  · rfl

/-! ### What a move does to the frames -/

/-- The frames, their tasks and what has come of them are the same. -/
structure SameFrames (m next : Multiplexer) : Prop where
  received : next.received = m.received
  connected : next.connected = m.connected
  receiver : next.receiver = m.receiver
  inbox : next.inbox = m.inbox
  routing : next.routing = m.routing
  responses : next.responses = m.responses
  indications : next.indications = m.indications
  errors : next.errors = m.errors

theorem SameFrames.trans {last : Multiplexer} (first : SameFrames m next)
    (second : SameFrames next last) : SameFrames m last where
  received := second.received.trans first.received
  connected := second.connected.trans first.connected
  receiver := second.receiver.trans first.receiver
  inbox := second.inbox.trans first.inbox
  routing := second.routing.trans first.routing
  responses := second.responses.trans first.responses
  indications := second.indications.trans first.indications
  errors := second.errors.trans first.errors

theorem sameFrames_enqueue (m : Multiplexer) (s : Submission) : SameFrames m (m.enqueue s) := by
  rw [enqueue_eq]
  exact ⟨rfl, rfl, rfl, rfl, rfl, rfl, rfl, rfl⟩

theorem sameFrames_conclude (m : Multiplexer) (s : Submission) (outcome : Outcome) :
    SameFrames m (m.conclude s outcome) := by
  unfold conclude
  split <;> exact ⟨rfl, rfl, rfl, rfl, rfl, rfl, rfl, rfl⟩

theorem sameFrames_forsake (m : Multiplexer) (s : Submission) : SameFrames m (m.forsake s) := by
  unfold forsake
  split <;> exact ⟨rfl, rfl, rfl, rfl, rfl, rfl, rfl, rfl⟩

theorem sameFrames_endWriter (m : Multiplexer) (result : Except Failure Unit) :
    SameFrames m (m.endWriter result) := by
  rw [endWriter_eq]
  exact ⟨rfl, rfl, rfl, rfl, rfl, rfl, rfl, rfl⟩

/-- What a move does to the frames. -/
inductive Conveys (m : Multiplexer) : Move → Multiplexer → Prop where
  | aside {move : Move} {next : Multiplexer} (none : m.reads move = [])
      (other : move ≠ .route ∧ move ≠ .takeResponse) (quiet : move.arrival = [])
      (same : SameFrames m next) : Conveys m move next
  | arrived {bytes : List UInt8} (connected : m.connected = true) :
      Conveys m (.arrive bytes) { m with received := m.received ++ bytes }
  | left : Conveys m .disconnect { m with connected := false }
  | read {f : Frame} {rest : List UInt8} (found : m.reads .receive = [f])
      (routing : m.routing = true) (scanned : Frame.scan m.received = .frame f rest)
      (running : m.receiver = .running) : Conveys m .receive
        { m with received := rest, frames := m.frames.push f, inbox := m.inbox ++ [f] }
  /-- Without the router, the receiver ends with the frame in hand. -/
  | lost {f : Frame} {rest : List UInt8} (found : m.reads .receive = [f])
      (running : m.receiver = .running) (routing : m.routing = false)
      (scanned : Frame.scan m.received = .frame f rest) : Conveys m .receive
        { m with received := rest, frames := m.frames.push f, receiver := .ended (.ok ()) }
  | failed {error : FrameError} {rest : List UInt8} (none : m.reads .receive = [])
      (running : m.receiver = .running)
      (scanned : Frame.scan m.received = .failed error rest ∨
        Frame.scan m.received = .incomplete ∧ m.connected = false ∧ error = .endOfStream) :
      Conveys m .receive (m.failReceiver error rest)
  | halted (running : m.receiver = .running) :
      Conveys m .halt { m with receiver := .ended (.ok ()) }
  /-- Without the writer, the router ends with what it has not routed. -/
  | discarded {f : Frame} {rest : List Frame} (hinbox : m.inbox = f :: rest)
      (response : f.type = .syncResponse) (ended : m.isEnded = true) :
      Conveys m .route { m with inbox := [], routing := false }
  | passed {f : Frame} {rest : List Frame} (hinbox : m.inbox = f :: rest)
      (response : f.type = .syncResponse) (free : m.responses = []) :
      Conveys m .route { m with inbox := rest, responses := [f] }
  | delivered {f : Frame} {rest : List Frame} (hinbox : m.inbox = f :: rest)
      (other : f.type ≠ .syncResponse) : Conveys m .route ({ m with inbox := rest }.deliver f)
  | closed (empty : m.inbox = []) (deaf : m.isDeaf = true) :
      Conveys m .route { m with routing := false }
  /-- The response answers no request. -/
  | strayed {response : Frame} {rest : List Frame} (hresponses : m.responses = response :: rest)
      (unasked : ∀ request patience, m.writer = .waiting request patience →
        match? request.frame response = none) :
      Conveys m .takeResponse ({ m with responses := rest }.reportOrphan response)
  | matched {response : Frame} {rest : List Frame} {request : Submission} {patience : Patience}
      {outcome : Outcome} (hresponses : m.responses = response :: rest)
      (hwriter : m.writer = .waiting request patience)
      (answers : match? request.frame response = some outcome) :
      Conveys m .takeResponse
        ({ m with responses := rest, writer := .idle }.conclude request outcome)

theorem conveys_of_receive (h : m.receive = some next) : m.Conveys .receive next := by
  obtain ⟨running, ⟨f, rest, found, rfl⟩ | ⟨error, rest, failed, rfl⟩ |
    ⟨incomplete, gone, rfl⟩⟩ := receive_cases h
  · have reads := reads_of_found h found
    by_cases routing : m.routing = true
    · rw [if_pos routing]
      exact .read reads routing found running
    · rw [if_neg routing]
      exact .lost reads running (Bool.eq_false_iff.mpr routing) found
  · exact .failed (reads_of_not_found fun f rest found => by simp [found] at failed) running
      (.inl failed)
  · exact .failed (reads_of_not_found fun f rest found => by simp [found] at incomplete) running
      (.inr ⟨incomplete, gone, rfl⟩)

theorem conveys_of_route (h : m.route = some next) : m.Conveys .route next := by
  obtain ⟨-, ⟨f, rest, hinbox, response, ended, rfl⟩ | ⟨f, rest, hinbox, response, free, rfl⟩ |
    ⟨f, rest, hinbox, other, rfl⟩ | ⟨empty, deaf, rfl⟩⟩ := route_cases h
  · exact .discarded hinbox response ended
  · exact .passed hinbox response free
  · exact .delivered hinbox other
  · exact .closed empty deaf

theorem conveys_of_takeResponse (h : m.takeResponse = some next) :
    m.Conveys .takeResponse next := by
  obtain ⟨response, rest, hresponses, ⟨hwriter, rfl⟩ | ⟨request, patience, hwriter,
    ⟨unmatched, rfl⟩ | ⟨outcome, answers, rfl⟩⟩⟩ := takeResponse_cases h
  · refine .strayed hresponses fun request patience waiting => ?_
    simp [hwriter] at waiting
  · refine .strayed hresponses fun request' patience' waiting => ?_
    obtain ⟨rfl, -⟩ := WriterState.waiting.inj (hwriter.symm.trans waiting)
    exact unmatched
  · exact .matched hresponses hwriter answers

/-- Callers, and the writer when it takes no response, leave the frames alone. -/
theorem sameFrames_of_desk (desk : move.isLine = false) (other : move ≠ .takeResponse)
    (h : m.apply move = some next) : SameFrames m next := by
  cases move with
  | submit s =>
    obtain ⟨-, rfl⟩ | ⟨-, -, rfl⟩ | ⟨-, rfl⟩ := submit_cases h
    · exact ⟨rfl, rfl, rfl, rfl, rfl, rfl, rfl, rfl⟩
    · exact sameFrames_enqueue m s
    · exact ⟨rfl, rfl, rfl, rfl, rfl, rfl, rfl, rfl⟩
  | enter =>
    obtain ⟨s, rest, -, -, rfl⟩ := enter_cases h
    have aside : SameFrames m { m with blocked := rest } := ⟨rfl, rfl, rfl, rfl, rfl, rfl, rfl, rfl⟩
    exact aside.trans (sameFrames_enqueue _ s)
  | giveUp id =>
    obtain rfl := Option.some.inj h
    exact ⟨rfl, rfl, rfl, rfl, rfl, rfl, rfl, rfl⟩
  | expire id now =>
    obtain ⟨s, patience, -, -, -, -, rfl⟩ := expire_cases h
    exact ⟨rfl, rfl, rfl, rfl, rfl, rfl, rfl, rfl⟩
  | release =>
    obtain rfl := release_eq h
    exact ⟨rfl, rfl, rfl, rfl, rfl, rfl, rfl, rfl⟩
  | takeResponse => exact absurd rfl other
  | takeSubmission now =>
    obtain ⟨s, rest, -, -, ⟨-, rfl⟩ | ⟨-, reason, -, -, rfl⟩ | ⟨-, -, patience, -, rfl⟩⟩ :=
      taken_cases h
    all_goals
      have aside : SameFrames m { m with queue := rest } :=
        ⟨rfl, rfl, rfl, rfl, rfl, rfl, rfl, rfl⟩
    · exact ⟨rfl, rfl, rfl, rfl, rfl, rfl, rfl, rfl⟩
    · exact (aside.trans (sameFrames_forsake _ s)).trans (sameFrames_endWriter _ _)
    · exact aside.trans (sameFrames_conclude _ s _)
  | withdraw now =>
    obtain ⟨request, patience, -, rfl⟩ := withdraw_cases h
    have aside : SameFrames m { m with writer := .idle } := ⟨rfl, rfl, rfl, rfl, rfl, rfl, rfl, rfl⟩
    exact aside.trans (sameFrames_conclude _ request _)
  | finish =>
    obtain ⟨-, -, rfl⟩ | ⟨request, patience, -, -, rfl⟩ := finish_cases h
    · exact sameFrames_endWriter m _
    · have aside : SameFrames m { m with writer := .idle } :=
        ⟨rfl, rfl, rfl, rfl, rfl, rfl, rfl, rfl⟩
      exact aside.trans (sameFrames_conclude _ request _)
  | arrive | disconnect | jam | stop | receive | halt | route => simp [Move.isLine] at desk

/-- Every move conveys the frames in one of these ways. -/
theorem conveys_of_apply (h : m.apply move = some next) : m.Conveys move next := by
  cases move with
  | receive => exact conveys_of_receive h
  | halt =>
    obtain ⟨running, -, rfl⟩ := halt_eq h
    exact .halted running
  | route => exact conveys_of_route h
  | takeResponse => exact conveys_of_takeResponse h
  | arrive bytes =>
    simp only [apply] at h
    split at h
    · rename_i connected
      obtain rfl := Option.some.inj h
      exact .arrived connected
    · simp at h
  | disconnect =>
    obtain rfl := Option.some.inj h
    exact .left
  | jam | stop =>
    obtain rfl := Option.some.inj h
    exact .aside rfl (by simp) rfl ⟨rfl, rfl, rfl, rfl, rfl, rfl, rfl, rfl⟩
  | submit | enter | giveUp | expire | release | takeSubmission | withdraw | finish =>
    exact .aside rfl (by simp) rfl (sameFrames_of_desk rfl (by simp) h)

/-! ### What has been read -/

theorem sameLine_deliver (m : Multiplexer) (f : Frame) :
    SameLine m (m.deliver f) ∧ (m.deliver f).responses = m.responses := by
  obtain ⟨i, hi⟩ | ⟨e, he⟩ := deliver_cases m f
  · rw [hi]
    exact ⟨⟨rfl, rfl, rfl, rfl⟩, rfl⟩
  · rw [he]
    exact ⟨⟨rfl, rfl, rfl, rfl⟩, rfl⟩

/-- What waits for the writer is a response. -/
theorem responses_apply (responses : ∀ f ∈ m.responses, f.type = .syncResponse)
    (h : m.apply move = some next) : ∀ f ∈ next.responses, f.type = .syncResponse := by
  cases conveys_of_apply h with
  | aside none other quiet same =>
    rw [same.responses]
    exact responses
  | arrived | left | read | lost | failed | halted | discarded | closed => exact responses
  | @passed f rest hinbox response free =>
    intro g member
    obtain rfl := List.mem_singleton.mp member
    exact response
  | delivered =>
    rw [(sameLine_deliver _ _).2]
    exact responses
  | strayed hresponses =>
    exact fun g member => responses g (hresponses ▸ List.mem_cons_of_mem _ member)
  | @matched response rest request patience outcome hresponses =>
    rw [(sameFrames_conclude _ request outcome).responses]
    exact fun g member => responses g (hresponses ▸ List.mem_cons_of_mem _ member)

theorem responses_run {moves : List Move} (h : initial.run moves = some m) :
    ∀ f ∈ m.responses, f.type = .syncResponse := by
  refine run_induction (P := fun _ m => ∀ f ∈ m.responses, f.type = .syncResponse) ?_ ?_ h
  · exact fun _ none => absurd none List.not_mem_nil
  · exact fun _ _ _ _ _ ih hmove => responses_apply ih hmove

/-- A move puts on the way only what it reads. -/
theorem carried_apply {f : Frame} (h : m.apply move = some next)
    (member : f ∈ next.responses ++ next.inbox) :
    f ∈ m.responses ++ m.inbox ∨ f ∈ m.reads move := by
  cases conveys_of_apply h with
  | aside none other quiet same =>
    rw [same.responses, same.inbox] at member
    exact .inl member
  | read found =>
    rw [← List.append_assoc, List.mem_append] at member
    exact member.imp_right fun new => found ▸ new
  | arrived | left | lost | failed | halted | closed => exact .inl member
  | discarded =>
    rw [List.append_nil] at member
    exact .inl (List.mem_append_left _ member)
  | @passed g rest hinbox response free =>
    rw [free, hinbox]
    exact .inl member
  | @delivered g rest hinbox =>
    obtain ⟨same, responses⟩ := sameLine_deliver { m with inbox := rest } g
    rw [responses, same.inbox] at member
    rw [hinbox]
    exact .inl (((List.sublist_cons_self g rest).append_left _).subset member)
  | strayed hresponses =>
    rw [hresponses]
    exact .inl (List.mem_cons_of_mem _ member)
  | @matched response rest request patience outcome hresponses =>
    have same := sameFrames_conclude { m with responses := rest, writer := .idle } request outcome
    rw [same.responses, same.inbox] at member
    rw [hresponses]
    exact .inl (List.mem_cons_of_mem _ member)

/-- What is on its way has been read. -/
theorem carried_run {moves : List Move} (h : initial.run moves = some m) :
    ∀ f ∈ m.responses ++ m.inbox, f ∈ initial.read moves := by
  refine run_induction (P := fun moves m =>
    ∀ f ∈ m.responses ++ m.inbox, f ∈ initial.read moves) ?_ ?_ h
  · exact fun _ none => absurd none List.not_mem_nil
  · intro moves m move next hrun ih hmove f member
    rw [read, history_concat hrun, List.mem_append]
    exact (carried_apply hmove member).imp_left (ih f)

end Multiplexer

end Zigbee.Host
