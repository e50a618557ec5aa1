import Zigbee.Host.Multiplexer
import Zigbee.Proofs.Serial.Stream

/-!
# What the moves of the multiplexer need and do

For each move that is not always possible, one lemma says when it is possible and what it
leads to. A move is one of the line, which leaves the writer and its callers alone, or one
of them, which leaves the line alone.

The view of the submissions is `pending`: the request in flight and the backlog. A move
writes at most the first of the backlog, only ever drops some of the others, and adds what it
submits at the end, so along a run they keep the order of submission.
-/

namespace Zigbee.Host

open Serial

/-- What a move submits. -/
def Move.submissions : Move → List Submission
  | .submit s => [s]
  | _ => []

/-- Whether the move is one of the receiver, the router or the line, and not of a caller or
the writer. -/
def Move.isLine : Move → Bool
  | .arrive _ | .disconnect | .jam | .stop | .receive | .halt | .route => true
  | _ => false

namespace Multiplexer

variable {m next : Multiplexer}

/-! ### Telling callers -/

theorem isAwaited_tell (m : Multiplexer) (id : Nat) (outcome : Outcome) :
    (m.tell id outcome).isAwaited = m.isAwaited := rfl

theorem foldl_forsake (m : Multiplexer) (queue : List Submission) :
    queue.foldl forsake m = { m with
      outcomes := m.outcomes ++
        (queue.filter m.isAwaited).map fun s => (s.id, .failed .transportClosed) } := by
  induction queue generalizing m with
  | nil => simp
  | cons s rest ih =>
    rw [List.foldl_cons, ih]
    by_cases h : m.isAwaited s
    · rw [forsake, if_pos h, isAwaited_tell, List.filter_cons_of_pos h]
      simp only [tell, List.map_cons, List.append_assoc, List.singleton_append]
    · rw [forsake, if_neg h, List.filter_cons_of_neg h]

theorem foldl_tell (m : Multiplexer) (outcome : Outcome) (blocked : List Submission) :
    blocked.foldl (fun m s => m.tell s.id outcome) m = { m with
      outcomes := m.outcomes ++ blocked.map fun s => (s.id, outcome) } := by
  induction blocked generalizing m with
  | nil => simp
  | cons s rest ih =>
    rw [List.foldl_cons, ih]
    simp only [tell, List.map_cons, List.append_assoc, List.singleton_append]

/-- What callers learn from the end of the writer. -/
def lastOutcomes (m : Multiplexer) : List (Nat × Outcome) :=
  (m.queue.filter m.isAwaited ++ m.blocked).map fun s => (s.id, .failed .transportClosed)

/-- The end of the writer empties the queue, and whoever still waits learns of it. -/
theorem endWriter_eq (m : Multiplexer) (result : Except Failure Unit) :
    m.endWriter result = { m with
      writer := .ended result
      stopping := true
      queue := []
      blocked := []
      abandoned := []
      outcomes := m.outcomes ++ m.lastOutcomes } := by
  simp only [endWriter, foldl_forsake, foldl_tell, lastOutcomes, List.map_append,
    List.append_assoc]

/-! ### The writer -/

theorem writeFailure?_of_not_fits {f : Frame} (h : ¬ f.Fits) :
    m.writeFailure? f = some (.codec (.lengthOverflow f.payload.length 1)) := by
  simp only [writeFailure?, Frame.render_of_not_fits h]

theorem writeFailure?_eq_none_iff {f : Frame} :
    m.writeFailure? f = none ↔ f.Fits ∧ m.connected = true ∧ m.writable = true := by
  by_cases h : f.Fits
  · simp [writeFailure?, Frame.render_of_fits h, h]
  · simp [writeFailure?_of_not_fits h, h]

theorem transmit_of_writable {s : Submission} (h : m.writeFailure? s.frame = none) :
    m.transmit s = { m with
      written := m.written ++ [s.frame]
      writer := match s.patience with
        | some patience => .waiting s patience
        | none => .idle } := by
  unfold transmit
  split
  · simp_all
  · rfl

theorem transmit_of_failure {s : Submission} {reason : Failure}
    (h : m.writeFailure? s.frame = some reason) :
    m.transmit s = (m.forsake s).endWriter (.error reason) := by
  unfold transmit
  split <;> simp_all

theorem takeSubmission_cases {now : Nat} (h : m.takeSubmission now = some next) :
    ∃ s rest, m.writer = .idle ∧ m.queue = s :: rest ∧
      ((m.isDue now s = true ∧ next = { m with queue := rest }.transmit s) ∨
       (m.isDue now s = false ∧ ∃ patience, s.patience = some patience ∧
         next = { m with queue := rest }.conclude s (timedOut patience))) := by
  unfold takeSubmission at h
  split at h
  · rename_i s rest hwriter hqueue
    refine ⟨s, rest, hwriter, hqueue, ?_⟩
    cases hdue : m.isDue now s with
    | true => exact .inl ⟨rfl, by simpa [hdue] using h.symm⟩
    | false =>
      simp only [hdue, Bool.false_eq_true, if_false] at h
      obtain ⟨patience, hpatience, hnext⟩ := Option.map_eq_some_iff.mp h
      exact .inr ⟨rfl, patience, hpatience, hnext.symm⟩
  · simp at h

theorem takeResponse_cases (h : m.takeResponse = some next) :
    ∃ response rest, m.responses = response :: rest ∧
      ((m.writer = .idle ∧ next = { m with responses := rest }.reportOrphan response) ∨
       ∃ request patience, m.writer = .waiting request patience ∧
        ((match? request.frame response = none ∧
            next = { m with responses := rest }.reportOrphan response) ∨
         ∃ outcome, match? request.frame response = some outcome ∧
            next = { m with responses := rest, writer := .idle }.conclude request outcome)) := by
  unfold takeResponse at h
  cases hresponses : m.responses with
  | nil => simp [hresponses] at h
  | cons response rest =>
    refine ⟨response, rest, rfl, ?_⟩
    cases hwriter : m.writer with
    | idle => exact .inl ⟨rfl, by simpa [hresponses, hwriter] using h.symm⟩
    | waiting request patience =>
      refine .inr ⟨request, patience, rfl, ?_⟩
      cases hmatch : match? request.frame response with
      | none => exact .inl ⟨rfl, by simpa [hresponses, hwriter, hmatch] using h.symm⟩
      | some outcome =>
        exact .inr ⟨outcome, rfl, by simpa [hresponses, hwriter, hmatch] using h.symm⟩
    | ended result => simp [hresponses, hwriter] at h

theorem withdraw_cases {now : Nat} (h : m.withdraw now = some next) :
    ∃ request patience, m.writer = .waiting request patience ∧
      next = { m with writer := .idle }.conclude request (timedOut patience) := by
  unfold withdraw at h
  split at h
  · rename_i request patience hwriter
    split at h
    · exact ⟨request, patience, hwriter, by simpa using h.symm⟩
    · simp at h
  · simp at h

theorem finish_cases (h : m.finish = some next) :
    (m.writer = .idle ∧ (m.isSilent || m.isDrained) = true ∧ next = m.endWriter (.ok ())) ∨
    ∃ request patience, m.writer = .waiting request patience ∧ m.isSilent = true ∧
      next = { m with writer := .idle }.conclude request (.failed .transportClosed) := by
  unfold finish at h
  split at h
  · rename_i hwriter
    split at h
    · rename_i spent
      exact .inl ⟨hwriter, spent, by simpa using h.symm⟩
    · simp at h
  · rename_i request patience hwriter
    split at h
    · rename_i silent
      exact .inr ⟨request, patience, hwriter, silent, by simpa using h.symm⟩
    · simp at h
  · simp at h

/-! ### Callers -/

theorem submit_cases {s : Submission} (h : m.apply (.submit s) = some next) :
    (m.isEnded = true ∧ next = m.tell s.id (.failed .transportClosed)) ∨
    (m.isEnded = false ∧ m.blocked = [] ∧ next = m.enqueue s) ∨
    (m.isEnded = false ∧ next = { m with blocked := m.blocked ++ [s] }) := by
  simp only [apply] at h
  split at h
  · simp at h
  · obtain rfl := Option.some.inj h
    unfold submit
    split
    · rename_i ended
      exact .inl ⟨ended, rfl⟩
    · rename_i running
      rw [Bool.not_eq_true] at running
      split
      · rename_i room
        exact .inr (.inl ⟨running, List.isEmpty_iff.mp room.2, rfl⟩)
      · exact .inr (.inr ⟨running, rfl⟩)

theorem enter_cases (h : m.enter = some next) :
    ∃ s rest, m.blocked = s :: rest ∧ m.queue.length < queueCapacity ∧
      next = { m with blocked := rest }.enqueue s := by
  unfold enter at h
  split at h
  · rename_i s rest hblocked
    split at h
    · rename_i room
      exact ⟨s, rest, hblocked, room, by simpa using h.symm⟩
    · simp at h
  · simp at h

theorem expire_cases {id now : Nat} (h : m.expire id now = some next) :
    ∃ s patience, s ∈ m.underWay ∧ s.id = id ∧ s.patience = some patience ∧
      m.isOverdue now s = true ∧
      next = { m with abandoned := m.abandoned ++ [id] }.tell id (timedOut patience) := by
  unfold expire at h
  split at h
  · rename_i s found
    obtain ⟨patience, hpatience, hnext⟩ := Option.map_eq_some_iff.mp h
    have hs := List.find?_some found
    simp only [Bool.and_eq_true, beq_iff_eq] at hs
    exact ⟨s, patience, List.mem_of_find?_eq_some found, hs.1, hpatience, hs.2, hnext.symm⟩
  · simp at h

theorem release_eq (h : m.release = some next) : next = { m with released := true } := by
  unfold release at h
  split at h
  · simpa using h.symm
  · simp at h

theorem enqueue_eq (m : Multiplexer) (s : Submission) :
    m.enqueue s = { m with
      queue := m.queue ++ [s]
      outcomes := m.outcomes ++ if s.patience.isNone then [(s.id, .accepted)] else [] } := by
  unfold enqueue
  cases s.patience with
  | none => rfl
  | some patience => simp

/-! ### Receiver and router -/

theorem receive_cases (h : m.receive = some next) :
    m.receiver = .running ∧
      ((∃ f rest, Frame.scan m.received = .frame f rest ∧
          next = if m.routing then
              { m with received := rest, frames := m.frames.push f, inbox := m.inbox ++ [f] }
            else { m with
              received := rest, frames := m.frames.push f, receiver := .ended (.ok ()) }) ∨
       (∃ error rest, Frame.scan m.received = .failed error rest ∧
          next = m.failReceiver error rest) ∨
       (Frame.scan m.received = .incomplete ∧ m.connected = false ∧
          next = m.failReceiver .endOfStream [])) := by
  unfold receive at h
  split at h
  · simp at h
  · rename_i running
    refine ⟨running, ?_⟩
    split at h
    · split at h
      · rename_i f rest found
        exact .inl ⟨f, rest, found, by simpa using h.symm⟩
      · rename_i error rest failed
        exact .inr (.inl ⟨error, rest, failed, by simpa using h.symm⟩)
      · rename_i incomplete
        split at h
        · simp at h
        · rename_i gone
          exact .inr (.inr ⟨incomplete, by simpa using gone, by simpa using h.symm⟩)
    · simp at h

theorem halt_eq (h : m.halt = some next) :
    m.receiver = .running ∧ m.stopping = true ∧ next = { m with receiver := .ended (.ok ()) } := by
  unfold halt at h
  split at h
  · simp at h
  · rename_i running
    split at h
    · rename_i stopping
      exact ⟨running, stopping, by simpa using h.symm⟩
    · simp at h

theorem route_cases (h : m.route = some next) :
    m.routing = true ∧
      ((∃ f rest, m.inbox = f :: rest ∧ f.type = .syncResponse ∧ m.isEnded = true ∧
          next = { m with inbox := [], routing := false }) ∨
       (∃ f rest, m.inbox = f :: rest ∧ f.type = .syncResponse ∧ m.responses = [] ∧
          next = { m with inbox := rest, responses := [f] }) ∨
       (∃ f rest, m.inbox = f :: rest ∧ f.type ≠ .syncResponse ∧
          next = { m with inbox := rest }.deliver f) ∨
       (m.inbox = [] ∧ m.isDeaf = true ∧ next = { m with routing := false })) := by
  unfold route at h
  split at h
  · rename_i routing
    refine ⟨routing, ?_⟩
    split at h
    · rename_i f rest hinbox
      split at h
      · rename_i response
        split at h
        · rename_i ended
          exact .inl ⟨f, rest, hinbox, response, ended, by simpa using h.symm⟩
        · split at h
          · rename_i free
            exact .inr (.inl
              ⟨f, rest, hinbox, response, by simpa using free, by simpa using h.symm⟩)
          · simp at h
      · rename_i other
        exact .inr (.inr (.inl ⟨f, rest, hinbox, other, by simpa using h.symm⟩))
    · rename_i hinbox
      split at h
      · rename_i deaf
        exact .inr (.inr (.inr ⟨hinbox, deaf, by simpa using h.symm⟩))
      · simp at h
  · simp at h

/-- A frame that is no response goes to the broadcast or is reported. -/
theorem deliver_cases (m : Multiplexer) (f : Frame) :
    (∃ i, m.deliver f = { m with indications := m.indications.push i }) ∨
    ∃ e, m.deliver f = { m with errors := m.errors.push e } := by
  unfold deliver
  split
  · split
    · exact .inl ⟨_, rfl⟩
    · exact .inr ⟨_, rfl⟩
  · exact .inr ⟨_, rfl⟩

/-! ### The two sides -/

/-- What the writer and its callers share is the same. -/
structure SameDesk (m next : Multiplexer) : Prop where
  writer : next.writer = m.writer
  queue : next.queue = m.queue
  blocked : next.blocked = m.blocked
  abandoned : next.abandoned = m.abandoned
  outcomes : next.outcomes = m.outcomes
  written : next.written = m.written

/-- What the receiver and the router share is the same. -/
structure SameLine (m next : Multiplexer) : Prop where
  received : next.received = m.received
  receiver : next.receiver = m.receiver
  inbox : next.inbox = m.inbox
  routing : next.routing = m.routing

theorem sameDesk_deliver (m : Multiplexer) (f : Frame) : SameDesk m (m.deliver f) := by
  obtain ⟨i, hi⟩ | ⟨e, he⟩ := deliver_cases m f
  · rw [hi]
    exact ⟨rfl, rfl, rfl, rfl, rfl, rfl⟩
  · rw [he]
    exact ⟨rfl, rfl, rfl, rfl, rfl, rfl⟩

/-- Moves on the line leave the writer's side alone. -/
theorem sameDesk_of_line {move : Move} (line : move.isLine = true)
    (h : m.apply move = some next) : SameDesk m next := by
  cases move with
  | arrive bytes =>
    simp only [apply] at h
    split at h
    · obtain rfl := Option.some.inj h
      exact ⟨rfl, rfl, rfl, rfl, rfl, rfl⟩
    · simp at h
  | disconnect | jam | stop =>
    obtain rfl := Option.some.inj h
    exact ⟨rfl, rfl, rfl, rfl, rfl, rfl⟩
  | receive =>
    obtain ⟨-, ⟨f, rest, -, rfl⟩ | ⟨error, rest, -, rfl⟩ | ⟨-, -, rfl⟩⟩ := receive_cases h
    · split <;> exact ⟨rfl, rfl, rfl, rfl, rfl, rfl⟩
    · exact ⟨rfl, rfl, rfl, rfl, rfl, rfl⟩
    · exact ⟨rfl, rfl, rfl, rfl, rfl, rfl⟩
  | halt =>
    obtain ⟨-, -, rfl⟩ := halt_eq h
    exact ⟨rfl, rfl, rfl, rfl, rfl, rfl⟩
  | route =>
    obtain ⟨-, ⟨f, rest, -, -, -, rfl⟩ | ⟨f, rest, -, -, -, rfl⟩ | ⟨f, rest, -, -, rfl⟩ |
      ⟨-, -, rfl⟩⟩ := route_cases h
    · exact ⟨rfl, rfl, rfl, rfl, rfl, rfl⟩
    · exact ⟨rfl, rfl, rfl, rfl, rfl, rfl⟩
    · have same := sameDesk_deliver { m with inbox := rest } f
      exact ⟨same.writer, same.queue, same.blocked, same.abandoned, same.outcomes, same.written⟩
    · exact ⟨rfl, rfl, rfl, rfl, rfl, rfl⟩
  | submit | enter | giveUp | expire | release | takeResponse | takeSubmission | withdraw |
    finish => simp [Move.isLine] at line

theorem sameLine_conclude (m : Multiplexer) (s : Submission) (outcome : Outcome) :
    SameLine m (m.conclude s outcome) ∧ (m.conclude s outcome).responses = m.responses := by
  unfold conclude
  split <;> exact ⟨⟨rfl, rfl, rfl, rfl⟩, rfl⟩

theorem sameLine_endWriter (m : Multiplexer) (result : Except Failure Unit) :
    SameLine m (m.endWriter result) ∧ (m.endWriter result).responses = m.responses := by
  rw [endWriter_eq]
  exact ⟨⟨rfl, rfl, rfl, rfl⟩, rfl⟩

theorem sameLine_transmit (m : Multiplexer) (s : Submission) :
    SameLine m (m.transmit s) ∧ (m.transmit s).responses = m.responses := by
  cases hfailure : m.writeFailure? s.frame with
  | none =>
    rw [transmit_of_writable hfailure]
    exact ⟨⟨rfl, rfl, rfl, rfl⟩, rfl⟩
  | some reason =>
    rw [transmit_of_failure hfailure, endWriter_eq]
    unfold forsake
    split <;> exact ⟨⟨rfl, rfl, rfl, rfl⟩, rfl⟩

/-- Moves of callers and of the writer leave the line alone, and all but one of them leave
the response that waits for the writer. -/
theorem sameLine_of_desk {move : Move} (desk : move.isLine = false)
    (h : m.apply move = some next) :
    SameLine m next ∧ (move ≠ .takeResponse → next.responses = m.responses) := by
  cases move with
  | submit s =>
    obtain ⟨-, rfl⟩ | ⟨-, -, rfl⟩ | ⟨-, rfl⟩ := submit_cases h
    · exact ⟨⟨rfl, rfl, rfl, rfl⟩, fun _ => rfl⟩
    · rw [enqueue_eq]
      exact ⟨⟨rfl, rfl, rfl, rfl⟩, fun _ => rfl⟩
    · exact ⟨⟨rfl, rfl, rfl, rfl⟩, fun _ => rfl⟩
  | enter =>
    obtain ⟨s, rest, -, -, rfl⟩ := enter_cases h
    rw [enqueue_eq]
    exact ⟨⟨rfl, rfl, rfl, rfl⟩, fun _ => rfl⟩
  | giveUp id =>
    obtain rfl := Option.some.inj h
    exact ⟨⟨rfl, rfl, rfl, rfl⟩, fun _ => rfl⟩
  | expire id now =>
    obtain ⟨s, patience, -, -, -, -, rfl⟩ := expire_cases h
    exact ⟨⟨rfl, rfl, rfl, rfl⟩, fun _ => rfl⟩
  | release =>
    obtain rfl := release_eq h
    exact ⟨⟨rfl, rfl, rfl, rfl⟩, fun _ => rfl⟩
  | takeResponse =>
    refine ⟨?_, fun other => absurd rfl other⟩
    obtain ⟨response, rest, -, ⟨-, rfl⟩ | ⟨request, patience, -, ⟨-, rfl⟩ | ⟨outcome, -, rfl⟩⟩⟩ :=
      takeResponse_cases h
    · exact ⟨rfl, rfl, rfl, rfl⟩
    · exact ⟨rfl, rfl, rfl, rfl⟩
    · obtain ⟨same, -⟩ := sameLine_conclude { m with responses := rest, writer := .idle } request
        outcome
      exact ⟨same.received, same.receiver, same.inbox, same.routing⟩
  | takeSubmission now =>
    obtain ⟨s, rest, -, -, ⟨-, rfl⟩ | ⟨-, patience, -, rfl⟩⟩ := takeSubmission_cases h
    · obtain ⟨same, responses⟩ := sameLine_transmit { m with queue := rest } s
      exact ⟨⟨same.received, same.receiver, same.inbox, same.routing⟩, fun _ => responses⟩
    · obtain ⟨same, responses⟩ := sameLine_conclude { m with queue := rest } s (timedOut patience)
      exact ⟨⟨same.received, same.receiver, same.inbox, same.routing⟩, fun _ => responses⟩
  | withdraw now =>
    obtain ⟨request, patience, -, rfl⟩ := withdraw_cases h
    obtain ⟨same, responses⟩ := sameLine_conclude { m with writer := .idle } request
      (timedOut patience)
    exact ⟨⟨same.received, same.receiver, same.inbox, same.routing⟩, fun _ => responses⟩
  | finish =>
    obtain ⟨-, -, rfl⟩ | ⟨request, patience, -, -, rfl⟩ := finish_cases h
    · obtain ⟨same, responses⟩ := sameLine_endWriter m (.ok ())
      exact ⟨same, fun _ => responses⟩
    · obtain ⟨same, responses⟩ := sameLine_conclude { m with writer := .idle } request
        (.failed .transportClosed)
      exact ⟨⟨same.received, same.receiver, same.inbox, same.routing⟩, fun _ => responses⟩
  | arrive | disconnect | jam | stop | receive | halt | route => simp [Move.isLine] at desk

/-! ### What is pending -/

/-- The submission that the move writes. -/
def transmitted (m : Multiplexer) : Move → List Submission
  | .takeSubmission now =>
    match m.writer, m.queue with
    | .idle, s :: _ =>
      if m.isDue now s && (m.writeFailure? s.frame).isNone then [s] else []
    | _, _ => []
  | _ => []

/-- The request for whose response the writer waits. -/
def flight (m : Multiplexer) : List Submission :=
  match m.writer with
  | .waiting request _ => [request]
  | _ => []

/-- The submissions that the writer has yet to take. -/
def backlog (m : Multiplexer) : List Submission := m.queue ++ m.blocked

/-- The submissions that have not been dealt with, in their order. -/
def pending (m : Multiplexer) : List Submission := m.flight ++ m.backlog

theorem underWay_eq (m : Multiplexer) : m.underWay = m.flight ++ m.queue := rfl

theorem mem_pending_of_underWay {s : Submission} (h : s ∈ m.underWay) : s ∈ m.pending := by
  rw [underWay_eq] at h
  rw [pending, backlog, ← List.append_assoc]
  exact List.mem_append_left _ h

theorem pending_of_idle (h : m.writer = .idle) : m.pending = m.queue ++ m.blocked := by
  simp only [pending, flight, h, backlog, List.nil_append]

theorem pending_of_waiting {request : Submission} {patience : Patience}
    (h : m.writer = .waiting request patience) :
    m.pending = request :: (m.queue ++ m.blocked) := by
  simp only [pending, flight, h, backlog, List.cons_append, List.nil_append]

theorem pending_conclude (m : Multiplexer) (s : Submission) (outcome : Outcome) :
    (m.conclude s outcome).pending = m.pending := by
  unfold conclude
  split <;> rfl

theorem desk_conclude (m : Multiplexer) (s : Submission) (outcome : Outcome) :
    (m.conclude s outcome).writer = m.writer ∧ (m.conclude s outcome).queue = m.queue ∧
      (m.conclude s outcome).blocked = m.blocked ∧ (m.conclude s outcome).written = m.written := by
  unfold conclude
  split <;> exact ⟨rfl, rfl, rfl, rfl⟩

theorem transmitted_of_line {move : Move} (line : move.isLine = true) :
    m.transmitted move = [] := by
  cases move with
  | takeSubmission now => simp [Move.isLine] at line
  | _ => rfl

theorem submissions_of_line {move : Move} (line : move.isLine = true) : move.submissions = [] := by
  cases move with
  | submit s => simp [Move.isLine] at line
  | _ => rfl

/-- What becomes of the next submission: it is written, or the writer ends, or it is not due
any more and ends itself. -/
theorem taken_cases {now : Nat} (h : m.takeSubmission now = some next) :
    ∃ s rest, m.writer = .idle ∧ m.queue = s :: rest ∧
      ((m.transmitted (.takeSubmission now) = [s] ∧
          next = { m with
            queue := rest
            written := m.written ++ [s.frame]
            writer := match s.patience with
              | some patience => .waiting s patience
              | none => .idle }) ∨
       (m.transmitted (.takeSubmission now) = [] ∧ ∃ reason,
          m.isDue now s = true ∧ m.writeFailure? s.frame = some reason ∧
          next = ({ m with queue := rest }.forsake s).endWriter (.error reason)) ∨
       (m.transmitted (.takeSubmission now) = [] ∧ m.isDue now s = false ∧
          ∃ patience, s.patience = some patience ∧
          next = { m with queue := rest }.conclude s (timedOut patience))) := by
  obtain ⟨s, rest, hwriter, hqueue, ⟨due, rfl⟩ | ⟨notDue, patience, hpatience, rfl⟩⟩ :=
    takeSubmission_cases h
  · refine ⟨s, rest, hwriter, hqueue, ?_⟩
    cases hfailure : m.writeFailure? s.frame with
    | none =>
      refine .inl ⟨by simp [transmitted, hwriter, hqueue, due, hfailure], ?_⟩
      exact transmit_of_writable (m := { m with queue := rest }) hfailure
    | some reason =>
      refine .inr (.inl ⟨by simp [transmitted, hwriter, hqueue, hfailure], reason, due, rfl, ?_⟩)
      exact transmit_of_failure (m := { m with queue := rest }) hfailure
  · refine ⟨s, rest, hwriter, hqueue, .inr (.inr ⟨?_, notDue, patience, hpatience, rfl⟩)⟩
    simp [transmitted, hwriter, hqueue, notDue]

/-- A move leaves the request in flight there, or ends it, or writes another. -/
theorem flight_apply {move : Move} (h : m.apply move = some next) :
    next.flight = [] ∨ (next.flight = m.flight ∧ m.transmitted move = []) ∨
      next.flight = m.transmitted move := by
  by_cases line : move.isLine = true
  · have same := sameDesk_of_line line h
    exact .inr (.inl ⟨by rw [flight, same.writer, flight], transmitted_of_line line⟩)
  cases move with
  | submit s =>
    refine .inr (.inl ⟨?_, rfl⟩)
    obtain ⟨-, rfl⟩ | ⟨-, -, rfl⟩ | ⟨-, rfl⟩ := submit_cases h
    · rfl
    · rw [enqueue_eq]
      rfl
    · rfl
  | enter =>
    obtain ⟨s, rest, -, -, rfl⟩ := enter_cases h
    rw [enqueue_eq]
    exact .inr (.inl ⟨rfl, rfl⟩)
  | giveUp id =>
    obtain rfl := Option.some.inj h
    exact .inr (.inl ⟨rfl, rfl⟩)
  | expire id now =>
    obtain ⟨s, patience, -, -, -, -, rfl⟩ := expire_cases h
    exact .inr (.inl ⟨rfl, rfl⟩)
  | release =>
    obtain rfl := release_eq h
    exact .inr (.inl ⟨rfl, rfl⟩)
  | takeResponse =>
    obtain ⟨response, rest, -, ⟨-, rfl⟩ | ⟨request, patience, -, ⟨-, rfl⟩ | ⟨outcome, -, rfl⟩⟩⟩ :=
      takeResponse_cases h
    · exact .inr (.inl ⟨rfl, rfl⟩)
    · exact .inr (.inl ⟨rfl, rfl⟩)
    · refine .inl ?_
      rw [flight, (desk_conclude _ _ _).1]
  | takeSubmission now =>
    obtain ⟨s, rest, hwriter, -, ⟨hwrites, rfl⟩ | ⟨-, reason, -, -, rfl⟩ |
      ⟨hwrites, -, patience, -, rfl⟩⟩ := taken_cases h
    · cases hpatience : s.patience with
      | none => exact .inl rfl
      | some patience => exact .inr (.inr hwrites.symm)
    · rw [endWriter_eq]
      exact .inl rfl
    · refine .inl ?_
      simp only [flight, (desk_conclude _ _ _).1, hwriter]
  | withdraw now =>
    obtain ⟨request, patience, -, rfl⟩ := withdraw_cases h
    refine .inl ?_
    rw [flight, (desk_conclude _ _ _).1]
  | finish =>
    refine .inl ?_
    obtain ⟨-, -, rfl⟩ | ⟨request, patience, -, -, rfl⟩ := finish_cases h
    · rw [endWriter_eq]
      rfl
    · rw [flight, (desk_conclude _ _ _).1]
  | arrive | disconnect | jam | stop | receive | halt | route => simp [Move.isLine] at line

/-- A move may write the first of the backlog, drops some of the rest, and adds what it
submits. -/
theorem backlog_apply {move : Move} (h : m.apply move = some next) :
    (m.transmitted move ++ next.backlog).Sublist (m.backlog ++ move.submissions) := by
  by_cases line : move.isLine = true
  · have same := sameDesk_of_line line h
    rw [transmitted_of_line line, submissions_of_line line, List.append_nil, backlog,
      same.queue, same.blocked]
    exact List.Sublist.refl _
  cases move with
  | submit s =>
    obtain ⟨-, rfl⟩ | ⟨-, room, rfl⟩ | ⟨-, rfl⟩ := submit_cases h
    · exact List.sublist_append_left _ _
    · rw [enqueue_eq]
      simp [backlog, transmitted, room, Move.submissions]
    · simp [backlog, transmitted, Move.submissions]
  | enter =>
    obtain ⟨s, rest, hblocked, -, rfl⟩ := enter_cases h
    rw [enqueue_eq]
    simp [backlog, transmitted, hblocked, Move.submissions]
  | giveUp id =>
    obtain rfl := Option.some.inj h
    simp only [transmitted, Move.submissions, List.nil_append, List.append_nil]
    exact List.filter_sublist.append_left m.queue
  | expire id now =>
    obtain ⟨s, patience, -, -, -, -, rfl⟩ := expire_cases h
    exact List.sublist_append_left _ _
  | release =>
    obtain rfl := release_eq h
    exact List.sublist_append_left _ _
  | takeResponse =>
    have same : next.backlog = m.backlog := by
      obtain ⟨response, rest, -, ⟨-, rfl⟩ | ⟨request, patience, -, ⟨-, rfl⟩ |
        ⟨outcome, -, rfl⟩⟩⟩ := takeResponse_cases h
      · rfl
      · rfl
      · rw [backlog, (desk_conclude _ _ _).2.1, (desk_conclude _ _ _).2.2.1]
        rfl
    rw [same]
    exact List.sublist_append_left _ _
  | takeSubmission now =>
    obtain ⟨s, rest, -, hqueue, ⟨hwrites, rfl⟩ | ⟨hwrites, reason, -, -, rfl⟩ |
      ⟨hwrites, -, patience, -, rfl⟩⟩ := taken_cases h
    · rw [hwrites]
      simp [backlog, hqueue, Move.submissions]
    · rw [hwrites, endWriter_eq]
      exact List.nil_sublist _
    · rw [hwrites, backlog, (desk_conclude _ _ _).2.1, (desk_conclude _ _ _).2.2.1]
      simp [backlog, hqueue, Move.submissions]
  | withdraw now =>
    obtain ⟨request, patience, -, rfl⟩ := withdraw_cases h
    rw [backlog, (desk_conclude _ _ _).2.1, (desk_conclude _ _ _).2.2.1]
    exact List.sublist_append_left _ _
  | finish =>
    obtain ⟨-, -, rfl⟩ | ⟨request, patience, -, -, rfl⟩ := finish_cases h
    · rw [endWriter_eq]
      exact List.nil_sublist _
    · rw [backlog, (desk_conclude _ _ _).2.1, (desk_conclude _ _ _).2.2.1]
      exact List.sublist_append_left _ _
  | arrive | disconnect | jam | stop | receive | halt | route => simp [Move.isLine] at line

/-- A move drops some of what is pending and adds what it submits. -/
theorem pending_apply {move : Move} (h : m.apply move = some next) :
    next.pending.Sublist (m.pending ++ move.submissions) := by
  have rest := backlog_apply h
  rw [pending, pending, List.append_assoc]
  obtain ended | ⟨same, none⟩ | written := flight_apply h
  · rw [ended]
    exact ((List.sublist_append_right _ _).trans rest).trans (List.sublist_append_right _ _)
  · rw [none, List.nil_append] at rest
    rw [same]
    exact rest.append_left m.flight
  · rw [written]
    exact rest.trans (List.sublist_append_right _ _)

/-- Along a run, what is pending keeps the order of submission. -/
theorem pending_run {moves : List Move} {m next : Multiplexer} (h : m.run moves = some next) :
    next.pending.Sublist (m.pending ++ moves.flatMap Move.submissions) := by
  induction moves generalizing m with
  | nil =>
    obtain rfl := Option.some.inj h
    exact List.sublist_append_left _ _
  | cons move rest ih =>
    obtain ⟨middle, hmove, hrest⟩ := Option.bind_eq_some_iff.mp h
    have tail := (pending_apply hmove).append_right (rest.flatMap Move.submissions)
    rw [List.append_assoc] at tail
    exact (ih hrest).trans tail

/-- A writer that has ended stays so. -/
theorem writer_of_ended {move : Move} (ended : m.isEnded = true) (h : m.apply move = some next) :
    next.writer = m.writer := by
  by_cases line : move.isLine = true
  · exact (sameDesk_of_line line h).writer
  cases move with
  | submit s =>
    obtain ⟨-, rfl⟩ | ⟨-, -, rfl⟩ | ⟨-, rfl⟩ := submit_cases h
    · rfl
    · rw [enqueue_eq]
    · rfl
  | enter =>
    obtain ⟨s, rest, -, -, rfl⟩ := enter_cases h
    rw [enqueue_eq]
  | giveUp id =>
    obtain rfl := Option.some.inj h
    rfl
  | expire id now =>
    obtain ⟨s, patience, -, -, -, -, rfl⟩ := expire_cases h
    rfl
  | release =>
    obtain rfl := release_eq h
    rfl
  | takeResponse =>
    obtain ⟨response, rest, -, ⟨hwriter, -⟩ | ⟨request, patience, hwriter, -⟩⟩ :=
      takeResponse_cases h
    · simp [isEnded, hwriter] at ended
    · simp [isEnded, hwriter] at ended
  | takeSubmission now =>
    obtain ⟨s, rest, hwriter, -⟩ := takeSubmission_cases h
    simp [isEnded, hwriter] at ended
  | withdraw now =>
    obtain ⟨request, patience, hwriter, -⟩ := withdraw_cases h
    simp [isEnded, hwriter] at ended
  | finish =>
    obtain ⟨hwriter, -⟩ | ⟨request, patience, hwriter, -⟩ := finish_cases h
    · simp [isEnded, hwriter] at ended
    · simp [isEnded, hwriter] at ended
  | arrive | disconnect | jam | stop | receive | halt | route => simp [Move.isLine] at line

end Multiplexer

end Zigbee.Host
