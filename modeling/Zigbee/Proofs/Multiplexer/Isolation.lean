import Mathlib.Data.List.Find
import Zigbee.Proofs.Multiplexer.Moves
import Zigbee.Proofs.Record.Writing
import Zigbee.Radio.Request

/-!
# What a submission that cannot be written does to the others

The line takes frames of up to 255 bytes of payload, but a caller may submit longer ones.
The writer notices when it renders the frame. `m.without id` forgets what the books hold
about one submission; a submission that leaves the queue alone leaves the others as they
are if the state without it is the state in which it has been taken out of the queue.

Every move keeps a submission that cannot be written apart from the others, except the one
in which the writer renders such a frame. Then the writer ends, and every other submission
fails with it.
-/

namespace Zigbee.Host.Multiplexer

open Serial

variable {m next : Multiplexer} {move : Move} {id : Nat} {s : Submission}

/-- The state with one submission struck from the books. -/
def without (id : Nat) (m : Multiplexer) : Multiplexer :=
  { m with
    abandoned := m.abandoned.filter (· != id)
    outcomes := m.outcomes.filter (·.1 != id) }

/-- Whether the submission is neither pending nor submitted by the move. -/
def Spares (id : Nat) (m : Multiplexer) (move : Move) : Prop :=
  id ∉ (m.pending ++ move.submissions).map (·.id)

/-! ### Small steps without one submission -/

theorem mem_abandoned_without (h : s.id ≠ id) :
    s.id ∈ (m.without id).abandoned ↔ s.id ∈ m.abandoned := by
  simp [without, h]

theorem isAwaited_without (h : s.id ≠ id) : (m.without id).isAwaited s = m.isAwaited s := by
  have same := mem_abandoned_without (m := m) h
  simp only [isAwaited, List.contains_eq_mem, same]

theorem without_tell (m : Multiplexer) (h : s.id ≠ id) (outcome : Outcome) :
    (m.without id).tell s.id outcome = (m.tell s.id outcome).without id := by
  simp [without, tell, h]

/-- What is told to the submission itself is struck out. -/
theorem without_tell_self (m : Multiplexer) (id : Nat) (outcome : Outcome) :
    (m.tell id outcome).without id = m.without id := by
  simp [without, tell]

theorem filter_bne_erase (ids : List Nat) (id : Nat) :
    (ids.erase id).filter (· != id) = ids.filter (· != id) := by
  have h := List.erase_filter (l := ids) (f := (· != id)) (a := id)
  rw [List.erase_of_not_mem (by simp)] at h
  exact h.symm

theorem without_conclude (m : Multiplexer) (h : s.id ≠ id) (outcome : Outcome) :
    (m.without id).conclude s outcome = (m.conclude s outcome).without id := by
  unfold conclude
  by_cases gone : s.id ∈ m.abandoned
  · rw [if_pos gone, if_pos ((mem_abandoned_without h).mpr gone)]
    simp only [without, List.erase_filter]
  · rw [if_neg gone, if_neg (fun present => gone ((mem_abandoned_without h).mp present))]
    exact without_tell m h outcome

theorem without_conclude_self (m : Multiplexer) (s : Submission) (outcome : Outcome) :
    (m.conclude s outcome).without s.id = m.without s.id := by
  unfold conclude
  split
  · simp only [without, filter_bne_erase]
  · exact without_tell_self m s.id outcome

theorem without_enqueue (m : Multiplexer) (h : s.id ≠ id) :
    (m.without id).enqueue s = (m.enqueue s).without id := by
  rw [enqueue_eq, enqueue_eq]
  cases s.patience <;> simp [without, h]

theorem without_forsake (m : Multiplexer) (h : s.id ≠ id) :
    (m.without id).forsake s = (m.forsake s).without id := by
  unfold forsake
  rw [isAwaited_without h]
  split
  · exact without_tell m h _
  · rfl

/-- No submission in a list has the given id. -/
theorem ne_of_mem {submissions : List Submission} (h : id ∉ submissions.map (·.id)) :
    ∀ s ∈ submissions, s.id ≠ id := by
  intro s hs same
  exact h (same ▸ List.mem_map_of_mem hs)

theorem without_endWriter (m : Multiplexer) (result : Except Failure Unit)
    (h : id ∉ (m.queue ++ m.blocked).map (·.id)) :
    (m.without id).endWriter result = (m.endWriter result).without id := by
  have apart := ne_of_mem h
  have queue : m.queue.filter (m.without id).isAwaited = m.queue.filter m.isAwaited :=
    List.filter_congr fun s hs => isAwaited_without (apart s (List.mem_append_left _ hs))
  have kept : m.lastOutcomes.filter (·.1 != id) = m.lastOutcomes := by
    rw [List.filter_eq_self]
    intro told htold
    obtain ⟨s, hs, rfl⟩ := List.mem_map.mp htold
    have member : s ∈ m.queue ++ m.blocked := by
      refine List.mem_append.mpr ((List.mem_append.mp hs).imp_left ?_)
      exact fun kept => (List.mem_filter.mp kept).1
    simpa using apart s member
  have last : (m.without id).lastOutcomes = m.lastOutcomes := by
    unfold lastOutcomes
    rw [show (m.without id).queue = m.queue from rfl, queue]
    rfl
  rw [endWriter_eq, endWriter_eq, last]
  simp only [without, List.filter_append, kept, List.filter_nil]

theorem without_transmit (m : Multiplexer) (hs : s.id ≠ id)
    (h : id ∉ (m.queue ++ m.blocked).map (·.id)) :
    (m.without id).transmit s = (m.transmit s).without id := by
  have failure : (m.without id).writeFailure? s.frame = m.writeFailure? s.frame := rfl
  cases hfailure : m.writeFailure? s.frame with
  | none =>
    rw [transmit_of_writable hfailure, transmit_of_writable (failure.trans hfailure)]
    rfl
  | some reason =>
    rw [transmit_of_failure hfailure, transmit_of_failure (failure.trans hfailure),
      without_forsake m hs]
    refine without_endWriter _ _ ?_
    unfold forsake
    split <;> exact h

/-! ### Moves without one submission -/

theorem underWay_without (m : Multiplexer) (id : Nat) :
    (m.without id).underWay = m.underWay := rfl

theorem any_underWay_without (h : id ∉ m.pending.map (·.id)) (other : Nat) :
    (m.without id).underWay.any (fun s => s.id == other && (m.without id).isAwaited s) =
      m.underWay.any (fun s => s.id == other && m.isAwaited s) := by
  refine Bool.eq_iff_iff.mpr ?_
  simp only [underWay_without, List.any_eq_true]
  refine exists_congr fun s => and_congr_right fun hs => ?_
  rw [isAwaited_without (ne_of_mem h s (mem_pending_of_underWay hs))]

theorem expire_without (h : id ∉ m.pending.map (·.id)) (other now : Nat) :
    (m.without id).expire other now = (m.expire other now).map (without id) := by
  have overdue : ∀ s ∈ m.underWay,
      (s.id == other && (m.without id).isOverdue now s) =
        (s.id == other && m.isOverdue now s) := by
    intro s hs
    have apart := ne_of_mem h s (mem_pending_of_underWay hs)
    unfold isOverdue
    cases s.patience with
    | none => rfl
    | some patience => simp only [mem_abandoned_without apart]
  unfold expire
  rw [underWay_without, List.find?_congr overdue]
  split
  · rename_i s found
    have hs := List.mem_of_find?_eq_some found
    have apart := ne_of_mem h s (mem_pending_of_underWay hs)
    have same : s.id = other := by
      have matched := List.find?_some found
      simp only [Bool.and_eq_true, beq_iff_eq] at matched
      exact matched.1
    rw [same] at apart
    cases s.patience with
    | none => rfl
    | some patience => simp [without, tell, apart]
  · rfl

theorem giveUp_without (h : id ∉ m.pending.map (·.id)) (other : Nat) :
    (m.without id).giveUp other = (m.giveUp other).without id := by
  unfold giveUp
  rw [any_underWay_without h]
  by_cases waits : m.underWay.any (fun s => s.id == other && m.isAwaited s)
  · have apart : other ≠ id := by
      obtain ⟨s, hs, matched⟩ := List.any_eq_true.mp waits
      simp only [Bool.and_eq_true, beq_iff_eq] at matched
      exact matched.1 ▸ ne_of_mem h s (mem_pending_of_underWay hs)
    simp [without, waits, apart, Bool.and_comm]
  · simp [without, waits, Bool.and_comm]

theorem takeSubmission_without (h : id ∉ m.pending.map (·.id)) (now : Nat) :
    (m.without id).takeSubmission now = (m.takeSubmission now).map (without id) := by
  have writer : (m.without id).writer = m.writer := rfl
  have queue : (m.without id).queue = m.queue := rfl
  unfold takeSubmission
  rw [writer, queue]
  split
  · rename_i s rest hwriter hqueue
    have rest_apart : id ∉ (rest ++ m.blocked).map (·.id) := by
      rw [pending_of_idle hwriter, hqueue] at h
      exact fun found => h (List.mem_cons_of_mem _ found)
    have apart : s.id ≠ id := by
      rw [pending_of_idle hwriter, hqueue] at h
      exact ne_of_mem h s (List.mem_cons_self ..)
    have due : (m.without id).isDue now s = m.isDue now s := by
      unfold isDue
      cases s.patience with
      | none => rfl
      | some patience => simp only [List.contains_eq_mem, mem_abandoned_without apart]
    rw [due]
    split
    · exact congrArg some (without_transmit { m with queue := rest } apart rest_apart)
    · cases s.patience with
      | none => rfl
      | some patience => exact congrArg some (without_conclude { m with queue := rest } apart _)
  · rfl

theorem takeResponse_without (h : id ∉ m.pending.map (·.id)) :
    (m.without id).takeResponse = m.takeResponse.map (without id) := by
  have responses : (m.without id).responses = m.responses := rfl
  have writer : (m.without id).writer = m.writer := rfl
  unfold takeResponse
  rw [responses, writer]
  cases m.responses with
  | nil => rfl
  | cons response rest =>
    cases hwriter : m.writer with
    | idle => rfl
    | waiting request patience =>
      have apart : request.id ≠ id := by
        rw [pending_of_waiting hwriter] at h
        exact ne_of_mem h request (List.mem_cons_self ..)
      dsimp only
      cases match? request.frame response with
      | none => rfl
      | some outcome =>
        have after := without_conclude { m with responses := rest, writer := .idle } apart outcome
        exact congrArg some after
    | ended result => rfl

theorem withdraw_without (h : id ∉ m.pending.map (·.id)) (now : Nat) :
    (m.without id).withdraw now = (m.withdraw now).map (without id) := by
  have writer : (m.without id).writer = m.writer := rfl
  unfold withdraw
  rw [writer]
  split
  · rename_i request patience hwriter
    have apart : request.id ≠ id := by
      rw [pending_of_waiting hwriter] at h
      exact ne_of_mem h request (List.mem_cons_self ..)
    simp only [mem_abandoned_without apart]
    split
    · exact congrArg some (without_conclude { m with writer := .idle } apart _)
    · rfl
  · rfl

theorem finish_without (h : id ∉ m.pending.map (·.id)) :
    (m.without id).finish = m.finish.map (without id) := by
  have writer : (m.without id).writer = m.writer := rfl
  have silent : (m.without id).isSilent = m.isSilent := rfl
  have drained : (m.without id).isDrained = m.isDrained := rfl
  unfold finish
  rw [writer, silent, drained]
  split
  · rename_i hwriter
    rw [pending_of_idle hwriter] at h
    split
    · exact congrArg some (without_endWriter m _ h)
    · rfl
  · rename_i request patience hwriter
    have apart : request.id ≠ id := by
      rw [pending_of_waiting hwriter] at h
      exact ne_of_mem h request (List.mem_cons_self ..)
    split
    · exact congrArg some (without_conclude { m with writer := .idle } apart _)
    · rfl
  · rfl

theorem enter_without (h : id ∉ m.pending.map (·.id)) :
    (m.without id).enter = m.enter.map (without id) := by
  have blocked : (m.without id).blocked = m.blocked := rfl
  have queue : (m.without id).queue = m.queue := rfl
  unfold enter
  rw [blocked, queue]
  split
  · rename_i s rest hblocked
    have apart : s.id ≠ id := by
      refine ne_of_mem h s (List.mem_append_right _ (List.mem_append_right _ ?_))
      rw [hblocked]
      exact List.mem_cons_self ..
    split
    · exact congrArg some (without_enqueue { m with blocked := rest } apart)
    · rfl
  · rfl

theorem submit_without (m : Multiplexer) (h : s.id ≠ id) :
    (m.without id).submit s = (m.submit s).without id := by
  have ended : (m.without id).isEnded = m.isEnded := rfl
  have queue : (m.without id).queue = m.queue := rfl
  have blocked : (m.without id).blocked = m.blocked := rfl
  unfold submit
  rw [ended, queue, blocked]
  split
  · exact without_tell m h _
  · split
    · exact without_enqueue m h
    · rfl

theorem release_without (h : id ∉ m.pending.map (·.id)) :
    (m.without id).release = m.release.map (without id) := by
  have awaited : (m.without id).underWay.any (m.without id).isAwaited =
      m.underWay.any m.isAwaited := by
    refine Bool.eq_iff_iff.mpr ?_
    simp only [underWay_without, List.any_eq_true]
    refine exists_congr fun s => and_congr_right fun hs => ?_
    rw [isAwaited_without (ne_of_mem h s (mem_pending_of_underWay hs))]
  have blocked : (m.without id).blocked = m.blocked := rfl
  unfold release
  rw [awaited, blocked]
  split <;> rfl

theorem receive_without (m : Multiplexer) (id : Nat) :
    (m.without id).receive = m.receive.map (without id) := by
  have receiver : (m.without id).receiver = m.receiver := rfl
  have received : (m.without id).received = m.received := rfl
  have inbox : (m.without id).inbox = m.inbox := rfl
  have routing : (m.without id).routing = m.routing := rfl
  have connected : (m.without id).connected = m.connected := rfl
  unfold receive
  rw [receiver, received, inbox, routing, connected]
  split
  · rfl
  · split
    · split
      · split <;> rfl
      · rfl
      · split <;> rfl
    · rfl

theorem deliver_without (m : Multiplexer) (id : Nat) (f : Frame) :
    (m.without id).deliver f = (m.deliver f).without id := by
  unfold deliver
  split
  · split <;> rfl
  · rfl

theorem route_without (m : Multiplexer) (id : Nat) :
    (m.without id).route = m.route.map (without id) := by
  have routing : (m.without id).routing = m.routing := rfl
  have inbox : (m.without id).inbox = m.inbox := rfl
  have ended : (m.without id).isEnded = m.isEnded := rfl
  have responses : (m.without id).responses = m.responses := rfl
  have deaf : (m.without id).isDeaf = m.isDeaf := rfl
  unfold route
  rw [routing, inbox, ended, responses, deaf]
  split
  · split
    · rename_i f rest hinbox
      split
      · split
        · rfl
        · split <;> rfl
      · exact congrArg some (deliver_without { m with inbox := rest } id f)
    · split <;> rfl
  · rfl

/-- A move that has nothing to do with a submission does the same without it. -/
theorem apply_without (h : Spares id m move) :
    (m.without id).apply move = (m.apply move).map (without id) := by
  have pending : id ∉ m.pending.map (·.id) := by
    intro found
    exact h (by simpa using .inl (by simpa using found))
  cases move with
  | submit s =>
    have apart : s.id ≠ id := by
      refine ne_of_mem h s (List.mem_append_right _ ?_)
      exact List.mem_singleton_self s
    have released : (m.without id).released = m.released := rfl
    simp only [apply, released]
    split
    · rfl
    · exact congrArg some (submit_without m apart)
  | enter => exact enter_without pending
  | giveUp other => exact congrArg some (giveUp_without pending other)
  | expire other now => exact expire_without pending other now
  | release => exact release_without pending
  | arrive bytes =>
    have connected : (m.without id).connected = m.connected := rfl
    simp only [apply, connected]
    split <;> rfl
  | disconnect | jam | stop => rfl
  | receive => exact receive_without m id
  | halt =>
    have receiver : (m.without id).receiver = m.receiver := rfl
    have stopping : (m.without id).stopping = m.stopping := rfl
    simp only [apply, halt, receiver, stopping]
    split
    · rfl
    · split <;> rfl
  | route => exact route_without m id
  | takeResponse => exact takeResponse_without pending
  | takeSubmission now => exact takeSubmission_without pending now
  | withdraw now => exact withdraw_without pending now
  | finish => exact finish_without pending

/-- A run that has nothing to do with a submission does the same without it. -/
theorem run_without {moves : List Move} {m : Multiplexer}
    (pending : id ∉ m.pending.map (·.id))
    (later : id ∉ (moves.flatMap Move.submissions).map (·.id)) :
    (m.without id).run moves = (m.run moves).map (without id) := by
  induction moves generalizing m with
  | nil => rfl
  | cons move rest ih =>
    rw [List.flatMap_cons, List.map_append, List.mem_append, not_or] at later
    have spares : Spares id m move := by
      unfold Spares
      rw [List.map_append, List.mem_append, not_or]
      exact ⟨pending, later.1⟩
    rw [run, run, apply_without spares]
    cases hmove : m.apply move with
    | none => rfl
    | some next =>
      refine ih ?_ later.2
      intro found
      exact spares ((pending_apply hmove).map (·.id) |>.subset found)

/-! ### Why the writer ends -/

/-- Whether the move makes the writer render a frame that is too long. -/
def Overflows (m : Multiplexer) (move : Move) : Prop :=
  ∃ now s rest, move = .takeSubmission now ∧ m.queue = s :: rest ∧
    m.isDue now s = true ∧ ¬ s.frame.Fits

/-- The reasons for which the writer may end: no response can come any more, no submission
can come any more, or the line does not take a frame. -/
inductive MayEnd (m : Multiplexer) : Move → Prop where
  | silent (h : m.isSilent = true) : MayEnd m .finish
  | drained (h : m.isDrained = true) : MayEnd m .finish
  | broken {now : Nat} {s : Submission} {rest : List Submission} (hqueue : m.queue = s :: rest)
      (fits : s.frame.Fits) (line : (m.connected && m.writable) = false) :
      MayEnd m (.takeSubmission now)

theorem isEnded_conclude (m : Multiplexer) (s : Submission) (outcome : Outcome) :
    (m.conclude s outcome).isEnded = m.isEnded := by
  unfold conclude
  split <;> rfl

theorem isEnded_transmit (m : Multiplexer) (s : Submission) :
    (m.transmit s).isEnded = true ↔
      ¬ s.frame.Fits ∨ (m.connected && m.writable) = false := by
  have none_iff := writeFailure?_eq_none_iff (m := m) (f := s.frame)
  cases hfailure : m.writeFailure? s.frame with
  | none =>
    obtain ⟨fits, connected, writable⟩ := none_iff.mp hfailure
    rw [transmit_of_writable hfailure]
    cases s.patience <;> simp [isEnded, fits, connected, writable]
  | some reason =>
    rw [transmit_of_failure hfailure, endWriter_eq]
    have broken : ¬ (s.frame.Fits ∧ m.connected = true ∧ m.writable = true) := by
      rw [← none_iff, hfailure]
      simp
    simp only [isEnded, true_iff]
    by_cases fits : s.frame.Fits
    · refine .inr (Bool.eq_false_iff.mpr fun line => broken ⟨fits, ?_⟩)
      simpa using line
    · exact .inl fits

/-- A running writer ends for its own reasons or because a frame is too long. -/
theorem ends_of_apply (h : m.apply move = some next) (ended : next.isEnded = true) :
    m.isEnded = true ∨ m.MayEnd move ∨ m.Overflows move := by
  by_cases line : move.isLine = true
  · rw [isEnded, (sameDesk_of_line line h).writer] at ended
    exact .inl ended
  cases move with
  | submit s =>
    obtain ⟨already, -⟩ | ⟨-, -, rfl⟩ | ⟨-, rfl⟩ := submit_cases h
    · exact .inl already
    · rw [enqueue_eq] at ended
      exact .inl ended
    · exact .inl ended
  | enter =>
    obtain ⟨s, rest, -, -, rfl⟩ := enter_cases h
    rw [enqueue_eq] at ended
    exact .inl ended
  | expire id now =>
    obtain ⟨s, patience, -, -, -, -, rfl⟩ := expire_cases h
    exact .inl ended
  | release =>
    obtain rfl := release_eq h
    exact .inl ended
  | giveUp id =>
    obtain rfl := Option.some.inj h
    exact .inl ended
  | takeResponse =>
    obtain ⟨response, rest, -, ⟨-, rfl⟩ | ⟨request, patience, -, ⟨-, rfl⟩ | ⟨outcome, -, rfl⟩⟩⟩ :=
      takeResponse_cases h
    · exact .inl ended
    · exact .inl ended
    · rw [isEnded_conclude] at ended
      simp [isEnded] at ended
  | takeSubmission now =>
    obtain ⟨s, rest, hwriter, hqueue, ⟨due, rfl⟩ | ⟨-, patience, -, rfl⟩⟩ := takeSubmission_cases h
    · rw [isEnded_transmit { m with queue := rest }] at ended
      by_cases fits : s.frame.Fits
      · refine .inr (.inl (.broken hqueue fits ?_))
        exact ended.resolve_left (not_not_intro fits)
      · exact .inr (.inr ⟨now, s, rest, rfl, hqueue, due, fits⟩)
    · rw [isEnded_conclude] at ended
      exact .inl ended
  | withdraw now =>
    obtain ⟨request, patience, -, rfl⟩ := withdraw_cases h
    rw [isEnded_conclude] at ended
    simp [isEnded] at ended
  | finish =>
    obtain ⟨-, spent, rfl⟩ | ⟨request, patience, -, -, rfl⟩ := finish_cases h
    · obtain silent | drained := (Bool.or_eq_true _ _).mp spent
      · exact .inr (.inl (.silent silent))
      · exact .inr (.inl (.drained drained))
    · rw [isEnded_conclude] at ended
      simp [isEnded] at ended
  | arrive | disconnect | jam | stop | receive | halt | route => simp [Move.isLine] at line

/-! ### Data requests -/

section DataRequests

open Radio Record

/-- The frame of a data request fits if the data are at most 245 bytes; a few more and the
record can still be written, but not the frame. -/
theorem afDataRequest_fits_iff {fields : RequestKind.afDataRequest.layout.Carrier}
    {payload : List UInt8} (h : RequestKind.afDataRequest.layout.write fields = .ok payload) :
    (RequestKind.afDataRequest.frame payload).Fits ↔ fields.2.2.2.2.2.2.2.1.length ≤ 245 := by
  obtain ⟨destination, endpoint, source, cluster, transaction, options, radius, data, done⟩ :=
    fields
  obtain ⟨b1, rest1, h1, e1, rfl⟩ := encode_field_eq_ok.mp h
  obtain ⟨b2, rest2, h2, e2, rfl⟩ := encode_field_eq_ok.mp e1
  obtain ⟨b3, rest3, h3, e3, rfl⟩ := encode_field_eq_ok.mp e2
  obtain ⟨b4, rest4, h4, e4, rfl⟩ := encode_field_eq_ok.mp e3
  obtain ⟨b5, rest5, h5, e5, rfl⟩ := encode_field_eq_ok.mp e4
  obtain ⟨b6, rest6, h6, e6, rfl⟩ := encode_field_eq_ok.mp e5
  obtain ⟨b7, rest7, h7, e7, rfl⟩ := encode_field_eq_ok.mp e6
  obtain ⟨b8, rest8, h8, e8, rfl⟩ := encode_field_eq_ok.mp e7
  obtain rfl := Except.ok.inj e8
  have := length_encode_address h1
  have := length_encode_uint h2
  have := length_encode_uint h3
  have := length_encode_uint h4
  have := length_encode_uint h5
  have := length_encode_uint h6
  have := length_encode_uint h7
  have := length_encode_bytes h8
  simp only [Frame.Fits, RequestKind.frame, List.length_append, List.length_nil]
  omega

end DataRequests

/-! ### Isolation -/

/-- What callers may rely on in one move. -/
structure Isolates (m : Multiplexer) (move : Move) (next : Multiplexer) : Prop where
  /-- The writer ends for its own reasons only. -/
  ends : next.isEnded = true → m.isEnded = true ∨ m.MayEnd move
  /-- The caller of a frame that is too long learns that its request has failed. -/
  fails : ∀ now s rest, move = .takeSubmission now → m.queue = s :: rest → ¬ s.frame.Fits →
    m.isAwaited s = true → ∃ reason, (s.id, .failed reason) ∈ next.outcomes
  /-- The others fare, whatever comes later, as if that frame had not been in the queue. -/
  others : ∀ now s rest later, move = .takeSubmission now → m.queue = s :: rest →
    ¬ s.frame.Fits → s.id ∉ (later.flatMap Move.submissions).map (·.id) →
    (next.run later).map (without s.id) = ({ m with queue := rest }.run later).map (without s.id)

/-- Whether all submissions of the moves have ids of their own. -/
def Numbered (moves : List Move) : Prop :=
  ((moves.flatMap Move.submissions).map (·.id)).Nodup

theorem nodup_pending {moves : List Move} (numbered : Numbered moves)
    (h : initial.run moves = some m) : (m.pending.map (·.id)).Nodup :=
  List.Nodup.sublist ((pending_run h).map _) numbered

/-- A frame that is too long and not rendered is one for which nobody waits any more. -/
theorem concluded_of_long {now : Nat} {rest : List Submission}
    (hmove : m.takeSubmission now = some next) (hqueue : m.queue = s :: rest)
    (long : ¬ s.frame.Fits) (short : ¬ m.Overflows (.takeSubmission now)) :
    m.writer = .idle ∧
      ∃ patience, next = { m with queue := rest }.conclude s (timedOut patience) := by
  obtain ⟨s', rest', hwriter, hqueue', taken⟩ := takeSubmission_cases hmove
  obtain ⟨rfl, rfl⟩ := List.cons.inj (hqueue.symm.trans hqueue')
  refine ⟨hwriter, ?_⟩
  obtain ⟨due, -⟩ | ⟨-, patience, -, hnext⟩ := taken
  · exact absurd ⟨now, s, rest, rfl, hqueue, due, long⟩ short
  · exact ⟨patience, hnext⟩

/-- A submission that is not due leaves the queue without a trace in the others. -/
theorem others_of_not_due {rest : List Submission} {outcome : Outcome}
    {later : List Move} (distinct : (m.pending.map (·.id)).Nodup) (hwriter : m.writer = .idle)
    (hqueue : m.queue = s :: rest)
    (fresh : s.id ∉ (later.flatMap Move.submissions).map (·.id)) :
    (({ m with queue := rest }.conclude s outcome).run later).map (without s.id) =
      ({ m with queue := rest }.run later).map (without s.id) := by
  have gone : s.id ∉ ({ m with queue := rest } : Multiplexer).pending.map (·.id) := by
    rw [pending_of_idle hwriter, hqueue, List.cons_append, List.map_cons, List.nodup_cons]
      at distinct
    exact (pending_of_idle (m := { m with queue := rest }) hwriter) ▸ distinct.1
  rw [← run_without gone fresh, ← run_without (by rwa [pending_conclude]) fresh,
    without_conclude_self]

/-- A move of a run isolates submissions that cannot be written unless the writer renders
such a frame. -/
theorem isolates_iff {moves : List Move} (numbered : Numbered moves)
    (hrun : initial.run moves = some m) (hmove : m.apply move = some next) :
    m.Isolates move next ↔ ¬ m.Overflows move := by
  constructor
  · rintro isolates ⟨now, s, rest, rfl, hqueue, due, long⟩
    obtain ⟨s', rest', hwriter, hqueue', taken⟩ := takeSubmission_cases hmove
    obtain ⟨rfl, rfl⟩ := List.cons.inj (hqueue.symm.trans hqueue')
    obtain ⟨-, rfl⟩ | ⟨notDue, -⟩ := taken
    · have ended := (isEnded_transmit { m with queue := rest } s).mpr (.inl long)
      obtain before | reason := isolates.ends ended
      · simp [isEnded, hwriter] at before
      · cases reason with
        | broken hqueue' fits line =>
          obtain ⟨rfl, -⟩ := List.cons.inj (hqueue.symm.trans hqueue')
          exact long fits
    · exact absurd due (by simp [notDue])
  · intro short
    refine ⟨?_, ?_, ?_⟩
    · intro ended
      obtain before | reason | overflow := ends_of_apply hmove ended
      · exact .inl before
      · exact .inr reason
      · exact absurd overflow short
    · rintro now s rest rfl hqueue long waits
      obtain ⟨-, patience, rfl⟩ := concluded_of_long hmove hqueue long short
      simp only [isAwaited, List.contains_eq_mem, Bool.and_eq_true, Bool.not_eq_true',
        decide_eq_false_iff_not] at waits
      refine ⟨.timeout patience.milliseconds patience.name, ?_⟩
      rw [conclude, if_neg waits.2]
      exact List.mem_append_right _ (List.mem_singleton_self _)
    · rintro now s rest later rfl hqueue long fresh
      obtain ⟨hwriter, patience, rfl⟩ := concluded_of_long hmove hqueue long short
      exact others_of_not_due (nodup_pending numbered hrun) hwriter hqueue fresh

/-- A ping. -/
def ping : Submission :=
  let kind : Radio.RequestKind := .sysPing
  ⟨2, kind.frame [], some ⟨kind.name, 5000, 5000⟩⟩

theorem isolates_ping : Numbered [.submit ping] ∧ ∃ m next,
    initial.run [.submit ping] = some m ∧ m.apply (.takeSubmission 0) = some next ∧
    m.Isolates (.takeSubmission 0) next := by
  have numbered : Numbered [.submit ping] := by simp [Numbered, Move.submissions]
  refine ⟨numbered, { initial with queue := [ping] }, _, rfl, rfl, ?_⟩
  refine (isolates_iff numbered rfl rfl).mpr ?_
  rintro ⟨now, s, rest, -, hqueue, -, long⟩
  obtain ⟨rfl, -⟩ := List.cons.inj hqueue
  exact long (by decide)

/-- A data request with one byte more than fits. -/
def longRequest : Submission :=
  let kind : Radio.RequestKind := .afDataRequest
  let fields : Radio.RequestKind.afDataRequest.layout.Carrier :=
    ("0x1234", 1, 1, 6, 1, 0, 30, List.replicate 246 1, ())
  ⟨1, kind.frame ((Radio.RequestKind.afDataRequest.layout.write fields).toOption.getD []),
    some ⟨kind.name, 5000, 5000⟩⟩

/-- The state once it and a ping have been submitted. -/
def beforeLong : Multiplexer := { initial with queue := [longRequest, ping] }

/-- The state once the writer has taken the data request. -/
def afterLong : Multiplexer :=
  { initial with
    writer := .ended (.error (.codec (.lengthOverflow longRequest.frame.payload.length 1)))
    stopping := true
    outcomes := [(1, .failed .transportClosed), (2, .failed .transportClosed)] }

/-- A ping fails with a data request that is too long; without that request it is written. -/
theorem ping_fails_with_longRequest :
    initial.run [.submit longRequest, .submit ping] = some beforeLong ∧
    beforeLong.apply (.takeSubmission 0) = some afterLong ∧
    ¬ beforeLong.Isolates (.takeSubmission 0) afterLong ∧
    (initial.run [.submit ping, .takeSubmission 0]).map (·.written) = some [ping.frame] := by
  have long : ¬ longRequest.frame.Fits := by decide +kernel
  have taken : beforeLong.apply (.takeSubmission 0) =
      some ({ beforeLong with queue := [ping] }.transmit longRequest) := rfl
  refine ⟨rfl, ?_, ?_, rfl⟩
  · rw [taken, transmit_of_failure (writeFailure?_of_not_fits long)]
    rfl
  · intro isolates
    obtain before | reason := isolates.ends rfl
    · simp [beforeLong, initial, isEnded] at before
    · cases reason with
      | broken hqueue fits line =>
        obtain ⟨rfl, -⟩ := List.cons.inj hqueue
        exact long fits

end Zigbee.Host.Multiplexer
