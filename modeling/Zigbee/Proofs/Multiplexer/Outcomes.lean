import Zigbee.Proofs.Multiplexer.Balance
import Zigbee.Proofs.Multiplexer.Line
import Zigbee.Proofs.Multiplexer.Pairing

/-!
# One outcome for each submission

Whoever submits something learns one outcome, unless it goes before: that the order is in
the queue, or how the request has ended. No submission is forgotten, however the writer
ends, and no caller hears twice. That is the balance of submissions and outcomes, read at
the end of a run.

A request is answered only with a response that has been read and is of its kind. With the
end of the writer everything that is unsettled fails, and so does at once what comes later.
-/

namespace Zigbee.Host.Multiplexer

open Serial

variable {m next : Multiplexer} {move : Move} {s : Submission} {moves : List Move}

/-! ### Answers -/

theorem answered_of_match? {request response given : Frame}
    (h : match? request given = some (.answered response)) :
    given = response ∧ response.subsystem = request.subsystem ∧
      response.command = request.command := by
  unfold match? at h
  split at h
  · simp at h
  · split at h
    · rename_i same
      obtain rfl := Outcome.answered.inj (Option.some.inj h)
      exact ⟨rfl, same⟩
    · simp at h

/-- A caller learns an answer from the response in hand, and that answers its request. -/
theorem answered_of_tidings {id : Nat} {response : Frame} (h : m.apply move = some next)
    (member : (id, .answered response) ∈ m.tidings move) :
    ∃ request rest, request ∈ m.flight ∧ request.id = id ∧ m.responses = response :: rest ∧
      response.subsystem = request.frame.subsystem ∧
      response.command = request.frame.command := by
  have stays (gone : Nat) : move ≠ .giveUp gone := by
    rintro rfl
    rw [tidings_giveUp] at member
    exact absurd member List.not_mem_nil
  have learns : Learns m next id (.answered response) := ⟨_, outcomes_apply h stays, member⟩
  cases hears : move.hears with
  | false => exact absurd learns (not_learns_reply (length_replies_apply h hears) rfl)
  | true =>
    cases move with
    | takeResponse =>
      obtain ⟨request, patience, given, rest, hwriter, same, -, hresponses, matched⟩ :=
        (learns_of_takeResponse_iff h rfl).mp learns
      obtain ⟨rfl, subsystem, command⟩ := answered_of_match? matched
      exact ⟨request, rest, mem_flight_of_waiting hwriter, same, hresponses, subsystem, command⟩
    | _ => simp [Move.hears] at hears

/-- The request is one of the run, and the response has been read in it and answers it. -/
structure Answered (moves : List Move) (request : Submission) (response : Frame) : Prop where
  submitted : request ∈ submitted moves
  limited : request.patience.isSome = true
  read : response ∈ initial.read moves
  type : response.type = .syncResponse
  subsystem : response.subsystem = request.frame.subsystem
  command : response.command = request.frame.command

theorem answered_concat {request : Submission} {response : Frame}
    (answered : Answered moves request response) (h : initial.run moves = some m) (move : Move) :
    Answered (moves ++ [move]) request response where
  submitted := by
    rw [submitted_concat]
    exact List.mem_append_left _ answered.submitted
  limited := answered.limited
  read := by
    rw [read, history_concat h]
    exact List.mem_append_left _ answered.read
  type := answered.type
  subsystem := answered.subsystem
  command := answered.command

theorem mem_submitted_of_flight (h : initial.run moves = some m) (member : s ∈ m.flight) :
    s ∈ submitted moves :=
  (pending_run h).subset (List.mem_append_left _ member)

theorem answered_run (numbered : Numbered moves) (h : initial.run moves = some m) {id : Nat}
    {response : Frame} (member : (id, .answered response) ∈ initial.told moves) :
    ∃ request, request.id = id ∧ Answered moves request response := by
  refine run_induction (P := fun moves m => Numbered moves →
    (id, .answered response) ∈ initial.told moves →
      ∃ request, request.id = id ∧ Answered moves request response) ?_ ?_ h numbered member
  · exact fun _ none => absurd none List.not_mem_nil
  · intro moves m move next hrun ih hmove numbered member
    have earlier := numbered_of_append numbered
    rw [told, history_concat hrun] at member
    obtain before | new := List.mem_append.mp member
    · obtain ⟨request, same, answered⟩ := ih earlier before
      exact ⟨request, same, answered_concat answered hrun move⟩
    · obtain ⟨request, rest, flight, same, hresponses, subsystem, command⟩ :=
        answered_of_tidings hmove new
      have head : response ∈ m.responses := by
        rw [hresponses]
        exact List.mem_cons_self ..
      refine ⟨request, same, answered_concat ?_ hrun move⟩
      exact ⟨mem_submitted_of_flight hrun flight, (orderly_run earlier hrun).limited _ flight,
        carried_run hrun _ (List.mem_append_left _ head), responses_run hrun _ head, subsystem,
        command⟩

/-! ### The end of the writer -/

/-- The submissions are told that the line is closed. -/
def closings (submissions : List Submission) : List (Nat × Outcome) :=
  submissions.map fun s => (s.id, .failed .transportClosed)

/-- The writer ends when it is idle, and tells whoever is unsettled. -/
theorem closed_of_ends (h : m.apply move = some next) (running : m.isEnded = false)
    (ended : next.isEnded = true) :
    next.Closed ∧ m.tidings move = closings m.unsettled ∧ move.submissions = [] := by
  have unended {P : Prop} (same : next.isEnded = m.isEnded) : P := by
    rw [same, running] at ended
    exact absurd ended Bool.false_ne_true
  cases deals_of_apply h with
  | aside keeps same =>
    refine unended ?_
    rw [isEnded, same.writer, isEnded]
  | refused | delayed | givenUp | expired => exact unended rfl
  | queued | entered =>
    refine unended ?_
    rw [enqueue_eq]
    rfl
  | concluded keeps writer =>
    rw [isEnded_conclude, isEnded, writer] at ended
    exact absurd ended Bool.false_ne_true
  | @wrote now s =>
    cases limit : s.patience <;> simp [isEnded, limit] at ended
  | ended keeps hwriter writer queue blocked abandoned outcomes =>
    refine ⟨⟨by rw [isEnded, writer], queue, blocked⟩, ?_, keeps.submissions⟩
    rw [tidings_of_told h outcomes, unsettled, underWay_eq, flight, hwriter]
    rfl

/-- After the end nothing can be submitted, and who tries is told at once. -/
theorem closed_apply (closed : m.Closed) (h : m.apply move = some next) :
    next.Closed ∧ m.tidings move = closings move.submissions := by
  have idle {P : Prop} (writer : m.writer = .idle) : P := by
    have ended := closed.ended
    rw [isEnded, writer] at ended
    exact absurd ended Bool.false_ne_true
  cases deals_of_apply h with
  | aside keeps same =>
    refine ⟨⟨?_, same.queue.trans closed.queue, same.blocked.trans closed.blocked⟩, ?_⟩
    · rw [isEnded, same.writer, ← isEnded]
      exact closed.ended
    · rw [tidings_of_same h same.outcomes, keeps.submissions]
      rfl
  | refused => exact ⟨⟨closed.ended, closed.queue, closed.blocked⟩, tidings_of_told h rfl⟩
  | queued running | delayed running =>
    exact absurd (closed.ended.symm.trans running) (by simp)
  | entered hblocked =>
    rw [closed.blocked] at hblocked
    exact absurd hblocked.symm (List.cons_ne_nil _ _)
  | @givenUp id =>
    have blocked : (m.giveUp id).blocked = [] := by
      simp only [giveUp, closed.blocked, List.filter_nil]
    exact ⟨⟨closed.ended, closed.queue, blocked⟩, tidings_giveUp m id⟩
  | expired member =>
    rw [underWay_of_closed closed] at member
    exact absurd member List.not_mem_nil
  | concluded keeps writer underWay =>
    rw [underWay_of_closed closed] at underWay
    exact absurd underWay.symm (List.cons_ne_nil _ _)
  | wrote hwriter => exact idle hwriter
  | ended keeps hwriter => exact idle hwriter

theorem closed_run {m : Multiplexer} (closed : m.Closed) (h : m.run moves = some next) :
    next.Closed ∧ m.told moves = closings (submitted moves) := by
  induction moves generalizing m with
  | nil =>
    obtain rfl := Option.some.inj h
    exact ⟨closed, rfl⟩
  | cons move rest ih =>
    obtain ⟨middle, hmove, hrest⟩ := Option.bind_eq_some_iff.mp h
    obtain ⟨still, tidings⟩ := closed_apply closed hmove
    obtain ⟨last, told_rest⟩ := ih still hrest
    refine ⟨last, ?_⟩
    rw [told, history_cons hmove, tidings, ← told, told_rest]
    exact (List.map_append ..).symm

/-- The writer ends with the move, and everybody learns of it. -/
structure EndsWith (before : List Move) (middle : Multiplexer) (move : Move) (next : Multiplexer)
    (after : List Move) : Prop where
  reached : initial.run before = some middle
  running : middle.isEnded = false
  possible : middle.apply move = some next
  ended : next.isEnded = true
  silent : move.submissions = []
  /-- Whoever has submitted something has learned its outcome, or has gone, or learns now that
  the line is closed, -/
  settled : ∀ s ∈ submitted before, s.id ∈ (initial.told before).map (·.1) ∨
    s.id ∈ (initial.forgone before).map (·.id) ∨
    (s.id, .failed .transportClosed) ∈ middle.tidings move
  /-- and whoever comes later learns so at once, and nobody else learns anything. -/
  refused : next.told after = closings (submitted after)

theorem endsWith_of_ends {before after : List Move} {last : Multiplexer}
    (numbered : Numbered before) (reached : initial.run before = some m)
    (running : m.isEnded = false) (possible : m.apply move = some next)
    (ended : next.isEnded = true) (rest : next.run after = some last) :
    last.Closed ∧ EndsWith before m move next after := by
  obtain ⟨closed, tidings, silent⟩ := closed_of_ends possible running ended
  obtain ⟨still, refused⟩ := closed_run closed rest
  refine ⟨still, reached, running, possible, ended, silent, fun s member => ?_, refused⟩
  have known := (balance_run numbered reached).symm.subset (List.mem_map_of_mem member)
  rw [List.map_append, List.mem_append, List.mem_append] at known
  refine known.imp_right (Or.imp_right fun waits => ?_)
  obtain ⟨other, unsettled, same⟩ := List.mem_map.mp waits
  rw [tidings, ← same]
  exact List.mem_map.mpr ⟨other, unsettled, rfl⟩

/-- If the writer has ended, it has ended with one of the moves. -/
theorem exists_end (h : initial.run moves = some m) (ended : m.isEnded = true) :
    ∃ before middle move next after, moves = before ++ move :: after ∧
      initial.run before = some middle ∧ middle.isEnded = false ∧
      middle.apply move = some next ∧ next.isEnded = true ∧ next.run after = some m := by
  refine run_induction (P := fun moves m => m.isEnded = true →
    ∃ before middle move next after, moves = before ++ move :: after ∧
      initial.run before = some middle ∧ middle.isEnded = false ∧
      middle.apply move = some next ∧ next.isEnded = true ∧ next.run after = some m)
    ?_ ?_ h ended
  · exact fun ended => absurd ended Bool.false_ne_true
  · intro moves m move next hrun ih hmove ended
    -- The last move ends the writer, or it has ended before and one more move has followed.
    by_cases already : m.isEnded = true
    · obtain ⟨before, middle, last, past, after, rfl, reached, running, possible, stopped, rest⟩ :=
        ih already
      refine ⟨before, middle, last, past, after ++ [move], ?_, reached, running, possible,
        stopped, ?_⟩
      · rw [List.append_assoc, List.cons_append]
      · rw [run_append_of_run rest, run_singleton, hmove]
    · exact ⟨moves, m, move, next, [], rfl, hrun, Bool.eq_false_iff.mpr already, hmove, ended, rfl⟩

/-! ### One outcome for each submission -/

/-- What becomes of the submissions of a run. -/
structure Settles (moves : List Move) (m : Multiplexer) : Prop where
  /-- A submission has an outcome, or its caller went without one, or it still waits for one. -/
  balance : ((initial.told moves).map (·.1) ++
    (initial.forgone moves ++ m.unsettled).map (·.id)).Perm ((submitted moves).map (·.id))
  /-- No submission has two outcomes, nor one of which its caller was gone. -/
  once : ((initial.told moves).map (·.1) ++ (initial.forgone moves).map (·.id)).Nodup
  /-- A request is answered with a response that has been read and is of its kind. -/
  answered : ∀ id response, (id, .answered response) ∈ initial.told moves →
    ∃ request, request.id = id ∧ Answered moves request response
  /-- The end of the writer leaves nobody waiting. -/
  ended : m.isEnded = true → m.unsettled = [] ∧ ∃ before middle move next after,
    moves = before ++ move :: after ∧ EndsWith before middle move next after

/-- Every submission of a run has at most one outcome, and none is forgotten. -/
theorem settles_run (numbered : Numbered moves) (h : initial.run moves = some m) :
    Settles moves m := by
  have balance := balance_run numbered h
  refine ⟨balance, ?_, fun id response => answered_run numbered h, fun ended => ?_⟩
  · have distinct := balance.nodup_iff.mpr numbered
    rw [List.map_append, ← List.append_assoc] at distinct
    exact (List.nodup_append.mp distinct).1
  · obtain ⟨before, middle, move, next, after, rfl, reached, running, possible, stopped, rest⟩ :=
      exists_end h ended
    obtain ⟨closed, ends⟩ :=
      endsWith_of_ends (numbered_of_append numbered) reached running possible stopped rest
    exact ⟨unsettled_of_closed closed, before, middle, move, next, after, rfl, ends⟩

/-- Of four pings the first is answered, the second is in flight and the third in the queue
when the line is closed, and the fourth comes later. -/
def fourPings : List Move :=
  [.submit ping, .takeSubmission 0, .arrive Exchange.pong.bytes, .receive, .route, .takeResponse,
   .submit { ping with id := 3 }, .takeSubmission 1, .submit { ping with id := 4 },
   .stop, .halt, .route, .finish, .finish, .submit { ping with id := 5 }]

theorem settles_fourPings : ∃ m, Numbered fourPings ∧ initial.run fourPings = some m ∧
    m.isEnded = true ∧ Settles fourPings m := by
  have numbered : Numbered fourPings := by
    simp [Numbered, fourPings, Move.submissions, ping]
  have possible : initial.run fourPings = some ((initial.run fourPings).getD initial) := rfl
  exact ⟨_, numbered, possible, rfl, settles_run numbered possible⟩

end Zigbee.Host.Multiplexer
