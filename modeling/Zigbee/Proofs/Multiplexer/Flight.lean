import Zigbee.Proofs.Multiplexer.History
import Zigbee.Proofs.Multiplexer.Isolation

/-!
# One request in flight

Frames are written one at a time and in the order in which they have been submitted. Once a
request is on the line, nothing follows it until its fate is known: the radio has answered
it or has refused it, its deadline has passed, no response can come any more, or its caller
has gone. A request that is too late when the writer takes it, or for which nobody waits any
more, never gets onto the line.

The state that carries this is `InFlight`: the writer waits for the response to a request
whose caller is still there. A move resolves the request or leaves it in flight, and in
flight the writer takes nothing from the queue.
-/

namespace Zigbee.Host

open Serial

namespace Multiplexer

variable {m next : Multiplexer} {move : Move} {s : Submission}

/-! ### What ends the wait for a response -/

/-- The moves with which the fate of a request in flight is known. -/
inductive Resolves (m : Multiplexer) (s : Submission) : Move → Prop where
  | answered {response : Frame} {rest : List Frame} (hresponses : m.responses = response :: rest)
      (plain : response.errorCode? = none) (subsystem : response.subsystem = s.frame.subsystem)
      (command : response.command = s.frame.command) : Resolves m s .takeResponse
  | refused {response : Frame} {rest : List Frame} {code : UInt8}
      (hresponses : m.responses = response :: rest) (error : response.errorCode? = some code) :
      Resolves m s .takeResponse
  | late {patience : Patience} {now : Nat} (limit : s.patience = some patience)
      (passed : patience.deadline ≤ now) : Resolves m s (.withdraw now)
  | closed (silent : m.isSilent = true) : Resolves m s .finish
  | abandoned : Resolves m s (.giveUp s.id)
  | expired {patience : Patience} {now : Nat} (limit : s.patience = some patience)
      (passed : patience.deadline ≤ now) : Resolves m s (.expire s.id now)

/-- Until a move resolves the request, no move writes anything. -/
def HoldsBack (s : Submission) : Multiplexer → List Move → Prop
  | _, [] => True
  | m, move :: rest => m.Resolves s move ∨
      m.transmitted move = [] ∧ ∀ next, m.apply move = some next → HoldsBack s next rest

/-- The request is in flight, and its caller is still there. -/
structure InFlight (m : Multiplexer) (s : Submission) : Prop where
  writer : ∃ patience, s.patience = some patience ∧ m.writer = .waiting s patience
  here : s.id ∉ m.abandoned

theorem inFlight_of_transmitted (sync : s.patience.isSome = true)
    (written : s ∈ m.transmitted move) (h : m.apply move = some next) : next.InFlight s := by
  obtain ⟨now, rest, rfl, hwriter, hqueue, due, takes⟩ := mem_transmitted_iff.mp written
  obtain ⟨patience, hpatience⟩ := Option.isSome_iff_exists.mp sync
  obtain ⟨s', rest', -, hqueue', ⟨-, rfl⟩ | ⟨notDue, -⟩⟩ := takeSubmission_cases h
  · obtain ⟨rfl, rfl⟩ := List.cons.inj (hqueue.symm.trans hqueue')
    rw [transmit_of_writable (m := { m with queue := rest }) takes]
    refine ⟨⟨patience, hpatience, ?_⟩, ?_⟩
    · simp only [hpatience]
    · simp only [isDue, hpatience, Bool.and_eq_true, List.contains_eq_mem, Bool.not_eq_true',
        decide_eq_false_iff_not] at due
      exact due.1
  · obtain ⟨rfl, rfl⟩ := List.cons.inj (hqueue.symm.trans hqueue')
    simp [notDue] at due

theorem transmitted_of_inFlight (flight : m.InFlight s) (move : Move) :
    m.transmitted move = [] := by
  obtain ⟨patience, -, hwriter⟩ := flight.writer
  rw [List.eq_nil_iff_forall_not_mem]
  intro other written
  obtain ⟨now, rest, -, idle, -⟩ := mem_transmitted_iff.mp written
  simp [hwriter] at idle

theorem withdraw_ready {now : Nat} {request : Submission} {patience : Patience}
    (hwriter : m.writer = .waiting request patience) (h : m.withdraw now = some next) :
    request.id ∈ m.abandoned ∨ patience.deadline ≤ now := by
  simp only [withdraw, hwriter] at h
  split at h
  · assumption
  · simp at h

theorem resolves_of_match? {response : Frame} {rest : List Frame} {outcome : Outcome}
    (hresponses : m.responses = response :: rest)
    (matched : match? s.frame response = some outcome) : m.Resolves s .takeResponse := by
  unfold match? at matched
  split at matched
  · rename_i code error
    exact .refused hresponses error
  · rename_i plain
    split at matched
    · rename_i same
      exact .answered hresponses plain same.1 same.2
    · simp at matched

/-- The caller of the request in flight goes only when its deadline has passed. -/
theorem deadline_of_expire {now : Nat} {patience : Patience}
    (distinct : (m.pending.map (·.id)).Nodup) (hpatience : s.patience = some patience)
    (hwriter : m.writer = .waiting s patience) (h : m.expire s.id now = some next) :
    patience.deadline ≤ now := by
  obtain ⟨other, -, hother, same, -, overdue, -⟩ := expire_cases h
  have head : s ∈ m.pending := by
    rw [pending_of_waiting hwriter]
    exact List.mem_cons_self ..
  obtain rfl := List.inj_on_of_nodup_map distinct (mem_pending_of_underWay hother) head same
  simp only [isOverdue, hpatience, decide_eq_true_eq] at overdue
  exact overdue.1

/-- A move resolves the request in flight or leaves it in flight. -/
theorem inFlight_apply (distinct : (m.pending.map (·.id)).Nodup) (flight : m.InFlight s)
    (h : m.apply move = some next) : m.Resolves s move ∨ next.InFlight s := by
  obtain ⟨⟨patience, hpatience, hwriter⟩, here⟩ := flight
  have kept (same : next.writer = m.writer) (callers : next.abandoned = m.abandoned) :
      next.InFlight s :=
    ⟨⟨patience, hpatience, same.trans hwriter⟩, callers ▸ here⟩
  by_cases line : move.isLine = true
  · exact .inr (kept (sameDesk_of_line line h).writer (sameDesk_of_line line h).abandoned)
  cases move with
  | submit other =>
    obtain ⟨-, rfl⟩ | ⟨-, -, rfl⟩ | ⟨-, rfl⟩ := submit_cases h
    · exact .inr (kept rfl rfl)
    · rw [enqueue_eq] at kept ⊢
      exact .inr (kept rfl rfl)
    · exact .inr (kept rfl rfl)
  | enter =>
    obtain ⟨other, rest, -, -, rfl⟩ := enter_cases h
    rw [enqueue_eq] at kept ⊢
    exact .inr (kept rfl rfl)
  | giveUp id =>
    obtain rfl := Option.some.inj h
    by_cases own : id = s.id
    · exact .inl (own ▸ .abandoned)
    · refine .inr ⟨⟨patience, hpatience, hwriter⟩, ?_⟩
      simp only [giveUp]
      split
      · simp [here, Ne.symm own]
      · exact here
  | expire id now =>
    by_cases own : id = s.id
    · subst own
      exact .inl (.expired hpatience (deadline_of_expire distinct hpatience hwriter h))
    · obtain ⟨other, limit, -, -, -, -, rfl⟩ := expire_cases h
      refine .inr ⟨⟨patience, hpatience, hwriter⟩, ?_⟩
      simp [tell, here, Ne.symm own]
  | release =>
    obtain rfl := release_eq h
    exact .inr (kept rfl rfl)
  | takeResponse =>
    obtain ⟨response, rest, hresponses, ⟨idle, -⟩ | ⟨request, limit, waiting,
      ⟨-, rfl⟩ | ⟨outcome, matched, -⟩⟩⟩ := takeResponse_cases h
    · simp [hwriter] at idle
    · exact .inr (kept rfl rfl)
    · obtain ⟨rfl, -⟩ := WriterState.waiting.inj (hwriter.symm.trans waiting)
      exact .inl (resolves_of_match? hresponses matched)
  | takeSubmission now =>
    obtain ⟨other, rest, idle, -⟩ := takeSubmission_cases h
    simp [hwriter] at idle
  | withdraw now =>
    exact .inl (.late hpatience ((withdraw_ready hwriter h).resolve_left here))
  | finish =>
    obtain ⟨idle, -⟩ | ⟨request, limit, -, silent, -⟩ := finish_cases h
    · simp [hwriter] at idle
    · exact .inl (.closed silent)
  | arrive | disconnect | jam | stop | receive | halt | route => simp [Move.isLine] at line

/-- While a request is in flight, nothing is written until it is resolved. -/
theorem holdsBack_of_inFlight {moves : List Move} {m : Multiplexer}
    (distinct : ((m.pending ++ submitted moves).map (·.id)).Nodup) (flight : m.InFlight s) :
    m.HoldsBack s moves := by
  -- The moves still to come submit under ids of their own, which the hypothesis carries along.
  induction moves generalizing m with
  | nil => trivial
  | cons move rest ih =>
    have here : (m.pending.map (·.id)).Nodup :=
      distinct.sublist ((List.sublist_append_left _ _).map _)
    by_cases resolved : m.Resolves s move
    · exact .inl resolved
    · refine .inr ⟨transmitted_of_inFlight flight move, fun next hmove => ih ?_ ?_⟩
      · refine distinct.sublist (List.Sublist.map _ ?_)
        have step := (pending_apply hmove).append_right (submitted rest)
        rwa [List.append_assoc] at step
      · exact (inFlight_apply here flight hmove).resolve_left resolved

/-! ### Requests whose callers have gone -/

/-- Whether nobody waits for the request any more, as long as it is pending. -/
def Deserted (m : Multiplexer) (s : Submission) : Prop := s ∈ m.pending → s.id ∈ m.abandoned

theorem deserted_apply (distinct : (m.pending.map (·.id)).Nodup)
    (old : s ∉ move.submissions) (deserted : m.Deserted s) (h : m.apply move = some next) :
    next.Deserted s := by
  intro pending
  have before := (List.mem_append.mp ((pending_apply h).subset pending)).resolve_right old
  obtain gone | concluded := abandoned_apply distinct (deserted before) h
  · exact gone
  · exact absurd (List.mem_map_of_mem pending) concluded

/-- A caller that goes deserts its request. -/
theorem deserted_of_leaver (sync : s.patience.isSome = true) (leaves : move.leaver? = some s.id)
    (h : m.apply move = some next) : next.Deserted s := by
  intro pending
  cases move with
  | giveUp id =>
    obtain rfl := Option.some.inj leaves
    obtain rfl := Option.some.inj h
    have underWay : s ∈ m.underWay := by
      change s ∈ m.flight ++ (m.queue ++ m.blocked.filter (·.id != s.id)) at pending
      simp only [List.mem_append] at pending
      obtain flight | queued | blocked := pending
      · exact List.mem_append_left _ flight
      · exact List.mem_append_right _ queued
      · simp at blocked
    by_cases gone : s.id ∈ m.abandoned
    · simp only [giveUp]
      split
      · exact List.mem_append_left _ gone
      · exact gone
    · have waits : m.underWay.any (fun t => t.id == s.id && m.isAwaited t) = true := by
        refine List.any_eq_true.mpr ⟨s, underWay, ?_⟩
        simp [isAwaited, sync, gone]
      simp [giveUp, waits]
  | expire id now =>
    obtain rfl := Option.some.inj leaves
    obtain ⟨other, patience, -, -, -, -, rfl⟩ := expire_cases h
    exact List.mem_append_right _ (List.mem_singleton_self _)
  | _ => simp [Move.leaver?] at leaves

/-- A request that is too late or deserted when it is taken is not written. -/
theorem transmitted_of_not_due {now : Nat} {rest : List Submission} {patience : Patience}
    (hqueue : m.queue = s :: rest) (hpatience : s.patience = some patience)
    (missed : patience.deadline ≤ now ∨ s.id ∈ m.abandoned) :
    m.transmitted (.takeSubmission now) = [] := by
  rw [List.eq_nil_iff_forall_not_mem]
  intro other written
  obtain ⟨now', rest', hnow, -, hqueue', due, -⟩ := mem_transmitted_iff.mp written
  obtain rfl := Move.takeSubmission.inj hnow
  obtain ⟨rfl, rfl⟩ := List.cons.inj (hqueue.symm.trans hqueue')
  simp only [isDue, hpatience, Bool.and_eq_true, List.contains_eq_mem, Bool.not_eq_true',
    decide_eq_false_iff_not, decide_eq_true_eq] at due
  obtain passed | gone := missed
  · omega
  · exact due.1 gone

/-! ### Runs -/

/-- Whether the caller of a submission goes after it has submitted it. -/
def CallerGoes (s : Submission) (moves : List Move) : Prop :=
  ∃ before move after, moves = before ++ move :: after ∧ s ∈ submitted before ∧
    move.leaver? = some s.id

theorem numbered_of_append {before after : List Move} (numbered : Numbered (before ++ after)) :
    Numbered before := by
  rw [Numbered, List.flatMap_append, List.map_append, List.nodup_append] at numbered
  exact numbered.1

theorem pending_ids_nodup {before after : List Move} (numbered : Numbered (before ++ after))
    (h : initial.run before = some m) : ((m.pending ++ submitted after).map (·.id)).Nodup := by
  have kept := (pending_run h).append_right (submitted after)
  rw [Numbered, List.flatMap_append] at numbered
  exact numbered.sublist (kept.map _)

theorem deserted_run {moves : List Move} {m : Multiplexer}
    (distinct : ((m.pending ++ submitted moves).map (·.id)).Nodup) (old : s ∉ submitted moves)
    (deserted : m.Deserted s) (h : m.run moves = some next) : next.Deserted s := by
  induction moves generalizing m with
  | nil =>
    obtain rfl := Option.some.inj h
    exact deserted
  | cons move rest ih =>
    obtain ⟨middle, hmove, hrest⟩ := Option.bind_eq_some_iff.mp h
    have here : (m.pending.map (·.id)).Nodup :=
      distinct.sublist ((List.sublist_append_left _ _).map _)
    rw [submitted, List.flatMap_cons, List.mem_append, not_or] at old
    refine ih ?_ old.2 (deserted_apply here old.1 deserted hmove) hrest
    refine distinct.sublist (List.Sublist.map _ ?_)
    have step := (pending_apply hmove).append_right (submitted rest)
    rwa [List.append_assoc] at step

/-- Once its caller has gone, a request is deserted. -/
theorem deserted_of_callerGoes {moves : List Move} (numbered : Numbered moves)
    (sync : s.patience.isSome = true) (gone : CallerGoes s moves)
    (h : initial.run moves = some m) : m.Deserted s := by
  obtain ⟨before, move, after, rfl, known, leaves⟩ := gone
  obtain ⟨middle, hbefore, hrest⟩ := run_of_append h
  obtain ⟨left, hmove, hafter⟩ := Option.bind_eq_some_iff.mp hrest
  have reached : initial.run (before ++ [move]) = some left := by
    rw [run_append_of_run hbefore, run_singleton, hmove]
  rw [List.append_cons] at numbered
  refine deserted_run (pending_ids_nodup numbered reached) ?_
    (deserted_of_leaver sync leaves hmove) hafter
  intro again
  rw [Numbered, ← submitted, submitted_append, submitted_append, List.map_append, List.map_append,
    List.nodup_append] at numbered
  exact numbered.2.2 s.id (List.mem_append_left _ (List.mem_map_of_mem known)) s.id
    (List.mem_map_of_mem again) rfl

/-- What is taken and not written leaves the backlog. -/
theorem backlog_of_unwritten {now : Nat} {rest : List Submission} (hqueue : m.queue = s :: rest)
    (unwritten : m.transmitted (.takeSubmission now) = [])
    (h : m.takeSubmission now = some next) : next.backlog.Sublist (rest ++ m.blocked) := by
  obtain ⟨s', rest', -, hqueue', ⟨written, -⟩ | ⟨-, reason, -, -, rfl⟩ |
    ⟨-, -, patience, -, rfl⟩⟩ := taken_cases h
  · simp [unwritten] at written
  · rw [endWriter_eq]
    exact List.nil_sublist _
  · obtain ⟨rfl, rfl⟩ := List.cons.inj (hqueue.symm.trans hqueue')
    rw [backlog, (desk_conclude _ _ _).2.1, (desk_conclude _ _ _).2.2.1]

/-- What is not written when it is taken is never written. -/
theorem not_sent_of_unwritten {before after : List Move} {now : Nat} {rest : List Submission}
    {last : Multiplexer} (numbered : Numbered (before ++ .takeSubmission now :: after))
    (hbefore : initial.run before = some m) (hqueue : m.queue = s :: rest)
    (unwritten : m.transmitted (.takeSubmission now) = [])
    (hrest : m.run (.takeSubmission now :: after) = some last) :
    s.id ∉ (initial.sent (before ++ .takeSubmission now :: after)).map (·.id) := by
  obtain ⟨next, hmove, hafter⟩ := Option.bind_eq_some_iff.mp hrest
  have sent : initial.sent (before ++ .takeSubmission now :: after) =
      initial.sent before ++ next.sent after := by
    rw [Multiplexer.sent, history_append hbefore, history_cons hmove, unwritten, List.nil_append]
  have later : (next.sent after).Sublist (rest ++ m.blocked ++ submitted after) := by
    refine ((List.sublist_append_left _ _).trans (sent_run hafter)).trans ?_
    exact (backlog_of_unwritten hqueue unwritten hmove).append_right _
  -- With `s` between what is written before and after, the order is still that of submission.
  have whole : (initial.sent before ++ s :: next.sent after).Sublist
      (submitted (before ++ .takeSubmission now :: after)) := by
    have earlier := (sent_run hbefore).append_right (submitted after)
    rw [backlog, hqueue, List.append_assoc] at earlier
    rw [submitted_append]
    exact ((later.cons_cons s).append_left _).trans earlier
  have distinct : ((initial.sent before ++ s :: next.sent after).map (·.id)).Nodup :=
    List.Nodup.sublist (whole.map _) numbered
  rw [List.map_append, List.map_cons] at distinct
  rw [sent, List.map_append]
  exact (List.nodup_cons.mp (List.nodup_middle.mp distinct)).1

/-- What a run writes. -/
structure OneByOne (moves : List Move) (m : Multiplexer) : Prop where
  /-- On the line are the frames of some of the submissions, -/
  written : m.written = (initial.sent moves).map (·.frame)
  /-- in the order of submission, -/
  ordered : (initial.sent moves).Sublist (submitted moves)
  /-- and each of them once. -/
  once : ((initial.sent moves).map (·.id)).Nodup
  /-- After a request nothing is written until it is resolved. -/
  alone : ∀ before move after middle next s, moves = before ++ move :: after →
    initial.run before = some middle → middle.apply move = some next →
    s ∈ middle.transmitted move → s.patience.isSome = true → next.HoldsBack s after
  /-- A request that is taken after its deadline, or whose caller has gone, is never written. -/
  due : ∀ before now after middle s rest patience,
    moves = before ++ .takeSubmission now :: after → initial.run before = some middle →
    middle.writer = .idle → middle.queue = s :: rest → s.patience = some patience →
    patience.deadline ≤ now ∨ CallerGoes s before → s.id ∉ (initial.sent moves).map (·.id)

/-- A run writes its submissions one by one. -/
theorem oneByOne_run {moves : List Move} (numbered : Numbered moves)
    (hrun : initial.run moves = some m) : OneByOne moves m := by
  have ordered : (initial.sent moves).Sublist (submitted moves) :=
    (List.sublist_append_left _ _).trans (sent_run hrun)
  refine ⟨written_run hrun, ordered, List.Nodup.sublist (ordered.map _) numbered, ?_, ?_⟩
  · rintro before move after middle next s rfl hbefore hmove written sync
    have reached : initial.run (before ++ [move]) = some next := by
      rw [run_append_of_run hbefore, run_singleton, hmove]
    rw [List.append_cons] at numbered
    exact holdsBack_of_inFlight (pending_ids_nodup numbered reached)
      (inFlight_of_transmitted sync written hmove)
  · rintro before now after middle s rest patience rfl hbefore hwriter hqueue hpatience missed
    refine not_sent_of_unwritten numbered hbefore hqueue ?_
      ((run_append_of_run hbefore).symm.trans hrun)
    refine transmitted_of_not_due hqueue hpatience (missed.imp_right fun gone => ?_)
    refine deserted_of_callerGoes (numbered_of_append numbered) (by rw [hpatience]; rfl) gone
      hbefore ?_
    rw [pending_of_idle hwriter, hqueue]
    exact List.mem_cons_self ..

/-- Two pings, of which the first is not answered and the second is then too late. -/
def twoPings : List Move :=
  [.submit ping, .submit { ping with id := 3 }, .takeSubmission 0, .withdraw 5000,
   .takeSubmission 5001]

theorem oneByOne_twoPings : ∃ m, Numbered twoPings ∧ initial.run twoPings = some m ∧
    OneByOne twoPings m ∧ m.written = [ping.frame] := by
  have numbered : Numbered twoPings := by
    simp [Numbered, twoPings, Move.submissions, ping]
  have possible : initial.run twoPings = some ((initial.run twoPings).getD initial) := rfl
  exact ⟨_, numbered, possible, oneByOne_run numbered possible, rfl⟩

end Multiplexer

end Zigbee.Host
