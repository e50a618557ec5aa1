import Zigbee.Proofs.Multiplexer.Outcomes

/-!
# When no response can come any more

The line falls silent once the receiver has ended, the router has routed what had been read,
and the writer has taken the last response. It stays silent, and from then on no request is
answered. A request that waits for its response, or in the queue, or for a place there, and
one that comes later, fails with the line or with its deadline. An order has been accepted
when it entered the queue, and nothing more is heard of it.

The writer may end as soon as it is idle, and once it has ended nothing of what was pending is
written.
-/

namespace Zigbee.Host.Multiplexer

open Serial

variable {m next last : Multiplexer} {move : Move} {s : Submission}
variable {moves before after : List Move}

/-! ### Silence -/

theorem isSilent_iff : m.isSilent = true ↔ m.routing = false ∧ m.responses = [] := by
  rw [isSilent, Bool.and_eq_true, Bool.not_eq_true', List.isEmpty_iff]

/-- The line stays silent. -/
theorem isSilent_apply (silent : m.isSilent = true) (h : m.apply move = some next) :
    next.isSilent = true := by
  obtain ⟨routing, responses⟩ := isSilent_iff.mp silent
  rw [isSilent_iff]
  cases conveys_of_apply h with
  | aside none other quiet same =>
    exact ⟨same.routing.trans routing, same.responses.trans responses⟩
  | arrived | left | read | lost | failed | halted => exact ⟨routing, responses⟩
  | discarded | passed | delivered | closed =>
    have routes := (route_cases h).1
    exact absurd (routing.symm.trans routes) Bool.false_ne_true
  | strayed hresponses | matched hresponses =>
    rw [responses] at hresponses
    exact absurd hresponses.symm (List.cons_ne_nil _ _)

theorem isSilent_run (silent : m.isSilent = true) (h : m.run moves = some next) :
    next.isSilent = true := by
  refine run_induction (P := fun _ next => next.isSilent = true) silent ?_ h
  exact fun _ _ _ _ _ ih hmove => isSilent_apply ih hmove

/-! ### What is learned in silence -/

/-- The writer waits with the patience of the request in flight. -/
def WaitsDuly (m : Multiplexer) : Prop :=
  ∀ request patience, m.writer = .waiting request patience → request.patience = some patience

theorem waitsDuly_of_idle (idle : m.writer = .idle) : m.WaitsDuly := by
  intro request patience waiting
  simp [idle] at waiting

theorem waitsDuly_apply (duly : m.WaitsDuly) (h : m.apply move = some next) : next.WaitsDuly := by
  have kept (same : next.writer = m.writer) : next.WaitsDuly := by
    rw [WaitsDuly, same]
    exact duly
  cases deals_of_apply h with
  | aside keeps same => exact kept same.writer
  | refused | delayed | givenUp | expired => exact kept rfl
  | queued | entered =>
    rw [enqueue_eq] at kept ⊢
    exact kept rfl
  | concluded keeps writer =>
    refine waitsDuly_of_idle ?_
    rw [(desk_conclude _ _ _).1, writer]
  | @wrote now s =>
    intro request patience waiting
    cases limit : s.patience with
    | none => simp [limit] at waiting
    | some own =>
      simp only [limit, WriterState.waiting.injEq] at waiting
      obtain ⟨rfl, rfl⟩ := waiting
      exact limit
  | ended keeps hwriter writer =>
    intro request patience waiting
    simp [writer] at waiting

theorem waitsDuly_run (h : initial.run moves = some m) : m.WaitsDuly := by
  refine run_induction (P := fun _ m => m.WaitsDuly) (waitsDuly_of_idle rfl) ?_ h
  exact fun _ _ _ _ _ ih hmove => waitsDuly_apply ih hmove

/-- What a caller can learn about its submission when no response comes. -/
inductive Lapses (s : Submission) : Outcome → Prop where
  | accepted (order : s.patience = none) : Lapses s .accepted
  | closed : Lapses s (.failed .transportClosed)
  | late {patience : Patience} (limit : s.patience = some patience) : Lapses s (timedOut patience)

theorem lapses_of_conclude {idle : Multiplexer} {request : Submission} {outcome : Outcome}
    {id : Nat} {learned : Outcome} (h : m.apply move = some (idle.conclude request outcome))
    (outcomes : idle.outcomes = m.outcomes) (lapses : Lapses request outcome)
    (member : (id, learned) ∈ m.tidings move) : request.id = id ∧ Lapses request learned := by
  have told : m.tidings move =
      if request.id ∈ idle.abandoned then [] else [(request.id, outcome)] :=
    tidings_of_told h (by rw [outcomes_conclude, outcomes])
  rw [told] at member
  split at member
  · exact absurd member List.not_mem_nil
  · obtain ⟨rfl, rfl⟩ := Prod.mk.inj (List.mem_singleton.mp member)
    exact ⟨rfl, lapses⟩

theorem lapses_of_enqueue {idle : Multiplexer} {id : Nat} {learned : Outcome}
    (h : m.apply move = some (idle.enqueue s)) (outcomes : idle.outcomes = m.outcomes)
    (member : (id, learned) ∈ m.tidings move) : s.id = id ∧ Lapses s learned := by
  rw [tidings_enqueue h outcomes] at member
  cases limit : s.patience with
  | none =>
    rw [limit, Option.isNone_none, if_pos rfl] at member
    obtain ⟨rfl, rfl⟩ := Prod.mk.inj (List.mem_singleton.mp member)
    exact ⟨rfl, .accepted limit⟩
  | some patience =>
    rw [limit, Option.isNone_some, if_neg Bool.false_ne_true] at member
    exact absurd member List.not_mem_nil

/-- The end of the writer tells only those that were pending. -/
theorem lapses_of_last {id : Nat} {learned : Outcome} (member : (id, learned) ∈ m.lastOutcomes) :
    ∃ s ∈ m.pending, s.id = id ∧ Lapses s learned := by
  obtain ⟨s, known, same⟩ := List.mem_map.mp member
  obtain ⟨rfl, rfl⟩ := Prod.mk.inj same
  refine ⟨s, List.mem_append_right _ ?_, rfl, .closed⟩
  exact (List.filter_sublist.append_right m.blocked).subset known

/-- In silence, a move tells callers only of the end of the line and of deadlines. -/
theorem lapses_of_tidings (silent : m.isSilent = true) (duly : m.WaitsDuly)
    (h : m.apply move = some next) {id : Nat} {learned : Outcome}
    (member : (id, learned) ∈ m.tidings move) :
    ∃ s ∈ m.pending ++ move.submissions, s.id = id ∧ Lapses s learned := by
  have nothing {P : Prop} (same : next.outcomes = m.outcomes) : P := by
    rw [tidings_of_same h same] at member
    exact absurd member List.not_mem_nil
  have ofPending (found : ∃ s ∈ m.pending, s.id = id ∧ Lapses s learned) :
      ∃ s ∈ m.pending ++ move.submissions, s.id = id ∧ Lapses s learned := by
    obtain ⟨s, pending, lapses⟩ := found
    exact ⟨s, List.mem_append_left _ pending, lapses⟩
  have inFlight {request : Submission} {patience : Patience}
      (waiting : m.writer = .waiting request patience) : request ∈ m.pending :=
    List.mem_append_left _ (mem_flight_of_waiting waiting)
  by_cases line : move.isLine = true
  · exact nothing (sameDesk_of_line line h).outcomes
  cases move with
  | submit s =>
    refine ⟨s, List.mem_append_right _ (List.mem_singleton_self s), ?_⟩
    obtain ⟨-, rfl⟩ | ⟨-, -, rfl⟩ | ⟨-, rfl⟩ := submit_cases h
    · rw [tidings_of_told h rfl] at member
      obtain ⟨rfl, rfl⟩ := Prod.mk.inj (List.mem_singleton.mp member)
      exact ⟨rfl, .closed⟩
    · exact lapses_of_enqueue h rfl member
    · exact nothing rfl
  | enter =>
    obtain ⟨s, rest, hblocked, -, rfl⟩ := enter_cases h
    have waiting : s ∈ m.backlog := by
      rw [backlog, hblocked]
      exact List.mem_append_right _ (List.mem_cons_self ..)
    exact ofPending ⟨s, List.mem_append_right _ waiting, lapses_of_enqueue h rfl member⟩
  | giveUp gone =>
    rw [tidings_giveUp] at member
    exact absurd member List.not_mem_nil
  | expire gone now =>
    obtain ⟨s, patience, underWay, rfl, limit, -, rfl⟩ := expire_cases h
    rw [tidings_of_told h rfl] at member
    obtain ⟨rfl, rfl⟩ := Prod.mk.inj (List.mem_singleton.mp member)
    exact ofPending ⟨s, mem_pending_of_underWay underWay, rfl, .late limit⟩
  | release =>
    obtain rfl := release_eq h
    exact nothing rfl
  | takeResponse =>
    obtain ⟨response, rest, hresponses, -⟩ := takeResponse_cases h
    rw [(isSilent_iff.mp silent).2] at hresponses
    exact absurd hresponses.symm (List.cons_ne_nil _ _)
  | takeSubmission now =>
    obtain ⟨s, rest, hwriter, hqueue, ⟨-, rfl⟩ | ⟨-, reason, -, -, rfl⟩ |
      ⟨-, -, patience, limit, rfl⟩⟩ := taken_cases h
    · exact nothing rfl
    · rw [tidings_of_told h (outcomes_forsake_endWriter hqueue _)] at member
      exact ofPending (lapses_of_last member)
    · have first : s ∈ m.pending := by
        rw [pending_of_idle hwriter, hqueue]
        exact List.mem_cons_self ..
      exact ofPending ⟨s, first, lapses_of_conclude h rfl (.late limit) member⟩
  | withdraw now =>
    obtain ⟨request, patience, waiting, rfl⟩ := withdraw_cases h
    have lapses : Lapses request (timedOut patience) := .late (duly request patience waiting)
    exact ofPending ⟨request, inFlight waiting, lapses_of_conclude h rfl lapses member⟩
  | finish =>
    obtain ⟨-, -, rfl⟩ | ⟨request, patience, waiting, -, rfl⟩ := finish_cases h
    · rw [endWriter_eq] at h
      rw [tidings_of_told h rfl] at member
      exact ofPending (lapses_of_last member)
    · exact ofPending ⟨request, inFlight waiting, lapses_of_conclude h rfl .closed member⟩
  | arrive | disconnect | jam | stop | receive | halt | route => simp [Move.isLine] at line

/-- What callers learn in silence is never an answer. -/
theorem lapses_of_told (silent : m.isSilent = true) (duly : m.WaitsDuly)
    (h : m.run moves = some next) {id : Nat} {learned : Outcome}
    (member : (id, learned) ∈ m.told moves) :
    ∃ s ∈ m.pending ++ submitted moves, s.id = id ∧ Lapses s learned := by
  induction moves generalizing m with
  | nil => exact absurd member List.not_mem_nil
  | cons move rest ih =>
    obtain ⟨middle, hmove, hrest⟩ := Option.bind_eq_some_iff.mp h
    rw [told, history_cons hmove, List.mem_append] at member
    have whole : m.pending ++ submitted (move :: rest) =
        m.pending ++ move.submissions ++ submitted rest := (List.append_assoc ..).symm
    rw [whole]
    obtain now | later := member
    · obtain ⟨s, known, lapses⟩ := lapses_of_tidings silent duly hmove now
      exact ⟨s, List.mem_append_left _ known, lapses⟩
    · obtain ⟨s, known, lapses⟩ :=
        ih (isSilent_apply silent hmove) (waitsDuly_apply duly hmove) hrest later
      exact ⟨s, ((pending_apply hmove).append_right _).subset known, lapses⟩

/-! ### Orders -/

/-- Behind the first of what is under way stands the queue. -/
theorem mem_queue_of_underWay {request : Submission} {rest : List Submission}
    (underWay : m.underWay = request :: rest) (member : s ∈ rest) : s ∈ m.queue := by
  rw [underWay_eq, flight] at underWay
  split at underWay
  · obtain ⟨-, rfl⟩ := List.cons.inj underWay
    exact member
  · rw [List.nil_append] at underWay
    rw [underWay]
    exact List.mem_cons_of_mem _ member

/-- An order that enters the queue is accepted. -/
theorem accepted_apply (h : m.apply move = some next) (order : s.patience = none)
    (member : s ∈ next.queue) : s ∈ m.queue ∨ (s.id, .accepted) ∈ m.tidings move := by
  have entered {idle : Multiplexer} {new : Submission} (hnext : next = idle.enqueue new)
      (queue : idle.queue = m.queue) (outcomes : idle.outcomes = m.outcomes) :
      s ∈ m.queue ∨ (s.id, .accepted) ∈ m.tidings move := by
    subst hnext
    rw [enqueue_eq, queue] at member
    refine (List.mem_append.mp member).imp_right fun last => ?_
    obtain rfl := List.mem_singleton.mp last
    rw [tidings_enqueue h outcomes, order]
    exact List.mem_singleton_self _
  cases deals_of_apply h with
  | aside keeps same => exact .inl (same.queue ▸ member)
  | refused | delayed | givenUp | expired => exact .inl member
  | queued => exact entered rfl rfl rfl
  | entered hblocked => exact entered rfl rfl rfl
  | concluded keeps writer underWay =>
    rw [(desk_conclude _ _ _).2.1] at member
    exact .inl (mem_queue_of_underWay underWay member)
  | wrote hwriter hqueue =>
    rw [hqueue]
    exact .inl (List.mem_cons_of_mem _ member)
  | ended keeps hwriter writer queue =>
    rw [queue] at member
    exact absurd member List.not_mem_nil

theorem accepted_run (h : initial.run moves = some m) (order : s.patience = none)
    (member : s ∈ m.queue) : (s.id, .accepted) ∈ initial.told moves := by
  refine run_induction (P := fun moves m =>
    s ∈ m.queue → (s.id, .accepted) ∈ initial.told moves) ?_ ?_ h member
  · exact fun none => absurd none List.not_mem_nil
  · intro moves m move next hrun ih hmove member
    rw [told, history_concat hrun, List.mem_append]
    exact (accepted_apply hmove order member).imp_left ih

/-! ### The balance from a state on -/

/-- What is told and forgone from a state on concerns what was unsettled there and what is
submitted later. -/
theorem balance_after (numbered : Numbered (before ++ after))
    (hbefore : initial.run before = some m) (hafter : m.run after = some last) :
    ((m.told after).map (·.1) ++ (m.forgone after ++ last.unsettled).map (·.id)).Perm
      ((m.unsettled ++ submitted after).map (·.id)) := by
  have whole := balance_run numbered ((run_append_of_run hbefore).trans hafter)
  have first := balance_run (numbered_of_append numbered) hbefore
  rw [told, forgone, history_append hbefore, history_append hbefore, submitted_append] at whole
  refine List.perm_iff_count.mpr fun id => ?_
  have whole := List.perm_iff_count.mp whole id
  have first := List.perm_iff_count.mp first id
  simp only [List.map_append, List.count_append, told, forgone] at whole first ⊢
  omega

theorem unsettled_sublist_pending (m : Multiplexer) : m.unsettled.Sublist m.pending := by
  rw [pending, backlog, ← List.append_assoc, ← underWay_eq]
  exact List.filter_sublist.append_right m.blocked

/-- Nobody who has an outcome, or has gone without one, is told another. -/
theorem once_after (numbered : Numbered (before ++ after)) (hbefore : initial.run before = some m)
    (hafter : m.run after = some last) :
    ((m.told after).map (·.1) ++ (m.forgone after).map (·.id)).Nodup := by
  have distinct := (pending_ids_nodup numbered hbefore).sublist
    (((unsettled_sublist_pending m).append_right (submitted after)).map (·.id))
  have known := (balance_after numbered hbefore hafter).nodup_iff.mpr distinct
  rw [List.map_append, ← List.append_assoc] at known
  exact (List.nodup_append.mp known).1

/-! ### The end of the writer -/

theorem transmitted_of_ended (ended : m.isEnded = true) (move : Move) :
    m.transmitted move = [] := by
  refine List.eq_nil_iff_forall_not_mem.mpr fun s written => ?_
  obtain ⟨now, rest, -, idle, -⟩ := mem_transmitted_iff.mp written
  simp [isEnded, idle] at ended

/-- After its end the writer writes nothing. -/
theorem sent_of_closed (closed : m.Closed) (h : m.run moves = some next) : m.sent moves = [] := by
  induction moves generalizing m with
  | nil => rfl
  | cons move rest ih =>
    obtain ⟨middle, hmove, hrest⟩ := Option.bind_eq_some_iff.mp h
    rw [sent, history_cons hmove, transmitted_of_ended closed.ended, List.nil_append]
    exact ih (closed_apply closed hmove).1 hrest

theorem finish_of_idle (idle : m.writer = .idle) (silent : m.isSilent = true) :
    m.apply .finish = some (m.endWriter (.ok ())) := by
  simp only [apply, finish, idle, silent, Bool.true_or, if_true]

theorem isEnded_endWriter (m : Multiplexer) (result : Except Failure Unit) :
    (m.endWriter result).isEnded = true := by
  rw [endWriter_eq]
  rfl

theorem finish_of_waiting {request : Submission} {patience : Patience}
    (waiting : m.writer = .waiting request patience) (silent : m.isSilent = true) :
    m.apply .finish =
      some ({ m with writer := .idle }.conclude request (.failed .transportClosed)) := by
  simp only [apply, finish, waiting, silent, if_true]

/-- In silence the writer may end at once, without writing anything more. -/
theorem exists_finish (silent : m.isSilent = true) : ∃ moves final,
    (∀ move ∈ moves, move = .finish) ∧ m.run moves = some final ∧ final.isEnded = true := by
  cases hwriter : m.writer with
  | ended result => exact ⟨[], m, by simp, rfl, by simp [isEnded, hwriter]⟩
  | idle =>
    refine ⟨[.finish], _, by simp, ?_, isEnded_endWriter m (.ok ())⟩
    rw [run_singleton]
    exact finish_of_idle hwriter silent
  | waiting request patience =>
    have first := finish_of_waiting hwriter silent
    have idle := (desk_conclude { m with writer := .idle } request (.failed .transportClosed)).1
    have second := finish_of_idle idle (isSilent_apply silent first)
    have both := (run_cons first [.finish]).trans ((run_singleton _ _).trans second)
    exact ⟨[.finish, .finish], _, by simp, both, isEnded_endWriter _ _⟩

/-- With the end of the idle writer nothing more is written, and whoever waits learns so. -/
theorem closes_of_finish {rest : List Move} (idle : m.writer = .idle) (silent : m.isSilent = true)
    (h : m.run (.finish :: rest) = some last) :
    m.tidings .finish = closings m.unsettled ∧ m.sent (.finish :: rest) = [] := by
  have hmove := finish_of_idle idle silent
  rw [run_cons hmove] at h
  have running : m.isEnded = false := by rw [isEnded, idle]
  obtain ⟨closed, tidings, -⟩ := closed_of_ends hmove running (isEnded_endWriter m _)
  refine ⟨tidings, ?_⟩
  rw [sent, history_cons hmove]
  exact sent_of_closed closed h

/-- What waits for its turn has not been written. -/
theorem not_mem_sent_of_backlog (numbered : Numbered moves) (h : initial.run moves = some m)
    (member : s ∈ m.backlog) : s ∉ initial.sent moves := by
  intro written
  have once : (submitted moves).Nodup := List.Nodup.of_map _ numbered
  exact (List.nodup_append.mp (once.sublist (sent_run h))).2.2 s written s member rfl

/-! ### What silence means -/

/-- What becomes of the submissions once the line has fallen silent. -/
structure FallsSilent (before : List Move) (m : Multiplexer) (after : List Move)
    (last : Multiplexer) : Prop where
  silent : last.isSilent = true
  /-- No request is answered: whoever learns something learns that its order is in the queue,
  that the line is closed, or that its time is over, -/
  unanswered : ∀ id outcome, (id, outcome) ∈ m.told after →
    ∃ s ∈ m.pending ++ submitted after, s.id = id ∧ Lapses s outcome
  /-- and learns it once. -/
  once : ((m.told after).map (·.1) ++ (m.forgone after).map (·.id)).Nodup
  /-- An order in the queue has been accepted, and nothing more is learned of it. -/
  orders : ∀ s ∈ m.queue, s.patience = none →
    (s.id, .accepted) ∈ initial.told before ∧ s.id ∉ (m.told after).map (·.1)
  /-- With the end of the writer everybody has learned something, or has gone. -/
  resolved : last.isEnded = true → ∀ s ∈ m.unsettled ++ submitted after,
    (∃ outcome, (s.id, outcome) ∈ m.told after ∧ Lapses s outcome) ∨
      s.id ∈ (m.forgone after).map (·.id)
  /-- If the writer finds the line silent while it is idle, whoever waits learns that the line is
  closed, and nothing of what was pending has been written or ever is. -/
  unsent : ∀ done rest middle, after = done ++ .finish :: rest → m.run done = some middle →
    middle.writer = .idle → middle.tidings .finish = closings middle.unsettled ∧
      middle.sent (.finish :: rest) = [] ∧
      ∀ s ∈ middle.pending, s ∉ initial.sent (before ++ after)

/-- An order in the queue leaves nobody waiting. -/
theorem not_settled_of_order (numbered : Numbered (before ++ after))
    (hbefore : initial.run before = some m) (hafter : m.run after = some last)
    (order : s.patience = none) (member : s ∈ m.queue) :
    s.id ∉ (m.told after).map (·.1) ++ (m.forgone after).map (·.id) := by
  intro settled
  have distinct := pending_ids_nodup numbered hbefore
  have pending : s ∈ m.pending ++ submitted after :=
    List.mem_append_left _ (mem_pending_of_underWay (List.mem_append_right _ member))
  have known : s.id ∈ (m.unsettled ++ submitted after).map (·.id) := by
    refine (balance_after numbered hbefore hafter).subset ?_
    rw [List.map_append, ← List.append_assoc]
    exact List.mem_append_left _ settled
  obtain ⟨other, place, same⟩ := List.mem_map.mp known
  have place' := ((unsettled_sublist_pending m).append_right (submitted after)).subset place
  obtain rfl := List.inj_on_of_nodup_map distinct place' pending same
  rw [unsettled, List.append_assoc, List.mem_append] at place
  obtain waits | later := place
  · have awaited := (List.mem_filter.mp waits).2
    rw [isAwaited_of_order order] at awaited
    exact Bool.false_ne_true awaited
  · -- It stands in the queue, and so neither waits for a place there nor comes later.
    have once := List.Nodup.of_map _ distinct
    rw [Multiplexer.pending, backlog, List.append_assoc, List.append_assoc] at once
    exact (List.nodup_append.mp (List.nodup_append.mp once).2.1).2.2 _ member _ later rfl

/-- Once the writer has ended, whoever waited has learned something, or has gone. -/
theorem resolved_of_ended (numbered : Numbered (before ++ after))
    (hbefore : initial.run before = some m) (silent : m.isSilent = true)
    (hafter : m.run after = some last) (ended : last.isEnded = true)
    (member : s ∈ m.unsettled ++ submitted after) :
    (∃ outcome, (s.id, outcome) ∈ m.told after ∧ Lapses s outcome) ∨
      s.id ∈ (m.forgone after).map (·.id) := by
  have nobody : last.unsettled = [] :=
    ((settles_run numbered ((run_append_of_run hbefore).trans hafter)).ended ended).1
  have known := (balance_after numbered hbefore hafter).symm.subset (List.mem_map_of_mem member)
  rw [nobody, List.append_nil, List.mem_append] at known
  refine known.imp_left fun learned => ?_
  obtain ⟨⟨id, outcome⟩, news, rfl⟩ := List.mem_map.mp learned
  obtain ⟨other, place, same, lapses⟩ :=
    lapses_of_told silent (waitsDuly_run hbefore) hafter news
  have distinct := pending_ids_nodup numbered hbefore
  have place' := ((unsettled_sublist_pending m).append_right (submitted after)).subset member
  obtain rfl := List.inj_on_of_nodup_map distinct place place' same
  exact ⟨outcome, news, lapses⟩

theorem fallsSilent_run (numbered : Numbered (before ++ after))
    (hbefore : initial.run before = some m) (silent : m.isSilent = true)
    (hafter : m.run after = some last) : FallsSilent before m after last where
  silent := isSilent_run silent hafter
  unanswered id outcome := lapses_of_told silent (waitsDuly_run hbefore) hafter
  once := once_after numbered hbefore hafter
  orders s member order := by
    have unsettled := not_settled_of_order numbered hbefore hafter order member
    exact ⟨accepted_run hbefore order member, fun told => unsettled (List.mem_append_left _ told)⟩
  resolved ended s := resolved_of_ended numbered hbefore silent hafter ended
  unsent done rest middle split hdone idle := by
    subst split
    obtain ⟨tidings, nothing⟩ := closes_of_finish idle (isSilent_run silent hdone)
      ((run_append_of_run hdone).symm.trans hafter)
    refine ⟨tidings, nothing, fun s member => ?_⟩
    have reached := (run_append_of_run hbefore).trans hdone
    have waits : s ∈ middle.backlog := by
      rw [pending_of_idle idle] at member
      exact member
    rw [← List.append_assoc] at numbered ⊢
    rw [sent, history_append reached, ← sent, nothing, List.append_nil]
    exact not_mem_sent_of_backlog (numbered_of_append numbered) reached waits

end Zigbee.Host.Multiplexer
