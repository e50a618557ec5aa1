import Zigbee.Proofs.Multiplexer.Reach
import Zigbee.Proofs.Multiplexer.Silence

/-!
# What is written into the silence

No response comes any more once the line has fallen silent, and so the writer had better write
nothing more. But when it is idle it may take the next submission before it finds the line
silent: nothing says which of the two it does first. What it may still write of the queue is
exactly what is in reach: those in front are taken with it, or their callers go.

Hence the queue is lost with the line only if there is no order in it, which has been accepted
and fails no more, and no request that the writer would write.
-/

namespace Zigbee.Host.Multiplexer

variable {m next last : Multiplexer} {move : Move} {s : Submission} {now : Nat}
variable {moves before after : List Move}

/-! ### How it comes to be written -/

/-- The moves that bring the queue forward without a response and at one time: the idle writer
takes what is next, the waiting one gives up, and callers go. -/
inductive Forwards (now : Nat) : Move → Prop where
  | taken : Forwards now (.takeSubmission now)
  | left (id : Nat) : Forwards now (.giveUp id)
  | closed : Forwards now .finish

theorem submitted_of_forwards (forwards : ∀ move ∈ moves, Forwards now move) :
    submitted moves = [] := by
  refine List.flatMap_eq_nil_iff.mpr fun move known => ?_
  cases forwards move known <;> rfl

theorem clock_of_forwards (forwards : ∀ move ∈ moves, Forwards now move) :
    ∀ move ∈ moves, ∀ time, move.time? = some time → now ≤ time := by
  intro move known time reads
  cases forwards move known with
  | taken => exact (Option.some.inj reads).le
  | left id => simp [Move.time?] at reads
  | closed => simp [Move.time?] at reads

/-- The first of the queue is out of the way, and nothing has changed for the others. -/
structure Passed (m : Multiplexer) (first : Submission) (rest : List Submission)
    (next : Multiplexer) : Prop where
  idle : next.writer = .idle
  queue : next.queue = rest
  isOpen : next.isOpen = m.isOpen
  due : ∀ now other, other.id ≠ first.id → next.isDue now other = m.isDue now other

theorem passed_conclude {first : Submission} (idle : Multiplexer) (writer : idle.writer = .idle)
    (isOpen : idle.isOpen = m.isOpen)
    (due : ∀ now other, other.id ≠ first.id → idle.isDue now other = m.isDue now other)
    (outcome : Outcome) : m.Passed first idle.queue (idle.conclude first outcome) := by
  obtain ⟨same, queue, -⟩ := desk_conclude idle first outcome
  refine ⟨same.trans writer, queue, (isOpen_conclude ..).trans isOpen, fun now other apart => ?_⟩
  rw [isDue_conclude apart]
  exact due now other apart

theorem Passed.takes {first : Submission} {rest : List Submission}
    (passed : m.Passed first rest next) {f : Serial.Frame} (takes : m.writeFailure? f = none) :
    next.writeFailure? f = none := by
  rw [writeFailure?_eq_none_iff_isOpen] at takes ⊢
  rwa [passed.isOpen]

theorem takeSubmission_of_due {rest : List Submission} (idle : m.writer = .idle)
    (queue : m.queue = s :: rest) (due : m.isDue now s = true) :
    m.apply (.takeSubmission now) = some ({ m with queue := rest }.transmit s) := by
  simp only [apply, takeSubmission, idle, queue, due, if_true]

/-- An idle writer can be past the first of the queue, unless it is an order that ends it. -/
theorem exists_passed {first : Submission} {rest : List Submission} (idle : m.writer = .idle)
    (queue : m.queue = first :: rest)
    (clear : first.patience = none → m.writeFailure? first.frame = none) (now : Nat) :
    ∃ moves next, (∀ move ∈ moves, Forwards now move) ∧ m.run moves = some next ∧
      m.Passed first rest next := by
  cases limit : first.patience with
  | none =>
    have due : m.isDue now first = true := isDue_of_order limit
    have hmove := takeSubmission_of_due idle queue due
    rw [transmit_of_writable (m := { m with queue := rest }) (clear limit)] at hmove
    refine ⟨[.takeSubmission now], _, ?_, (run_singleton _ _).trans hmove, ?_⟩
    · exact List.forall_mem_singleton.mpr .taken
    · exact ⟨by simp only [limit], rfl, rfl, fun _ _ _ => isDue_congr Iff.rfl⟩
  | some patience =>
    -- Its caller goes, and the writer takes a request for which nobody waits.
    have leaves : m.apply (.giveUp first.id) = some (m.giveUp first.id) := rfl
    have pending : first ∈ (m.giveUp first.id).pending := by
      refine mem_pending_of_underWay (List.mem_append_right _ ?_)
      exact queue ▸ List.mem_cons_self ..
    have gone : first.id ∈ (m.giveUp first.id).abandoned :=
      deserted_of_leaver (Option.isSome_of_eq_some limit) rfl leaves pending
    have undue : (m.giveUp first.id).isDue now first = false := by
      rw [Bool.eq_false_iff, Ne, isDue_iff limit]
      exact fun due => due.1 gone
    have idle' : (m.giveUp first.id).writer = .idle := idle
    have queue' : (m.giveUp first.id).queue = first :: rest := queue
    have taken : (m.giveUp first.id).apply (.takeSubmission now) =
        some ({ m.giveUp first.id with queue := rest }.conclude first (timedOut patience)) := by
      simp only [apply, takeSubmission, idle', queue', undue, limit, Bool.false_eq_true, if_false,
        Option.map_some]
    refine ⟨[.giveUp first.id, .takeSubmission now], _, ?_, ?_,
      passed_conclude (m := m) { m.giveUp first.id with queue := rest } idle rfl ?_
        (timedOut patience)⟩
    · exact List.forall_mem_cons.mpr ⟨.left _, List.forall_mem_singleton.mpr .taken⟩
    · rw [run_cons leaves, run_singleton, taken]
    · exact fun now other apart => (isDue_congr Iff.rfl).trans (isDue_giveUp apart)

/-- What is in reach of an idle writer comes to its turn. -/
theorem exists_sent_of_idle {front rest : List Submission} (idle : m.writer = .idle)
    (queue : m.queue = front ++ s :: rest) (distinct : (m.queue.map (·.id)).Nodup)
    (due : m.isDue now s = true) (takes : m.writeFailure? s.frame = none)
    (clear : ∀ order ∈ front, order.patience = none → m.writeFailure? order.frame = none) :
    ∃ moves last, (∀ move ∈ moves, Forwards now move) ∧ m.run moves = some last ∧
      s ∈ m.sent moves := by
  induction front generalizing m with
  | nil =>
    have hmove := takeSubmission_of_due idle queue due
    refine ⟨[.takeSubmission now], _, List.forall_mem_singleton.mpr .taken,
      (run_singleton _ _).trans hmove, ?_⟩
    rw [sent, history_singleton]
    exact mem_transmitted_iff.mpr ⟨now, rest, rfl, idle, queue, due, takes⟩
  | cons first front ih =>
    obtain ⟨moves, next, forwards, hrun, passed⟩ :=
      exists_passed idle queue (clear first (List.mem_cons_self ..)) now
    rw [queue, List.cons_append, List.map_cons, List.nodup_cons] at distinct
    have apart : s.id ≠ first.id := by
      rintro own
      refine distinct.1 (own ▸ List.mem_map_of_mem ?_)
      exact List.mem_append_right _ (List.mem_cons_self ..)
    obtain ⟨later, last, forwards', hlater, written⟩ := ih passed.idle passed.queue
      (passed.queue ▸ distinct.2) ((passed.due now s apart).trans due) (passed.takes takes)
      (fun order known unlimited =>
        passed.takes (clear order (List.mem_cons_of_mem _ known) unlimited))
    refine ⟨moves ++ later, last, ?_, (run_append_of_run hrun).trans hlater, ?_⟩
    · exact List.forall_mem_append.mpr ⟨forwards, forwards'⟩
    · rw [sent, history_append hrun]
      exact List.mem_append_right _ written

/-- In silence, what is in reach can be written. -/
theorem exists_sent (distinct : (m.pending.map (·.id)).Nodup) (silent : m.isSilent = true)
    (running : m.isEnded = false) (reach : m.InReach now s) :
    ∃ moves last, (∀ move ∈ moves, Forwards now move) ∧ m.run moves = some last ∧
      s ∈ m.sent moves := by
  obtain ⟨front, rest, queue, first⟩ := List.eq_append_cons_of_mem reach.queued
  have clear := ahead_of_append queue first ▸ reach.clear
  have once : (m.queue.map (·.id)).Nodup := by
    refine distinct.sublist (List.Sublist.map _ ?_)
    exact (List.sublist_append_left _ _).trans (List.sublist_append_right _ _)
  cases hwriter : m.writer with
  | idle => exact exists_sent_of_idle hwriter queue once reach.due reach.takes clear
  | ended result => simp [isEnded, hwriter] at running
  | waiting request patience =>
    -- The writer first gives up the request in flight.
    have hmove := finish_of_waiting hwriter silent
    have passed : m.Passed request m.queue
        ({ m with writer := .idle }.conclude request (.failed .transportClosed)) :=
      passed_conclude (m := m) { m with writer := .idle } rfl rfl
        (fun _ _ _ => isDue_congr Iff.rfl) _
    have apart : s.id ≠ request.id := by
      rw [pending_of_waiting hwriter, List.map_cons, List.nodup_cons] at distinct
      rintro own
      refine distinct.1 (own ▸ List.mem_map_of_mem ?_)
      exact List.mem_append_left _ reach.queued
    obtain ⟨moves, last, forwards, hrun, written⟩ := exists_sent_of_idle passed.idle
      (passed.queue.trans queue) (by rw [passed.queue]; exact once)
      ((passed.due now s apart).trans reach.due) (passed.takes reach.takes)
      (fun order known unlimited => passed.takes (clear order known unlimited))
    refine ⟨.finish :: moves, last, List.forall_mem_cons.mpr ⟨.closed, forwards⟩,
      (run_cons hmove moves).trans hrun, ?_⟩
    rw [sent, history_cons hmove]
    exact List.mem_append_right _ written

/-! ### The queue of a silent line -/

/-- The run goes on, by a clock that never reads less than `now`. -/
structure GoesOn (before : List Move) (m : Multiplexer) (now : Nat) (after : List Move)
    (last : Multiplexer) : Prop where
  numbered : Numbered (before ++ after)
  run : m.run after = some last
  clock : ∀ move ∈ after, ∀ time, move.time? = some time → now ≤ time

/-- The queue is lost with the line, however the run goes on. -/
structure LosesQueue (before : List Move) (m : Multiplexer) (now : Nat) : Prop where
  /-- Nothing that is in the queue is written, -/
  unsent : ∀ after last, GoesOn before m now after last → ∀ s ∈ m.queue, s ∉ m.sent after
  /-- and with the end of the writer all of it has failed with the line or with its deadline,
  unless its caller has gone. -/
  failed : ∀ after last, GoesOn before m now after last → last.isEnded = true → ∀ s ∈ m.queue,
    (s.id, .failed .transportClosed) ∈ m.told after ∨
    (∃ patience, s.patience = some patience ∧ (s.id, timedOut patience) ∈ m.told after) ∨
    s.id ∈ m.abandoned ∨ s.id ∈ (m.forgone after).map (·.id)

/-- What becomes of the queue once the line has fallen silent. -/
structure QueueInSilence (before : List Move) (m : Multiplexer) (now : Nat) : Prop where
  /-- It is lost if it holds requests only, and none that the writer would write. -/
  lost : LosesQueue before m now ↔ ∀ s ∈ m.queue, s.patience.isSome = true ∧
    ¬ (m.isDue now s = true ∧ m.writeFailure? s.frame = none)
  /-- What may yet be written is what is in reach. -/
  written : ∀ s ∈ m.queue,
    (∃ after last, GoesOn before m now after last ∧ s ∈ m.sent after) ↔ m.InReach now s
  /-- Written or not, nothing in it is answered. -/
  fate : ∀ after last, Numbered (before ++ after) → m.run after = some last →
    FallsSilent before m after last

theorem goesOn_of_forwards (numbered : Numbered before)
    (forwards : ∀ move ∈ after, Forwards now move) (run : m.run after = some last) :
    GoesOn before m now after last := by
  refine ⟨?_, run, clock_of_forwards forwards⟩
  rw [Numbered, ← submitted, submitted_append, submitted_of_forwards forwards, List.append_nil]
  exact numbered

theorem closed_of_ended (h : initial.run moves = some m) (ended : m.isEnded = true) :
    m.Closed := by
  obtain ⟨-, middle, move, next, rest, -, -, running, possible, stopped, hrest⟩ :=
    exists_end h ended
  exact (closed_run (closed_of_ends possible running stopped).1 hrest).1

/-- What may yet be written of the queue is what is in reach. -/
theorem exists_sent_iff (numbered : Numbered before) (hbefore : initial.run before = some m)
    (silent : m.isSilent = true) (member : s ∈ m.queue) :
    (∃ after last, GoesOn before m now after last ∧ s ∈ m.sent after) ↔ m.InReach now s := by
  constructor
  · rintro ⟨after, last, ⟨numbered, run, clock⟩, written⟩
    exact inReach_of_sent (pending_ids_nodup numbered hbefore) clock run member written
  · intro reach
    have running : m.isEnded = false := by
      refine Bool.eq_false_iff.mpr fun ended => ?_
      rw [(closed_of_ended hbefore ended).queue] at member
      exact List.not_mem_nil member
    obtain ⟨after, last, forwards, run, written⟩ :=
      exists_sent (nodup_pending numbered hbefore) silent running reach
    exact ⟨after, last, goesOn_of_forwards numbered forwards run, written⟩

/-- An order in the queue keeps it from being lost. -/
theorem limited_of_losesQueue (numbered : Numbered before) (hbefore : initial.run before = some m)
    (silent : m.isSilent = true) (loses : LosesQueue before m now) (member : s ∈ m.queue) :
    s.patience.isSome = true := by
  rw [← Option.ne_none_iff_isSome]
  intro order
  obtain ⟨after, last, finishes, run, ended⟩ := exists_finish silent
  have goesOn : GoesOn before m now after last :=
    goesOn_of_forwards numbered (fun move known => finishes move known ▸ .closed) run
  have unsettled := not_settled_of_order goesOn.numbered hbefore run order member
  rw [List.mem_append, not_or] at unsettled
  obtain closed | ⟨patience, limit, -⟩ | gone | forgone :=
    loses.failed after last goesOn ended s member
  · exact unsettled.1 (List.mem_map_of_mem closed)
  · simp [order] at limit
  · obtain ⟨other, underWay, same, limited⟩ := (orderly_run numbered hbefore).underWay _ gone
    obtain rfl := List.inj_on_of_nodup_map (nodup_pending numbered hbefore)
      (mem_pending_of_underWay underWay)
      (mem_pending_of_underWay (List.mem_append_right _ member)) same
    simp [order] at limited
  · exact unsettled.2 forgone

/-- A request in the queue fails with the line or with its deadline, unless its caller goes. -/
theorem failed_of_limited (numbered : Numbered (before ++ after))
    (hbefore : initial.run before = some m) (silent : m.isSilent = true)
    (hafter : m.run after = some last) (ended : last.isEnded = true) (member : s ∈ m.queue)
    (limited : s.patience.isSome = true) :
    (s.id, .failed .transportClosed) ∈ m.told after ∨
    (∃ patience, s.patience = some patience ∧ (s.id, timedOut patience) ∈ m.told after) ∨
    s.id ∈ m.abandoned ∨ s.id ∈ (m.forgone after).map (·.id) := by
  by_cases gone : s.id ∈ m.abandoned
  · exact .inr (.inr (.inl gone))
  have waits : s ∈ m.unsettled ++ submitted after := by
    refine List.mem_append_left _ (List.mem_append_left _ (List.mem_filter.mpr ⟨?_, ?_⟩))
    · exact List.mem_append_right _ member
    · rw [isAwaited_of_limited limited]
      exact decide_eq_true gone
  obtain ⟨outcome, told, lapses⟩ | forgone :=
    resolved_of_ended numbered hbefore silent hafter ended waits
  · cases lapses with
    | accepted order => simp [order] at limited
    | closed => exact .inl told
    | late limit => exact .inr (.inl ⟨_, limit, told⟩)
  · exact .inr (.inr (.inr forgone))

/-- The queue is lost if it holds requests only, and none that the writer would write. -/
theorem losesQueue_iff (numbered : Numbered before) (hbefore : initial.run before = some m)
    (silent : m.isSilent = true) :
    LosesQueue before m now ↔ ∀ s ∈ m.queue, s.patience.isSome = true ∧
      ¬ (m.isDue now s = true ∧ m.writeFailure? s.frame = none) := by
  constructor
  · intro loses s member
    have limited {other : Submission} (known : other ∈ m.queue) : other.patience.isSome = true :=
      limited_of_losesQueue numbered hbefore silent loses known
    refine ⟨limited member, fun ⟨due, takes⟩ => ?_⟩
    -- With no order in front of it, it is in reach.
    have reach : m.InReach now s := by
      refine ⟨member, due, takes, fun order front unlimited => ?_⟩
      have inQueue : order ∈ m.queue := List.takeWhile_subset _ front
      simpa [unlimited] using limited inQueue
    obtain ⟨after, last, goesOn, written⟩ :=
      (exists_sent_iff numbered hbefore silent member).mpr reach
    exact loses.unsent after last goesOn s member written
  · refine fun unwritten => ⟨fun after last goesOn s member written => ?_, ?_⟩
    · have reach := (exists_sent_iff numbered hbefore silent member).mp
        ⟨after, last, goesOn, written⟩
      exact (unwritten s member).2 ⟨reach.due, reach.takes⟩
    · intro after last goesOn ended s member
      exact failed_of_limited goesOn.numbered hbefore silent goesOn.run ended member
        (unwritten s member).1

/-- Once the line is silent, the queue may still be written as far as it is in reach, and is lost
if nothing in it is, and no order is among it. -/
theorem queueInSilence_run (numbered : Numbered before) (hbefore : initial.run before = some m)
    (silent : m.isSilent = true) (now : Nat) : QueueInSilence before m now where
  lost := losesQueue_iff numbered hbefore silent
  written _ member := exists_sent_iff numbered hbefore silent member
  fate _ _ whole hafter := fallsSilent_run whole hbefore silent hafter

/-- Behind a ping in flight stands another when the tasks have been told to stop. -/
def pingInQueue : List Move :=
  [.submit ping, .takeSubmission 0, .submit { ping with id := 3 }, .stop, .halt, .route]

/-- Once its time is over, the second ping is lost. -/
theorem queueInSilence_pings : ∃ m, Numbered pingInQueue ∧ initial.run pingInQueue = some m ∧
    m.isSilent = true ∧ QueueInSilence pingInQueue m 5000 ∧ LosesQueue pingInQueue m 5000 := by
  have numbered : Numbered pingInQueue := by simp [Numbered, pingInQueue, Move.submissions, ping]
  have reached : initial.run pingInQueue = some ((initial.run pingInQueue).getD initial) := rfl
  have holds := queueInSilence_run numbered reached rfl 5000
  refine ⟨_, numbered, reached, rfl, holds, holds.lost.mpr fun s member => ?_⟩
  obtain rfl : s = { ping with id := 3 } := List.mem_singleton.mp member
  exact ⟨rfl, by decide⟩

/-- Behind a ping in flight stands an order when the radio goes. -/
def orderInQueue : List Move :=
  [.submit ping, .takeSubmission 0, .submit ⟨3, ⟨.asyncRequest, .sys, 0x00, [0x01]⟩, none⟩,
   .disconnect, .receive, .route]

/-- While there is time, the writer may take the second ping before it finds the line silent.
The order is told nothing more. -/
theorem not_losesQueue :
    (∃ m, Numbered pingInQueue ∧ initial.run pingInQueue = some m ∧ m.isSilent = true ∧
      ¬ LosesQueue pingInQueue m 1) ∧
    ∃ m, Numbered orderInQueue ∧ initial.run orderInQueue = some m ∧ m.isSilent = true ∧
      ¬ LosesQueue orderInQueue m 1 := by
  constructor
  · have reached : initial.run pingInQueue = some ((initial.run pingInQueue).getD initial) := rfl
    have numbered : Numbered pingInQueue := by simp [Numbered, pingInQueue, Move.submissions, ping]
    refine ⟨_, numbered, reached, rfl, fun loses => ?_⟩
    have goesOn : GoesOn pingInQueue ((initial.run pingInQueue).getD initial) 1
        [.finish, .takeSubmission 1]
        ((initial.run (pingInQueue ++ [.finish, .takeSubmission 1])).getD initial) := by
      refine ⟨numbered, rfl, ?_⟩
      simp [Move.time?]
    have written : ((initial.run pingInQueue).getD initial).sent [.finish, .takeSubmission 1] =
        [{ ping with id := 3 }] := rfl
    refine loses.unsent _ _ goesOn { ping with id := 3 } (List.mem_singleton_self _) ?_
    exact written ▸ List.mem_singleton_self _
  · have reached : initial.run orderInQueue = some ((initial.run orderInQueue).getD initial) := rfl
    have numbered : Numbered orderInQueue := by
      simp [Numbered, orderInQueue, Move.submissions, ping]
    refine ⟨_, numbered, reached, rfl, fun loses => ?_⟩
    have goesOn : GoesOn orderInQueue ((initial.run orderInQueue).getD initial) 1
        [.finish, .finish]
        ((initial.run (orderInQueue ++ [.finish, .finish])).getD initial) := by
      refine ⟨numbered, rfl, ?_⟩
      simp [Move.time?]
    have told : ((initial.run orderInQueue).getD initial).told [.finish, .finish] =
        [(2, .failed .transportClosed)] := rfl
    have forgone : ((initial.run orderInQueue).getD initial).forgone [.finish, .finish] = [] := rfl
    have abandoned : ((initial.run orderInQueue).getD initial).abandoned = [] := rfl
    have failed := loses.failed _ _ goesOn rfl ⟨3, ⟨.asyncRequest, .sys, 0x00, [0x01]⟩, none⟩
      (List.mem_singleton_self _)
    rw [told, forgone, abandoned] at failed
    simp at failed

end Zigbee.Host.Multiplexer
