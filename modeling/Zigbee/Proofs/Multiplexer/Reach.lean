import Zigbee.Proofs.Multiplexer.History

/-!
# What of the queue can still be written

A submission in the queue is `InReach` of being written if it is due, if the line takes its
frame, and if no order in front of it has a frame that the line does not take, for that ends
the writer. A request in front of it is no obstacle, since its caller may go.

With time, submissions only get out of reach: the line never opens again, deadlines pass,
callers do not come back, and an order stays in front until it is written. So a move brings
nothing within reach that has been in the queue before, and whatever a run writes of the queue
has been in reach at its start.
-/

namespace Zigbee.Host

/-- The time that a move reads from the clock. -/
def Move.time? : Move → Option Nat
  | .expire _ now | .takeSubmission now | .withdraw now => some now
  | _ => none

namespace Multiplexer

variable {m next last : Multiplexer} {move : Move} {s other : Submission} {now : Nat}
variable {moves before after : List Move}

/-! ### Whether the line takes anything -/

/-- Whether the line takes what is written. -/
def isOpen (m : Multiplexer) : Bool := m.connected && m.writable

theorem writeFailure?_eq_none_iff_isOpen {f : Serial.Frame} :
    m.writeFailure? f = none ↔ f.Fits ∧ m.isOpen = true := by
  rw [writeFailure?_eq_none_iff, isOpen, Bool.and_eq_true]

theorem isOpen_conclude (m : Multiplexer) (s : Submission) (outcome : Outcome) :
    (m.conclude s outcome).isOpen = m.isOpen := by
  unfold conclude
  split <;> rfl

theorem isOpen_endWriter (m : Multiplexer) (result : Except Failure Unit) :
    (m.endWriter result).isOpen = m.isOpen := by
  rw [endWriter_eq]
  rfl

theorem isOpen_deliver (m : Multiplexer) (f : Serial.Frame) : (m.deliver f).isOpen = m.isOpen := by
  obtain ⟨i, delivered⟩ | ⟨e, delivered⟩ := deliver_cases m f
  · rw [delivered]
    rfl
  · rw [delivered]
    rfl

/-- No move opens the line again. -/
theorem isOpen_of_apply (h : m.apply move = some next) (isOpen : next.isOpen = true) :
    m.isOpen = true := by
  cases move with
  | submit s =>
    obtain ⟨-, rfl⟩ | ⟨-, -, rfl⟩ | ⟨-, rfl⟩ := submit_cases h
    · exact isOpen
    · rw [enqueue_eq] at isOpen
      exact isOpen
    · exact isOpen
  | enter =>
    obtain ⟨s, rest, -, -, rfl⟩ := enter_cases h
    rw [enqueue_eq] at isOpen
    exact isOpen
  | expire id now =>
    obtain ⟨s, patience, -, -, -, -, rfl⟩ := expire_cases h
    exact isOpen
  | release =>
    obtain rfl := release_eq h
    exact isOpen
  | arrive bytes =>
    simp only [apply] at h
    split at h
    · obtain rfl := Option.some.inj h
      exact isOpen
    · simp at h
  | disconnect =>
    obtain rfl := Option.some.inj h
    simp [Multiplexer.isOpen] at isOpen
  | jam =>
    obtain rfl := Option.some.inj h
    simp [Multiplexer.isOpen] at isOpen
  | giveUp | stop =>
    obtain rfl := Option.some.inj h
    exact isOpen
  | receive =>
    obtain ⟨-, ⟨f, rest, -, rfl⟩ | ⟨error, rest, -, rfl⟩ | ⟨-, -, rfl⟩⟩ := receive_cases h
    · split at isOpen <;> exact isOpen
    · exact isOpen
    · exact isOpen
  | halt =>
    obtain ⟨-, -, rfl⟩ := halt_eq h
    exact isOpen
  | route =>
    obtain ⟨-, ⟨f, rest, -, -, -, rfl⟩ | ⟨f, rest, -, -, -, rfl⟩ | ⟨f, rest, -, -, rfl⟩ |
      ⟨-, -, rfl⟩⟩ := route_cases h
    · exact isOpen
    · exact isOpen
    · rw [isOpen_deliver] at isOpen
      exact isOpen
    · exact isOpen
  | takeResponse =>
    obtain ⟨response, rest, -, ⟨-, rfl⟩ | ⟨request, patience, -, ⟨-, rfl⟩ | ⟨outcome, -, rfl⟩⟩⟩ :=
      takeResponse_cases h
    · exact isOpen
    · exact isOpen
    · rw [isOpen_conclude] at isOpen
      exact isOpen
  | takeSubmission now =>
    obtain ⟨s, rest, -, -, ⟨-, rfl⟩ | ⟨-, reason, -, -, rfl⟩ | ⟨-, -, patience, -, rfl⟩⟩ :=
      taken_cases h
    · exact isOpen
    · rw [isOpen_endWriter, forsake] at isOpen
      split at isOpen <;> exact isOpen
    · rw [isOpen_conclude] at isOpen
      exact isOpen
  | withdraw now =>
    obtain ⟨request, patience, -, rfl⟩ := withdraw_cases h
    rw [isOpen_conclude] at isOpen
    exact isOpen
  | finish =>
    obtain ⟨-, -, rfl⟩ | ⟨request, patience, -, -, rfl⟩ := finish_cases h
    · rw [isOpen_endWriter] at isOpen
      exact isOpen
    · rw [isOpen_conclude] at isOpen
      exact isOpen

/-- What the line does not take, it never takes. -/
theorem writeFailure?_of_apply {f : Serial.Frame} (h : m.apply move = some next)
    (takes : next.writeFailure? f = none) : m.writeFailure? f = none := by
  rw [writeFailure?_eq_none_iff_isOpen] at takes ⊢
  exact ⟨takes.1, isOpen_of_apply h takes.2⟩

/-! ### Whether a submission is due -/

theorem isDue_of_order (order : s.patience = none) : m.isDue now s = true := by
  rw [isDue, order]

theorem isDue_iff {patience : Patience} (limit : s.patience = some patience) :
    m.isDue now s = true ↔ s.id ∉ m.abandoned ∧ now < patience.deadline := by
  simp [isDue, limit]

theorem isDue_congr (abandoned : s.id ∈ next.abandoned ↔ s.id ∈ m.abandoned) :
    next.isDue now s = m.isDue now s := by
  cases limit : s.patience with
  | none => rw [isDue_of_order limit, isDue_of_order limit]
  | some patience => rw [Bool.eq_iff_iff, isDue_iff limit, isDue_iff limit, abandoned]

/-- The others are due as before. -/
theorem isDue_conclude (apart : other.id ≠ s.id) (outcome : Outcome) :
    (m.conclude s outcome).isDue now other = m.isDue now other := by
  refine isDue_congr ?_
  rw [abandoned_conclude]
  exact List.mem_erase_of_ne apart

theorem isDue_giveUp {id : Nat} (apart : other.id ≠ id) :
    (m.giveUp id).isDue now other = m.isDue now other := by
  refine isDue_congr ?_
  simp only [giveUp]
  split
  · simp [apart]
  · exact Iff.rfl

/-- What is due later is due now. -/
theorem isDue_of_le {time : Nat} (sooner : now ≤ time) (due : m.isDue time s = true) :
    m.isDue now s = true := by
  cases limit : s.patience with
  | none => exact isDue_of_order limit
  | some patience =>
    rw [isDue_iff limit] at due ⊢
    exact ⟨due.1, Nat.lt_of_le_of_lt sooner due.2⟩

/-- What is not due any more stays so as long as it is pending. -/
theorem isDue_of_apply (distinct : (m.pending.map (·.id)).Nodup) (h : m.apply move = some next)
    (pending : s ∈ next.pending) (due : next.isDue now s = true) : m.isDue now s = true := by
  cases limit : s.patience with
  | none => exact isDue_of_order limit
  | some patience =>
    rw [isDue_iff limit] at due ⊢
    refine ⟨fun gone => ?_, due.2⟩
    obtain still | ended := abandoned_apply distinct gone h
    · exact due.1 still
    · exact ended (List.mem_map_of_mem pending)

/-! ### The place in the queue -/

/-- What stands in the queue in front of a submission. -/
def ahead (m : Multiplexer) (s : Submission) : List Submission := m.queue.takeWhile (· != s)

theorem ahead_of_append {front rest : List Submission} (queue : m.queue = front ++ s :: rest)
    (first : s ∉ front) : m.ahead s = front := by
  have others : ∀ a ∈ front, (a != s) = true := fun a member =>
    bne_iff_ne.mpr (ne_of_mem_of_not_mem member first)
  rw [ahead, queue, List.takeWhile_append_of_pos others, List.takeWhile_cons_of_neg (by simp),
    List.append_nil]

/-- What comes behind changes nothing. -/
theorem ahead_of_queued {more : List Submission} (member : s ∈ m.queue)
    (queue : next.queue = m.queue ++ more) : next.ahead s = m.ahead s := by
  obtain ⟨front, rest, same, first⟩ := List.eq_append_cons_of_mem member
  have longer : next.queue = front ++ s :: (rest ++ more) := by
    rw [queue, same, List.append_assoc, List.cons_append]
  rw [ahead_of_append same first, ahead_of_append longer first]

theorem mem_ahead_of_cons {first : Submission} {rest : List Submission}
    (queue : m.queue = first :: rest) (member : other ∈ m.ahead s) :
    other = first ∨ other ∈ rest.takeWhile (· != s) := by
  rw [ahead, queue, List.takeWhile_cons] at member
  split at member
  · exact List.mem_cons.mp member
  · exact absurd member List.not_mem_nil

/-- Of those in front of a submission only requests, and orders that the line takes, get out
of its way. -/
theorem ahead_apply (h : m.apply move = some next) (member : s ∈ m.queue)
    (still : s ∈ next.queue) (front : other ∈ m.ahead s) :
    other ∈ next.ahead s ∨ other.patience.isSome = true ∨ m.writeFailure? other.frame = none := by
  have kept (queue : next.queue = m.queue) : other ∈ next.ahead s := by
    rw [ahead, queue]
    exact front
  cases deals_of_apply h with
  | aside keeps same => exact .inl (kept same.queue)
  | refused | delayed | givenUp | expired => exact .inl (kept rfl)
  | queued | entered =>
    left
    rw [ahead_of_queued member (by rw [enqueue_eq])]
    exact front
  | @concluded _ idle request outcome keeps writer underWay blocked abandoned outcomes written
      limited =>
    have queue := (desk_conclude idle request outcome).2.1
    cases hwriter : m.writer with
    | waiting inFlight patience =>
      rw [underWay_of_waiting hwriter] at underWay
      exact .inl (kept (queue.trans (List.cons.inj underWay).2.symm))
    | idle | ended result =>
      have flight : m.flight = [] := by rw [flight, hwriter]
      rw [underWay_eq, flight, List.nil_append] at underWay
      rw [flight] at limited
      obtain rfl | behind := mem_ahead_of_cons underWay front
      · exact .inr (.inl (limited.resolve_left List.not_mem_nil))
      · rw [ahead, queue]
        exact .inl behind
  | wrote hwriter hqueue due takes =>
    obtain rfl | behind := mem_ahead_of_cons hqueue front
    · exact .inr (.inr takes)
    · exact .inl behind
  | ended keeps hwriter writer queue =>
    rw [queue] at still
    exact absurd still List.not_mem_nil

/-- What waits for a place in the queue waited for it before or is new. -/
theorem blocked_apply (h : m.apply move = some next) :
    next.blocked.Sublist (m.blocked ++ move.submissions) := by
  have kept (blocked : next.blocked.Sublist m.blocked) :
      next.blocked.Sublist (m.blocked ++ move.submissions) :=
    blocked.trans (List.sublist_append_left _ _)
  cases deals_of_apply h with
  | aside keeps same => exact kept (same.blocked ▸ List.Sublist.refl _)
  | refused | expired | wrote => exact kept (List.Sublist.refl _)
  | queued =>
    rw [enqueue_eq] at kept ⊢
    exact kept (List.Sublist.refl _)
  | delayed => exact List.Sublist.refl _
  | entered hblocked =>
    rw [enqueue_eq] at kept ⊢
    exact kept (hblocked ▸ List.sublist_cons_self _ _)
  | givenUp => exact kept List.filter_sublist
  | concluded keeps writer underWay blocked =>
    rw [(desk_conclude _ _ _).2.2.1, blocked] at kept ⊢
    exact kept (List.Sublist.refl _)
  | ended keeps hwriter writer queue blocked =>
    rw [blocked]
    exact List.nil_sublist _

/-- What has a place in the queue keeps it until it is dealt with. -/
theorem mem_queue_of_apply (distinct : ((m.pending ++ move.submissions).map (·.id)).Nodup)
    (h : m.apply move = some next) (member : s ∈ m.queue) (waits : s ∈ next.backlog) :
    s ∈ next.queue := by
  refine (List.mem_append.mp waits).resolve_right fun blocked => ?_
  have once := List.Nodup.of_map _ distinct
  rw [pending, backlog, List.append_assoc, List.append_assoc] at once
  exact (List.nodup_append.mp (List.nodup_append.mp once).2.1).2.2 s member s
    ((blocked_apply h).subset blocked) rfl

/-! ### What can still be written -/

/-- The submission is in the queue and can still be written. -/
structure InReach (m : Multiplexer) (now : Nat) (s : Submission) : Prop where
  queued : s ∈ m.queue
  due : m.isDue now s = true
  takes : m.writeFailure? s.frame = none
  /-- No order in front of it ends the writer. -/
  clear : ∀ order ∈ m.ahead s, order.patience = none → m.writeFailure? order.frame = none

/-- A move brings nothing within reach that has been in the queue before. -/
theorem inReach_of_apply (distinct : (m.pending.map (·.id)).Nodup)
    (h : m.apply move = some next) (member : s ∈ m.queue) (reach : next.InReach now s) :
    m.InReach now s where
  queued := member
  due := isDue_of_apply distinct h
    (mem_pending_of_underWay (List.mem_append_right _ reach.queued)) reach.due
  takes := writeFailure?_of_apply h reach.takes
  clear order front unlimited := by
    obtain still | limited | takes := ahead_apply h member reach.queued front
    · exact writeFailure?_of_apply h (reach.clear order still unlimited)
    · simp [unlimited] at limited
    · exact takes

theorem inReach_of_transmitted (clock : ∀ time, move.time? = some time → now ≤ time)
    (written : s ∈ m.transmitted move) : m.InReach now s := by
  obtain ⟨time, rest, rfl, -, hqueue, due, takes⟩ := mem_transmitted_iff.mp written
  have alone : m.ahead s = [] := ahead_of_append hqueue List.not_mem_nil
  refine ⟨?_, isDue_of_le (clock time rfl) due, takes, fun order front => ?_⟩
  · rw [hqueue]
    exact List.mem_cons_self ..
  · rw [alone] at front
    exact absurd front List.not_mem_nil

/-- What a run writes of the queue has been in reach. -/
theorem inReach_of_sent (distinct : ((m.pending ++ submitted moves).map (·.id)).Nodup)
    (clock : ∀ move ∈ moves, ∀ time, move.time? = some time → now ≤ time)
    (h : m.run moves = some last) (member : s ∈ m.queue) (written : s ∈ m.sent moves) :
    m.InReach now s := by
  induction moves generalizing m with
  | nil => exact absurd written List.not_mem_nil
  | cons move rest ih =>
    obtain ⟨middle, hmove, hrest⟩ := Option.bind_eq_some_iff.mp h
    rw [sent, history_cons hmove, List.mem_append] at written
    obtain here | later := written
    · exact inReach_of_transmitted (clock move (List.mem_cons_self ..)) here
    have split : submitted (move :: rest) = move.submissions ++ submitted rest := rfl
    rw [split, ← List.append_assoc] at distinct
    have ahead : (middle.pending ++ submitted rest).Sublist
        (m.pending ++ move.submissions ++ submitted rest) := (pending_apply hmove).append_right _
    have now' : ((m.pending ++ move.submissions).map (·.id)).Nodup :=
      distinct.sublist ((List.sublist_append_left _ _).map _)
    have waits : s ∈ middle.backlog := by
      have origin := (sent_run hrest).subset (List.mem_append_left _ later)
      refine (List.mem_append.mp origin).resolve_right fun fresh => ?_
      have once := List.Nodup.of_map _ distinct
      refine (List.nodup_append.mp once).2.2 s (List.mem_append_left _ ?_) s fresh rfl
      exact mem_pending_of_underWay (List.mem_append_right _ member)
    have still := mem_queue_of_apply now' hmove member waits
    refine inReach_of_apply (now'.sublist ((List.sublist_append_left _ _).map _)) hmove member ?_
    exact ih (distinct.sublist (ahead.map _))
      (fun move known => clock move (List.mem_cons_of_mem _ known)) hrest still later

end Multiplexer

end Zigbee.Host
