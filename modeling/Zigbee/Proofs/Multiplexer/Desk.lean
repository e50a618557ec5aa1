import Mathlib.Data.List.Nodup
import Zigbee.Proofs.Multiplexer.Moves

/-!
# What a move does to submissions

Many moves do the same to the submissions and to those who wait for them. `Deals` names
what can happen: a submission is refused, enters the queue or waits for a place there; its
caller goes; its wait ends with an outcome; it is written; the writer ends and with it
everything that is left; or nothing happens to any of them. What holds of the submissions
along a run is then shown for these ten cases.
-/

namespace Zigbee.Host

/-- The submission whose caller goes with the move. -/
def Move.leaver? : Move → Option Nat
  | .giveUp id | .expire id _ => some id
  | _ => none

namespace Multiplexer

variable {m next : Multiplexer} {move : Move} {s : Submission}

/-- What is written is the first in the queue, if it is due and the line takes its frame. -/
theorem mem_transmitted_iff : s ∈ m.transmitted move ↔
    ∃ now rest, move = .takeSubmission now ∧ m.writer = .idle ∧ m.queue = s :: rest ∧
      m.isDue now s = true ∧ m.writeFailure? s.frame = none := by
  constructor
  · intro written
    cases move with
    | takeSubmission now =>
      simp only [transmitted] at written
      split at written
      · rename_i s' rest hwriter hqueue
        split at written
        · rename_i takes
          obtain rfl := List.mem_singleton.mp written
          rw [Bool.and_eq_true, Option.isNone_iff_eq_none] at takes
          exact ⟨now, rest, rfl, hwriter, hqueue, takes.1, takes.2⟩
        · simp at written
      · simp at written
    | _ => simp [transmitted] at written
  · rintro ⟨now, rest, rfl, hwriter, hqueue, due, takes⟩
    simp [transmitted, hwriter, hqueue, due, takes]

/-- The move submits nothing, lets no caller go and writes nothing. -/
structure Keeps (m : Multiplexer) (move : Move) : Prop where
  submissions : move.submissions = []
  leaver : move.leaver? = none
  transmitted : m.transmitted move = []

/-- What a move does to the submissions. -/
inductive Deals (m : Multiplexer) : Move → Multiplexer → Prop where
  | aside {move : Move} {next : Multiplexer} (keeps : m.Keeps move) (same : SameDesk m next) :
      Deals m move next
  | refused {s : Submission} (ended : m.isEnded = true) :
      Deals m (.submit s) (m.tell s.id (.failed .transportClosed))
  | queued {s : Submission} (running : m.isEnded = false) (room : m.blocked = []) :
      Deals m (.submit s) (m.enqueue s)
  | delayed {s : Submission} (running : m.isEnded = false) :
      Deals m (.submit s) { m with blocked := m.blocked ++ [s] }
  | entered {s : Submission} {rest : List Submission} (hblocked : m.blocked = s :: rest) :
      Deals m .enter ({ m with blocked := rest }.enqueue s)
  | givenUp {id : Nat} : Deals m (.giveUp id) (m.giveUp id)
  | expired {s : Submission} {now : Nat} {patience : Patience} (underWay : s ∈ m.underWay)
      (limit : s.patience = some patience) (overdue : m.isOverdue now s = true) :
      Deals m (.expire s.id now)
        ({ m with abandoned := m.abandoned ++ [s.id] }.tell s.id (timedOut patience))
  /-- The wait for a request ends, or it is not due any more when it is taken. -/
  | concluded {move : Move} {idle : Multiplexer} {request : Submission} {outcome : Outcome}
      (keeps : m.Keeps move) (writer : idle.writer = .idle)
      (underWay : m.underWay = request :: idle.queue) (blocked : idle.blocked = m.blocked)
      (abandoned : idle.abandoned = m.abandoned) (outcomes : idle.outcomes = m.outcomes)
      (written : idle.written = m.written)
      (limited : request ∈ m.flight ∨ request.patience.isSome = true) :
      Deals m move (idle.conclude request outcome)
  | wrote {now : Nat} {s : Submission} {rest : List Submission} (hwriter : m.writer = .idle)
      (hqueue : m.queue = s :: rest) (due : m.isDue now s = true)
      (takes : m.writeFailure? s.frame = none) :
      Deals m (.takeSubmission now) { m with
        queue := rest
        written := m.written ++ [s.frame]
        writer := match s.patience with
          | some patience => .waiting s patience
          | none => .idle }
  | ended {move : Move} {next : Multiplexer} {result : Except Failure Unit} (keeps : m.Keeps move)
      (hwriter : m.writer = .idle) (writer : next.writer = .ended result) (queue : next.queue = [])
      (blocked : next.blocked = []) (abandoned : next.abandoned = [])
      (outcomes : next.outcomes = m.outcomes ++ m.lastOutcomes)
      (written : next.written = m.written) : Deals m move next

theorem deals_of_line (line : move.isLine = true) (h : m.apply move = some next) :
    m.Deals move next := by
  refine .aside ⟨submissions_of_line line, ?_, transmitted_of_line line⟩ (sameDesk_of_line line h)
  cases move with
  | giveUp | expire => simp [Move.isLine] at line
  | _ => rfl

theorem deals_endWriter (keeps : m.Keeps move) (hwriter : m.writer = .idle)
    (result : Except Failure Unit) : m.Deals move (m.endWriter result) := by
  rw [endWriter_eq]
  exact .ended keeps hwriter rfl rfl rfl rfl rfl rfl

/-- A request that cannot be written is told of the end like those behind it. -/
theorem outcomes_forsake_endWriter {rest : List Submission} (hqueue : m.queue = s :: rest)
    (result : Except Failure Unit) :
    (({ m with queue := rest }.forsake s).endWriter result).outcomes =
      m.outcomes ++ m.lastOutcomes := by
  have awaited : ({ m with queue := rest } : Multiplexer).isAwaited = m.isAwaited := rfl
  rw [endWriter_eq, forsake, awaited, lastOutcomes, lastOutcomes, hqueue]
  by_cases waits : m.isAwaited s
  · rw [if_pos waits, isAwaited_tell, awaited, List.filter_cons_of_pos waits]
    simp only [tell, List.cons_append, List.map_cons, List.append_assoc, List.nil_append]
  · rw [if_neg waits, awaited, List.filter_cons_of_neg waits]

theorem deals_of_taken {now : Nat} (h : m.takeSubmission now = some next) :
    m.Deals (.takeSubmission now) next := by
  obtain ⟨s, rest, hwriter, hqueue, ⟨hwrites, rfl⟩ | ⟨unwritten, reason, -, -, rfl⟩ |
    ⟨unwritten, -, patience, hpatience, rfl⟩⟩ := taken_cases h
  · have written : s ∈ m.transmitted (.takeSubmission now) := hwrites ▸ List.mem_singleton_self s
    obtain ⟨now', rest', same, -, -, due, takes⟩ := mem_transmitted_iff.mp written
    obtain rfl := Move.takeSubmission.inj same
    exact .wrote hwriter hqueue due takes
  · refine .ended ⟨rfl, rfl, unwritten⟩ hwriter (?_ : _ = WriterState.ended (.error reason)) ?_
      ?_ ?_ (outcomes_forsake_endWriter hqueue _) ?_
    · rw [endWriter_eq]
    · rw [endWriter_eq]
    · rw [endWriter_eq]
    · rw [endWriter_eq]
    · rw [endWriter_eq, forsake]
      split <;> rfl
  · refine .concluded ⟨rfl, rfl, unwritten⟩ hwriter ?_ rfl rfl rfl rfl
      (.inr (Option.isSome_of_eq_some hpatience))
    rw [underWay_eq, flight, hwriter, hqueue]
    rfl

theorem underWay_of_waiting {request : Submission} {patience : Patience}
    (hwriter : m.writer = .waiting request patience) : m.underWay = request :: m.queue := by
  rw [underWay_eq, flight, hwriter]
  rfl

theorem mem_flight_of_waiting {request : Submission} {patience : Patience}
    (hwriter : m.writer = .waiting request patience) : request ∈ m.flight := by
  rw [flight, hwriter]
  exact List.mem_singleton_self request

/-- Every move deals with the submissions in one of these ways. -/
theorem deals_of_apply (h : m.apply move = some next) : m.Deals move next := by
  by_cases line : move.isLine = true
  · exact deals_of_line line h
  cases move with
  | submit s =>
    obtain ⟨ended, rfl⟩ | ⟨running, room, rfl⟩ | ⟨running, rfl⟩ := submit_cases h
    · exact .refused ended
    · exact .queued running room
    · exact .delayed running
  | enter =>
    obtain ⟨s, rest, hblocked, -, rfl⟩ := enter_cases h
    exact .entered hblocked
  | giveUp id =>
    obtain rfl := Option.some.inj h
    exact .givenUp
  | expire id now =>
    obtain ⟨s, patience, underWay, rfl, limit, overdue, rfl⟩ := expire_cases h
    exact .expired underWay limit overdue
  | release =>
    obtain rfl := release_eq h
    exact .aside ⟨rfl, rfl, rfl⟩ ⟨rfl, rfl, rfl, rfl, rfl, rfl⟩
  | takeResponse =>
    obtain ⟨response, rest, -, ⟨-, rfl⟩ | ⟨request, patience, hwriter, ⟨-, rfl⟩ |
      ⟨outcome, -, rfl⟩⟩⟩ := takeResponse_cases h
    · exact .aside ⟨rfl, rfl, rfl⟩ ⟨rfl, rfl, rfl, rfl, rfl, rfl⟩
    · exact .aside ⟨rfl, rfl, rfl⟩ ⟨rfl, rfl, rfl, rfl, rfl, rfl⟩
    · exact .concluded ⟨rfl, rfl, rfl⟩ rfl (underWay_of_waiting hwriter) rfl rfl rfl rfl
        (.inl (mem_flight_of_waiting hwriter))
  | takeSubmission now => exact deals_of_taken h
  | withdraw now =>
    obtain ⟨request, patience, hwriter, rfl⟩ := withdraw_cases h
    exact .concluded ⟨rfl, rfl, rfl⟩ rfl (underWay_of_waiting hwriter) rfl rfl rfl rfl
        (.inl (mem_flight_of_waiting hwriter))
  | finish =>
    obtain ⟨hwriter, -, rfl⟩ | ⟨request, patience, hwriter, -, rfl⟩ := finish_cases h
    · exact deals_endWriter ⟨rfl, rfl, rfl⟩ hwriter _
    · exact .concluded ⟨rfl, rfl, rfl⟩ rfl (underWay_of_waiting hwriter) rfl rfl rfl rfl
        (.inl (mem_flight_of_waiting hwriter))
  | arrive | disconnect | jam | stop | receive | halt | route => simp [Move.isLine] at line

/-! ### The end of a wait -/

theorem written_conclude (m : Multiplexer) (s : Submission) (outcome : Outcome) :
    (m.conclude s outcome).written = m.written := (desk_conclude m s outcome).2.2.2

theorem outcomes_conclude (m : Multiplexer) (s : Submission) (outcome : Outcome) :
    (m.conclude s outcome).outcomes =
      m.outcomes ++ if s.id ∈ m.abandoned then [] else [(s.id, outcome)] := by
  unfold conclude
  split
  · exact (List.append_nil _).symm
  · rfl

theorem abandoned_conclude (m : Multiplexer) (s : Submission) (outcome : Outcome) :
    (m.conclude s outcome).abandoned = m.abandoned.erase s.id := by
  unfold conclude
  split
  · rfl
  · rename_i here
    exact (List.erase_of_not_mem here).symm

/-- The others go on waiting. -/
theorem isAwaited_conclude {other : Submission} (apart : other.id ≠ s.id) (outcome : Outcome) :
    (m.conclude s outcome).isAwaited other = m.isAwaited other := by
  simp only [isAwaited, abandoned_conclude, List.contains_eq_mem,
    List.mem_erase_of_ne apart]

/-! ### What is on the line -/

/-- A move puts the frame of what it writes on the line. -/
theorem written_apply (h : m.apply move = some next) :
    next.written = m.written ++ (m.transmitted move).map (·.frame) := by
  cases deals_of_apply h with
  | aside keeps same =>
    rw [keeps.transmitted, same.written]
    exact (List.append_nil _).symm
  | refused | delayed | givenUp | expired => exact (List.append_nil _).symm
  | queued | entered =>
    rw [enqueue_eq]
    exact (List.append_nil _).symm
  | concluded keeps writer underWay blocked abandoned outcomes written =>
    rw [keeps.transmitted, written_conclude, written]
    exact (List.append_nil _).symm
  | wrote hwriter hqueue due takes =>
    simp [transmitted, hwriter, hqueue, due, takes]
  | ended keeps hwriter writer queue blocked abandoned outcomes written =>
    rw [keeps.transmitted, written]
    exact (List.append_nil _).symm

/-! ### Whose callers have gone -/

/-- Whom the multiplexer knows to have gone, it remembers as long as the request is pending. -/
theorem abandoned_apply {id : Nat} (distinct : (m.pending.map (·.id)).Nodup)
    (gone : id ∈ m.abandoned) (h : m.apply move = some next) :
    id ∈ next.abandoned ∨ id ∉ next.pending.map (·.id) := by
  cases deals_of_apply h with
  | aside keeps same => exact .inl (same.abandoned ▸ gone)
  | refused | delayed | wrote => exact .inl gone
  | queued | entered =>
    rw [enqueue_eq]
    exact .inl gone
  | givenUp =>
    left
    simp only [giveUp]
    split
    · exact List.mem_append_left _ gone
    · exact gone
  | expired => exact .inl (List.mem_append_left _ gone)
  | @concluded _ idle request outcome _ writer underWay blocked abandoned =>
    by_cases own : id = request.id
    · subst own
      rw [pending, backlog, ← List.append_assoc, ← underWay_eq, underWay, ← blocked,
        List.cons_append, List.map_cons, List.nodup_cons] at distinct
      rw [pending_conclude, pending_of_idle writer]
      exact .inr distinct.1
    · rw [abandoned_conclude, abandoned]
      exact .inl ((List.mem_erase_of_ne own).mpr gone)
  | ended keeps hwriter writer queue blocked =>
    refine .inr ?_
    rw [pending, flight, writer, backlog, queue, blocked]
    exact List.not_mem_nil

end Multiplexer

end Zigbee.Host
