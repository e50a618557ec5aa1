import Mathlib.Data.List.Induction
import Zigbee.Proofs.Multiplexer.Desk

/-!
# What a run leaves behind

The multiplexer soon forgets what it has read and written and whom it has told what. The
`history` of a run keeps what can be observed in each of its moves, in order. A fact about
all states of a run and their histories is an induction on the run from its end
(`run_induction`): the last move adds its own observations to those before it.

The first history is that of the submissions that have been written. Their frames are what
stands on the line.
-/

namespace Zigbee.Host.Multiplexer

open Serial

variable {m middle next : Multiplexer} {moves before after : List Move}

/-! ### Runs -/

theorem run_cons {move : Move} (h : m.apply move = some middle) (rest : List Move) :
    m.run (move :: rest) = middle.run rest := by
  rw [run, h, Option.bind_some]

theorem run_append (m : Multiplexer) (before after : List Move) :
    m.run (before ++ after) = (m.run before).bind (·.run after) := by
  induction before generalizing m with
  | nil => rfl
  | cons move rest ih =>
    rw [List.cons_append, run, run, Option.bind_assoc]
    exact congrArg _ (funext ih)

theorem run_append_of_run (h : m.run before = some middle) :
    m.run (before ++ after) = middle.run after := by
  rw [run_append, h, Option.bind_some]

theorem run_singleton (m : Multiplexer) (move : Move) : m.run [move] = m.apply move :=
  Option.bind_fun_some (m.apply move)

theorem run_of_append (h : m.run (before ++ after) = some next) :
    ∃ middle, m.run before = some middle ∧ middle.run after = some next := by
  rw [run_append] at h
  exact Option.bind_eq_some_iff.mp h

theorem run_of_concat {move : Move} (h : m.run (moves ++ [move]) = some next) :
    ∃ middle, m.run moves = some middle ∧ middle.apply move = some next := by
  obtain ⟨middle, hrun, hmove⟩ := run_of_append h
  exact ⟨middle, hrun, (run_singleton middle move).symm.trans hmove⟩

/-- What holds at the start, and is kept by every move of the run, holds in the end. -/
theorem run_induction {P : List Move → Multiplexer → Prop} (start : P [] m)
    (step : ∀ moves middle move next, m.run moves = some middle → P moves middle →
      middle.apply move = some next → P (moves ++ [move]) next)
    (h : m.run moves = some next) : P moves next := by
  induction moves using List.reverseRecOn generalizing next with
  | nil =>
    obtain rfl := Option.some.inj h
    exact start
  | append_singleton moves move ih =>
    obtain ⟨middle, hrun, hmove⟩ := run_of_concat h
    exact step moves middle move next hrun (ih hrun) hmove

/-! ### Histories -/

section History

variable {α : Type} {observe : Multiplexer → Move → List α}

/-- What is observed in the moves of a run, in order. -/
def history (observe : Multiplexer → Move → List α) : Multiplexer → List Move → List α
  | _, [] => []
  | m, move :: rest =>
    observe m move ++
      match m.apply move with
      | some next => history observe next rest
      | none => []

theorem history_cons {move : Move} (h : m.apply move = some next) (rest : List Move) :
    history observe m (move :: rest) = observe m move ++ history observe next rest := by
  rw [history, h]

theorem history_append (h : m.run before = some middle) (after : List Move) :
    history observe m (before ++ after) =
      history observe m before ++ history observe middle after := by
  induction before generalizing m with
  | nil =>
    obtain rfl := Option.some.inj h
    rfl
  | cons move rest ih =>
    obtain ⟨next, hmove, hrest⟩ := Option.bind_eq_some_iff.mp h
    rw [List.cons_append, history_cons hmove, history_cons hmove, ih hrest, List.append_assoc]

theorem history_singleton (m : Multiplexer) (move : Move) :
    history observe m [move] = observe m move := by
  rw [history]
  split <;> exact List.append_nil _

theorem history_concat (h : m.run moves = some middle) (move : Move) :
    history observe m (moves ++ [move]) = history observe m moves ++ observe middle move := by
  rw [history_append h, history_singleton]

end History

/-! ### What has been submitted and written -/

/-- What the moves submit, in order. -/
def submitted (moves : List Move) : List Submission := moves.flatMap Move.submissions

theorem submitted_append (before after : List Move) :
    submitted (before ++ after) = submitted before ++ submitted after := List.flatMap_append

theorem submitted_concat (moves : List Move) (move : Move) :
    submitted (moves ++ [move]) = submitted moves ++ move.submissions := by
  rw [submitted_append]
  exact congrArg _ (List.flatMap_singleton ..)

/-- The submissions that are written in a run, in order. -/
def sent : Multiplexer → List Move → List Submission := history transmitted

/-- What stands on the line are the frames of the submissions that have been written. -/
theorem written_run (h : m.run moves = some next) :
    next.written = m.written ++ (m.sent moves).map (·.frame) := by
  refine run_induction (P := fun moves next =>
    next.written = m.written ++ (m.sent moves).map (·.frame)) ?_ ?_ h
  · exact (List.append_nil _).symm
  · intro moves middle move next hrun ih hmove
    rw [written_apply hmove, ih, sent, history_concat hrun, List.map_append, List.append_assoc]

/-- What has been written and what has yet to be written keep the order of submission. -/
theorem sent_run (h : m.run moves = some next) :
    (m.sent moves ++ next.backlog).Sublist (m.backlog ++ submitted moves) := by
  refine run_induction (P := fun moves next =>
    (m.sent moves ++ next.backlog).Sublist (m.backlog ++ submitted moves)) ?_ ?_ h
  · exact List.sublist_append_left _ _
  · intro moves middle move next hrun ih hmove
    have step := (backlog_apply hmove).append_left (m.sent moves)
    rw [sent, history_concat hrun, submitted_concat, List.append_assoc,
      ← List.append_assoc m.backlog]
    refine step.trans ?_
    rw [← List.append_assoc]
    exact ih.append_right move.submissions

end Zigbee.Host.Multiplexer
