import Zigbee.Proofs.Multiplexer.Flight

/-!
# The balance of submissions and outcomes

A submission of which its caller has yet to learn something is `unsettled`. What a run has
told, what callers have forgone by going first, and what is unsettled are together what has
been submitted (`balance_run`), each submission once.

A move changes the two sides by the same submissions, as long as the callers that it finds
gone are those of requests under way (`Orderly`). In such a state a caller that goes, or
learns that its time is over, leaves exactly its own submission behind.
-/

namespace Zigbee.Host.Multiplexer

open Serial

variable {m next : Multiplexer} {move : Move} {s : Submission} {moves : List Move}

/-! ### Telling -/

/-- What callers learn with the move. -/
def tidings (m : Multiplexer) (move : Move) : List (Nat × Outcome) :=
  match m.apply move with
  | some next => next.outcomes.drop m.outcomes.length
  | none => []

/-- What callers learn in a run, in order. -/
def told : Multiplexer → List Move → List (Nat × Outcome) := history tidings

/-- The submissions of which a caller has yet to learn something. -/
def unsettled (m : Multiplexer) : List Submission := m.underWay.filter m.isAwaited ++ m.blocked

/-- The submissions whose caller goes with the move and never learns anything. -/
def forgoes (m : Multiplexer) : Move → List Submission
  | .giveUp id => m.unsettled.filter (·.id == id)
  | _ => []

/-- The submissions whose callers go in a run without an outcome, in order. -/
def forgone : Multiplexer → List Move → List Submission := history forgoes

theorem tidings_of_told {more : List (Nat × Outcome)} (h : m.apply move = some next)
    (told : next.outcomes = m.outcomes ++ more) : m.tidings move = more := by
  simp only [tidings, h, told, List.drop_left]

theorem tidings_of_same (h : m.apply move = some next) (same : next.outcomes = m.outcomes) :
    m.tidings move = [] :=
  tidings_of_told h (same.trans (List.append_nil _).symm)

theorem tidings_giveUp (m : Multiplexer) (id : Nat) : m.tidings (.giveUp id) = [] := by
  have shorter : (m.giveUp id).outcomes.length ≤ m.outcomes.length :=
    List.length_filter_le _ _
  exact List.drop_of_length_le shorter

theorem tidings_enqueue {idle : Multiplexer} (h : m.apply move = some (idle.enqueue s))
    (same : idle.outcomes = m.outcomes) :
    m.tidings move = if s.patience.isNone then [(s.id, .accepted)] else [] := by
  refine tidings_of_told h ?_
  rw [enqueue_eq, ← same]

theorem forgoes_of_keeps (keeps : m.Keeps move) : m.forgoes move = [] := by
  cases move with
  | giveUp id =>
    have leaves := keeps.leaver
    simp [Move.leaver?] at leaves
  | _ => rfl

/-- But for a caller that goes, a move only adds to what has been told. -/
theorem outcomes_apply (h : m.apply move = some next) (stays : ∀ id, move ≠ .giveUp id) :
    next.outcomes = m.outcomes ++ m.tidings move := by
  have grown {more : List (Nat × Outcome)} (told : next.outcomes = m.outcomes ++ more) :
      next.outcomes = m.outcomes ++ m.tidings move := by
    rw [tidings_of_told h told, told]
  cases deals_of_apply h with
  | aside keeps same => exact grown (same.outcomes.trans (List.append_nil _).symm)
  | refused | expired => exact grown rfl
  | delayed | wrote => exact grown (List.append_nil _).symm
  | queued | entered =>
    rw [enqueue_eq] at grown ⊢
    exact grown rfl
  | givenUp => exact absurd rfl (stays _)
  | concluded keeps writer underWay blocked abandoned outcomes =>
    rw [outcomes_conclude, outcomes] at grown ⊢
    exact grown rfl
  | ended keeps hwriter writer queue blocked abandoned outcomes => exact grown outcomes

/-! ### Callers that have gone -/

/-- What the multiplexer knows of callers that have gone: each has a request under way. -/
structure Orderly (m : Multiplexer) : Prop where
  distinct : (m.pending.map (·.id)).Nodup
  once : m.abandoned.Nodup
  underWay : ∀ id ∈ m.abandoned, ∃ s ∈ m.underWay, s.id = id ∧ s.patience.isSome = true
  limited : ∀ s ∈ m.flight, s.patience.isSome = true

theorem orderly_initial : initial.Orderly :=
  ⟨List.nodup_nil, List.nodup_nil, fun _ none => absurd none List.not_mem_nil,
    fun _ none => absurd none List.not_mem_nil⟩

theorem sublist_pending_of_underWay (m : Multiplexer) : m.underWay.Sublist m.pending := by
  rw [underWay_eq, pending, backlog, ← List.append_assoc]
  exact List.sublist_append_left _ _

theorem isAwaited_of_limited (limited : s.patience.isSome = true) :
    m.isAwaited s = decide (s.id ∉ m.abandoned) := by
  simp [isAwaited, limited, List.contains_eq_mem]

theorem isAwaited_of_order (order : s.patience = none) : m.isAwaited s = false := by
  simp [isAwaited, order]

theorem not_mem_of_isOverdue {now : Nat} {patience : Patience}
    (limit : s.patience = some patience) (overdue : m.isOverdue now s = true) :
    s.id ∉ m.abandoned := by
  simp only [isOverdue, limit, decide_eq_true_eq] at overdue
  exact overdue.2

theorem underWay_enqueue (m : Multiplexer) (s : Submission) :
    (m.enqueue s).underWay = m.underWay ++ [s] := by
  rw [enqueue_eq]
  exact (List.append_assoc ..).symm

theorem underWay_conclude (idle : m.writer = .idle) (s : Submission) (outcome : Outcome) :
    (m.conclude s outcome).underWay = m.queue := by
  rw [underWay_eq, flight, (desk_conclude m s outcome).1, idle, (desk_conclude m s outcome).2.1]
  rfl

theorem isAwaited_enqueue (m : Multiplexer) (s : Submission) :
    (m.enqueue s).isAwaited = m.isAwaited := by
  rw [enqueue_eq]
  rfl

/-- Nobody has been found gone but by a request that is under way. -/
theorem not_mem_abandoned (orderly : m.Orderly) (fresh : s.id ∉ m.underWay.map (·.id)) :
    s.id ∉ m.abandoned := by
  intro gone
  obtain ⟨other, member, same, -⟩ := orderly.underWay s.id gone
  exact fresh (List.mem_map.mpr ⟨other, member, same⟩)

/-- What is written stays under way, unless it is an order. -/
theorem underWay_wrote {rest : List Submission} {written : List Frame} :
    Multiplexer.underWay { m with
        queue := rest
        written := written
        writer := match s.patience with
          | some patience => .waiting s patience
          | none => .idle } =
      if s.patience.isSome then s :: rest else rest := by
  cases s.patience <;> rfl

theorem orderly_enqueue (orderly : m.Orderly)
    (distinct : ((m.enqueue s).pending.map (·.id)).Nodup) : (m.enqueue s).Orderly := by
  refine ⟨distinct, ?_, ?_, ?_⟩
  · rw [enqueue_eq]
    exact orderly.once
  · rw [underWay_enqueue]
    intro id gone
    rw [enqueue_eq] at gone
    obtain ⟨other, member, known⟩ := orderly.underWay id gone
    exact ⟨other, List.mem_append_left _ member, known⟩
  · rw [enqueue_eq]
    exact orderly.limited

/-- It is orderly to find one more caller gone. -/
theorem orderly_gone (orderly : m.Orderly) (member : s ∈ m.underWay)
    (limited : s.patience.isSome = true) (here : s.id ∉ m.abandoned) :
    (m.abandoned ++ [s.id]).Nodup ∧ ∀ id ∈ m.abandoned ++ [s.id],
      ∃ other ∈ m.underWay, other.id = id ∧ other.patience.isSome = true := by
  constructor
  · rw [← List.concat_eq_append]
    exact orderly.once.concat here
  · intro id gone
    obtain before | new := List.mem_append.mp gone
    · exact orderly.underWay id before
    · exact ⟨s, member, (List.mem_singleton.mp new).symm, limited⟩

theorem orderly_giveUp (orderly : m.Orderly) {id : Nat}
    (distinct : ((m.giveUp id).pending.map (·.id)).Nodup) : (m.giveUp id).Orderly := by
  by_cases waits : m.underWay.any (fun s => s.id == id && m.isAwaited s) = true
  · have abandoned : (m.giveUp id).abandoned = m.abandoned ++ [id] := if_pos waits
    obtain ⟨s, member, hs⟩ := List.any_eq_true.mp waits
    simp only [isAwaited, Bool.and_eq_true, beq_iff_eq, List.contains_eq_mem, Bool.not_eq_true',
      decide_eq_false_iff_not] at hs
    obtain ⟨rfl, limited, here⟩ := hs
    obtain ⟨once, underWay⟩ := orderly_gone orderly member limited here
    exact ⟨distinct, abandoned ▸ once, abandoned ▸ underWay, orderly.limited⟩
  · have abandoned : (m.giveUp id).abandoned = m.abandoned := if_neg waits
    exact ⟨distinct, abandoned ▸ orderly.once, abandoned ▸ orderly.underWay, orderly.limited⟩

theorem orderly_conclude {idle : Multiplexer} {request : Submission} {outcome : Outcome}
    (orderly : m.Orderly) (writer : idle.writer = .idle)
    (underWay : m.underWay = request :: idle.queue) (abandoned : idle.abandoned = m.abandoned)
    (distinct : ((idle.conclude request outcome).pending.map (·.id)).Nodup) :
    (idle.conclude request outcome).Orderly := by
  refine ⟨distinct, ?_, ?_, ?_⟩
  · rw [abandoned_conclude, abandoned]
    exact orderly.once.erase _
  · rw [abandoned_conclude, abandoned, underWay_conclude writer]
    intro id gone
    obtain ⟨apart, before⟩ := orderly.once.mem_erase_iff.mp gone
    obtain ⟨other, member, rfl, limited⟩ := orderly.underWay id before
    rw [underWay] at member
    obtain rfl | queued := List.mem_cons.mp member
    · exact absurd rfl apart
    · exact ⟨other, queued, rfl, limited⟩
  · rw [flight, (desk_conclude _ _ _).1, writer]
    exact fun _ none => absurd none List.not_mem_nil

theorem orderly_wrote {rest : List Submission} {written : List Frame} (orderly : m.Orderly)
    (hwriter : m.writer = .idle) (hqueue : m.queue = s :: rest)
    (distinct : (Multiplexer.pending { m with
        queue := rest
        written := written
        writer := match s.patience with
          | some patience => .waiting s patience
          | none => .idle } |>.map (·.id)).Nodup) :
    Orderly { m with
      queue := rest
      written := written
      writer := match s.patience with
        | some patience => .waiting s patience
        | none => .idle } := by
  have queued : m.underWay = s :: rest := by
    rw [underWay_eq, flight, hwriter, hqueue]
    rfl
  refine ⟨distinct, orderly.once, ?_, ?_⟩
  · intro id gone
    obtain ⟨other, member, same, limited⟩ := orderly.underWay id gone
    refine ⟨other, ?_, same, limited⟩
    rw [underWay_wrote]
    rw [queued] at member
    split
    · exact member
    · rename_i order
      obtain rfl | behind := List.mem_cons.mp member
      · exact absurd limited order
      · exact behind
  · cases hpatience : s.patience with
    | none => exact fun _ none => absurd none List.not_mem_nil
    | some patience =>
      intro other member
      obtain rfl := List.mem_singleton.mp member
      exact Option.isSome_of_eq_some hpatience

theorem orderly_apply (orderly : m.Orderly)
    (distinct : ((m.pending ++ move.submissions).map (·.id)).Nodup)
    (h : m.apply move = some next) : next.Orderly := by
  have later : (next.pending.map (·.id)).Nodup := distinct.sublist ((pending_apply h).map _)
  cases deals_of_apply h with
  | aside keeps same =>
    refine ⟨later, ?_, ?_, ?_⟩
    · rw [same.abandoned]
      exact orderly.once
    · rw [same.abandoned, underWay_eq, flight, same.writer, same.queue]
      exact orderly.underWay
    · rw [flight, same.writer]
      exact orderly.limited
  | refused | delayed => exact ⟨later, orderly.once, orderly.underWay, orderly.limited⟩
  | queued => exact orderly_enqueue orderly later
  | @entered s rest hblocked =>
    have fewer : Orderly { m with blocked := rest } := by
      refine ⟨orderly.distinct.sublist (List.Sublist.map _ ?_), orderly.once, orderly.underWay,
        orderly.limited⟩
      rw [pending, backlog, pending, backlog, hblocked]
      exact ((List.sublist_cons_self s rest).append_left _).append_left _
    exact orderly_enqueue fewer later
  | givenUp => exact orderly_giveUp orderly later
  | @expired s now patience member limit overdue =>
    obtain ⟨once, underWay⟩ := orderly_gone orderly member (Option.isSome_of_eq_some limit)
      (not_mem_of_isOverdue limit overdue)
    exact ⟨later, once, underWay, orderly.limited⟩
  | concluded keeps writer underWay blocked abandoned =>
    exact orderly_conclude orderly writer underWay abandoned later
  | wrote hwriter hqueue => exact orderly_wrote orderly hwriter hqueue later
  | ended keeps hwriter writer queue blocked abandoned =>
    refine ⟨later, ?_, ?_, ?_⟩
    · rw [abandoned]
      exact List.nodup_nil
    · rw [abandoned]
      exact fun _ none => absurd none List.not_mem_nil
    · rw [flight, writer]
      exact fun _ none => absurd none List.not_mem_nil

/-! ### The balance -/

/-- The two sides of the balance change by the same in the move. -/
def Balances (m : Multiplexer) (move : Move) (next : Multiplexer) : Prop :=
  ((m.tidings move).map (·.1) ++ (m.forgoes move ++ next.unsettled).map (·.id)).Perm
    ((m.unsettled ++ move.submissions).map (·.id))

/-- A submission that enters the queue is an order, and its caller is told so, or from then
on unsettled. -/
theorem perm_enqueue (fresh : s.id ∉ m.abandoned) :
    ((if s.patience.isNone then [(s.id, Outcome.accepted)] else []).map (·.1) ++
      (m.enqueue s).unsettled.map (·.id)).Perm ((s :: m.unsettled).map (·.id)) := by
  have blocked : (m.enqueue s).blocked = m.blocked := by rw [enqueue_eq]
  rw [unsettled, underWay_enqueue, isAwaited_enqueue, blocked, List.filter_append]
  cases limit : s.patience with
  | none =>
    rw [List.filter_singleton, isAwaited_of_order limit]
    simp [unsettled]
  | some patience =>
    have awaited : m.isAwaited s = true := by
      rw [isAwaited_of_limited (Option.isSome_of_eq_some limit)]
      exact decide_eq_true fresh
    rw [List.filter_singleton, awaited]
    simp only [Option.isNone_some, Bool.false_eq_true, if_false, List.map_nil, List.nil_append,
      cond_true, List.append_assoc, unsettled]
    exact List.perm_middle.map _

theorem isAwaited_of_gone {id : Nat} (gone : next.abandoned = m.abandoned ++ [id])
    (s : Submission) : next.isAwaited s = (m.isAwaited s && s.id != id) := by
  rw [isAwaited, gone, isAwaited, List.contains_append, List.contains_cons, List.contains_nil,
    Bool.or_false, Bool.not_or, Bool.and_assoc]
  rfl

theorem isAwaited_giveUp {id : Nat} (member : s ∈ m.underWay) :
    (m.giveUp id).isAwaited s = (m.isAwaited s && s.id != id) := by
  by_cases waits : m.underWay.any (fun s => s.id == id && m.isAwaited s) = true
  · exact isAwaited_of_gone (if_pos waits) s
  · have abandoned : (m.giveUp id).abandoned = m.abandoned := if_neg waits
    have apart : ¬ (s.id == id && m.isAwaited s) = true := fun own =>
      waits (List.any_eq_true.mpr ⟨s, member, own⟩)
    rw [isAwaited, abandoned, ← isAwaited]
    cases awaited : m.isAwaited s with
    | false => rfl
    | true =>
      rw [awaited, Bool.and_true] at apart
      simpa using apart

theorem unsettled_giveUp (m : Multiplexer) (id : Nat) :
    (m.giveUp id).unsettled = m.unsettled.filter (·.id != id) := by
  have underWay : (m.giveUp id).underWay = m.underWay := rfl
  have blocked : (m.giveUp id).blocked = m.blocked.filter (·.id != id) := rfl
  rw [unsettled, underWay, blocked, unsettled, List.filter_append, List.filter_filter]
  congr 1
  refine List.filter_congr fun s member => ?_
  rw [isAwaited_giveUp member, Bool.and_comm]

theorem balances_giveUp (m : Multiplexer) (id : Nat) :
    m.Balances (.giveUp id) (m.giveUp id) := by
  rw [Balances, tidings_giveUp, unsettled_giveUp]
  have whole := List.filter_append_perm (fun s : Submission => s.id == id) m.unsettled
  simpa [forgoes, Move.submissions, bne] using whole.map (·.id)

/-- Its caller learns that the time of its request is over, and nobody waits for it then. -/
theorem perm_expired (distinct : (m.underWay.map (·.id)).Nodup) (member : s ∈ m.underWay)
    (awaited : m.isAwaited s = true) :
    (s.id :: (m.underWay.filter fun t => m.isAwaited t && t.id != s.id).map (·.id)).Perm
      ((m.underWay.filter m.isAwaited).map (·.id)) := by
  have here : s.id ∈ (m.underWay.filter m.isAwaited).map (·.id) :=
    List.mem_map_of_mem (List.mem_filter.mpr ⟨member, awaited⟩)
  have once : ((m.underWay.filter m.isAwaited).map (·.id)).Nodup :=
    distinct.sublist (List.filter_sublist.map _)
  refine .trans ?_ (List.perm_cons_erase here).symm
  rw [once.erase_eq_filter, List.filter_map, List.filter_filter]
  simp [Bool.and_comm]

theorem balances_expired (orderly : m.Orderly) {now : Nat} {patience : Patience}
    (member : s ∈ m.underWay) (limit : s.patience = some patience)
    (overdue : m.isOverdue now s = true)
    (h : m.apply (.expire s.id now) = some
      ({ m with abandoned := m.abandoned ++ [s.id] }.tell s.id (timedOut patience))) :
    m.Balances (.expire s.id now)
      ({ m with abandoned := m.abandoned ++ [s.id] }.tell s.id (timedOut patience)) := by
  have awaited : m.isAwaited s = true := by
    rw [isAwaited_of_limited (Option.isSome_of_eq_some limit)]
    exact decide_eq_true (not_mem_of_isOverdue limit overdue)
  have unsettled_next : ({ m with abandoned := m.abandoned ++ [s.id] }.tell s.id
      (timedOut patience)).unsettled =
      (m.underWay.filter fun t => m.isAwaited t && t.id != s.id) ++ m.blocked := by
    refine congrArg (· ++ m.blocked) (List.filter_congr fun t _ => ?_)
    exact isAwaited_of_gone rfl t
  have distinct := orderly.distinct.sublist ((sublist_pending_of_underWay m).map _)
  have waits := (perm_expired distinct member awaited).append_right (m.blocked.map (·.id))
  rw [Balances, tidings_of_told h rfl, unsettled_next]
  simpa [unsettled, forgoes, Move.submissions] using waits

theorem balances_concluded {idle : Multiplexer} {request : Submission} {outcome : Outcome}
    (orderly : m.Orderly) (keeps : m.Keeps move) (writer : idle.writer = .idle)
    (underWay : m.underWay = request :: idle.queue) (blocked : idle.blocked = m.blocked)
    (abandoned : idle.abandoned = m.abandoned) (outcomes : idle.outcomes = m.outcomes)
    (limited : request.patience.isSome = true)
    (h : m.apply move = some (idle.conclude request outcome)) :
    m.Balances move (idle.conclude request outcome) := by
  have told : m.tidings move = if request.id ∈ m.abandoned then [] else [(request.id, outcome)] :=
    tidings_of_told h (by rw [outcomes_conclude, outcomes, abandoned])
  have distinct := orderly.distinct.sublist ((sublist_pending_of_underWay m).map _)
  rw [underWay, List.map_cons, List.nodup_cons] at distinct
  -- The caller that the writer finds gone is that of this request, and of no other.
  have others : idle.queue.filter (idle.conclude request outcome).isAwaited =
      idle.queue.filter m.isAwaited := by
    refine List.filter_congr fun s member => ?_
    have apart : s.id ≠ request.id := fun same => distinct.1 (same ▸ List.mem_map_of_mem member)
    rw [isAwaited_conclude apart, isAwaited, abandoned, isAwaited]
  have rest : (idle.conclude request outcome).unsettled =
      idle.queue.filter m.isAwaited ++ m.blocked := by
    rw [unsettled, underWay_conclude writer, others, (desk_conclude _ _ _).2.2.1, blocked]
  rw [Balances, told, forgoes_of_keeps keeps, keeps.submissions, rest, unsettled, underWay]
  by_cases gone : request.id ∈ m.abandoned
  · rw [if_pos gone, List.filter_cons_of_neg (by simp [isAwaited, gone])]
    simp
  · rw [if_neg gone, List.filter_cons_of_pos (by simp [isAwaited, limited, gone])]
    simp

theorem balances_wrote {now : Nat} {rest : List Submission} (hwriter : m.writer = .idle)
    (hqueue : m.queue = s :: rest)
    (h : m.apply (.takeSubmission now) = some next)
    (hnext : next = { m with
      queue := rest
      written := m.written ++ [s.frame]
      writer := match s.patience with
        | some patience => .waiting s patience
        | none => .idle }) : m.Balances (.takeSubmission now) next := by
  have queued : m.underWay = s :: rest := by
    rw [underWay_eq, flight, hwriter, hqueue]
    rfl
  have same : next.unsettled = m.unsettled := by
    have awaited : next.isAwaited = m.isAwaited := by
      rw [hnext]
      rfl
    have blocked : next.blocked = m.blocked := by rw [hnext]
    have underWay : next.underWay = if s.patience.isSome then s :: rest else rest := by
      rw [hnext, underWay_wrote]
    rw [unsettled, underWay, awaited, blocked, unsettled, queued]
    cases limit : s.patience with
    | some patience => rfl
    | none => rw [List.filter_cons_of_neg (by simp [isAwaited_of_order limit])]; rfl
  rw [Balances, tidings_of_same h (by rw [hnext]), same]
  simp [forgoes, Move.submissions]

/-- The writer has ended, and nobody waits for it. -/
structure Closed (m : Multiplexer) : Prop where
  ended : m.isEnded = true
  queue : m.queue = []
  blocked : m.blocked = []

theorem underWay_of_closed (closed : m.Closed) : m.underWay = [] := by
  have flight : m.flight = [] := by
    have ended := closed.ended
    unfold isEnded at ended
    unfold Multiplexer.flight
    split at ended <;> simp_all
  rw [underWay_eq, flight, closed.queue]
  rfl

theorem unsettled_of_closed (closed : m.Closed) : m.unsettled = [] := by
  rw [unsettled, underWay_of_closed closed, closed.blocked]
  rfl

theorem unsettled_tell (m : Multiplexer) (id : Nat) (outcome : Outcome) :
    (m.tell id outcome).unsettled = m.unsettled := rfl

theorem balances_submit_enqueue (orderly : m.Orderly)
    (distinct : ((m.pending ++ [s]).map (·.id)).Nodup)
    (h : m.apply (.submit s) = some (m.enqueue s)) : m.Balances (.submit s) (m.enqueue s) := by
  have fresh : s.id ∉ m.underWay.map (·.id) := by
    rw [List.map_append, List.map_singleton, ← List.concat_eq_append, List.nodup_concat] at distinct
    exact fun known => distinct.1 ((sublist_pending_of_underWay m).map _ |>.subset known)
  rw [Balances, tidings_enqueue h rfl]
  refine (perm_enqueue (not_mem_abandoned orderly fresh)).trans ?_
  exact (List.perm_append_singleton s m.unsettled).symm.map _

theorem balances_enter {rest : List Submission} (orderly : m.Orderly)
    (hblocked : m.blocked = s :: rest)
    (h : m.apply .enter = some ({ m with blocked := rest }.enqueue s)) :
    m.Balances .enter ({ m with blocked := rest }.enqueue s) := by
  have fresh : s.id ∉ m.underWay.map (·.id) := by
    have distinct := orderly.distinct
    rw [pending, backlog, hblocked, ← List.append_assoc, ← underWay_eq, List.map_append,
      List.nodup_append] at distinct
    exact fun known => distinct.2.2 s.id known s.id (List.mem_cons_self ..) rfl
  have here : s.id ∉ m.abandoned := not_mem_abandoned orderly fresh
  have before : m.unsettled ++ Move.enter.submissions =
      m.underWay.filter m.isAwaited ++ s :: rest := by
    rw [unsettled, hblocked]
    exact List.append_nil _
  rw [Balances, tidings_enqueue h rfl, before]
  refine (perm_enqueue (m := { m with blocked := rest }) here).trans ?_
  exact List.perm_middle.symm.map _

theorem balances_apply (orderly : m.Orderly)
    (distinct : ((m.pending ++ move.submissions).map (·.id)).Nodup)
    (h : m.apply move = some next) : m.Balances move next := by
  cases deals_of_apply h with
  | aside keeps same =>
    have awaited : next.isAwaited = m.isAwaited := by
      funext s
      rw [isAwaited, same.abandoned, isAwaited]
    have unchanged : next.unsettled = m.unsettled := by
      rw [unsettled, underWay_eq, flight, same.writer, same.queue, same.blocked, awaited]
      rfl
    rw [Balances, tidings_of_same h same.outcomes, forgoes_of_keeps keeps, keeps.submissions,
      unchanged]
    simp
  | @refused s =>
    rw [Balances, tidings_of_told h rfl, unsettled_tell]
    simpa [forgoes, Move.submissions] using (List.perm_append_singleton s.id _).symm
  | queued => exact balances_submit_enqueue orderly distinct h
  | @delayed s =>
    have more : Multiplexer.unsettled { m with blocked := m.blocked ++ [s] } =
        m.unsettled ++ [s] := (List.append_assoc ..).symm
    rw [Balances, tidings_of_same h rfl, more]
    simp [forgoes, Move.submissions]
  | entered hblocked => exact balances_enter orderly hblocked h
  | givenUp => exact balances_giveUp m _
  | expired member limit overdue => exact balances_expired orderly member limit overdue h
  | concluded keeps writer underWay blocked abandoned outcomes written limited =>
    exact balances_concluded orderly keeps writer underWay blocked abandoned outcomes
      (limited.elim (orderly.limited _) id) h
  | wrote hwriter hqueue => exact balances_wrote hwriter hqueue h rfl
  | ended keeps hwriter writer queue blocked abandoned outcomes =>
    have none : next.unsettled = [] :=
      unsettled_of_closed ⟨by rw [isEnded, writer], queue, blocked⟩
    have queued : m.unsettled = m.queue.filter m.isAwaited ++ m.blocked := by
      rw [unsettled, underWay_eq, flight, hwriter]
      rfl
    rw [Balances, tidings_of_told h outcomes, forgoes_of_keeps keeps, keeps.submissions, none,
      queued, lastOutcomes]
    simp [Function.comp_def]

/-! ### Runs -/

/-- What is pending, and the submissions of the next move, have ids of their own. -/
theorem distinct_of_numbered (numbered : Numbered (moves ++ [move]))
    (h : initial.run moves = some m) : ((m.pending ++ move.submissions).map (·.id)).Nodup := by
  have distinct := pending_ids_nodup numbered h
  rwa [submitted, List.flatMap_singleton] at distinct

theorem orderly_run (numbered : Numbered moves) (h : initial.run moves = some m) : m.Orderly := by
  refine run_induction (P := fun moves m => Numbered moves → m.Orderly) ?_ ?_ h numbered
  · exact fun _ => orderly_initial
  · intro moves m move next hrun ih hmove numbered
    exact orderly_apply (ih (numbered_of_append numbered))
      (distinct_of_numbered numbered hrun) hmove

/-- What has been told, what has been forgone and what is unsettled is what has been
submitted. -/
theorem balance_run (numbered : Numbered moves) (h : initial.run moves = some m) :
    ((initial.told moves).map (·.1) ++ (initial.forgone moves ++ m.unsettled).map (·.id)).Perm
      ((submitted moves).map (·.id)) := by
  refine run_induction (P := fun moves m => Numbered moves →
    ((initial.told moves).map (·.1) ++ (initial.forgone moves ++ m.unsettled).map (·.id)).Perm
      ((submitted moves).map (·.id))) ?_ ?_ h numbered
  · exact fun _ => .nil
  · intro moves m move next hrun ih hmove numbered
    have before := ih (numbered_of_append numbered)
    have step : m.Balances move next :=
      balances_apply (orderly_run (numbered_of_append numbered) hrun)
        (distinct_of_numbered numbered hrun) hmove
    rw [told, forgone, history_concat hrun, history_concat hrun, submitted_concat]
    -- Both sides grow in the middle, so they are compared by how often an id occurs in them.
    refine List.perm_iff_count.mpr fun id => ?_
    have before := List.perm_iff_count.mp before id
    have step := List.perm_iff_count.mp step id
    simp only [List.map_append, List.count_append] at before step ⊢
    simp only [told, forgone] at before
    omega

end Zigbee.Host.Multiplexer
