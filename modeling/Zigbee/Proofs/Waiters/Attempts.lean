import Mathlib.Data.ENat.Lattice
import Zigbee.Proofs.Registration.Interviews

/-!
# Attempts and the waiters they leave behind

An attempt is made again for each failure that is worth it, until one is not, an attempt
succeeds, or no retries are left. Which outcomes there are decides how many attempts there
are, and the last of them is the outcome of the whole. An attempt to send something and to wait
for its answer has a waiter of its own: it is registered under a number that nobody had
before, then what is to be sent is sent once, and whatever comes of it the waiter is given up.
So nothing of a call remains in the registry, and nobody else is affected by it.
-/

namespace Zigbee.Host

open Radio Settings

/-! ### Outcomes -/

section Outcomes

variable {α : Type} {outcomes : Nat → Except Failure α} {retries : Nat}

/-- Whether the outcome is a failure that is worth another attempt. -/
def isPassing : Except Failure α → Bool
  | .error e => e.isRetryable
  | .ok _ => false

/-- Attempts with a sequence of outcomes. The state counts the attempts. -/
def following (outcomes : Nat → Except Failure α) : ExceptT Failure (StateM Nat) α :=
  ExceptT.mk fun made => (outcomes made, made + 1)

/-- How many outcomes there are ahead of the first that is not worth another attempt. -/
noncomputable def leading (outcomes : Nat → Except Failure α) : ℕ∞ :=
  ⨅ (i : ℕ) (_ : isPassing (outcomes i) = false), (i : ℕ∞)

/-- How many attempts are made again. -/
noncomputable def repetitions (outcomes : Nat → Except Failure α) (retries : Nat) : Nat :=
  (min (retries : ℕ∞) (leading outcomes)).toNat

theorem le_leading_iff {count : ℕ} :
    (count : ℕ∞) ≤ leading outcomes ↔ ∀ i < count, isPassing (outcomes i) = true := by
  rw [leading, le_iInf₂_iff]
  constructor
  · intro bound i early
    by_contra ends
    exact absurd (Nat.cast_le.mp (bound i (Bool.eq_false_of_not_eq_true ends))) (by omega)
  · intro passing i ends
    by_contra early
    have early : i < count := by exact_mod_cast not_le.mp early
    rw [passing i early] at ends
    cases ends

theorem coe_repetitions :
    (repetitions outcomes retries : ℕ∞) = min (retries : ℕ∞) (leading outcomes) :=
  ENat.natCast_toNat (ne_top_of_le_ne_top (ENat.natCast_ne_top retries) (min_le_left _ _))

/-- The first outcomes are worth another attempt, and after them the retries are used up or
there is an outcome that is not. -/
theorem repetitions_spec : repetitions outcomes retries ≤ retries ∧
    (∀ i < repetitions outcomes retries, isPassing (outcomes i) = true) ∧
    (repetitions outcomes retries = retries ∨
      isPassing (outcomes (repetitions outcomes retries)) = false) := by
  have few : repetitions outcomes retries ≤ retries := by
    rw [← Nat.cast_le (α := ℕ∞), coe_repetitions]
    exact min_le_left _ _
  have passing : ∀ i < repetitions outcomes retries, isPassing (outcomes i) = true := by
    rw [← le_leading_iff, coe_repetitions]
    exact min_le_right _ _
  refine ⟨few, passing, ?_⟩
  by_contra! ⟨left, again⟩
  have more : repetitions outcomes retries + 1 ≤ retries := Nat.lt_of_le_of_ne few left
  -- one more of the outcomes would be counted
  have further : ((repetitions outcomes retries + 1 : ℕ) : ℕ∞) ≤ leading outcomes := by
    refine le_leading_iff.mpr fun i early => ?_
    obtain earlier | rfl := Nat.lt_succ_iff_lt_or_eq.mp early
    · exact passing i earlier
    · exact Bool.eq_true_of_not_eq_false again
  have bound := le_min (Nat.cast_le.mpr more) further
  rw [← coe_repetitions, Nat.cast_le] at bound
  omega

theorem run_following_bind {start : Nat} (f : Except Failure α → StateM Nat (Except Failure α)) :
    ((following outcomes).run >>= f).run start = (f (outcomes start)).run (start + 1) := rfl

/-- One attempt, and then perhaps others. -/
theorem run_retry_succ {start : Nat} : (retry (following outcomes) (retries + 1)).run.run start =
    if isPassing (outcomes start) then (retry (following outcomes) retries).run.run (start + 1)
    else (outcomes start, start + 1) := by
  rw [retry, ExceptT.run_tryCatch, run_following_bind]
  cases outcomes start with
  | ok a => rfl
  | error e =>
    by_cases worth : e.isRetryable = true
    · simp only [isPassing, worth, if_true]
    · simp only [isPassing, worth]
      rfl

/-- The attempts go on along the outcomes that are worth it. -/
theorem run_retry_following {start made : Nat} (few : made ≤ retries)
    (passing : ∀ i < made, isPassing (outcomes (start + i)) = true)
    (ends : made = retries ∨ isPassing (outcomes (start + made)) = false) :
    (retry (following outcomes) retries).run.run start =
      (outcomes (start + made), start + made + 1) := by
  induction retries generalizing start made with
  | zero =>
    obtain rfl := Nat.le_zero.mp few
    rfl
  | succ retries ih =>
    rw [run_retry_succ]
    cases made with
    | zero =>
      obtain none | ends := ends
      · cases none
      · exact if_neg (Bool.eq_false_iff.mp ends)
    | succ made =>
      have shift : ∀ i, start + 1 + i = start + (i + 1) := fun i => by omega
      have first : isPassing (outcomes start) = true := passing 0 (Nat.succ_pos made)
      rw [if_pos first, ih (Nat.le_of_succ_le_succ few), shift]
      · exact fun i early => shift i ▸ passing (i + 1) (Nat.succ_lt_succ early)
      · exact ends.imp Nat.succ.inj fun ends => shift made ▸ ends

/-- There is one attempt more than there are repetitions, and its outcome is the last. -/
theorem run_retry : (retry (following outcomes) retries).run.run 0 =
    (outcomes (repetitions outcomes retries), repetitions outcomes retries + 1) := by
  obtain ⟨few, passing, ends⟩ := @repetitions_spec α outcomes retries
  have made : (retry (following outcomes) retries).run.run 0 =
      (outcomes (0 + repetitions outcomes retries), 0 + repetitions outcomes retries + 1) :=
    run_retry_following few (fun i early => (Nat.zero_add i).symm ▸ passing i early)
      ((Nat.zero_add _).symm ▸ ends)
  rwa [Nat.zero_add] at made

end Outcomes

/-! ### Attempts of a call -/

/-- An attempt: what has been done in it, and how it has ended. -/
structure Trial (α : Type) where
  deeds : List Deed
  outcome : Except Failure α

/-- Whether the deeds are those of attempts that were made again, and of a last one, which has
the result. -/
structure Repeats {α : Type} (Made : Trial α → Prop) (retries : Nat) (deeds : List Deed)
    (result : Except Failure α) (again : List (Trial α)) (last : Trial α) : Prop where
  whole : deeds = (again ++ [last]).flatMap Trial.deeds
  made : ∀ trial ∈ again ++ [last], Made trial
  passing : ∀ trial ∈ again, isPassing trial.outcome = true
  few : again.length ≤ retries
  ends : again.length = retries ∨ isPassing last.outcome = false
  result : result = last.outcome

theorem repeats_of_yields {α : Type} {c : Call α} {retries : Nat} {deeds : List Deed}
    {result : Except Failure α} (h : Call.Yields (retry c retries) deeds result) :
    ∃ again last, Repeats (fun trial => c.Yields trial.deeds trial.outcome) retries deeds result
      again last := by
  induction retries generalizing deeds with
  | zero =>
    exact ⟨[], ⟨deeds, result⟩, by simp, List.forall_mem_singleton.mpr h, nofun, le_rfl, .inl rfl,
      rfl⟩
  | succ retries ih =>
    obtain ⟨a, first, rfl⟩ | ⟨front, e, back, rfl, first, later⟩ := Call.Yields.tryCatch h
    · exact ⟨[], ⟨deeds, .ok a⟩, by simp, List.forall_mem_singleton.mpr first, nofun,
        Nat.zero_le _, .inr rfl, rfl⟩
    · by_cases worth : e.isRetryable = true
      · rw [if_pos worth] at later
        obtain ⟨again, last, rest⟩ := ih later
        refine ⟨⟨front, .error e⟩ :: again, last, ?_, List.forall_mem_cons.mpr ⟨first, rest.made⟩,
          List.forall_mem_cons.mpr ⟨worth, rest.passing⟩, Nat.succ_le_succ rest.few,
          rest.ends.imp (congrArg (· + 1)) id, rest.result⟩
        rw [rest.whole]
        rfl
      · rw [if_neg worth] at later
        obtain ⟨rfl, rfl⟩ := Call.Yields.throw later
        exact ⟨[], ⟨front, .error e⟩, by simp, List.forall_mem_singleton.mpr first, nofun,
          Nat.zero_le _, .inr (Bool.eq_false_of_not_eq_true worth), rfl⟩

section Waiting

variable {policy : RetryPolicy} {pattern : Pattern} {send : Call Unit} {deeds : List Deed}
  {milliseconds waiter : Nat}

/-- An attempt that registers a waiter, sends once what is to be sent, waits unless that has
failed, and gives the waiter up. -/
inductive SendsAndWaits (pattern : Pattern) (milliseconds : Nat) (send : Call Unit)
    (waiter : Nat) : Trial pattern.kind.layout.Carrier → Prop where
  | unsent {sent : List Deed} {e : Failure} : send.Yields sent (.error e) →
    SendsAndWaits pattern milliseconds send waiter
      ⟨⟨.register pattern, waiter⟩ :: (sent ++ [⟨.dismiss waiter, ()⟩]), .error e⟩
  | waited {sent : List Deed} {answer : Except Failure pattern.kind.layout.Carrier} :
    send.Yields sent (.ok ()) →
    SendsAndWaits pattern milliseconds send waiter
      ⟨⟨.register pattern, waiter⟩ :: (sent ++
        [⟨.await waiter pattern.kind milliseconds, answer⟩, ⟨.dismiss waiter, ()⟩]), answer⟩

theorem repeats_of_sendAndWait {result : Except Failure pattern.kind.layout.Carrier}
    (h : (sendAndWait policy pattern send).Yields deeds result) :
    ∃ again last, Repeats (fun trial => ∃ waiter,
      SendsAndWaits pattern policy.milliseconds send waiter trial) policy.retries deeds result
      again last := by
  obtain ⟨again, last, made⟩ := repeats_of_yields h
  refine ⟨again, last, { made with made := fun ⟨deeds, outcome⟩ member => ?_ }⟩
  obtain ⟨waiter, middle, rfl, used⟩ := Call.Yields.withWaiter (made.made _ member)
  refine ⟨waiter, ?_⟩
  obtain ⟨e, unsent, rfl⟩ | ⟨sent, ⟨⟩, _, rfl, sends, awaits⟩ := Call.Yields.bind used
  · exact .unsent unsent
  · obtain ⟨answer, rest, rfl, rfl, rfl⟩ := awaits
    rw [List.append_assoc]
    exact .waited sends

/-- The waiter is registered first, and given up later. -/
theorem SendsAndWaits.dismisses {trial : Trial pattern.kind.layout.Carrier}
    (h : SendsAndWaits pattern milliseconds send waiter trial) :
    ∃ back, trial.deeds = ⟨.register pattern, waiter⟩ :: back ∧ ⟨.dismiss waiter, ()⟩ ∈ back := by
  cases h with
  | unsent sent => exact ⟨_, rfl, List.mem_append_right _ List.mem_cons_self⟩
  | waited sent => exact ⟨_, rfl, List.mem_append_right _ (.tail _ List.mem_cons_self)⟩

end Waiting

/-! ### Waiters of a call -/

/-- The number of the waiter that has been registered. -/
def Deed.number? : Deed → Option Nat
  | ⟨.register _, waiter⟩ => some waiter
  | _ => none

theorem Deed.number?_eq_some_iff {deed : Deed} {number : Nat} :
    deed.number? = some number ↔ ∃ pattern, deed = ⟨.register pattern, number⟩ := by
  obtain ⟨effect, answer⟩ := deed
  cases effect with
  | register pattern =>
    constructor
    · intro same
      obtain rfl := Option.some.inj same
      exact ⟨pattern, rfl⟩
    · rintro ⟨_, ⟨⟩⟩
      rfl
  | _ => exact ⟨nofun, fun ⟨_, other⟩ => by cases other⟩

/-- Nothing of the waiter is left: it neither waits, nor has it taken anything that is kept. -/
structure Waiters.Without (number : Nat) (w : Waiters) : Prop where
  pending : ∀ waiter ∈ w.pending, waiter.id ≠ number
  completed : ∀ i, (number, i) ∉ w.completed

/-- The waiter is the same in both registries: it waits for the same, and has taken the same. -/
structure Waiters.SameFor (number : Nat) (w w' : Waiters) : Prop where
  pending : ∀ pattern, ⟨number, pattern⟩ ∈ w'.pending ↔ ⟨number, pattern⟩ ∈ w.pending
  completed : ∀ i, (number, i) ∈ w'.completed ↔ (number, i) ∈ w.completed

theorem Waiters.SameFor.refl (number : Nat) (w : Waiters) : w.SameFor number w :=
  ⟨fun _ => Iff.rfl, fun _ => Iff.rfl⟩

theorem Waiters.sameFor_register {number : Nat} {w : Waiters} (pattern : Pattern)
    (other : number ≠ w.issued + 1) : w.SameFor number (w.register pattern).2 where
  pending _ := Waiters.mem_pending_register_iff.trans (or_iff_left fun new => other new.2.1)
  completed _ := Iff.rfl

theorem Waiters.sameFor_remove {number dropped : Nat} (w : Waiters) (other : number ≠ dropped) :
    w.SameFor number (w.remove dropped) where
  pending _ := by simp [Waiters.remove, other]
  completed _ := by simp [Waiters.remove, other]

/-- A waiter that has been given up has left nothing. -/
theorem Waiters.Registers.without {events before later : List Waiters.Event} {waiter : Waiter}
    (h : Waiters.Registers events before waiter later) (dropped : .drop waiter.id ∈ later) :
    (Waiters.after events).Without waiter.id where
  pending other member same := by
    obtain ⟨_, _, registers, -, spared⟩ := ((Waiters.sound_after events).pending other).mp member
    obtain ⟨rfl, rfl, rfl⟩ := h.unique registers same.symm
    exact spared _ dropped rfl
  completed i member := by
    obtain ⟨other, same, _, _, registers, -, -, kept⟩ :=
      ((Waiters.sound_after events).completed _ i).mp member
    obtain ⟨rfl, rfl, rfl⟩ := h.unique registers same.symm
    exact kept dropped

namespace Vigil

variable {α : Type} {past : List Waiters.Event} {v next : Vigil α} {step : Step}
  {steps : List Step}

/-- What a call leaves of itself in the history: its waiters have been registered one after the
other since it began, and what it has done to the registry since then has come behind. -/
structure Recorded (past : List Waiters.Event) (v : Vigil α) : Prop where
  old : past <+: v.events
  placed : ∀ front pattern waiter back, v.deeds = front ++ ⟨.register pattern, waiter⟩ :: back →
    ∃ before later, Waiters.Registers v.events before ⟨waiter, pattern⟩ later ∧ past <+: before ∧
      ∀ deed ∈ back, ∀ event ∈ deed.effect.trace, event ∈ later
  given : ∀ pattern waiter, ⟨.register pattern, waiter⟩ ∈ v.deeds →
    waiter ≤ Waiters.registrations v.events
  growing : (v.deeds.filterMap Deed.number?).Pairwise (· < ·)

theorem Recorded.elsewhere (h : Recorded past v) (events : List Waiters.Event) :
    Recorded past { v with events := v.events ++ events } where
  old := h.old.trans (List.prefix_append ..)
  placed front pattern waiter back whole := by
    obtain ⟨before, later, registers, behind, done⟩ := h.placed front pattern waiter back whole
    exact ⟨before, _, registers.append events, behind, fun deed member event inside =>
      List.mem_append_left _ (done deed member event inside)⟩
  given pattern waiter member := by
    rw [Waiters.registrations, List.countP_append]
    exact Nat.le_add_right_of_le (h.given pattern waiter member)
  growing := h.growing

/-- A waiter that is registered has the next number. -/
theorem respond_register (events : List Waiters.Event) (counter : Cluster.TransactionCounter)
    (world : (effect : Effect) → effect.Answer) (pattern : Pattern) :
    Effect.respond events counter world (.register pattern) = Waiters.registrations events + 1 :=
  congrArg (· + 1) (Waiters.sound_after events).issued

theorem Recorded.own {rest : Program α} {counter : Cluster.TransactionCounter}
    {world : (effect : Effect) → effect.Answer} (h : Recorded past v) (effect : Effect) :
    Recorded past ⟨rest, v.events ++ effect.trace,
      v.deeds ++ [⟨effect, effect.respond v.events counter world⟩]⟩ where
  old := h.old.trans (List.prefix_append ..)
  placed front pattern waiter back whole := by
    obtain ⟨more, rfl, earlier⟩ | ⟨rfl, -, same⟩ := Waiters.concat_eq_append_cons_iff.mp whole
    · obtain ⟨before, later, registers, behind, done⟩ := h.placed front pattern waiter more earlier
      refine ⟨before, _, registers.append _, behind, fun deed member event inside => ?_⟩
      obtain old | new := List.mem_append.mp member
      · exact List.mem_append_left _ (done deed old event inside)
      · obtain rfl := List.mem_singleton.mp new
        exact List.mem_append_right _ inside
    · obtain ⟨rfl, number⟩ := Deed.mk.inj same
      obtain rfl := eq_of_heq number
      exact ⟨v.events, [], ⟨rfl, respond_register _ counter world pattern⟩, h.old,
        fun _ member => absurd member List.not_mem_nil⟩
  given pattern waiter member := by
    rw [Waiters.registrations, List.countP_append]
    obtain old | new := List.mem_append.mp member
    · exact Nat.le_add_right_of_le (h.given pattern waiter old)
    · obtain ⟨rfl, number⟩ := Deed.mk.inj (List.mem_singleton.mp new)
      obtain rfl := eq_of_heq number
      exact (respond_register _ counter world pattern).le
  growing := by
    rw [List.filterMap_append, List.pairwise_append]
    refine ⟨h.growing, ?_, fun earlier old later new => ?_⟩
    · exact (List.pairwise_singleton (fun _ _ => False) _).filterMap _ fun _ _ => False.elim
    · obtain ⟨deed, member, isOld⟩ := List.mem_filterMap.mp old
      obtain ⟨pattern, rfl⟩ := Deed.number?_eq_some_iff.mp isOld
      obtain ⟨deed, member', isNew⟩ := List.mem_filterMap.mp new
      obtain ⟨pattern', rfl⟩ := Deed.number?_eq_some_iff.mp isNew
      obtain ⟨rfl, number⟩ := Deed.mk.inj (List.mem_singleton.mp member')
      obtain rfl := eq_of_heq number
      have bound := h.given pattern earlier member
      rw [respond_register]
      exact Nat.lt_succ_of_le bound

theorem recorded_run {p : Program α} (ran : run ⟨p, past, []⟩ steps = some v) :
    Recorded past v := by
  refine run_induction (P := Recorded past) ?_ ⟨List.prefix_rfl, ?_, ?_, .nil⟩ ran
  · intro v step next h applied
    obtain ⟨effect, rest, counter, world, -, rfl⟩ | ⟨events, rfl⟩ := apply_cases applied
    · exact h.own effect
    · exact h.elsewhere events
  · intro front pattern waiter back none
    exact absurd none.symm (List.append_ne_nil_of_right_ne_nil _ (List.cons_ne_nil _ _))
  · exact fun _ _ member => absurd member List.not_mem_nil

/-- A call goes along one of the ways of its program. -/
theorem yields_run {p : Program α} (ran : run ⟨p, past, []⟩ steps = some v) :
    ∀ back result, v.rest.Yields back result → p.Yields (v.deeds ++ back) result := by
  refine run_induction (P := fun v => ∀ back result, v.rest.Yields back result →
    p.Yields (v.deeds ++ back) result) ?_ (fun back result yields => yields) ran
  intro v step next kept applied back result yields
  obtain ⟨effect, rest, counter, world, doing, rfl⟩ | ⟨events, rfl⟩ := apply_cases applied
  · rw [List.append_assoc]
    refine kept _ result ?_
    rw [doing]
    exact ⟨_, back, rfl, yields⟩
  · exact kept back result yields

end Vigil

/-! ### Waiters of others -/

/-- Whether the effect gives up only waiters that have been registered before it. -/
def Owns (deeds : List Deed) (effect : Effect) : Prop :=
  ∀ waiter, .drop waiter ∈ effect.trace → ∃ pattern, ⟨.register pattern, waiter⟩ ∈ deeds

/-- Whether the call leaves the registry alone. -/
def Call.LeavesWaiters {α : Type} (c : Call α) : Prop :=
  ∀ deeds, c.Keeps (fun _ effect => effect.trace = []) (fun _ _ => True) deeds

section Ownership

variable {policy : RetryPolicy} {pattern : Pattern} {send : Call Unit} {deeds front : List Deed}

theorem Program.Keeps.behind {α : Type} {allowed allowed' : List Deed → Effect → Prop}
    {R : List Deed → α → Prop} {p : Program α} (keeps : p.Keeps allowed R deeds)
    (weaker : ∀ deeds effect, allowed deeds effect → allowed' deeds effect)
    (inside : front <+: deeds) : p.Keeps allowed' (fun deeds _ => front <+: deeds) deeds := by
  induction p generalizing deeds with
  | done a => exact inside
  | perform effect next ih =>
    exact ⟨weaker _ _ keeps.1, fun answer =>
      ih answer (keeps.2 answer) (inside.trans (List.prefix_append ..))⟩

/-- A call that sends and waits gives up only waiters that it has registered. -/
theorem owns_sendAndWait (alone : send.LeavesWaiters) :
    (sendAndWait policy pattern send).Keeps Owns (fun _ _ => True) deeds := by
  refine .retry (fun _ => True) (fun deeds _ => .withWaiter nofun fun waiter => ?_)
    (fun _ _ _ _ => trivial) _ trivial
  have own : ∀ {later}, deeds ++ [⟨.register pattern, waiter⟩] <+: later → ∀ number,
      Waiters.Event.drop number ∈ [Waiters.Event.drop waiter] →
      ∃ pattern, (⟨.register pattern, number⟩ : Deed) ∈ later := by
    intro later inside number dropped
    obtain rfl := Waiters.Event.drop.inj (List.mem_singleton.mp dropped)
    exact ⟨pattern, inside.subset (List.mem_append_right _ List.mem_cons_self)⟩
  have sends : send.Keeps Owns (fun later _ => deeds ++ [⟨.register pattern, waiter⟩] <+: later)
      (deeds ++ [⟨.register pattern, waiter⟩]) := by
    refine Program.Keeps.behind (alone _) (fun _ effect silent number dropped => ?_)
      List.prefix_rfl
    rw [silent] at dropped
    cases dropped
  refine .bind sends (fun later e inside => ⟨own inside, trivial⟩) fun later _ inside => ?_
  exact .await (own inside) fun answer =>
    ⟨own (inside.trans (List.prefix_append ..)), trivial⟩

/-- What a call does that gives up only its own waiters leaves those of others as they are. -/
theorem sameFor_own {α : Type} {R : List Deed → α → Prop} {past : List Waiters.Event}
    {v next : Vigil α} {counter : Cluster.TransactionCounter}
    {world : (effect : Effect) → effect.Answer} {number : Nat}
    (faithful : Vigil.Faithful Owns R past v) (applied : v.apply (.own counter world) = some next)
    (other : ∀ pattern, ⟨.register pattern, number⟩ ∉ next.deeds) :
    (Waiters.after v.events).SameFor number (Waiters.after next.events) := by
  have keeps := faithful.keeps
  unfold Vigil.apply at applied
  dsimp only at applied
  split at applied
  · cases applied
  rename_i effect rest doing
  obtain rfl := Option.some.inj applied
  rw [doing] at keeps
  have dropping : ∀ waiter, effect.trace = [.drop waiter] →
      (Waiters.after v.events).SameFor number (Waiters.after (v.events ++ effect.trace)) := by
    intro waiter drops
    rw [drops, Waiters.after_concat]
    refine Waiters.sameFor_remove _ fun same => ?_
    obtain ⟨pattern, member⟩ := keeps.1 waiter (drops ▸ List.mem_cons_self)
    exact other pattern (List.mem_append_left _ (same ▸ member))
  cases effect with
  | register pattern =>
    rw [Effect.trace, Waiters.after_concat]
    refine Waiters.sameFor_register pattern fun same => ?_
    exact other pattern (List.mem_append_right _ (List.mem_singleton.mpr (same ▸ rfl)))
  | await waiter kind milliseconds => exact dropping waiter rfl
  | dismiss waiter => exact dropping waiter rfl
  | _ =>
    show (Waiters.after v.events).SameFor number (Waiters.after (v.events ++ []))
    rw [List.append_nil]
    exact .refl number _

end Ownership

theorem leavesWaiters_requestChecked (kind : RequestKind) (fields : kind.layout.Carrier)
    (status : kind.answer.Carrier → Status) :
    (requestChecked kind fields status).LeavesWaiters :=
  fun _ => .andThen (.request rfl fun _ => trivial) fun _ _ => .check trivial

theorem leavesWaiters_order (kind : ResetKind) (fields : kind.layout.Carrier) :
    (Call.order kind fields).LeavesWaiters :=
  fun _ => ⟨rfl, fun _ => trivial⟩

/-- Retrying makes one attempt more than there are leading outcomes that are worth another one,
at most as many more as there are retries, and has the outcome of the last. A call that sends
and waits makes its attempts like that, whatever the radio answers, whoever else uses the
registry and even if it is closed: each attempt registers a waiter under a number that nobody
had, sends once, and waits unless that has failed. When the call has ended, with a result or a
failure, nothing of its waiters is left. If sending does not concern the registry, nothing that
the call does changes the waiters of others. -/
theorem attempts_bounded_and_tidy :
    (∀ {α : Type} (outcomes : Nat → Except Failure α) (retries : Nat),
      (retry (following outcomes) retries).run.run 0 =
        (outcomes (repetitions outcomes retries), repetitions outcomes retries + 1)) ∧
    ∀ (policy : RetryPolicy) (pattern : Pattern) (send : Call Unit) (past : List Waiters.Event)
        (steps : List Vigil.Step) (v : Vigil (Except Failure pattern.kind.layout.Carrier)),
      Vigil.run ⟨sendAndWait policy pattern send, past, []⟩ steps = some v →
      (∀ result, v.rest = .done result →
        ∃ again last, Repeats (fun trial => ∃ waiter,
            SendsAndWaits pattern policy.milliseconds send waiter trial ∧
              (Waiters.after v.events).Without waiter)
          policy.retries v.deeds result again last) ∧
      (v.deeds.filterMap Deed.number?).Pairwise (· < ·) ∧
      (∀ p waiter, ⟨.register p, waiter⟩ ∈ v.deeds → ∃ before later,
        Waiters.Registers v.events before ⟨waiter, p⟩ later ∧ past <+: before ∧
          ∀ earlier other between, Waiters.Registers before earlier other between →
            other.id < waiter) ∧
      (send.LeavesWaiters → ∀ counter world next, v.apply (.own counter world) = some next →
        ∀ number, (∀ p, ⟨.register p, number⟩ ∉ next.deeds) →
          (Waiters.after v.events).SameFor number (Waiters.after next.events)) := by
  refine ⟨fun outcomes retries => run_retry, ?_⟩
  intro policy pattern send past steps v ran
  have recorded := Vigil.recorded_run ran
  refine ⟨fun result ended => ?_, recorded.growing, fun p waiter member => ?_,
    fun alone counter world next applied number other => ?_⟩
  · have yields : (sendAndWait policy pattern send).Yields (v.deeds ++ []) result :=
      Vigil.yields_run ran [] result (ended ▸ ⟨rfl, rfl⟩)
    rw [List.append_nil] at yields
    obtain ⟨again, last, repeated⟩ := repeats_of_sendAndWait yields
    refine ⟨again, last, { repeated with made := fun trial among => ?_ }⟩
    obtain ⟨waiter, attempt⟩ := repeated.made trial among
    refine ⟨waiter, attempt, ?_⟩
    obtain ⟨back, split, dismissed⟩ := attempt.dismisses
    obtain ⟨front, rest, around⟩ := List.append_of_mem among
    have whole : v.deeds = front.flatMap Trial.deeds ++
        ⟨.register pattern, waiter⟩ :: (back ++ rest.flatMap Trial.deeds) := by
      rw [repeated.whole, around, List.flatMap_append, List.flatMap_cons, split, List.cons_append]
    obtain ⟨before, later, registers, -, done⟩ := recorded.placed _ _ _ _ whole
    exact registers.without (done _ (List.mem_append_left _ dismissed) _ List.mem_cons_self)
  · obtain ⟨front, back, whole⟩ := List.append_of_mem member
    obtain ⟨before, later, registers, behind, -⟩ := recorded.placed _ _ _ _ whole
    refine ⟨before, later, registers, behind, fun earlier other between registered => ?_⟩
    have bound := registered.id_le
    have number := registers.number
    dsimp only at number
    omega
  · exact sameFor_own (Vigil.faithful_run (owns_sendAndWait alone) ran) applied other

/-- What the radio says when it is back. -/
def isBack : IndicationKind.sysResetInd.layout.Carrier :=
  (⟨2, by decide⟩, 2#8, 1#8, 7#8, 1#8, ())

/-- The radio stays away once, and comes back after the second order. -/
def backAtSecond : List Vigil.Step :=
  .replicate 6 (.own .initial quiet) ++ .elsewhere [.dispatch ⟨.sysResetInd, isBack⟩] ::
    .replicate 2 (.own .initial quiet)

theorem attempts_tidy_reset :
    (Call.order .sysResetReq (softReset, ())).LeavesWaiters ∧
    ∃ v again last, Vigil.run ⟨reset .usual, [.register (.any .sysResetInd)], []⟩ backAtSecond =
        some v ∧ v.rest = .done (.ok isBack) ∧
      Repeats (fun trial => ∃ waiter, SendsAndWaits (.any .sysResetInd) 15000
          (Call.order .sysResetReq (softReset, ())) waiter trial ∧
        (Waiters.after v.events).Without waiter) 5 v.deeds (.ok isBack) again last ∧
      (∀ counter world next, v.apply (.own counter world) = some next →
        ∀ number, (∀ p, ⟨.register p, number⟩ ∉ next.deeds) →
          (Waiters.after v.events).SameFor number (Waiters.after next.events)) ∧
      (Waiters.after v.events).completed = [(1, ⟨.sysResetInd, isBack⟩)] := by
  have alone := leavesWaiters_order .sysResetReq (softReset, ())
  have ran : Vigil.run ⟨reset .usual, [.register (.any .sysResetInd)], []⟩ backAtSecond =
    some _ := rfl
  obtain ⟨ended, -, -, frame⟩ := attempts_bounded_and_tidy.2 Timeouts.usual.reset
    (.any .sysResetInd) (Call.order .sysResetReq (softReset, ())) _ _ _ ran
  obtain ⟨again, last, repeated⟩ := ended (.ok isBack) rfl
  exact ⟨alone, _, again, last, ran, rfl, repeated, frame alone, rfl⟩

end Zigbee.Host
