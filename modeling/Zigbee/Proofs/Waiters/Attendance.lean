import Mathlib.Logic.Function.Basic
import Zigbee.Host.Schedule
import Zigbee.Proofs.Waiters.Vigil

/-!
# The calls of the host

The host runs a call until it has to wait, and goes on with it once the answer has come; in
between it serves other calls and hands indications to all waiters. To the call this is a
vigil: its effects are answered from the registry as it is by then, and all else happens
elsewhere. So whatever the steps of a vigil keep holds of each call of the host, at whatever
time: `exists_attends_settleFor`.
-/

namespace Zigbee.Host

open Cluster Radio

/-- What a call that waits has still to do. -/
inductive Pending.Resumes : Pending → Rest → Prop where
  | response (ticket : Nat) (kind : RequestKind) (fields : kind.layout.Carrier)
      (next : Except Failure kind.answer.Carrier → Rest) :
      Resumes (.response ticket kind next) (.perform (.request kind fields) next)
  | acceptance (ticket : Nat) (kind : ResetKind) (fields : kind.layout.Carrier)
      (next : Except Failure Unit → Rest) :
      Resumes (.acceptance ticket next) (.perform (.order kind fields) next)
  | indication (waiter : Nat) (kind : IndicationKind) (milliseconds deadline : Nat)
      (next : Except Failure kind.layout.Carrier → Rest) :
      Resumes (.indication waiter kind milliseconds deadline next)
        (.perform (.await waiter kind milliseconds) next)

/-- The steps of a vigil keep the property of the calls. -/
def Lasts (P : Owner → Vigil (Except Failure Reply) → Prop) : Prop :=
  ∀ owner v step next, P owner v → v.apply step = some next → P owner next

theorem Lasts.own {P : Owner → Vigil (Except Failure Reply) → Prop} (lasts : Lasts P)
    {owner : Owner} {effect : Effect} {next : effect.Answer → Rest} {answer : effect.Answer}
    {events : List Waiters.Event} {deeds : List Deed}
    (holds : P owner ⟨.perform effect next, events, deeds⟩)
    (answers : ∃ counter world, effect.respond events counter world = answer) :
    P owner ⟨next answer, events ++ effect.trace, deeds ++ [⟨effect, answer⟩]⟩ := by
  obtain ⟨counter, world, rfl⟩ := answers
  exact lasts owner _ (.own counter world) _ holds rfl

/-- The registry is what its history makes it, and the property holds of each call: of those
that wait where they wait, of those that have ended at their end. -/
structure State.Attends (P : Owner → Vigil (Except Failure Reply) → Prop)
    (events : List Waiters.Event) (s : State) : Prop where
  waiters : s.waiters = Waiters.after events
  tasks : ∀ task ∈ s.tasks,
    ∃ v, P task.owner v ∧ v.events = events ∧ task.pending.Resumes v.rest
  ended : ∀ e ∈ s.ended, ∃ v, P (.caller e.name) v ∧ v.rest = .done e.result

/-- An answer that the registry has no part in may be any. -/
theorem Effect.exists_respond_eq {effect : Effect} {events : List Waiters.Event}
    (free : ∀ counter world, effect.respond events counter world = world effect)
    (answer : effect.Answer) : ∃ counter world, effect.respond events counter world = answer := by
  classical
  exact ⟨.initial, Function.update quiet effect answer, by rw [free, Function.update_self]⟩

theorem Effect.respond_await {events : List Waiters.Event} {counter : TransactionCounter}
    {world : (effect : Effect) → effect.Answer} {waiter milliseconds : Nat}
    {kind : IndicationKind} :
    Effect.respond events counter world (.await waiter kind milliseconds) =
      match (Waiters.after events).expectation waiter with
      | .met i => State.contentOf kind i
      | .possible => .error (.timeout milliseconds kind.name)
      | .lost => .error .transportClosed := by
  rw [Effect.respond, Waiters.waitAlone]
  cases (Waiters.after events).expectation waiter <;> rfl

/-- Of a waiter that has nothing to expect there is nothing to forget. -/
theorem Waiters.remove_of_lost {w : Waiters} {id : Nat} (lost : w.expectation id = .lost) :
    w.remove id = w := by
  unfold expectation at lost
  split at lost
  · cases lost
  · rename_i absent
    split at lost
    · cases lost
    · rename_i idle
      have pending : w.pending.filter (·.id != id) = w.pending := by
        refine List.filter_eq_self.mpr fun waiter member => bne_iff_ne.mpr fun same => idle ?_
        exact List.any_eq_true.mpr ⟨waiter, member, beq_iff_eq.mpr same⟩
      have completed : w.completed.filter (·.1 != id) = w.completed := by
        refine List.filter_eq_self.mpr fun entry member => bne_iff_ne.mpr fun same => ?_
        simpa [same] using List.lookup_eq_none_iff.mp absent entry member
      rw [remove, pending, completed]

namespace State

variable {P : Owner → Vigil (Except Failure Reply) → Prop} {s t : State} {owner : Owner}
variable {events more : List Waiters.Event} {deeds : List Deed} {held : List Nat}

/-- A host that has not begun anything. -/
theorem attends_initial (waiters : s.waiters = {}) (tasks : s.tasks = []) (ended : s.ended = []) :
    s.Attends P [] where
  waiters := waiters
  tasks _ member := absurd (tasks ▸ member) List.not_mem_nil
  ended _ member := absurd (ended ▸ member) List.not_mem_nil

/-- Whatever the host does beside its calls is elsewhere to them. -/
theorem Attends.elsewhere (lasts : Lasts P) (h : s.Attends P events)
    (waiters : t.waiters = Waiters.after (events ++ more)) (tasks : t.tasks ⊆ s.tasks)
    (ended : t.ended = s.ended) : t.Attends P (events ++ more) where
  waiters := waiters
  tasks task member := by
    obtain ⟨v, holds, same, resumes⟩ := h.tasks task (tasks member)
    refine ⟨{ v with events := v.events ++ more }, ?_, congrArg (· ++ more) same, resumes⟩
    exact lasts task.owner v (.elsewhere more) _ holds rfl
  ended := ended ▸ h.ended

/-- A change that concerns neither the waiters nor the calls. -/
theorem Attends.aside (h : s.Attends P events) (waiters : t.waiters = s.waiters)
    (tasks : t.tasks ⊆ s.tasks) (ended : t.ended = s.ended) : t.Attends P events where
  waiters := waiters.trans h.waiters
  tasks task member := h.tasks task (tasks member)
  ended := ended ▸ h.ended

/-- The registry need not have changed. -/
theorem Attends.still (h : s.Attends P events) : ∃ more, s.Attends P (events ++ more) :=
  ⟨[], (List.append_nil events).symm ▸ h⟩

theorem Attends.complete {result : Except Failure Reply} (h : s.Attends P events)
    (holds : P owner ⟨.done result, events, deeds⟩) :
    (s.complete owner result).Attends P events := by
  cases owner with
  | caller name =>
    refine ⟨h.waiters, h.tasks, fun e member => ?_⟩
    obtain old | new := List.mem_append.mp member
    · exact h.ended e old
    · obtain rfl := List.mem_singleton.mp new
      exact ⟨_, holds, rfl⟩
  | starter | registrar => exact ⟨h.waiters, h.tasks, h.ended⟩

theorem Attends.suspend {rest : Rest} {pending : Pending} (h : s.Attends P events)
    (holds : P owner ⟨rest, events, deeds⟩) (resumes : pending.Resumes rest) :
    (s.suspend owner held pending).Attends P events where
  waiters := h.waiters
  tasks task member := by
    obtain old | new := List.mem_append.mp member
    · exact h.tasks task old
    · obtain rfl := List.mem_singleton.mp new
      exact ⟨_, holds, rfl, resumes⟩
  ended := h.ended

/-- To run a call on is a vigil. -/
theorem Attends.advance (lasts : Lasts P) {rest : Rest} (h : s.Attends P events)
    (holds : P owner ⟨rest, events, deeds⟩) :
    ∃ more, (s.advance owner held rest).Attends P (events ++ more) := by
  induction rest generalizing s events deeds held with
  | done result => exact (h.complete holds).still
  | perform effect next ih =>
    have goes {t : State} {held : List Nat} {answer : effect.Answer}
        (answers : ∃ counter world, effect.respond events counter world = answer)
        (waiters : t.waiters = Waiters.after (events ++ effect.trace))
        (tasks : t.tasks = s.tasks) (ended : t.ended = s.ended) :
        ∃ more, (t.advance owner held (next answer)).Attends P (events ++ more) := by
      obtain ⟨more, attends⟩ := ih answer
        (h.elsewhere lasts waiters (tasks ▸ List.Subset.refl _) ended) (lasts.own holds answers)
      exact ⟨effect.trace ++ more, List.append_assoc .. ▸ attends⟩
    have waits {t : State} {pending : Pending} (resumes : pending.Resumes (.perform effect next))
        (waiters : t.waiters = s.waiters) (tasks : t.tasks = s.tasks) (ended : t.ended = s.ended) :
        ∃ more, (t.suspend owner held pending).Attends P (events ++ more) := by
      exact (Attends.suspend (h.aside waiters (tasks ▸ List.Subset.refl _) ended) holds
        resumes).still
    have unchanged : s.waiters = Waiters.after (events ++ []) := by rw [List.append_nil, h.waiters]
    cases effect with
    | request kind fields =>
      rw [State.advance]
      split
      · exact goes (Effect.exists_respond_eq (fun _ _ => rfl) _) unchanged rfl rfl
      · exact waits (.response _ kind fields next) rfl rfl rfl
    | order kind fields =>
      rw [State.advance]
      split
      · exact goes (Effect.exists_respond_eq (fun _ _ => rfl) _) unchanged rfl rfl
      · exact waits (.acceptance _ kind fields next) rfl rfl rfl
    | register pattern =>
      rw [State.advance, h.waiters]
      exact goes ⟨.initial, quiet, rfl⟩ (Waiters.after_concat events (.register pattern)).symm
        rfl rfl
    | await waiter kind milliseconds =>
      have removed : Waiters.after (events ++ (Effect.await waiter kind milliseconds).trace) =
          s.waiters.remove waiter := by
        rw [h.waiters]
        exact Waiters.after_concat events (.drop waiter)
      rw [State.advance]
      split
      · rename_i i met
        exact goes ⟨.initial, quiet, by rw [Effect.respond_await, ← h.waiters, met]⟩ removed.symm
          rfl rfl
      · rename_i lost
        refine goes ⟨.initial, quiet, by rw [Effect.respond_await, ← h.waiters, lost]⟩ ?_ rfl rfl
        rw [removed, Waiters.remove_of_lost lost]
      · exact waits (.indication waiter kind milliseconds _ next) rfl rfl rfl
    | dismiss waiter =>
      rw [State.advance, h.waiters]
      exact goes (Effect.exists_respond_eq (fun _ _ => rfl) _)
        (Waiters.after_concat events (.drop waiter)).symm rfl rfl
    | encode builder =>
      rw [State.advance]
      exact goes ⟨s.counter, quiet, rfl⟩ unchanged rfl rfl
    | localTime | networkAddress | adoptAddress address | device ieee | devices
    | linkQuality ieee | insert d | publish news =>
      rw [State.advance]
      exact goes (Effect.exists_respond_eq (fun _ _ => rfl) _) unchanged rfl rfl

theorem Attends.begin (lasts : Lasts P) {call : Call Reply} (h : s.Attends P events)
    (holds : P owner ⟨call, events, []⟩) :
    ∃ more, (s.begin owner call).Attends P (events ++ more) :=
  h.advance lasts holds

/-- A call that is given up forgets its waiters. -/
theorem Attends.cancel (lasts : Lasts P) (h : s.Attends P events) (name : String) :
    ∃ more, (s.cancel name).Attends P (events ++ more) := by
  have forgotten (held : List Nat) : held.foldl Waiters.remove (Waiters.after events) =
      Waiters.after (events ++ held.map .drop) := by
    rw [Waiters.after, Waiters.after, List.foldl_append, List.foldl_map]
    rfl
  unfold State.cancel
  split
  · exact h.still
  · rename_i task found
    refine ⟨task.held.map .drop, h.elsewhere lasts ?_ List.filter_sublist.subset rfl⟩
    rw [← forgotten, ← h.waiters]

/-- A call goes on when its answer has come. -/
theorem Attends.goes (lasts : Lasts P) {effect : Effect} {next : effect.Answer → Rest}
    {answer : effect.Answer} (h : s.Attends P events)
    (holds : P owner ⟨.perform effect next, events, deeds⟩)
    (answers : ∃ counter world, effect.respond events counter world = answer)
    (waiters : t.waiters = Waiters.after (events ++ effect.trace)) (tasks : t.tasks ⊆ s.tasks)
    (ended : t.ended = s.ended) :
    ∃ more, (t.advance owner held (next answer)).Attends P (events ++ more) := by
  obtain ⟨more, attends⟩ :=
    (h.elsewhere lasts waiters tasks ended).advance lasts (lasts.own holds answers)
  exact ⟨effect.trace ++ more, List.append_assoc .. ▸ attends⟩

theorem Attends.takeOutcome (lasts : Lasts P) (h : s.Attends P events)
    (step : s.takeOutcome = some t) : ∃ more, t.Attends P (events ++ more) := by
  have unchanged : s.waiters = Waiters.after (events ++ []) := by rw [List.append_nil, h.waiters]
  unfold State.takeOutcome State.extract at step
  split at step
  · cases step
  rename_i ticket outcome rest outcomes
  dsimp only at step
  cases found : s.tasks.find? (Task.awaits ticket) with
  | none =>
    rw [found] at step
    obtain rfl := Option.some.inj step
    exact ⟨[], h.elsewhere lasts unchanged (List.Subset.refl _) rfl⟩
  | some task =>
    rw [found] at step
    obtain rfl := Option.some.inj step
    obtain ⟨owner, held, pending⟩ := task
    obtain ⟨⟨_, _, deeds⟩, holds, rfl, resumes⟩ := h.tasks _ (List.mem_of_find?_eq_some found)
    cases resumes with
    | response | acceptance =>
      exact h.goes lasts holds (Effect.exists_respond_eq (fun _ _ => rfl) _) unchanged
        List.eraseP_subset rfl
    | indication => exact ⟨[], h.elsewhere lasts unchanged List.eraseP_subset rfl⟩

/-- Whichever of two steps is made. -/
theorem of_orElse {α : Type} {first second : Option α} {a : α} {Q : Prop}
    (made : (first <|> second) = some a) (left : first = some a → Q)
    (right : second = some a → Q) : Q := by
  cases first with
  | some b => exact left made
  | none => exact right made

theorem mem_tasks_of_dueTask {task : Task} (due : s.dueTask = some task) : task ∈ s.tasks := by
  refine of_orElse due (fun met => ?_) List.mem_of_find?_eq_some
  obtain ⟨entry, -, found⟩ := List.exists_of_findSome?_eq_some met
  exact List.mem_of_find?_eq_some found

theorem Attends.takeIndicationOfCall (lasts : Lasts P) (h : s.Attends P events)
    (step : s.takeIndicationOfCall = some t) : ∃ more, t.Attends P (events ++ more) := by
  unfold State.takeIndicationOfCall at step
  cases due : s.dueTask with
  | none =>
    rw [due] at step
    cases step
  | some task =>
    rw [due] at step
    obtain ⟨owner, held, pending⟩ := task
    obtain ⟨⟨_, _, deeds⟩, holds, rfl, resumes⟩ := h.tasks _ (mem_tasks_of_dueTask due)
    cases resumes with
    | response | acceptance => cases step
    | indication waiter kind milliseconds deadline next =>
      obtain rfl := Option.some.inj step
      refine h.goes lasts holds ⟨.initial, quiet, ?_⟩ ?_ List.eraseP_subset rfl
      · cases expected : s.waiters.expectation waiter <;>
          rw [Effect.respond_await, ← h.waiters, expected]
      · rw [h.waiters]
        exact (Waiters.after_concat _ (.drop waiter)).symm

/-- A step of the coordinator: the waiters see what the radio tells, and its end. -/
theorem Attends.listen (lasts : Lasts P) (h : s.Attends P events) (step : s.listen = some t) :
    ∃ more, t.Attends P (events ++ more) := by
  unfold State.listen at step
  split at step
  swap
  · cases step
  refine of_orElse step (fun taken => ?_) fun step =>
    of_orElse step (fun failed => ?_) fun ended => ?_
  · unfold takeIndication at taken
    split at taken
    · cases taken
    · rename_i i rest indications
      obtain rfl := Option.some.inj taken
      refine ⟨[.dispatch i], h.elsewhere lasts ?_ (List.Subset.refl _) rfl⟩
      rw [h.waiters]
      exact (Waiters.after_concat events (.dispatch i)).symm
  · unfold takeLineError at failed
    split at failed
    · cases failed
    · obtain rfl := Option.some.inj failed
      exact Attends.still (h.aside rfl (List.Subset.refl _) rfl)
  · unfold stopListening at ended
    split at ended
    · obtain rfl := Option.some.inj ended
      refine ⟨[.close], h.elsewhere lasts ?_ (List.Subset.refl _) rfl⟩
      rw [h.waiters]
      exact (Waiters.after_concat events .close).symm
    · cases ended

theorem Attends.dispatch (h : s.Attends P events) (step : s.dispatch = some t) :
    t.Attends P events := by
  have aside {t : State} (waiters : t.waiters = s.waiters) (tasks : t.tasks = s.tasks)
      (ended : t.ended = s.ended) : t.Attends P events :=
    h.aside waiters (tasks ▸ List.Subset.refl _) ended
  unfold State.dispatch at step
  split at step
  swap
  · cases step
  refine of_orElse step (fun step => ?_) fun step => of_orElse step (fun step => ?_) fun step =>
    of_orElse step (fun step => ?_) fun step => of_orElse step (fun step => ?_) fun step =>
    of_orElse step (fun step => ?_) fun step => ?_
  · unfold takeAnnouncement at step
    split at step <;> cases step
    exact aside rfl rfl rfl
  · unfold takeDeparture at step
    split at step <;> cases step
    unfold unregister
    split <;> exact aside rfl rfl rfl
  · unfold takeTrustCenter at step
    split at step <;> cases step
    exact aside rfl rfl rfl
  · unfold takeMessage at step
    split at step <;> cases step
    unfold processMessage
    split
    · exact aside rfl rfl rfl
    · split <;> exact aside rfl rfl rfl
  · unfold takeFailure at step
    split at step <;> cases step
    exact aside rfl rfl rfl
  · unfold stopDispatching at step
    split at step <;> cases step
    exact aside rfl rfl rfl

/-- The property holds of registrations as they begin. -/
def CoversRegistrations (P : Owner → Vigil (Except Failure Reply) → Prop) : Prop :=
  ∀ timeouts a events, P .registrar ⟨(do register timeouts a; return .nothing : Call Reply),
    events, []⟩

theorem Attends.registerNext (lasts : Lasts P) (covers : CoversRegistrations P)
    (h : s.Attends P events) (step : s.registerNext = some t) :
    ∃ more, t.Attends P (events ++ more) := by
  unfold State.registerNext at step
  split at step
  · cases step
  · rename_i a rest announced
    split at step
    · cases step
    · obtain rfl := Option.some.inj step
      refine Attends.begin lasts ?_ (covers s.setting.config.timeouts a events)
      exact h.aside rfl (List.Subset.refl _) rfl

/-- A step of the host. -/
theorem Attends.next (lasts : Lasts P) (covers : CoversRegistrations P) (h : s.Attends P events)
    (step : s.next? = some t) : ∃ more, t.Attends P (events ++ more) := by
  refine of_orElse step (fun step => ?_) fun step => of_orElse step (fun step => ?_) fun step =>
    of_orElse step (h.listen lasts) fun step => of_orElse step (fun step => ?_) fun step =>
    of_orElse step (h.takeOutcome lasts) fun step => of_orElse step (h.takeIndicationOfCall lasts)
    fun step => of_orElse step (h.registerNext lasts covers) fun step => ?_
  · unfold capture at step
    split at step <;> cases step
    exact Attends.still (h.aside rfl (List.Subset.refl _) rfl)
  · exact (h.dispatch step).still
  · obtain ⟨mux, -, rfl⟩ := Option.map_eq_some_iff.mp step
    exact Attends.still (h.aside rfl (List.Subset.refl _) rfl)
  · unfold writeLog at step
    split at step <;> cases step
    exact Attends.still (h.aside rfl (List.Subset.refl _) rfl)

/-- However many steps the host makes, what the steps of a vigil keep holds of its calls. -/
theorem exists_attends_settleFor (lasts : Lasts P) (covers : CoversRegistrations P)
    (h : s.Attends P events) (fuel : Nat) :
    ∃ more, (settleFor fuel s).Attends P (events ++ more) := by
  induction fuel generalizing s events with
  | zero => exact h.still
  | succ fuel ih =>
    unfold settleFor
    split
    · exact h.still
    · rename_i next step
      obtain ⟨more, h⟩ := h.next lasts covers step
      obtain ⟨further, h⟩ := ih h
      exact ⟨more ++ further, List.append_assoc .. ▸ h⟩

/-! ### Calls as runs of vigils -/

/-- The vigil is that of one of the calls, after steps. -/
def Begun (calls : Owner → Call Reply → Prop) (owner : Owner)
    (v : Vigil (Except Failure Reply)) : Prop :=
  ∃ call past steps, calls owner call ∧ Vigil.run ⟨call, past, []⟩ steps = some v

theorem lasts_begun (calls : Owner → Call Reply → Prop) : Lasts (Begun calls) := by
  rintro owner v step next ⟨call, past, steps, begun, ran⟩ applied
  exact ⟨call, past, steps ++ [step], begun, Vigil.run_concat ran applied⟩

/-- A call of the host, waiting or ended, is what a vigil has come to that began with the call. -/
theorem exists_attends_begun {calls : Owner → Call Reply → Prop}
    (registers : ∀ timeouts a, calls .registrar (do register timeouts a; return .nothing))
    (h : s.Attends (Begun calls) events) (fuel : Nat) :
    ∃ more, (settleFor fuel s).Attends (Begun calls) (events ++ more) :=
  exists_attends_settleFor (lasts_begun calls)
    (fun timeouts a events => ⟨_, events, [], registers timeouts a, rfl⟩) h fuel

end State

end Zigbee.Host
