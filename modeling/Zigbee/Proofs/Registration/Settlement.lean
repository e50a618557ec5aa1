import Zigbee.Proofs.Registration.Ledger

/-!
# Everything is settled

What has been heard does not stay under way for ever: the stack and the worker come to an end
with it, whatever the radio answers, and when they have stopped each occurrence has its tiding
with the owner.
-/

namespace Zigbee.Host

open Cluster Database Radio

namespace Ledger

variable {l next : Ledger} {step : Step}

/-! ### The end -/

/-- Whether the stack and the worker have come to their end. -/
structure Stopped (l : Ledger) : Prop where
  dispatching : l.life.host.dispatching = false
  announced : l.life.host.announced.items = []
  work : l.life.work = none

theorem underWay_of_idle (routes : l.life.host.routes.isEmpty = true)
    (announced : l.life.host.announced.items = []) (work : l.life.work = none) :
    l.underWay = 0 := by
  simp only [Routes.isEmpty, Bool.and_eq_true, List.isEmpty_iff] at routes
  obtain ⟨⟨⟨⟨announce, leave⟩, -⟩, incoming⟩, -⟩ := routes
  simp only [underWay, Routes.occurrences, untold, Channel.bag, announce, leave, incoming,
    announced, work, Multiset.coe_nil, Multiset.map_zero, add_zero]

theorem tidings_of_idle (routes : l.life.host.routes.isEmpty = true) :
    l.tidings = (l.collected : Multiset Tiding) + l.life.host.reports.tidings := by
  simp only [Routes.isEmpty, Bool.and_eq_true, List.isEmpty_iff] at routes
  rw [tidings, Channel.bag, routes.2, Multiset.coe_nil, Multiset.map_zero, add_zero]

/-- In the end nothing is under way, and everything there is to learn is with the owner. -/
theorem underWay_of_stopped (sound : l.Sound) (stopped : l.Stopped) : l.underWay = 0 ∧
    l.tidings = (l.collected : Multiset Tiding) + l.life.host.reports.tidings := by
  obtain ⟨-, empty⟩ := sound.stopped stopped.dispatching
  exact ⟨underWay_of_idle empty stopped.announced stopped.work, tidings_of_idle empty⟩

end Ledger

/-! ### What the stack has before it -/

theorem Channel.length_offer_le {α : Type} (c : Channel α) (a : α) :
    (c.offer a).2.items.length ≤ c.items.length + 1 := by
  unfold offer
  split
  · split
    · exact (List.length_append ..).le
    · exact Nat.le_succ _
  · exact Nat.le_succ _

namespace State

/-- How much waits for the stack and the worker. An announcement has to be taken twice. -/
def waiting (s : State) : Nat :=
  3 * (s.routes.announce.items.length + s.routes.leave.items.length +
      s.routes.trustCenter.items.length + s.routes.incoming.items.length +
      s.routes.errors.items.length) +
    2 * s.announced.items.length + s.dispatching.toNat

variable {s next : State}

theorem waiting_takeAnnouncement (taken : s.takeAnnouncement = some next) :
    next.waiting < s.waiting := by
  cases queue : s.routes.announce.items with
  | nil =>
    simp only [takeAnnouncement, queue] at taken
    cases taken
  | cons a rest =>
    simp only [takeAnnouncement, queue] at taken
    obtain rfl := Option.some.inj taken
    have longer := s.announced.length_offer_le a
    simp only [waiting, queue, List.length_cons]
    omega

theorem waiting_takeDeparture (taken : s.takeDeparture = some next) :
    next.waiting < s.waiting := by
  have removed (s : State) (ieee : String) : (s.unregister ieee).waiting = s.waiting := by
    unfold unregister
    split <;> rfl
  unfold takeDeparture at taken
  split at taken
  · cases taken
  · rename_i source ieee flags rest queue
    obtain rfl := Option.some.inj taken
    have length : s.routes.leave.items.length = rest.length + 1 := congrArg List.length queue
    rw [removed]
    simp only [waiting]
    omega

theorem waiting_takeTrustCenter (taken : s.takeTrustCenter = some next) :
    next.waiting < s.waiting := by
  unfold takeTrustCenter at taken
  split at taken
  · cases taken
  · rename_i queue
    obtain rfl := Option.some.inj taken
    simp only [waiting, queue, List.length_cons]
    omega

theorem waiting_takeMessage (taken : s.takeMessage = some next) :
    next.waiting < s.waiting := by
  have processed (s : State) (m : IncomingMessage) : (s.processMessage m).waiting = s.waiting := by
    unfold processMessage
    split
    · rfl
    · split <;> rfl
  unfold takeMessage at taken
  split at taken
  · cases taken
  · rename_i m rest queue
    obtain rfl := Option.some.inj taken
    rw [processed]
    simp only [waiting, queue, List.length_cons]
    omega

theorem waiting_takeFailure (taken : s.takeFailure = some next) : next.waiting < s.waiting := by
  unfold takeFailure at taken
  split at taken
  · cases taken
  · rename_i queue
    obtain rfl := Option.some.inj taken
    simp only [waiting, queue, List.length_cons]
    omega

theorem waiting_stopDispatching (running : s.dispatching = true)
    (stops : s.stopDispatching = some next) : next.waiting < s.waiting := by
  unfold stopDispatching at stops
  split at stops
  · cases stops
  · obtain rfl := Option.some.inj stops
    simp only [waiting, running, Bool.toNat_true, Bool.toNat_false]
    omega

end State

namespace Ledger

variable {l next : Ledger} {step : Step}

/-- The steps of the stack and the worker, if the radio answers so. -/
def ownSteps (world : (effect : Effect) → effect.Answer) : List Step :=
  [.task .takeAnnouncement, .task .takeDeparture, .task .takeTrustCenter, .task .takeMessage,
    .task .takeFailure, .stopDispatching, .task .begin, .task (.effect world), .task .finish]

/-- Whether the stack or the worker comes from one state to the other by a step. -/
def Follows (next l : Ledger) : Prop := ∃ world, ∃ step ∈ ownSteps world, l.apply step = some next

/-- How much the stack and the worker have before them. -/
def backlog (l : Ledger) : Nat := l.life.host.waiting + l.life.work.toList.length

/-- There is less to do after every step, or less of the registration that is being carried
out. -/
theorem backlog_cases {world : (effect : Effect) → effect.Answer} (own : step ∈ ownSteps world)
    (applied : l.apply step = some next) : next.backlog < l.backlog ∨
      next.backlog = l.backlog ∧ ∃ a effect rest answer,
        l.life.work = some (a, .perform effect rest) ∧ next.life.work = some (a, rest answer) := by
  simp only [ownSteps, List.mem_cons, List.not_mem_nil, or_false] at own
  obtain rfl | rfl | rfl | rfl | rfl | rfl | rfl | rfl | rfl := own
  · obtain ⟨-, life, applies, rfl⟩ := task_cases applied rfl
    obtain ⟨a, rest, host, -, taken, rfl⟩ := Lifecycle.announcement_cases applies
    exact .inl (Nat.add_lt_add_right (State.waiting_takeAnnouncement taken) _)
  · obtain ⟨-, life, applies, rfl⟩ := task_cases applied rfl
    obtain ⟨source, ieee, flags, rest, host, -, taken, rfl⟩ := Lifecycle.departure_cases applies
    exact .inl (Nat.add_lt_add_right (State.waiting_takeDeparture taken) _)
  · obtain ⟨-, life, applies, rfl⟩ := task_cases applied rfl
    obtain ⟨host, taken, rfl⟩ := Option.map_eq_some_iff.mp applies
    exact .inl (Nat.add_lt_add_right (State.waiting_takeTrustCenter taken) _)
  · obtain ⟨-, life, applies, rfl⟩ := task_cases applied rfl
    obtain ⟨host, taken, rfl⟩ := Option.map_eq_some_iff.mp applies
    exact .inl (Nat.add_lt_add_right (State.waiting_takeMessage taken) _)
  · obtain ⟨-, life, applies, rfl⟩ := task_cases applied rfl
    obtain ⟨host, taken, rfl⟩ := Option.map_eq_some_iff.mp applies
    exact .inl (Nat.add_lt_add_right (State.waiting_takeFailure taken) _)
  · simp only [apply] at applied
    split at applied
    · rename_i running
      obtain ⟨host, stops, rfl⟩ := Option.map_eq_some_iff.mp applied
      exact .inl (Nat.add_lt_add_right (State.waiting_stopDispatching running.1 stops) _)
    · cases applied
  · obtain ⟨-, life, applies, rfl⟩ := task_cases applied rfl
    obtain ⟨a, rest, idle, queue, rfl⟩ := Lifecycle.begin_cases applies
    left
    simp only [backlog, State.waiting, idle, queue, Option.toList_none, Option.toList_some,
      List.length_nil, List.length_cons]
    omega
  · obtain ⟨-, life, applies, rfl⟩ := task_cases applied rfl
    obtain ⟨a, effect, rest, busy, rfl⟩ := Lifecycle.effect_cases applies
    refine .inr ⟨?_, a, effect, rest, _, busy, rfl⟩
    have same : (Lifecycle.answer l.life.host world effect).2.waiting = l.life.host.waiting := by
      cases effect <;> rfl
    rw [backlog, backlog, busy]
    exact congrArg (· + 1) same
  · obtain ⟨-, life, applies, rfl⟩ := task_cases applied rfl
    obtain ⟨a, result, busy, rfl⟩ := Lifecycle.finish_cases applies
    left
    rw [backlog, backlog, busy]
    exact Nat.lt_succ_self _

/-- The stack and the worker come to an end. The induction is on how much they have before
them, and within that on what is left of the registration. -/
theorem acc_follows (l : Ledger) : Acc Follows l := by
  generalize size : l.backlog = n
  induction n using Nat.strong_induction_on generalizing l with
  | h n ih =>
    have registering (a : Announcement) (rest : Program (Except Failure Unit)) :
        ∀ l : Ledger, l.backlog = n → l.life.work = some (a, rest) → Acc Follows l := by
      induction rest with
      | done result =>
        intro l size work
        refine .intro l fun next ⟨world, step, own, applied⟩ => ?_
        obtain less | ⟨-, _, _, _, _, busy, -⟩ := backlog_cases own applied
        · exact ih _ (size ▸ less) next rfl
        · rw [work] at busy
          cases busy
      | perform effect rest registering =>
        intro l size work
        refine .intro l fun next ⟨world, step, own, applied⟩ => ?_
        obtain less | ⟨same, _, _, _, answer, busy, after⟩ := backlog_cases own applied
        · exact ih _ (size ▸ less) next rfl
        · rw [work] at busy
          cases busy
          exact registering answer next (same.trans size) after
    refine .intro l fun next ⟨world, step, own, applied⟩ => ?_
    obtain less | ⟨same, a, _, rest, answer, -, after⟩ := backlog_cases own applied
    · exact ih _ (size ▸ less) next rfl
    · exact registering a (rest answer) next (same.trans size) after

theorem isSome_task {made : Lifecycle.Step} (running : made.isRunning l.life.host = true)
    (possible : (l.life.apply made).isSome = true) : (l.apply (.task made)).isSome = true := by
  rw [apply, if_pos running, Option.isSome_map]
  exact possible

/-- The stack can make a step as long as something waits for it. -/
theorem exists_dispatch (running : l.life.host.dispatching = true)
    (waits : l.life.host.routes.isEmpty = false) (world : (effect : Effect) → effect.Answer) :
    ∃ step ∈ ownSteps world, (l.apply step).isSome = true := by
  simp only [Routes.isEmpty, Bool.and_eq_false_iff, List.isEmpty_eq_false_iff] at waits
  obtain (((announce | leave) | trustCenter) | incoming) | errors := waits
  · obtain ⟨a, rest, queue⟩ := List.exists_cons_of_ne_nil announce
    refine ⟨.task .takeAnnouncement, by simp [ownSteps], isSome_task running ?_⟩
    simp only [Lifecycle.apply, State.takeAnnouncement, queue, Option.map_some, Option.isSome_some]
  · obtain ⟨⟨source, ieee, flags⟩, rest, queue⟩ := List.exists_cons_of_ne_nil leave
    refine ⟨.task .takeDeparture, by simp [ownSteps], isSome_task running ?_⟩
    simp only [Lifecycle.apply, State.takeDeparture, queue, Option.map_some, Option.isSome_some]
  · obtain ⟨fields, rest, queue⟩ := List.exists_cons_of_ne_nil trustCenter
    refine ⟨.task .takeTrustCenter, by simp [ownSteps], isSome_task running ?_⟩
    simp only [Lifecycle.apply, State.takeTrustCenter, queue, Option.map_some, Option.isSome_some]
  · obtain ⟨m, rest, queue⟩ := List.exists_cons_of_ne_nil incoming
    refine ⟨.task .takeMessage, by simp [ownSteps], isSome_task running ?_⟩
    simp only [Lifecycle.apply, State.takeMessage, queue, Option.map_some, Option.isSome_some]
  · obtain ⟨e, rest, queue⟩ := List.exists_cons_of_ne_nil errors
    refine ⟨.task .takeFailure, by simp [ownSteps], isSome_task running ?_⟩
    simp only [Lifecycle.apply, State.takeFailure, queue, Option.map_some, Option.isSome_some]

/-- As long as something is under way, or the stack has not stopped after the coordinator, the
stack or the worker can make a step, whatever the radio does. -/
theorem exists_own (sound : l.Sound) (world : (effect : Effect) → effect.Answer)
    (busy : l.underWay ≠ 0 ∨ l.life.host.listening = false ∧ ¬ l.Stopped) :
    ∃ step ∈ ownSteps world, (l.apply step).isSome = true := by
  cases work : l.life.work with
  | some registering =>
    obtain ⟨a, rest⟩ := registering
    cases rest with
    | done result =>
      refine ⟨.task .finish, by simp [ownSteps], isSome_task rfl ?_⟩
      simp only [Lifecycle.apply, work, Option.isSome_some]
    | perform effect rest =>
      refine ⟨.task (.effect world), by simp [ownSteps], isSome_task rfl ?_⟩
      simp only [Lifecycle.apply, work, Option.isSome_some]
  | none =>
    cases announced : l.life.host.announced.items with
    | cons a rest =>
      refine ⟨.task .begin, by simp [ownSteps], isSome_task rfl ?_⟩
      simp only [Lifecycle.apply, work, announced, Option.isSome_some]
    | nil =>
      have idle (empty : l.life.host.routes.isEmpty = true) :
          l.life.host.listening = false ∧ ¬ l.Stopped :=
        busy.resolve_left fun waits => waits (underWay_of_idle empty announced work)
      cases running : l.life.host.dispatching with
      | false =>
        have unstopped := (idle (sound.stopped running).2).2
        exact absurd ⟨running, announced, work⟩ unstopped
      | true =>
        cases empty : l.life.host.routes.isEmpty with
        | false => exact exists_dispatch running empty world
        | true =>
          refine ⟨.stopDispatching, by simp [ownSteps], ?_⟩
          simp [apply, running, empty, State.stopDispatching, (idle empty).1]

/-- Whether the host has just been started: nobody has heard anything, and every queue has
somebody who takes what is put into it. -/
structure Fresh (host : State) : Prop where
  routes : host.routes.Attended
  announced : host.announced.attended = true
  reports : host.reports.Attended
  dispatching : host.dispatching = true
  unheard : host.routes.isEmpty = true
  unannounced : host.announced.items = []
  untold : host.reports.isEmpty = true

theorem sound_start {host : State} (fresh : Fresh host) : Sound { life := { host } } := by
  refine ⟨fresh.routes, fresh.announced, fresh.reports, nofun, ?_, 0, ?_, ?_, ?_⟩
  · intro stopped
    exact absurd fresh.dispatching (ne_true_of_eq_false stopped)
  · intro pair member
    exact absurd member (Multiset.notMem_zero _)
  · exact (underWay_of_idle (l := { life := { host } }) fresh.unheard fresh.unannounced rfl).symm
  · have untold := fresh.untold
    simp only [Reports.isEmpty, Bool.and_eq_true, List.isEmpty_iff] at untold
    obtain ⟨⟨⟨⟨registered, available⟩, unregistered⟩, incoming⟩, errors⟩ := untold
    rw [tidings_of_idle fresh.unheard]
    simp only [Reports.tidings, Channel.bag, registered, available, unregistered, incoming, errors]
    rfl

/-- No event of a device is lost in silence. Whatever the tasks do in whatever order, as long as
failures have room, each announcement, departure and message that the coordinator has heard is
under way or the owner learns of it exactly once: by news of the device or the message, or else
by a failure. Nothing else is told but failures that concern no such event. When the stack and
the worker have stopped nothing is under way, and everything there is to learn has reached the
owner. And they do come to an end with what is under way, also after the coordinator has
stopped: some step of theirs is always possible, and no run of their steps goes on for ever. -/
theorem tellsOnce_run {host : State} {steps : List Step} (fresh : Fresh host)
    (roomy : Roomy { life := { host } } steps) (ran : run { life := { host } } steps = some l) :
    l.Balanced ∧
    (l.Stopped → l.underWay = 0 ∧
      l.tidings = (l.collected : Multiset Tiding) + l.life.host.reports.tidings) ∧
    Acc Follows l ∧
    ∀ world, l.underWay ≠ 0 ∨ (l.life.host.listening = false ∧ ¬ l.Stopped) →
      ∃ step ∈ ownSteps world, (l.apply step).isSome = true := by
  have sound := sound_run (sound_start fresh) roomy ran
  exact ⟨sound.balanced, underWay_of_stopped sound, acc_follows l, exists_own sound⟩

instance : Decidable l.HasRoom :=
  decidable_of_iff (l.life.host.routes.errors.items.length < l.life.host.routes.errors.capacity ∧
    l.life.host.reports.errors.items.length < l.life.host.reports.errors.capacity)
    ⟨fun room => ⟨room.1, room.2⟩, fun room => ⟨room.routes, room.reports⟩⟩

instance decidableRoomy : (l : Ledger) → (steps : List Step) → Decidable (l.Roomy steps)
  | _, [] => .isTrue trivial
  | l, step :: rest =>
    have (next : Ledger) : Decidable (next.Roomy rest) := decidableRoomy next rest
    inferInstanceAs (Decidable (l.HasRoom ∧ ∀ next ∈ l.apply step, next.Roomy rest))

/-- A host to which the lamp announces itself, leaves, and announces itself again. -/
def restless : State :=
  let host := Lifecycle.passingBy.host
  let heard := host.mux.indications
  { host with mux := { host.mux with
    indications := { heard with items := heard.items ++ heard.items.take 1 } } }

/-- The host when the line is down. -/
def cutOff : State :=
  { restless with mux := { restless.mux with
    receiver := .ended (.error .transportClosed), writer := .ended (.ok ()), routing := false } }

/-- No request is answered any more. -/
def unreachable : (effect : Effect) → effect.Answer
  | .request _ _ => .error .transportClosed
  | effect => Lifecycle.taciturn effect

/-- The lamp is registered and leaves. When the line goes down its second announcement has been
heard, but nobody has looked at it. -/
def evacuation : List Step :=
  (Lifecycle.opening ++ Lifecycle.registration).map .task ++
  [.collect .registered, .task .listen, .task .listen, .task .takeDeparture, .elsewhere cutOff,
    .stopListening, .task .takeAnnouncement, .stopDispatching, .task .begin] ++
  List.replicate 7 (.task (.effect unreachable)) ++ [.task .finish]

/-- The owner learns that the lamp has come, that it has left, and that it could not be asked
when it came back. -/
theorem tellsOnce_evacuation : ∃ l, run { life := { host := restless } } evacuation = some l ∧
    l.heard.card = 3 ∧ l.underWay = 0 ∧ l.Balanced ∧ l.collected.length = 1 ∧
      l.life.host.reports.unregistered.items.map (·.ieeeAddress) = [Lifecycle.lamp] ∧
      l.life.host.reports.errors.items.map (·.message) =
        ["querying basic metadata: Transport closed"] := by
  have fresh : Fresh restless :=
    ⟨⟨rfl, rfl, rfl, rfl, rfl⟩, rfl, ⟨rfl, rfl, rfl, rfl, rfl⟩, rfl, rfl, rfl, rfl⟩
  let start : Ledger := { life := { host := restless } }
  let l : Ledger := (start.run evacuation).get (by decide +kernel)
  have ran : start.run evacuation = some l := (Option.some_get _).symm
  have stopped : l.Stopped := ⟨by decide +kernel, by decide +kernel, by decide +kernel⟩
  obtain ⟨balanced, told, -, -⟩ := tellsOnce_run fresh (by decide +kernel) ran
  exact ⟨l, ran, by decide +kernel, (told stopped).1, balanced, by decide +kernel,
    by decide +kernel, by decide +kernel⟩

end Ledger

end Zigbee.Host
