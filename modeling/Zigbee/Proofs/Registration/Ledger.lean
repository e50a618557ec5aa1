import Zigbee.Proofs.Registration.Order
import Zigbee.Proofs.Registration.Tidings

/-!
# Nothing is lost in silence

A `Ledger` is a `Lifecycle` with an owner who takes, whenever it likes, what it is told. The
coordinator, the stack, the worker and the owner make their steps in any order; the coordinator
may stop at any time, and the stack stops when it has dealt with what is left. As long as
failures have room, each occurrence that has been heard is either still under way, or the owner
learns of it exactly once. And what is under way is dealt with, whatever the radio does.
-/

namespace Zigbee.Host

open Cluster Database Radio

/-! ### The owner -/

/-- A queue of the owner. -/
inductive Outlet where
  | registered
  | becameAvailable
  | unregistered
  | incoming
  | errors

/-- The first thing in a queue, and the queue without it. -/
def Channel.take? {α : Type} (c : Channel α) : Option (α × Channel α) :=
  match c.items with
  | [] => none
  | a :: rest => some (a, { c with items := rest })

/-- The first thing that waits in a queue of the owner, and what waits after it. -/
def Reports.take? (r : Reports) : Outlet → Option (Tiding × Reports)
  | .registered => r.registered.take?.map fun (d, queue) =>
    (.news (.registered d), { r with registered := queue })
  | .becameAvailable => r.becameAvailable.take?.map fun (d, queue) =>
    (.news (.becameAvailable d), { r with becameAvailable := queue })
  | .unregistered => r.unregistered.take?.map fun (d, queue) =>
    (.news (.unregistered d), { r with unregistered := queue })
  | .incoming => r.incoming.take?.map fun (m, queue) => (.incoming m, { r with incoming := queue })
  | .errors => r.errors.take?.map fun (e, queue) => (.failure e, { r with errors := queue })

theorem Channel.take?_cases {α : Type} {c rest : Channel α} {a : α}
    (taken : c.take? = some (a, rest)) :
    rest.attended = c.attended ∧ c.bag = rest.bag + {a} := by
  unfold take? at taken
  split at taken
  · cases taken
  · rename_i first items queue
    obtain ⟨rfl, rfl⟩ := Prod.mk.inj (Option.some.inj taken)
    exact ⟨rfl, bag_take queue⟩

/-- What the owner takes does not wait for it any more. -/
theorem Reports.take?_cases {r rest : Reports} {outlet : Outlet} {t : Tiding}
    (attended : r.Attended) (taken : r.take? outlet = some (t, rest)) :
    rest.Attended ∧ r.tidings = rest.tidings + {t} := by
  cases outlet with
  | registered =>
    obtain ⟨⟨d, queue⟩, first, ⟨⟩⟩ := Option.map_eq_some_iff.mp taken
    obtain ⟨attends, less⟩ := Channel.take?_cases first
    refine ⟨{ attended with registered := attends.trans attended.registered }, ?_⟩
    simp only [tidings, less, Multiset.map_add, Multiset.map_singleton]
    abel
  | becameAvailable =>
    obtain ⟨⟨d, queue⟩, first, ⟨⟩⟩ := Option.map_eq_some_iff.mp taken
    obtain ⟨attends, less⟩ := Channel.take?_cases first
    refine ⟨{ attended with becameAvailable := attends.trans attended.becameAvailable }, ?_⟩
    simp only [tidings, less, Multiset.map_add, Multiset.map_singleton]
    abel
  | unregistered =>
    obtain ⟨⟨d, queue⟩, first, ⟨⟩⟩ := Option.map_eq_some_iff.mp taken
    obtain ⟨attends, less⟩ := Channel.take?_cases first
    refine ⟨{ attended with unregistered := attends.trans attended.unregistered }, ?_⟩
    simp only [tidings, less, Multiset.map_add, Multiset.map_singleton]
    abel
  | incoming =>
    obtain ⟨⟨m, queue⟩, first, ⟨⟩⟩ := Option.map_eq_some_iff.mp taken
    obtain ⟨attends, less⟩ := Channel.take?_cases first
    refine ⟨{ attended with incoming := attends.trans attended.incoming }, ?_⟩
    simp only [tidings, less, Multiset.map_add, Multiset.map_singleton]
    abel
  | errors =>
    obtain ⟨⟨e, queue⟩, first, ⟨⟩⟩ := Option.map_eq_some_iff.mp taken
    obtain ⟨attends, less⟩ := Channel.take?_cases first
    refine ⟨{ attended with errors := attends.trans attended.errors }, ?_⟩
    simp only [tidings, less, Multiset.map_add, Multiset.map_singleton]
    abel

/-! ### The tasks and the owner together -/

/-- Whether nothing waits behind the coordinator. -/
def Routes.isEmpty (r : Routes) : Bool :=
  r.announce.items.isEmpty && r.leave.items.isEmpty && r.trustCenter.items.isEmpty &&
    r.incoming.items.isEmpty && r.errors.items.isEmpty

/-- The stack finds nothing to do only if nothing waits. -/
theorem State.isEmpty_of_stuck {s : State} (announce : s.takeAnnouncement = none)
    (leave : s.takeDeparture = none) (trustCenter : s.takeTrustCenter = none)
    (incoming : s.takeMessage = none) (errors : s.takeFailure = none) :
    s.routes.isEmpty = true := by
  simp only [Routes.isEmpty, Bool.and_eq_true, List.isEmpty_iff]
  refine ⟨⟨⟨⟨?_, ?_⟩, ?_⟩, ?_⟩, ?_⟩
  · unfold takeAnnouncement at announce
    split at announce
    · assumption
    · cases announce
  · unfold takeDeparture at leave
    split at leave
    · assumption
    · cases leave
  · unfold takeTrustCenter at trustCenter
    split at trustCenter
    · assumption
    · cases trustCenter
  · unfold takeMessage at incoming
    split at incoming
    · assumption
    · cases incoming
  · unfold takeFailure at errors
    split at errors
    · assumption
    · cases errors

/-- Whether the task that makes the step still runs. -/
def Lifecycle.Step.isRunning (host : State) : Lifecycle.Step → Bool
  | .listen => host.listening
  | .takeAnnouncement | .takeDeparture | .takeTrustCenter | .takeMessage | .takeFailure =>
    host.dispatching
  | .elsewhere _ => false
  | .save | .begin | .effect _ | .finish => true

/-- What is left of a registration still has to tell of the announcement. -/
def Program.untold (a : Announcement) : Program (Except Failure Unit) → Multiset Occurrence
  | .done (.ok ()) => 0
  | _ => {.announced a}

/-- Whether each occurrence that has been heard is under way or has been settled by one tiding,
and there are no other tidings than these and the failures that concern no occurrence. -/
def Balances (heard underWay : Multiset Occurrence) (tidings : Multiset Tiding)
    (failures : Multiset Failure) : Prop :=
  ∃ settled : Multiset (Occurrence × Tiding), (∀ pair ∈ settled, pair.1.Suits pair.2) ∧
    heard = settled.map Prod.fst + underWay ∧
    tidings = settled.map Prod.snd + failures.map .failure

namespace Balances

variable {heard underWay : Multiset Occurrence} {tidings : Multiset Tiding}
  {failures : Multiset Failure} {o : Occurrence} {t : Tiding}

/-- Something is heard. -/
theorem hear (h : Balances heard underWay tidings failures) (o : Occurrence) :
    Balances (heard + {o}) (underWay + {o}) tidings failures := by
  obtain ⟨settled, suits, rfl, rfl⟩ := h
  exact ⟨settled, suits, add_assoc .., rfl⟩

/-- Something that has been heard is told. -/
theorem settle (h : Balances heard (underWay + {o}) tidings failures) (suits : o.Suits t) :
    Balances heard underWay (tidings + {t}) failures := by
  obtain ⟨settled, before, rfl, rfl⟩ := h
  refine ⟨settled + {(o, t)}, ?_, ?_, ?_⟩
  · intro pair member
    obtain old | new := Multiset.mem_add.mp member
    · exact before pair old
    · obtain rfl := Multiset.mem_singleton.mp new
      exact suits
  · rw [Multiset.map_add, Multiset.map_singleton]
    abel
  · rw [Multiset.map_add, Multiset.map_singleton]
    abel

/-- A failure is told that concerns nothing that has been heard. -/
theorem fail (h : Balances heard underWay tidings failures) (failed : Multiset Failure) :
    Balances heard underWay (tidings + failed.map .failure) (failures + failed) := by
  obtain ⟨settled, suits, rfl, rfl⟩ := h
  refine ⟨settled, suits, rfl, ?_⟩
  rw [Multiset.map_add, add_assoc]

end Balances

/-- The host, its owner, and their history. -/
structure Ledger where
  life : Lifecycle
  /-- The failures that concern no occurrence. -/
  failures : List Failure := []
  /-- What the owner has taken. -/
  collected : List Tiding := []

namespace Ledger

/-- What one of the tasks or the owner does next. -/
inductive Step where
  | task (step : Lifecycle.Step)
  /-- The coordinator passes a failure of the multiplexer on. -/
  | lineError
  | stopListening
  | stopDispatching
  /-- The owner takes something. -/
  | collect (outlet : Outlet)
  /-- Everything in the host that is not between the coordinator and the owner becomes what it
  is in the given state. -/
  | elsewhere (other : State)

variable (l : Ledger)

/-- The ledger with another host. -/
def withHost (host : State) : Ledger := { l with life := { l.life with host } }

/-- The failure that a step leads to besides the occurrences. -/
def aside? : Lifecycle.Step → Option Failure
  | .listen => l.life.host.mux.indications.items.head?.bind l.life.host.routes.aside?
  | _ => none

/-- What a step does. -/
def apply : Step → Option Ledger
  | .task step =>
    if step.isRunning l.life.host then
      (l.life.apply step).map fun life =>
        { l with life, failures := l.failures ++ (l.aside? step).toList }
    else none
  | .lineError =>
    if l.life.host.listening then
      match l.life.host.mux.errors.items with
      | [] => none
      | e :: _ => l.life.host.takeLineError.map fun host =>
        { l.withHost host with failures := l.failures ++ [e] }
    else none
  | .stopListening =>
    if l.life.host.listening then l.life.host.stopListening.map l.withHost else none
  | .stopDispatching =>
    if l.life.host.dispatching ∧ l.life.host.routes.isEmpty then
      l.life.host.stopDispatching.map l.withHost
    else none
  | .collect outlet => (l.life.host.reports.take? outlet).map fun (t, reports) =>
    { l.withHost { l.life.host with reports } with collected := l.collected ++ [t] }
  | .elsewhere other => some <| l.withHost { other with
      routes := l.life.host.routes
      announced := l.life.host.announced
      reports := l.life.host.reports
      listening := l.life.host.listening
      dispatching := l.life.host.dispatching }

/-- The state after a list of steps. -/
def run : Ledger → List Step → Option Ledger
  | l, [] => some l
  | l, step :: rest => (l.apply step).bind (·.run rest)

/-! ### What the host does by itself -/

variable {l} in
/-- What the coordinator does next is one of the steps. -/
theorem exists_apply_of_listen {host : State} (goes : l.life.host.listen = some host) :
    ∃ step next, l.apply step = some next ∧ next.life.host = host := by
  unfold State.listen at goes
  split at goes
  swap
  · cases goes
  rename_i running
  simp only [Option.orElse_eq_orElse, Option.orElse_eq_or, Option.or_eq_some_iff] at goes
  obtain taken | ⟨-, failed | ⟨-, ended⟩⟩ := goes
  · cases queue : l.life.host.mux.indications.items with
    | nil =>
      simp only [State.takeIndication, queue] at taken
      cases taken
    | cons i rest =>
      refine ⟨.task .listen, ?_⟩
      simp only [apply, Lifecycle.Step.isRunning, running.1, Lifecycle.apply, queue, taken]
      exact ⟨_, rfl, rfl⟩
  · cases queue : l.life.host.mux.errors.items with
    | nil =>
      simp only [State.takeLineError, queue] at failed
      cases failed
    | cons e rest =>
      refine ⟨.lineError, ?_⟩
      simp only [apply, running.1, queue, failed]
      exact ⟨_, rfl, rfl⟩
  · refine ⟨.stopListening, ?_⟩
    simp only [apply, running.1, ended]
    exact ⟨_, rfl, rfl⟩

variable {l} in
/-- So is what the stack does next. It stops only when nothing is left in its queues. -/
theorem exists_apply_of_dispatch {host : State} (goes : l.life.host.dispatch = some host) :
    ∃ step next, l.apply step = some next ∧ next.life.host = host := by
  unfold State.dispatch at goes
  split at goes
  swap
  · cases goes
  rename_i running
  simp only [Option.orElse_eq_orElse, Option.orElse_eq_or, Option.or_eq_some_iff] at goes
  obtain taken | ⟨announce, taken | ⟨leave, taken | ⟨trustCenter, taken | ⟨incoming, taken |
    ⟨errors, ended⟩⟩⟩⟩⟩ := goes
  · cases queue : l.life.host.routes.announce.items with
    | nil =>
      simp only [State.takeAnnouncement, queue] at taken
      cases taken
    | cons a rest =>
      refine ⟨.task .takeAnnouncement, ?_⟩
      simp only [apply, Lifecycle.Step.isRunning, running.1, Lifecycle.apply, queue, taken]
      exact ⟨_, rfl, rfl⟩
  · cases queue : l.life.host.routes.leave.items with
    | nil =>
      simp only [State.takeDeparture, queue] at taken
      cases taken
    | cons fields rest =>
      obtain ⟨source, ieee, flags⟩ := fields
      refine ⟨.task .takeDeparture, ?_⟩
      simp only [apply, Lifecycle.Step.isRunning, running.1, Lifecycle.apply, queue, taken]
      exact ⟨_, rfl, rfl⟩
  · refine ⟨.task .takeTrustCenter, ?_⟩
    simp only [apply, Lifecycle.Step.isRunning, running.1, Lifecycle.apply, taken]
    exact ⟨_, rfl, rfl⟩
  · refine ⟨.task .takeMessage, ?_⟩
    simp only [apply, Lifecycle.Step.isRunning, running.1, Lifecycle.apply, taken]
    exact ⟨_, rfl, rfl⟩
  · refine ⟨.task .takeFailure, ?_⟩
    simp only [apply, Lifecycle.Step.isRunning, running.1, Lifecycle.apply, taken]
    exact ⟨_, rfl, rfl⟩
  · have empty : l.life.host.routes.isEmpty = true := State.isEmpty_of_stuck announce leave
      trustCenter incoming errors
    refine ⟨.stopDispatching, ?_⟩
    simp only [apply, running.1, empty, ended]
    exact ⟨_, rfl, rfl⟩

/-! ### The account -/

/-- The occurrences that have been heard. -/
def heard : Multiset Occurrence := l.life.heard.filterMap occurrenceOf?

/-- What the worker still has to tell. -/
def untold : Multiset Occurrence :=
  match l.life.work with
  | none => 0
  | some (a, rest) => rest.untold a

/-- The occurrences that somebody still has to deal with. -/
def underWay : Multiset Occurrence :=
  l.life.host.routes.occurrences + l.life.host.announced.bag.map .announced + l.untold

/-- What the owner has learnt, and what is there for it to learn. -/
def tidings : Multiset Tiding :=
  (l.collected : Multiset Tiding) + l.life.host.reports.tidings +
    l.life.host.routes.errors.bag.map .failure

/-- Whether the failures of the coordinator and of the owner have room. -/
structure HasRoom : Prop where
  routes : l.life.host.routes.errors.HasRoom
  reports : l.life.host.reports.errors.HasRoom

/-- Whether the account is balanced. -/
def Balanced : Prop := Balances l.heard l.underWay l.tidings l.failures

variable {l} {next : Ledger} {step : Step}

/-! ### What every step keeps -/

/-- What holds of a ledger along its way. -/
structure Sound (l : Ledger) : Prop where
  routes : l.life.host.routes.Attended
  announced : l.life.host.announced.attended = true
  reports : l.life.host.reports.Attended
  /-- The worker has told of its announcement, or will tell of it. -/
  work : ∀ a rest, l.life.work = some (a, rest) → rest = .done (.ok ()) ∨ rest.TellsOnce a
  /-- The stack stops last, and when nothing is left to do. -/
  stopped : l.life.host.dispatching = false →
    l.life.host.listening = false ∧ l.life.host.routes.isEmpty = true
  balanced : l.Balanced

theorem listen_cases (applied : l.apply (.task .listen) = some next) :
    l.life.host.listening = true ∧ ∃ i mux waiters lost, next = {
      life := { l.life with
        host := { l.life.host with mux, waiters, routes := l.life.host.routes.route i }
        heard := l.life.heard ++ [i]
        lost }
      failures := l.failures ++ (l.life.host.routes.aside? i).toList
      collected := l.collected } := by
  simp only [apply, Lifecycle.apply] at applied
  split at applied
  · rename_i listening
    refine ⟨listening, ?_⟩
    obtain ⟨life, made, rfl⟩ := Option.map_eq_some_iff.mp applied
    split at made
    · cases made
    · rename_i i rest queue
      obtain ⟨host, taken, rfl⟩ := Option.map_eq_some_iff.mp made
      simp only [State.takeIndication, queue] at taken
      obtain rfl := Option.some.inj taken
      have aside : l.aside? .listen = l.life.host.routes.aside? i := by
        simp only [aside?, queue, List.head?_cons, Option.bind_some]
      rw [aside]
      exact ⟨i, _, _, _, rfl⟩
  · cases applied

theorem task_cases {made : Lifecycle.Step} (applied : l.apply (.task made) = some next)
    (aside : l.aside? made = none) : made.isRunning l.life.host = true ∧
      ∃ life, l.life.apply made = some life ∧ next = { l with life } := by
  simp only [apply, aside, Option.toList_none, List.append_nil] at applied
  split at applied
  · rename_i running
    obtain ⟨life, applies, rfl⟩ := Option.map_eq_some_iff.mp applied
    exact ⟨running, life, applies, rfl⟩
  · cases applied

/-! ### The account after a step -/

/-- Nothing is heard or told. -/
theorem Balanced.keep (h : l.Balanced) (heard : next.heard = l.heard)
    (failures : next.failures = l.failures) (underWay : next.underWay = l.underWay)
    (tidings : next.tidings = l.tidings) : next.Balanced := by
  rw [Balanced, heard, failures, underWay, tidings]
  exact h

/-- What was under way is told. -/
theorem Balanced.settle {o : Occurrence} {t : Tiding} (h : l.Balanced) (suits : o.Suits t)
    (heard : next.heard = l.heard) (failures : next.failures = l.failures)
    (underWay : l.underWay = next.underWay + {o}) (tidings : next.tidings = l.tidings + {t}) :
    next.Balanced := by
  rw [Balanced, underWay] at h
  rw [Balanced, heard, failures, tidings]
  exact h.settle suits

/-- A failure is told that concerns nothing that has been heard. -/
theorem Balanced.fail {failed : List Failure} (h : l.Balanced) (heard : next.heard = l.heard)
    (failures : next.failures = l.failures ++ failed) (underWay : next.underWay = l.underWay + 0)
    (tidings : next.tidings = l.tidings + Multiset.map .failure failed) : next.Balanced := by
  rw [Balanced, heard, failures, underWay, add_zero, tidings, ← Multiset.coe_add]
  exact Balances.fail h failed

theorem heard_append {i : Indication} (heard : next.life.heard = l.life.heard ++ [i]) :
    next.heard = l.heard + (occurrenceOf? i).toList := by
  rw [Ledger.heard, heard, List.filterMap_append, ← Multiset.coe_add, List.filterMap_cons]
  cases occurrenceOf? i <;> rfl

/-- What the coordinator hands on is under way. -/
theorem underWay_of_hands {more : Multiset Occurrence} {failed : Multiset Failure}
    (hands : l.life.host.routes.Hands next.life.host.routes more failed)
    (announced : next.life.host.announced = l.life.host.announced)
    (untold : next.untold = l.untold) : next.underWay = l.underWay + more := by
  rw [underWay, underWay, hands.occurrences, announced, untold]
  abel

/-- What has failed in the coordinator is there for the owner to learn. -/
theorem tidings_of_hands {more : Multiset Occurrence} {failed : Multiset Failure}
    (hands : l.life.host.routes.Hands next.life.host.routes more failed)
    (reports : next.life.host.reports = l.life.host.reports)
    (collected : next.collected = l.collected) :
    next.tidings = l.tidings + failed.map .failure := by
  rw [tidings, tidings, hands.failures, reports, collected, Multiset.map_add, ← add_assoc]

theorem sound_listen (sound : l.Sound) (room : l.HasRoom)
    (applied : l.apply (.task .listen) = some next) : next.Sound := by
  obtain ⟨listening, i, mux, waiters, lost, same⟩ := listen_cases applied
  have heard : next.heard = l.heard + (occurrenceOf? i).toList :=
    heard_append (congrArg (·.life.heard) same)
  have failures : next.failures = l.failures ++ (l.life.host.routes.aside? i).toList :=
    congrArg (·.failures) same
  have announced : next.life.host.announced = l.life.host.announced :=
    congrArg (·.life.host.announced) same
  have reports : next.life.host.reports = l.life.host.reports :=
    congrArg (·.life.host.reports) same
  have untold : next.untold = l.untold := by
    rw [same]
    rfl
  have collected : next.collected = l.collected := congrArg (·.collected) same
  have hands := Routes.route_cases sound.routes room.routes i
  rw [show l.life.host.routes.route i = next.life.host.routes by rw [same]] at hands
  obtain ⟨attended, balanced⟩ : next.life.host.routes.Attended ∧ next.Balanced := by
    obtain ⟨o, occurs, none, hands | ⟨e, hands⟩⟩ | ⟨none, hands⟩ := hands
    · have told := Balances.hear sound.balanced o
      refine ⟨hands.attended, ?_⟩
      rw [Balanced, heard, occurs, failures, none, underWay_of_hands hands announced untold,
        tidings_of_hands hands reports collected]
      simpa using told
    -- its queue is full, so what is heard is settled in the same step
    · have told := (Balances.hear sound.balanced o).settle (o.suits_failure e)
      refine ⟨hands.attended, ?_⟩
      rw [Balanced, heard, occurs, failures, none, underWay_of_hands hands announced untold,
        tidings_of_hands hands reports collected]
      simpa using told
    · rw [none] at heard
      exact ⟨hands.attended, sound.balanced.fail (heard.trans (add_zero _)) failures
        (underWay_of_hands hands announced untold) (tidings_of_hands hands reports collected)⟩
  subst same
  exact { sound with
    routes := attended
    balanced := balanced
    stopped := fun stopped => absurd (sound.stopped stopped).1 (ne_true_of_eq_false · listening) }

/-- What the stack tells is there for the owner to learn. -/
theorem tidings_of_tells {t : Tiding}
    (tells : Reports.Tells l.life.host.reports next.life.host.reports t)
    (errors : next.life.host.routes.errors = l.life.host.routes.errors)
    (collected : next.collected = l.collected) : next.tidings = l.tidings + {t} := by
  rw [tidings, tidings, tells.tidings, errors, collected]
  abel

theorem sound_takeAnnouncement (sound : l.Sound) (room : l.HasRoom)
    (applied : l.apply (.task .takeAnnouncement) = some next) : next.Sound := by
  obtain ⟨running, life, applies, rfl⟩ := task_cases applied rfl
  obtain ⟨a, rest, host, queue, taken, rfl⟩ := Lifecycle.announcement_cases applies
  simp only [State.takeAnnouncement, queue] at taken
  obtain rfl := Option.some.inj taken
  have attended := sound.routes
  have waited := Routes.occurrences_announce queue
  obtain ⟨behind, offered, attends, more⟩ | offered := Channel.offer_cases sound.announced a
  · rw [offered]
    refine ⟨{ attended with }, attends, sound.reports, sound.work,
      fun still => absurd running (ne_true_of_eq_false still), sound.balanced.keep rfl rfl ?_ rfl⟩
    rw [underWay, underWay, waited, more, Multiset.map_add, Multiset.map_singleton]
    show _ + _ + l.untold = _
    abel
  · rw [offered]
    have tells := Reports.tells_report sound.reports room.reports
      (.channelFull "registration queue")
    refine ⟨{ attended with }, sound.announced, tells.attended, sound.work,
      fun still => absurd running (ne_true_of_eq_false still), ?_⟩
    refine sound.balanced.settle (Occurrence.suits_failure (.announced a) _) rfl rfl ?_
      (tidings_of_tells tells rfl rfl)
    rw [underWay, underWay, waited]
    show _ = _ + _ + l.untold + _
    abel

theorem sound_takeDeparture (sound : l.Sound) (room : l.HasRoom)
    (applied : l.apply (.task .takeDeparture) = some next) : next.Sound := by
  obtain ⟨running, life, applies, rfl⟩ := task_cases applied rfl
  obtain ⟨source, ieee, flags, rest, host, queue, taken, rfl⟩ := Lifecycle.departure_cases applies
  simp only [State.takeDeparture, queue] at taken
  obtain rfl := Option.some.inj taken
  obtain ⟨store, reports, t, unregistered, tells, suits⟩ := State.tells_unregister
    (s := { l.life.host with routes := { l.life.host.routes with
      leave := { l.life.host.routes.leave with items := rest } } })
    sound.reports room.reports source ieee flags
  obtain ⟨o, suits, waited⟩ : ∃ o : Occurrence, o.Suits t ∧ l.life.host.routes.occurrences =
      Routes.occurrences { l.life.host.routes with
        leave := { l.life.host.routes.leave with items := rest } } + {o} :=
    ⟨_, suits, Routes.occurrences_leave queue⟩
  rw [unregistered]
  refine ⟨{ sound.routes with }, sound.announced, tells.attended, sound.work,
    fun still => absurd running (ne_true_of_eq_false still), ?_⟩
  refine sound.balanced.settle suits rfl rfl ?_ (tidings_of_tells tells rfl rfl)
  rw [underWay, underWay, waited]
  show _ = _ + _ + l.untold + _
  abel

theorem sound_takeMessage (sound : l.Sound) (room : l.HasRoom)
    (applied : l.apply (.task .takeMessage) = some next) : next.Sound := by
  obtain ⟨running, life, applies, rfl⟩ := task_cases applied rfl
  obtain ⟨host, taken, rfl⟩ := Option.map_eq_some_iff.mp applies
  unfold State.takeMessage at taken
  split at taken
  · cases taken
  · rename_i m rest queue
    obtain rfl := Option.some.inj taken
    have waited := Routes.occurrences_incoming queue
    obtain ⟨store, reports, t, processed, tells, suits⟩ := State.tells_processMessage
      (s := { l.life.host with routes := { l.life.host.routes with
        incoming := { l.life.host.routes.incoming with items := rest } } })
      sound.reports room.reports m
    rw [processed]
    refine ⟨{ sound.routes with }, sound.announced, tells.attended, sound.work,
      fun still => absurd running (ne_true_of_eq_false still), ?_⟩
    refine sound.balanced.settle suits rfl rfl ?_ (tidings_of_tells tells rfl rfl)
    rw [underWay, underWay, waited]
    show _ = _ + _ + l.untold + _
    abel

theorem sound_takeTrustCenter (sound : l.Sound)
    (applied : l.apply (.task .takeTrustCenter) = some next) : next.Sound := by
  obtain ⟨running, life, applies, rfl⟩ := task_cases applied rfl
  obtain ⟨host, taken, rfl⟩ := Option.map_eq_some_iff.mp applies
  unfold State.takeTrustCenter at taken
  split at taken
  · cases taken
  · obtain rfl := Option.some.inj taken
    exact ⟨{ sound.routes with }, sound.announced, sound.reports, sound.work,
      fun still => absurd running (ne_true_of_eq_false still), sound.balanced.keep rfl rfl rfl rfl⟩

/-- A failure of the coordinator goes on to the owner. -/
theorem sound_takeFailure (sound : l.Sound) (room : l.HasRoom)
    (applied : l.apply (.task .takeFailure) = some next) : next.Sound := by
  obtain ⟨running, life, applies, rfl⟩ := task_cases applied rfl
  obtain ⟨host, taken, rfl⟩ := Option.map_eq_some_iff.mp applies
  unfold State.takeFailure at taken
  split at taken
  · cases taken
  · rename_i e rest queue
    obtain rfl := Option.some.inj taken
    have tells := Reports.tells_report sound.reports room.reports e
    refine ⟨{ sound.routes with }, sound.announced, tells.attended, sound.work,
      fun still => absurd running (ne_true_of_eq_false still), sound.balanced.keep rfl rfl rfl ?_⟩
    rw [tidings, tidings, tells.tidings, Channel.bag_take queue, Multiset.map_add,
      Multiset.map_singleton]
    show (l.collected : Multiset Tiding) + _ + _ = _
    abel

theorem sound_save (sound : l.Sound) (applied : l.apply (.task .save) = some next) :
    next.Sound := by
  obtain ⟨-, life, applies, rfl⟩ := task_cases applied rfl
  obtain rfl := Option.some.inj applies
  exact { sound with balanced := sound.balanced.keep rfl rfl rfl rfl }

/-- What is left of a registration that has not told the owner. -/
theorem untold_of_tellsOnce {a : Announcement} {rest : Program (Except Failure Unit)}
    (tells : rest.TellsOnce a) : rest.untold a = {.announced a} := by
  cases rest with
  | done result =>
    obtain ⟨e, rfl⟩ := tells
    rfl
  | perform effect next => rfl

theorem sound_begin (sound : l.Sound) (applied : l.apply (.task .begin) = some next) :
    next.Sound := by
  obtain ⟨-, life, applies, rfl⟩ := task_cases applied rfl
  obtain ⟨a, rest, idle, queue, rfl⟩ := Lifecycle.begin_cases applies
  have tells := tellsOnce_register l.life.host.setting.config.timeouts a
  refine { sound with work := ?_, balanced := sound.balanced.keep rfl rfl ?_ rfl }
  · rintro _ _ ⟨⟩
    exact .inr tells
  · simp only [underWay, untold, idle, Channel.bag_take queue, Multiset.map_add,
      Multiset.map_singleton, untold_of_tellsOnce tells]
    abel

theorem answer_of_ne_publish (s : State) (world : (effect : Effect) → effect.Answer)
    {effect : Effect} (silent : ∀ news, effect ≠ .publish news) :
    ∃ store, (Lifecycle.answer s world effect).2 = { s with store } := by
  cases effect with
  | publish news => exact absurd rfl (silent news)
  | _ => exact ⟨_, rfl⟩

theorem sound_finish (sound : l.Sound) (room : l.HasRoom)
    (applied : l.apply (.task .finish) = some next) : next.Sound := by
  obtain ⟨-, life, applies, rfl⟩ := task_cases applied rfl
  obtain ⟨a, result, busy, rfl⟩ := Lifecycle.finish_cases applies
  have work : ∀ b rest, (none : Option (Announcement × Program (Except Failure Unit))) =
      some (b, rest) → rest = .done (.ok ()) ∨ rest.TellsOnce b := nofun
  obtain told | ⟨e, rfl⟩ := sound.work a _ busy
  · obtain rfl := Program.done.inj told
    refine { sound with work := work, balanced := sound.balanced.keep rfl rfl ?_ rfl }
    simp only [underWay, untold, busy]
    rfl
  · have tells := Reports.tells_report sound.reports room.reports e
    refine { sound with work := work, reports := tells.attended, balanced := ?_ }
    refine sound.balanced.settle (Occurrence.suits_failure (.announced a) e) rfl rfl ?_
      (tidings_of_tells tells rfl rfl)
    simp only [underWay, untold, busy]
    show _ + {_} = _ + 0 + {_}
    abel

/-- The announcement is settled when the owner is told of it. If the news do not fit, it stays
under way: the registration ends with the failure, which the owner is then told. -/
theorem sound_effect (sound : l.Sound) {world : (effect : Effect) → effect.Answer}
    (applied : l.apply (.task (.effect world)) = some next) : next.Sound := by
  obtain ⟨-, life, applies, rfl⟩ := task_cases applied rfl
  obtain ⟨a, effect, rest, busy, rfl⟩ := Lifecycle.effect_cases applies
  obtain ⟨⟨⟩⟩ | tells := sound.work a _ busy
  have waits : l.untold = {.announced a} := by
    rw [untold, busy]
    exact untold_of_tellsOnce tells
  have silent (still : ∀ news, effect ≠ .publish news)
      (goes : (rest (Lifecycle.answer l.life.host world effect).1).TellsOnce a) :
      Ledger.Sound { l with life := { l.life with
        host := (Lifecycle.answer l.life.host world effect).2
        work := some (a, rest (Lifecycle.answer l.life.host world effect).1)
        acts := l.life.acts ++ Lifecycle.actsOf l.life.host effect } } := by
    obtain ⟨store, same⟩ := answer_of_ne_publish l.life.host world still
    rw [same]
    refine { sound with work := ?_, balanced := sound.balanced.keep rfl rfl ?_ rfl }
    · rintro _ _ ⟨⟩
      exact .inr goes
    · rw [underWay, underWay, waits]
      exact congrArg _ (untold_of_tellsOnce goes)
  have admits := Lifecycle.admits_answer l.life.host world effect
  cases effect with
  | publish n =>
    obtain ⟨suits, ends⟩ := tells
    obtain ⟨after, published, told⟩ | ⟨e, published⟩ := Reports.publish_cases sound.reports n
    · have answer : Lifecycle.answer l.life.host world (.publish n) =
          (.ok (), { l.life.host with reports := after }) := by
        simp only [Lifecycle.answer, published]
      rw [answer]
      refine { sound with work := ?_, reports := told.attended, balanced := ?_ }
      · rintro _ _ ⟨⟩
        exact .inl (ends (.ok ()))
      · refine sound.balanced.settle suits rfl rfl ?_ (tidings_of_tells told rfl rfl)
        rw [underWay, underWay, waits]
        show _ = _ + (rest (.ok ())).untold a + _
        rw [ends]
        exact (congrArg (· + _) (add_zero _)).symm
    · have answer : Lifecycle.answer l.life.host world (.publish n) = (.error e, l.life.host) := by
        simp only [Lifecycle.answer, published]
      rw [answer]
      have fails : (rest (.error e)).TellsOnce a := by
        rw [ends]
        exact ⟨e, rfl⟩
      refine { sound with work := ?_, balanced := sound.balanced.keep rfl rfl ?_ rfl }
      · rintro _ _ ⟨⟩
        exact .inr fails
      · rw [underWay, underWay, waits]
        exact congrArg _ (untold_of_tellsOnce fails)
  | _ => exact silent nofun (tells _ admits)

theorem sound_lineError (sound : l.Sound) (room : l.HasRoom)
    (applied : l.apply .lineError = some next) : next.Sound := by
  simp only [apply] at applied
  split at applied
  · rename_i listening
    split at applied
    · cases applied
    · rename_i e rest queue
      obtain ⟨host, taken, rfl⟩ := Option.map_eq_some_iff.mp applied
      simp only [State.takeLineError, queue] at taken
      obtain rfl := Option.some.inj taken
      have hands := Routes.hands_report sound.routes room.routes e
      refine { sound with
        routes := hands.attended
        stopped := fun stopped =>
          absurd (sound.stopped stopped).1 (ne_true_of_eq_false · listening)
        balanced := ?_ }
      exact sound.balanced.fail rfl rfl (underWay_of_hands hands rfl rfl)
        (tidings_of_hands hands rfl rfl)
  · cases applied

theorem sound_stopListening (sound : l.Sound) (applied : l.apply .stopListening = some next) :
    next.Sound := by
  simp only [apply] at applied
  split at applied
  · obtain ⟨host, stops, rfl⟩ := Option.map_eq_some_iff.mp applied
    unfold State.stopListening at stops
    split at stops
    · obtain rfl := Option.some.inj stops
      exact { sound with
        stopped := fun stopped => ⟨rfl, (sound.stopped stopped).2⟩
        balanced := sound.balanced.keep rfl rfl rfl rfl }
    · cases stops
  · cases applied

theorem sound_stopDispatching (sound : l.Sound) (applied : l.apply .stopDispatching = some next) :
    next.Sound := by
  simp only [apply] at applied
  split at applied
  · rename_i idle
    obtain ⟨host, stops, rfl⟩ := Option.map_eq_some_iff.mp applied
    unfold State.stopDispatching at stops
    split at stops
    · cases stops
    · rename_i quiet
      obtain rfl := Option.some.inj stops
      exact { sound with
        stopped := fun _ => ⟨eq_false_of_ne_true quiet, idle.2⟩
        balanced := sound.balanced.keep rfl rfl rfl rfl }
  · cases applied

/-- What the owner takes it has learnt. -/
theorem sound_collect (sound : l.Sound) {outlet : Outlet}
    (applied : l.apply (.collect outlet) = some next) : next.Sound := by
  obtain ⟨⟨t, reports⟩, taken, rfl⟩ := Option.map_eq_some_iff.mp applied
  obtain ⟨attended, less⟩ := Reports.take?_cases sound.reports taken
  refine { sound with
    reports := attended
    balanced := sound.balanced.keep rfl rfl rfl ?_ }
  rw [tidings, tidings, less, ← Multiset.coe_add]
  show _ + {t} + reports.tidings + _ = _
  simp only [withHost]
  abel

theorem sound_elsewhere (sound : l.Sound) {other : State}
    (applied : l.apply (.elsewhere other) = some next) : next.Sound := by
  obtain rfl := Option.some.inj applied
  exact { sound with balanced := sound.balanced.keep rfl rfl rfl rfl }

theorem sound_apply (sound : l.Sound) (room : l.HasRoom) (applied : l.apply step = some next) :
    next.Sound := by
  cases step with
  | task made =>
    cases made with
    | listen => exact sound_listen sound room applied
    | takeAnnouncement => exact sound_takeAnnouncement sound room applied
    | takeDeparture => exact sound_takeDeparture sound room applied
    | takeTrustCenter => exact sound_takeTrustCenter sound applied
    | takeMessage => exact sound_takeMessage sound room applied
    | takeFailure => exact sound_takeFailure sound room applied
    | save => exact sound_save sound applied
    | begin => exact sound_begin sound applied
    | effect world => exact sound_effect sound applied
    | finish => exact sound_finish sound room applied
    | elsewhere other => cases applied
  | lineError => exact sound_lineError sound room applied
  | stopListening => exact sound_stopListening sound applied
  | stopDispatching => exact sound_stopDispatching sound applied
  | collect outlet => exact sound_collect sound applied
  | elsewhere other => exact sound_elsewhere sound applied

/-- Whether failures have room whenever something is done. -/
def Roomy : Ledger → List Step → Prop
  | _, [] => True
  | l, step :: rest => l.HasRoom ∧ ∀ next ∈ l.apply step, next.Roomy rest

theorem sound_run {steps : List Step} (sound : l.Sound) (roomy : l.Roomy steps)
    (ran : l.run steps = some next) : next.Sound := by
  induction steps generalizing l with
  | nil =>
    obtain rfl := Option.some.inj ran
    exact sound
  | cons step rest ih =>
    obtain ⟨between, applied, ran⟩ := Option.bind_eq_some_iff.mp ran
    exact ih (sound_apply sound roomy.1 applied) (roomy.2 between applied) ran

end Ledger

end Zigbee.Host
