import Mathlib.Algebra.Order.Group.Multiset
import Mathlib.Tactic.Abel
import Zigbee.Proofs.Multiplexer.Conservation
import Zigbee.Proofs.Registration.Lifecycle

/-!
# What the owner learns

The coordinator hears that devices announce themselves, leave and send messages. Of each such
occurrence the owner is to learn once, as news, as a message, or as a failure. What has been
heard waits in the queues of the routes, and what the owner is to learn in queues of its own;
here both are counted without regard to their order. As long as a failure has room, whatever
is put into one of these queues leaves one thing in them: itself, or a failure in its place.
-/

namespace Zigbee.Database.Store

/-- What has been removed has been there. -/
theorem device?_of_remove {s after : Store} {ieee : String} {d : Device}
    (removed : s.remove ieee = (.ok d, after)) : s.device? ieee = some d := by
  unfold remove at removed
  split at removed
  · cases removed
  · rename_i r found
    split at removed
    · obtain ⟨⟨⟩, rfl⟩ := removed
      exact congrArg (Option.map _) found
    · cases removed

end Zigbee.Database.Store

namespace Zigbee.Host

open Cluster Database Radio Settings

/-- Something that the coordinator hears and the owner is to learn about. -/
inductive Occurrence where
  | announced (a : Announcement)
  | left (fields : IndicationKind.zdoLeaveInd.layout.Carrier)
  | message (m : IncomingMessage)

/-- The occurrence of which an indication tells. -/
def occurrenceOf? : Indication → Option Occurrence
  | ⟨.zdoEndDeviceAnnceInd, fields⟩ => some (.announced fields)
  | ⟨.zdoLeaveInd, fields⟩ => some (.left fields)
  | ⟨.afIncomingMessage, fields⟩ => some (.message (.ofFields fields))
  | _ => none

/-- Something that the owner learns. -/
inductive Tiding where
  | news (n : DeviceNews)
  | incoming (m : DeviceMessage)
  | failure (e : Failure)

/-- Whether the tiding can be what the owner learns of the occurrence. -/
def Occurrence.Suits : Occurrence → Tiding → Prop
  | announced a, .news (.registered d) | announced a, .news (.becameAvailable d) =>
    d.ieeeAddress = a.ieeeAddress ∧ d.networkAddress = a.networkAddress
  | left (_, ieee, _), .news (.unregistered d) => d.ieeeAddress = ieee
  | message m, .incoming told =>
    Message.decode m = .ok told.message ∧ told.device.networkAddress = m.source
  | _, .failure _ => True
  | _, _ => False

theorem Occurrence.suits_failure (o : Occurrence) (e : Failure) : o.Suits (.failure e) := by
  cases o <;> exact trivial

/-! ### Queues without their order -/

namespace Channel

variable {α : Type} {c : Channel α}

/-- What is in the queue, in any order. -/
def bag (c : Channel α) : Multiset α := c.items

/-- Whether something more fits into the queue. -/
def HasRoom (c : Channel α) : Prop := c.items.length < c.capacity

/-- What is offered is taken, or there was no room for it. -/
theorem offer_cases (attended : c.attended = true) (a : α) :
    (∃ taken, c.offer a = (.queued, taken) ∧ taken.attended = true ∧ taken.bag = c.bag + {a}) ∨
      c.offer a = (.full, c) := by
  rw [offer, if_pos attended]
  by_cases room : c.items.length < c.capacity
  · rw [if_pos room]
    exact .inl ⟨_, rfl, attended, (Multiset.coe_add c.items [a]).symm⟩
  · rw [if_neg room]
    exact .inr rfl

theorem bag_push (attended : c.attended = true) (room : c.HasRoom) (a : α) :
    (c.push a).bag = c.bag + {a} := by
  rw [bag, items_push attended, if_pos (show c.items.length < c.capacity from room)]
  exact (Multiset.coe_add c.items [a]).symm

/-- What is taken from the queue is missing in it. -/
theorem bag_take {a : α} {rest : List α} (queue : c.items = a :: rest) :
    c.bag = bag { c with items := rest } + {a} := by
  rw [bag, queue, add_comm]
  exact (Multiset.singleton_add a rest).symm

end Channel

/-- The occurrences that wait behind the coordinator. -/
def Routes.occurrences (r : Routes) : Multiset Occurrence :=
  r.announce.bag.map .announced + r.leave.bag.map .left + r.incoming.bag.map .message

section Waiting

variable {r : Routes}

/-- The first announcement waits, and the rest. -/
theorem Routes.occurrences_announce {a : Announcement} {rest : List Announcement}
    (queue : r.announce.items = a :: rest) : r.occurrences =
      Routes.occurrences { r with announce := { r.announce with items := rest } } +
        {.announced a} := by
  simp only [occurrences, Channel.bag_take queue, Multiset.map_add, Multiset.map_singleton]
  abel

theorem Routes.occurrences_leave {fields : IndicationKind.zdoLeaveInd.layout.Carrier}
    {rest : List IndicationKind.zdoLeaveInd.layout.Carrier}
    (queue : r.leave.items = fields :: rest) : r.occurrences =
      Routes.occurrences { r with leave := { r.leave with items := rest } } + {.left fields} := by
  simp only [occurrences, Channel.bag_take queue, Multiset.map_add, Multiset.map_singleton]
  abel

theorem Routes.occurrences_incoming {m : IncomingMessage} {rest : List IncomingMessage}
    (queue : r.incoming.items = m :: rest) : r.occurrences =
      Routes.occurrences { r with incoming := { r.incoming with items := rest } } +
        {.message m} := by
  simp only [occurrences, Channel.bag_take queue, Multiset.map_add, Multiset.map_singleton]
  abel

end Waiting

/-- What waits for the owner. -/
def Reports.tidings (r : Reports) : Multiset Tiding :=
  r.registered.bag.map (fun d => .news (.registered d)) +
    r.becameAvailable.bag.map (fun d => .news (.becameAvailable d)) +
    r.unregistered.bag.map (fun d => .news (.unregistered d)) +
    r.incoming.bag.map .incoming + r.errors.bag.map .failure

/-- Whether somebody takes what is put into the queues behind the coordinator. -/
structure Routes.Attended (r : Routes) : Prop where
  announce : r.announce.attended = true
  leave : r.leave.attended = true
  trustCenter : r.trustCenter.attended = true
  incoming : r.incoming.attended = true
  errors : r.errors.attended = true

/-- Whether the owner takes what is put into its queues. -/
structure Reports.Attended (r : Reports) : Prop where
  registered : r.registered.attended = true
  becameAvailable : r.becameAvailable.attended = true
  unregistered : r.unregistered.attended = true
  incoming : r.incoming.attended = true
  errors : r.errors.attended = true

/-! ### What the owner is told -/

namespace Reports

/-- Whether the owner is told the one thing more, and still listens. -/
structure Tells (before after : Reports) (t : Tiding) : Prop where
  attended : after.Attended
  tidings : after.tidings = before.tidings + {t}

variable {r : Reports}

/-- A failure that has room is told. -/
theorem tells_report (attended : r.Attended) (room : r.errors.HasRoom) (e : Failure) :
    Tells r (r.report e) (.failure e) where
  attended := { attended with errors := (Channel.kept_push r.errors e).2.trans attended.errors }
  tidings := by
    simp only [tidings, report, Channel.bag_push attended.errors room, Multiset.map_add,
      Multiset.map_singleton]
    abel

/-- What is offered to the owner is told, or there is no room for it. The queue it goes into is
the one that `put` puts back. -/
theorem offer_cases {α : Type} {queue : Channel α} {a : α} {t : Tiding}
    (attended : queue.attended = true) (name : String) (put : Channel α → Reports)
    (same : put queue = r)
    (tells : ∀ taken, taken.attended = true → taken.bag = queue.bag + {a} →
      Tells r (put taken) t) :
    let offer := queue.offer a
    (∃ after, (offer.1.check name, put offer.2) = (.ok (), after) ∧ Tells r after t) ∨
      ∃ e, (offer.1.check name, put offer.2) = (.error e, r) := by
  obtain ⟨taken, offered, attends, more⟩ | offered := Channel.offer_cases attended a
  · rw [offered]
    exact .inl ⟨put taken, rfl, tells taken attends more⟩
  · rw [offered]
    exact .inr ⟨.channelFull name, congrArg _ same⟩

/-- News are told, or there is no room for them. -/
theorem publish_cases (attended : r.Attended) (news : DeviceNews) :
    (∃ after, r.publish news = (.ok (), after) ∧ Tells r after (.news news)) ∨
      ∃ e, r.publish news = (.error e, r) := by
  cases news with
  | registered d =>
    refine offer_cases attended.registered _ (fun queue => { r with registered := queue }) rfl ?_
    intro taken attends more
    refine ⟨{ attended with registered := attends }, ?_⟩
    simp only [tidings, more, Multiset.map_add, Multiset.map_singleton]
    abel
  | becameAvailable d =>
    refine offer_cases attended.becameAvailable _
      (fun queue => { r with becameAvailable := queue }) rfl ?_
    intro taken attends more
    refine ⟨{ attended with becameAvailable := attends }, ?_⟩
    simp only [tidings, more, Multiset.map_add, Multiset.map_singleton]
    abel
  | unregistered d =>
    refine offer_cases attended.unregistered _
      (fun queue => { r with unregistered := queue }) rfl ?_
    intro taken attends more
    refine ⟨{ attended with unregistered := attends }, ?_⟩
    simp only [tidings, more, Multiset.map_add, Multiset.map_singleton]
    abel

/-- A message is told, or there is no room for it. -/
theorem publishMessage_cases (attended : r.Attended) (m : DeviceMessage) :
    (∃ after, r.publishMessage m = (.ok (), after) ∧ Tells r after (.incoming m)) ∨
      ∃ e, r.publishMessage m = (.error e, r) := by
  refine offer_cases attended.incoming _ (fun queue => { r with incoming := queue }) rfl ?_
  intro taken attends more
  refine ⟨{ attended with incoming := attends }, ?_⟩
  simp only [tidings, more, Multiset.map_add, Multiset.map_singleton]
  abel

end Reports

/-! ### What the coordinator hands on -/

namespace Routes

/-- The failure that comes of an indication of which the owner is not to learn. -/
def aside? (r : Routes) : Indication → Option Failure
  | ⟨.zdoTcDevInd, fields⟩ =>
    match (r.trustCenter.offer fields).1 with
    | .full => some (.channelFull "trust center")
    | _ => none
  | _ => none

/-- Whether so much more waits for the stack, and the queues are still attended to. -/
structure Hands (before after : Routes) (more : Multiset Occurrence) (failed : Multiset Failure) :
    Prop where
  attended : after.Attended
  occurrences : after.occurrences = before.occurrences + more
  failures : after.errors.bag = before.errors.bag + failed

variable {r : Routes}

theorem hands_report (attended : r.Attended) (room : r.errors.HasRoom) (e : Failure) :
    Hands r (r.report e) 0 {e} where
  attended := { attended with errors := (Channel.kept_push r.errors e).2.trans attended.errors }
  occurrences := (add_zero _).symm
  failures := Channel.bag_push attended.errors room e

/-- What is offered to the stack waits for it, or a failure takes its place. The queue it goes
into is the one that `put` puts back. -/
theorem offer_cases {α : Type} {queue : Channel α} {a : α} {o : Occurrence}
    (attended : r.Attended) (room : r.errors.HasRoom) (attends : queue.attended = true)
    (name : String) (put : Channel α → Routes) (same : put queue = r)
    (hands : ∀ taken, taken.attended = true → taken.bag = queue.bag + {a} →
      (put taken).Attended ∧ (put taken).occurrences = r.occurrences + {o} ∧
        (put taken).errors = r.errors) :
    let offer := queue.offer a
    Hands r ((put offer.2).reportOffer name offer.1) {o} 0 ∨
      ∃ e, Hands r ((put offer.2).reportOffer name offer.1) 0 {e} := by
  obtain ⟨taken, offered, attends, more⟩ | offered := Channel.offer_cases attends a
  · obtain ⟨attended, occurrences, errors⟩ := hands taken attends more
    rw [offered]
    exact .inl ⟨attended, occurrences, (congrArg Channel.bag errors).trans (add_zero _).symm⟩
  · rw [offered]
    dsimp only
    rw [same]
    exact .inr ⟨.channelFull name, hands_report attended room _⟩

/-- An occurrence waits for the stack, or a failure takes its place. -/
theorem route_cases (attended : r.Attended) (room : r.errors.HasRoom) (i : Indication) :
    (∃ o, occurrenceOf? i = some o ∧ r.aside? i = none ∧
      (Hands r (r.route i) {o} 0 ∨ ∃ e, Hands r (r.route i) 0 {e})) ∨
    occurrenceOf? i = none ∧ Hands r (r.route i) 0 (r.aside? i).toList := by
  obtain ⟨kind, fields⟩ := i
  cases kind with
  | zdoEndDeviceAnnceInd =>
    refine .inl ⟨.announced fields, rfl, rfl, ?_⟩
    refine offer_cases attended room attended.announce _
      (fun queue => { r with announce := queue }) rfl ?_
    intro taken attends more
    refine ⟨{ attended with announce := attends }, ?_, rfl⟩
    simp only [occurrences, more, Multiset.map_add, Multiset.map_singleton]
    abel
  | zdoLeaveInd =>
    refine .inl ⟨.left fields, rfl, rfl, ?_⟩
    refine offer_cases attended room attended.leave _
      (fun queue => { r with leave := queue }) rfl ?_
    intro taken attends more
    refine ⟨{ attended with leave := attends }, ?_, rfl⟩
    simp only [occurrences, more, Multiset.map_add, Multiset.map_singleton]
    abel
  | afIncomingMessage =>
    refine .inl ⟨.message (.ofFields fields), rfl, rfl, ?_⟩
    refine offer_cases attended room attended.incoming _
      (fun queue => { r with incoming := queue }) rfl ?_
    intro taken attends more
    refine ⟨{ attended with incoming := attends }, ?_, rfl⟩
    simp only [occurrences, more, Multiset.map_add, Multiset.map_singleton]
    abel
  | zdoTcDevInd =>
    refine .inr ⟨rfl, ?_⟩
    obtain ⟨taken, offered, attends, -⟩ | offered :=
      Channel.offer_cases attended.trustCenter fields
    · simp only [route, offered, reportOffer, aside?]
      exact ⟨{ attended with trustCenter := attends }, (add_zero _).symm, (add_zero _).symm⟩
    · simp only [route, offered, reportOffer, aside?]
      exact hands_report attended room _
  | _ => exact .inr ⟨rfl, attended, (add_zero _).symm, (add_zero _).symm⟩

end Routes

/-! ### What the stack tells at once -/

namespace State

open Reports

variable {s : State}

/-- Whether it could be published or not, the owner is told something that suits. -/
theorem tells_published {r : Reports} {o : Occurrence} {t : Tiding}
    {published : Except Failure Unit × Reports} (attended : r.Attended)
    (room : r.errors.HasRoom) (suits : o.Suits t)
    (told : (∃ after, published = (.ok (), after) ∧ Tells r after t) ∨
      ∃ e, published = (.error e, r)) :
    ∃ t, Tells r (published.2.reportResult published.1) t ∧ o.Suits t := by
  obtain ⟨after, rfl, tells⟩ | ⟨e, rfl⟩ := told
  · exact ⟨t, tells, suits⟩
  · exact ⟨.failure e, tells_report attended room e, o.suits_failure e⟩

/-- Of a departure the owner is told once. -/
theorem tells_unregister (attended : s.reports.Attended) (room : s.reports.errors.HasRoom)
    (source ieee : String) (flags : _) : ∃ store reports t,
      s.unregister ieee = { s with store, reports } ∧ Tells s.reports reports t ∧
        (Occurrence.left (source, ieee, flags)).Suits t := by
  unfold unregister
  split
  · rename_i e store removed
    exact ⟨store, _, _, rfl, tells_report attended room e, Occurrence.suits_failure _ e⟩
  · rename_i d store removed
    have same : d.ieeeAddress = ieee :=
      Store.ieeeAddress_of_device? (Store.device?_of_remove removed)
    obtain ⟨t, tells, suits⟩ := tells_published (o := .left (source, ieee, flags))
      (t := .news (.unregistered d)) attended room same (publish_cases attended _)
    exact ⟨store, _, t, rfl, tells, suits⟩

/-- Of a message the owner is told once. -/
theorem tells_processMessage (attended : s.reports.Attended) (room : s.reports.errors.HasRoom)
    (m : IncomingMessage) : ∃ store reports t,
      s.processMessage m = { s with store, reports } ∧ Tells s.reports reports t ∧
        (Occurrence.message m).Suits t := by
  unfold processMessage
  split
  · rename_i e unreadable
    exact ⟨s.store, _, _, rfl, tells_report attended room e, Occurrence.suits_failure _ e⟩
  · rename_i message decoded
    split
    · exact ⟨s.store, _, _, rfl, tells_report attended room _, Occurrence.suits_failure _ _⟩
    · rename_i d found
      have source : d.networkAddress = m.source := by
        simpa using List.find?_some found
      obtain ⟨t, tells, suits⟩ := tells_published (o := .message m) (t := .incoming ⟨d, message⟩)
        attended room ⟨decoded, source⟩ (publishMessage_cases attended _)
      exact ⟨_, _, t, rfl, tells, suits⟩

end State

/-! ### What the worker tells -/

/-- Whether the program tells the owner of the announcement and then ends, or ends with a
failure. -/
def Program.TellsOnce (a : Announcement) : Program (Except Failure Unit) → Prop
  | .done result => ∃ e, result = .error e
  | .perform (.publish news) next =>
    (Occurrence.announced a).Suits (.news news) ∧ ∀ result, next result = .done result
  | .perform effect next => ∀ answer, effect.Admits answer → (next answer).TellsOnce a

/-- What is quiet may come first. -/
theorem tellsOnce_bind {α : Type} {a : Announcement} {R : α → Prop} {p : Program α}
    {f : α → Program (Except Failure Unit)} (hp : p.Quiet R)
    (hf : ∀ result, R result → (f result).TellsOnce a) : (p.bind f).TellsOnce a := by
  induction p with
  | done result => exact hf result hp
  | perform effect next ih =>
    cases effect with
    | publish news => cases hp.1
    | _ => exact fun answer _ => ih answer (hp.2 answer)

/-- A device is kept, and then the owner is told. -/
theorem tellsOnce_keep {a : Announcement} (d : Device) {n : DeviceNews}
    (suits : (Occurrence.announced a).Suits (.news n)) :
    Program.TellsOnce a (Call.insert d >>= fun _ => Call.publish n : Call Unit) := by
  rintro (e | ⟨⟩) -
  · exact ⟨e, rfl⟩
  · exact ⟨suits, fun _ => rfl⟩

/-- A registration tells the owner once, or ends with a failure. -/
theorem tellsOnce_register (timeouts : Timeouts) (a : Announcement) :
    Program.TellsOnce a (register timeouts a) := by
  rintro (- | known) admitted
  · refine tellsOnce_bind (p := interrogate timeouts a) (returns_interrogate timeouts a) ?_
    rintro (e | d) ⟨-, same⟩
    · exact ⟨e, rfl⟩
    · exact tellsOnce_keep d (n := .registered d) (same d rfl)
  · exact tellsOnce_keep { known with networkAddress := a.networkAddress }
      (n := .becameAvailable { known with networkAddress := a.networkAddress })
      ⟨admitted known rfl, rfl⟩

end Zigbee.Host
