import Zigbee.Proofs.Database.Insertion
import Zigbee.Proofs.Registration.Failures
import Zigbee.Proofs.Registration.Interviews

/-!
# How a registration ends

While the worker registers a device, anything may happen between two of its effects, but as
long as no device leaves nobody else changes which devices there are. A `Tenure` is the host
from the moment when the worker takes an announcement, together with the history of the
waiters and with what the worker has done so far. Whatever the radio does, the registration
ends in exactly one of three ways: a known device has its new network address, a new device
has a complete record, or nothing has changed and the failure tells why.
-/

namespace Zigbee.Host

open Cluster Database Radio Settings

/-- What a queue of the owner is called in a failure. -/
def DeviceNews.queue : DeviceNews → String
  | .registered _ => "device registered"
  | .becameAvailable _ => "device became available"
  | .unregistered _ => "device unregistered"

/-! ### Deeds and devices -/

/-- Whether the deed turns the devices so, and is answered as the devices are. -/
def Deed.Turns (before after : List Device) : Deed → Prop
  | ⟨.device ieee, found⟩ =>
    found = before.find? (·.ieeeAddress == ieee) ∧ after = before
  | ⟨.insert d, answer⟩ => Inserts d before after answer
  | ⟨.publish news, answer⟩ =>
    (answer = .ok () ∨ answer = .error (.channelFull news.queue)) ∧ after = before
  | _ => after = before

/-- Whether the deeds, one after the other, turn the devices so. -/
def Unfolds : List Device → List Deed → List Device → Prop
  | before, [], after => after = before
  | before, deed :: rest, after => ∃ between, deed.Turns before between ∧ Unfolds between rest after

theorem unfolds_append_iff {before after : List Device} {first second : List Deed} :
    Unfolds before (first ++ second) after ↔
      ∃ between, Unfolds before first between ∧ Unfolds between second after := by
  induction first generalizing before with
  | nil =>
    constructor
    · intro h
      exact ⟨before, rfl, h⟩
    · rintro ⟨_, rfl, h⟩
      exact h
  | cons deed rest ih =>
    constructor
    · rintro ⟨next, turns, h⟩
      obtain ⟨between, front, back⟩ := ih.mp h
      exact ⟨between, ⟨next, turns, front⟩, back⟩
    · rintro ⟨between, ⟨next, turns, front⟩, back⟩
      exact ⟨next, turns, ih.mpr ⟨between, front, back⟩⟩

/-- What is quiet leaves the devices as they are. -/
theorem Unfolds.eq_of_quiet {before after : List Device} {deeds : List Deed}
    (h : Unfolds before deeds after) (quiet : ∀ deed ∈ deeds, deed.effect.isQuiet = true) :
    after = before := by
  induction deeds generalizing before with
  | nil => exact h
  | cons deed rest ih =>
    obtain ⟨between, turns, later⟩ := h
    obtain ⟨silent, rest⟩ := List.forall_mem_cons.mp quiet
    obtain ⟨effect, answer⟩ := deed
    have same : between = before := by
      cases effect with
      | insert d => cases silent
      | publish news => cases silent
      | device ieee => exact turns.2
      | _ => exact turns
    rw [← same]
    exact ih later rest

/-- The news that a deed publishes, and the answer. -/
def Deed.publication? : Deed → Option (DeviceNews × Except Failure Unit)
  | ⟨.publish news, answer⟩ => some (news, answer)
  | _ => none

/-- The news that have been published, each with the answer. -/
def publications (deeds : List Deed) : List (DeviceNews × Except Failure Unit) :=
  deeds.filterMap Deed.publication?

theorem publications_of_quiet {deeds : List Deed}
    (quiet : ∀ deed ∈ deeds, deed.effect.isQuiet = true) : publications deeds = [] := by
  refine List.filterMap_eq_nil_iff.mpr fun deed member => ?_
  have silent := quiet deed member
  obtain ⟨effect, answer⟩ := deed
  cases effect with
  | publish news => cases silent
  | _ => rfl

/-! ### Endings -/

/-- A registration that has come to its end: the devices before and after it, what the worker
has done, and its result. -/
structure Course where
  timeouts : Timeouts
  announcement : Announcement
  before : List Device
  after : List Device
  deeds : List Deed
  result : Except Failure Unit

/-- The ways in which a registration ends. -/
inductive Ending where
  | updated
  | registered
  | refused
deriving DecidableEq

namespace Course

variable (c : Course)

/-- Whether no device has the extended address. -/
def Unknown : Prop :=
  c.announcement.ieeeAddress ∉ c.before.map (·.ieeeAddress)

/-- Whether the news are all that has been published. They may not fit into their queue, and
then that is the failure of the registration. -/
def Publishes (news : DeviceNews) : Prop :=
  publications c.deeds = [(news, c.result)] ∧
    (c.result = .ok () ∨ c.result = .error (.channelFull news.queue))

/-- Whether the device is as all the queries of a complete interrogation have been answered:
it has the addresses of the announcement, the manufacturer and the part in the network of
the node descriptor, and an endpoint for each number in the list of endpoints. -/
def Describes (d : Device) : Prop :=
  ∃ basics node list descriptors part back,
    c.deeds = ⟨.device c.announcement.ieeeAddress, none⟩ :: (part ++ back) ∧
    Answers c.timeouts c.announcement.networkAddress (allReplies basics node list descriptors)
      part ∧
    (∀ reply ∈ allReplies basics node list descriptors,
      reply.1.Told c.announcement.networkAddress c.deeds reply.2) ∧
    d.ieeeAddress = c.announcement.ieeeAddress ∧
    d.networkAddress = c.announcement.networkAddress ∧
    d.manufacturerId = node.manufacturer ∧ d.logicalType = node.logicalType ∧
    d.endpoints = descriptors.map (·.2.endpoint) ∧
    d.endpoints.map (·.id) = list.ids.map (·.toBitVec)

/-- Whether the failure is that of a query, and names it. -/
def FailsInQuery (e : Failure) : Prop :=
  ∃ ids query source part, c.deeds = ⟨.device c.announcement.ieeeAddress, none⟩ :: part ∧
    FailsAt c.timeouts c.announcement.networkAddress (Query.sequence ids) query source part ∧
    e = .interrogation query.name source

/-- Whether the failure is that another device holds the network address, when every query
has been answered. -/
def FailsByConflict (e : Failure) : Prop :=
  (∃ d, c.Describes d) ∧
    ∃ other, c.before.find? (·.networkAddress == c.announcement.networkAddress) = some other ∧
      e = .addressConflict c.announcement.networkAddress other.ieeeAddress

/-- What each ending means. -/
def Ends : Ending → Prop
  | .updated =>
    ∃ front known back, c.before = front ++ known :: back ∧
      (∀ other ∈ front, other.ieeeAddress ≠ c.announcement.ieeeAddress) ∧
      known.ieeeAddress = c.announcement.ieeeAddress ∧
      c.after = front ++ { known with networkAddress := c.announcement.networkAddress } :: back ∧
      c.Publishes
        (.becameAvailable { known with networkAddress := c.announcement.networkAddress })
  | .registered =>
    c.Unknown ∧ c.announcement.networkAddress ∉ c.before.map (·.networkAddress) ∧
      ∃ d, c.Describes d ∧ c.after = c.before ++ [d] ∧ c.Publishes (.registered d)
  | .refused =>
    c.Unknown ∧ c.after = c.before ∧ publications c.deeds = [] ∧
      ∃ e, c.result = .error e ∧ (c.FailsInQuery e ∨ c.FailsByConflict e)

variable {c}

/-- The numbers of the endpoints are those that have been asked for. -/
theorem ids_of_told {address : String} {deeds : List Deed}
    {descriptors : List (UInt8 × EndpointDescriptor)}
    (told : ∀ reply ∈ endpointReplies descriptors, reply.1.Told address deeds reply.2) :
    (descriptors.map (·.2.endpoint)).map (·.id) = (descriptors.map (·.1)).map (·.toBitVec) := by
  rw [List.map_map, List.map_map]
  refine List.map_congr_left fun entry member => ?_
  exact (told _ (List.mem_map_of_mem member)).2

/-- What is kept and told of a known device. -/
theorem ends_of_known {known : Device} {rest : List Deed}
    (deeds : c.deeds = ⟨.device c.announcement.ieeeAddress, some known⟩ :: rest)
    (kept : Call.Yields (Call.insert { known with
        networkAddress := c.announcement.networkAddress } >>= fun _ =>
      Call.publish (.becameAvailable { known with
        networkAddress := c.announcement.networkAddress })) rest c.result)
    (unfolds : Unfolds c.before c.deeds c.after) : c.Ends .updated := by
  rw [deeds] at unfolds
  obtain ⟨_, ⟨found, rfl⟩, unfolds⟩ := unfolds
  obtain ⟨here, front, back, before, first⟩ := List.find?_eq_some_iff_append.mp found.symm
  have same : known.ieeeAddress = c.announcement.ieeeAddress := beq_iff_eq.mp here
  have apart : ∀ other ∈ front, other.ieeeAddress ≠ c.announcement.ieeeAddress := by
    intro other member
    simpa using first other member
  rw [before] at unfolds
  obtain ⟨e, rfl, -⟩ | rfl := yields_keep kept
  · obtain ⟨_, inserts, -⟩ := unfolds
    cases (Inserts.of_known inserts (fun other member => same ▸ apart other member) rfl).2
  · obtain ⟨_, inserts, _, ⟨told, rfl⟩, after⟩ := unfolds
    obtain ⟨rfl, -⟩ := Inserts.of_known inserts (fun other member => same ▸ apart other member) rfl
    refine ⟨front, known, back, before, apart, same, after, ?_, told⟩
    rw [deeds]
    rfl

/-- What has been asked of an unknown device is what its record says. -/
theorem describes_of_answers {basics : Basics} {node : NodeDescriptor} {list : EndpointList}
    {descriptors : List (UInt8 × EndpointDescriptor)} {part back : List Deed}
    (deeds : c.deeds = ⟨.device c.announcement.ieeeAddress, none⟩ :: (part ++ back))
    (heard : Heard c.deeds)
    (answers : Answers c.timeouts c.announcement.networkAddress
      (allReplies basics node list descriptors) part)
    (ids : descriptors.map (·.1) = list.ids) :
    c.Describes (c.announcement.record basics node (descriptors.map (·.2.endpoint))) := by
  have split : c.deeds = [⟨.device c.announcement.ieeeAddress, none⟩] ++ part ++ back := deeds
  have told : ∀ reply ∈ allReplies basics node list descriptors,
      reply.1.Told c.announcement.networkAddress c.deeds reply.2 := by
    intro reply member
    have here : Heard part := (split ▸ heard).between
    refine (told_of_answers here answers reply member).mono fun deed inside => ?_
    rw [deeds]
    exact List.mem_cons_of_mem _ (List.mem_append_left _ inside)
  refine ⟨basics, node, list, descriptors, part, back, deeds, answers, told, rfl, rfl, rfl, rfl,
    rfl, ?_⟩
  rw [← ids]
  exact ids_of_told fun reply member => told reply (List.mem_append_right _ member)

/-- An interrogation leaves the devices as they are and tells nobody. -/
theorem quiet_of_interrogate {rest : List Deed} {result : Except Failure Device}
    (asked : (interrogate c.timeouts c.announcement).Yields rest result) :
    ∀ deed ∈ rest, deed.effect.isQuiet = true :=
  (Program.Quiet.deeds (returns_interrogate c.timeouts c.announcement) asked).2

theorem publications_of_interrogate {rest more : List Deed} {result : Except Failure Device}
    (asked : (interrogate c.timeouts c.announcement).Yields rest result) :
    publications (⟨.device c.announcement.ieeeAddress, none⟩ :: (rest ++ more)) =
      publications more := by
  have silent : publications rest = [] := publications_of_quiet (quiet_of_interrogate asked)
  rw [publications, List.filterMap_cons_none rfl, List.filterMap_append, ← publications, silent,
    List.nil_append, publications]

/-- An interrogation that fails changes nothing. -/
theorem ends_of_failed {rest : List Deed} {e : Failure} (unknown : c.Unknown)
    (deeds : c.deeds = ⟨.device c.announcement.ieeeAddress, none⟩ :: rest)
    (asked : (interrogate c.timeouts c.announcement).Yields rest (.error e))
    (result : c.result = .error e) (unfolds : Unfolds c.before rest c.after) :
    c.Ends .refused := by
  obtain ⟨_, _, _, _, -, -, ⟨⟩⟩ | ⟨ids, query, source, fails, ⟨⟩⟩ := yields_interrogate asked
  refine ⟨unknown, unfolds.eq_of_quiet (quiet_of_interrogate asked), ?_, _, result,
    .inl ⟨ids, query, source, rest, deeds, fails, rfl⟩⟩
  rw [deeds, ← List.append_nil rest]
  exact publications_of_interrogate asked

/-- What is kept and told of a device that has been interrogated. -/
theorem ends_of_interrogated {d : Device} {front back : List Deed} (unknown : c.Unknown)
    (deeds : c.deeds = ⟨.device c.announcement.ieeeAddress, none⟩ :: (front ++ back))
    (heard : Heard c.deeds)
    (asked : (interrogate c.timeouts c.announcement).Yields front (.ok d))
    (kept : Call.Yields (Call.insert d >>= fun _ => Call.publish (.registered d)) back c.result)
    (unfolds : Unfolds c.before (front ++ back) c.after) :
    c.Ends .registered ∨ c.Ends .refused := by
  obtain ⟨basics, node, list, descriptors, answers, ids, ⟨⟩⟩ | ⟨_, _, _, -, ⟨⟩⟩ :=
    yields_interrogate asked
  have described := describes_of_answers deeds heard answers ids
  have published : publications (⟨.device c.announcement.ieeeAddress, none⟩ :: (front ++ back)) =
      publications back := publications_of_interrogate asked
  obtain ⟨between, before, unfolds⟩ := unfolds_append_iff.mp unfolds
  obtain rfl := before.eq_of_quiet (quiet_of_interrogate asked)
  obtain ⟨e, rfl, result⟩ | rfl := yields_keep kept
  · obtain ⟨_, inserts, after⟩ := unfolds
    obtain ⟨-, -, ⟨⟩⟩ | ⟨other, holder, rfl, ⟨⟩⟩ := Inserts.of_unknown inserts unknown
    refine .inr ⟨unknown, after, ?_, _, result, .inr ⟨⟨_, described⟩, other, holder, rfl⟩⟩
    rw [deeds, published]
    rfl
  · obtain ⟨_, inserts, _, ⟨told, rfl⟩, after⟩ := unfolds
    obtain ⟨free, rfl, -⟩ | ⟨_, -, -, ⟨⟩⟩ := Inserts.of_unknown inserts unknown
    refine .inl ⟨unknown, free, _, described, after, ?_, told⟩
    rw [deeds, published]
    rfl

/-- A registration ends in one of the ways. -/
theorem exists_ends (yields : (register c.timeouts c.announcement).Yields c.deeds c.result)
    (unfolds : Unfolds c.before c.deeds c.after) (heard : Heard c.deeds) :
    ∃ ending, c.Ends ending := by
  obtain ⟨known, rest, deeds, kept⟩ | ⟨rest, deeds, ended⟩ := yields_register yields
  · exact ⟨.updated, ends_of_known deeds kept unfolds⟩
  have later := unfolds
  rw [deeds] at later
  obtain ⟨_, ⟨absent, rfl⟩, later⟩ := later
  have unknown : c.Unknown := by
    simpa [Unknown] using List.find?_eq_none.mp absent.symm
  obtain ⟨e, asked, result⟩ | ⟨d, front, back, rfl, asked, kept⟩ := ended
  · exact ⟨.refused, ends_of_failed unknown deeds asked result later⟩
  · obtain registered | refused := ends_of_interrogated unknown deeds heard asked kept later
    · exact ⟨.registered, registered⟩
    · exact ⟨.refused, refused⟩

/-- No two endings agree with each other. -/
theorem ends_unique {one other : Ending} (h : c.Ends one) (h' : c.Ends other) : one = other := by
  have known (updated : c.Ends .updated) : ¬ c.Unknown := by
    obtain ⟨front, known, back, before, -, same, -⟩ := updated
    rw [Unknown, before, ← same]
    simp
  have told (registered : c.Ends .registered) (refused : c.Ends .refused) : False := by
    obtain ⟨-, -, d, -, -, published, -⟩ := registered
    obtain ⟨-, -, silent, -⟩ := refused
    rw [silent] at published
    cases published
  cases one with
  | updated =>
    cases other with
    | updated => rfl
    | registered => exact absurd h'.1 (known h)
    | refused => exact absurd h'.1 (known h)
  | registered =>
    cases other with
    | updated => exact absurd h.1 (known h')
    | registered => rfl
    | refused => exact (told h h').elim
  | refused =>
    cases other with
    | updated => exact absurd h.1 (known h')
    | registered => exact (told h' h).elim
    | refused => rfl

end Course

/-! ### The worker among others -/

/-- Whether a step is made by others than the worker and removes no device. -/
def Lifecycle.Step.isHarmless : Lifecycle.Step → Bool
  | .elsewhere _ | .listen | .takeAnnouncement | .takeTrustCenter | .takeMessage | .takeFailure
  | .save => true
  | .takeDeparture | .begin | .effect _ | .finish => false

/-- What a message does to the database: its device has been heard. -/
theorem store_takeMessage {s next : State} (taken : s.takeMessage = some next) :
    next.store = s.store ∨
      ∃ network quality now, next.store = s.store.perform (.recordSeen network quality now) := by
  unfold State.takeMessage at taken
  split at taken
  · cases taken
  · rename_i incoming rest queue
    obtain rfl := Option.some.inj taken
    unfold State.processMessage
    split
    · exact .inl rfl
    · split
      · exact .inl rfl
      · exact .inr ⟨_, _, _, rfl⟩

theorem store_takeTrustCenter {s next : State} (taken : s.takeTrustCenter = some next) :
    next.store = s.store := by
  unfold State.takeTrustCenter at taken
  split at taken
  · cases taken
  · obtain rfl := Option.some.inj taken
    rfl

theorem store_takeFailure {s next : State} (taken : s.takeFailure = some next) :
    next.store = s.store := by
  unfold State.takeFailure at taken
  split at taken
  · cases taken
  · obtain rfl := Option.some.inj taken
    rfl

/-- What the others do leaves the devices as they are, and lets the file be written. -/
structure Keeps (l next : Lifecycle) : Prop where
  work : next.work = l.work
  ended : next.ended = l.ended
  devices : next.host.store.devices = l.host.store.devices
  writable : l.host.store.disk.Writable → next.host.store.disk.Writable

theorem keeps_of_store {l : Lifecycle} {host : State} (same : host.store = l.host.store) :
    Keeps l { l with host } :=
  ⟨rfl, rfl, congrArg Store.devices same, fun writable => by rwa [same]⟩

theorem keeps_of_harmless {l next : Lifecycle} {step : Lifecycle.Step}
    (harmless : step.isHarmless = true)
    (steady : ∀ other, step = .elsewhere other → other.store.disk.Writable)
    (applied : l.apply step = some next) : Keeps l next := by
  cases step with
  | elsewhere other =>
    obtain rfl := Option.some.inj applied
    exact ⟨rfl, rfl, rfl, fun _ => steady other rfl⟩
  | listen =>
    obtain ⟨i, mux, waiters, rfl⟩ := Lifecycle.listen_cases applied
    exact ⟨rfl, rfl, rfl, id⟩
  | takeAnnouncement =>
    obtain ⟨a, rest, host, queue, taken, rfl⟩ := Lifecycle.announcement_cases applied
    obtain ⟨-, -, -, store⟩ := takeAnnouncement_cases queue taken
    exact { keeps_of_store store with }
  | takeTrustCenter =>
    obtain ⟨host, taken, rfl⟩ := Option.map_eq_some_iff.mp applied
    exact keeps_of_store (store_takeTrustCenter taken)
  | takeFailure =>
    obtain ⟨host, taken, rfl⟩ := Option.map_eq_some_iff.mp applied
    exact keeps_of_store (store_takeFailure taken)
  | takeMessage =>
    obtain ⟨host, taken, rfl⟩ := Option.map_eq_some_iff.mp applied
    obtain store | ⟨network, quality, now, store⟩ := store_takeMessage taken
    · exact keeps_of_store store
    · refine ⟨rfl, rfl, ?_, fun writable => ?_⟩
      · rw [store]
        exact Store.devices_recordSeen _ _ _ _
      · rw [store]
        exact Store.writable_perform writable nofun
  | save =>
    obtain rfl := Option.some.inj applied
    refine ⟨rfl, rfl, ?_, fun writable => (Store.save_of_writable writable).2⟩
    exact congrArg (List.map _) (Store.records_save _)
  | takeDeparture | begin | effect world | finish => cases harmless

/-! ### Answers -/

theorem publish_cases (r : Reports) (news : DeviceNews) :
    (r.publish news).1 = .ok () ∨ (r.publish news).1 = .error (.channelFull news.queue) := by
  have check (name : String) (offer : Offer) :
      offer.check name = .ok () ∨ offer.check name = .error (.channelFull name) := by
    cases offer with
    | full => exact .inr rfl
    | queued | unattended => exact .inl rfl
  cases news <;> exact check _ _

/-- The host answers as the devices are. -/
theorem turns_answer {s : State} (writable : s.store.disk.Writable)
    (world : (effect : Effect) → effect.Answer) (effect : Effect) :
    Deed.Turns s.store.devices (Lifecycle.answer s world effect).2.store.devices
      ⟨effect, (Lifecycle.answer s world effect).1⟩ := by
  cases effect with
  | device ieee => exact ⟨Store.device?_eq s.store ieee, rfl⟩
  | insert d => exact Store.inserts_insert writable d
  | publish news => exact ⟨publish_cases s.reports news, rfl⟩
  | _ => rfl

theorem writable_answer {s : State} (writable : s.store.disk.Writable)
    (world : (effect : Effect) → effect.Answer) (effect : Effect) :
    (Lifecycle.answer s world effect).2.store.disk.Writable := by
  cases effect with
  | insert d =>
    have kept : (s.store.perform (.insert d)).disk.Writable :=
      Store.writable_perform writable nofun
    exact kept
  | _ => exact writable

/-- A waiter gets what its pattern admits. -/
theorem admits_of_awaited {events past later : List Waiters.Event} {pattern : Pattern}
    {waiter milliseconds : Nat} {kind : IndicationKind} {fields : kind.layout.Carrier}
    {counter : TransactionCounter} {world : (effect : Effect) → effect.Answer}
    (registers : Waiters.Registers events past ⟨waiter, pattern⟩ later)
    (answered : Effect.respond events counter world (.await waiter kind milliseconds) =
      .ok fields) : pattern.Admits ⟨kind, fields⟩ := by
  simp only [Effect.respond, Waiters.waitAlone] at answered
  cases expected : (Waiters.after events).expectation waiter with
  | met i =>
    obtain ⟨-, takes, -⟩ := ((Waiters.sound_after events).met_iff registers).mp expected
    simp only [expected, Except.bind, State.contentOf] at answered
    split at answered
    · rename_i same
      obtain ⟨_, content⟩ := i
      obtain rfl := same
      obtain rfl := Except.ok.inj answered
      exact takes.admits
    · cases answered
  | possible | lost =>
    rw [expected] at answered
    cases answered

/-- The host and its worker, all that has happened to the registry of the waiters, and what the
worker has done for the announcement that it has taken. -/
structure Tenure where
  life : Lifecycle
  events : List Waiters.Event
  deeds : List Deed := []

namespace Tenure

/-- What can happen next. -/
inductive Step where
  /-- The worker performs its next effect. -/
  | own (counter : TransactionCounter) (world : (effect : Effect) → effect.Answer)
  /-- Others make a step, and what they do to the registry. -/
  | others (step : Lifecycle.Step) (events : List Waiters.Event)

/-- Whether the file can be written after the step if it could before. -/
def Step.IsSteady : Step → Prop
  | .others (.elsewhere other) _ => other.store.disk.Writable
  | _ => True

variable {t next : Tenure} {step : Step} {steps : List Step}

/-- The state after a step. -/
def apply (t : Tenure) : Step → Option Tenure
  | .own counter world =>
    match t.life.work with
    | some (_, .perform effect _) =>
      let world := Effect.respond t.events counter world
      (t.life.apply (.effect world)).map fun life =>
        ⟨life, t.events ++ effect.trace,
          t.deeds ++ [⟨effect, (Lifecycle.answer t.life.host world effect).1⟩]⟩
    | _ => none
  | .others step events =>
    if step.isHarmless then
      (t.life.apply step).map fun life => { t with life, events := t.events ++ events }
    else none

/-- The state after steps. -/
def run (t : Tenure) : List Step → Option Tenure
  | [] => some t
  | step :: rest => (t.apply step).bind (·.run rest)

/-! ### What a step needs and does -/

theorem own_cases {counter : TransactionCounter} {world : (effect : Effect) → effect.Answer}
    (applied : t.apply (.own counter world) = some next) :
    ∃ a effect rest, t.life.work = some (a, .perform effect rest) ∧
      let answer := Lifecycle.answer t.life.host (Effect.respond t.events counter world) effect
      next = ⟨{ t.life with
          host := answer.2
          work := some (a, rest answer.1)
          acts := t.life.acts ++ Lifecycle.actsOf t.life.host effect },
        t.events ++ effect.trace, t.deeds ++ [⟨effect, answer.1⟩]⟩ := by
  simp only [apply] at applied
  split at applied
  · rename_i a effect rest busy
    obtain ⟨life, made, rfl⟩ := Option.map_eq_some_iff.mp applied
    simp only [Lifecycle.apply, busy] at made
    obtain rfl := Option.some.inj made
    exact ⟨a, effect, rest, busy, rfl⟩
  · cases applied

theorem others_cases {made : Lifecycle.Step} {events : List Waiters.Event}
    (applied : t.apply (.others made events) = some next) :
    ∃ life, made.isHarmless = true ∧ t.life.apply made = some life ∧
      next = { t with life, events := t.events ++ events } := by
  simp only [apply] at applied
  split at applied
  · rename_i harmless
    obtain ⟨life, made, rfl⟩ := Option.map_eq_some_iff.mp applied
    exact ⟨life, harmless, made, rfl⟩
  · cases applied

/-! ### What every step keeps -/

variable {timeouts : Timeouts} {a : Announcement} {before : List Device}

/-- What is known of a registration along its way. -/
structure Sound (timeouts : Timeouts) (a : Announcement) (before : List Device) (t : Tenure) :
    Prop where
  /-- What is left to do goes on from what has been done. -/
  work : ∃ rest, t.life.work = some (a, rest) ∧ ∀ more result, rest.Yields more result →
    (register timeouts a).Yields (t.deeds ++ more) result
  unfolds : Unfolds before t.deeds t.life.host.store.devices
  writable : t.life.host.store.disk.Writable
  registered : ∀ pattern waiter, (⟨.register pattern, waiter⟩ : Deed) ∈ t.deeds →
    ∃ past later, Waiters.Registers t.events past ⟨waiter, pattern⟩ later
  heard : Heard t.deeds

/-- What is heard next has been asked for. -/
theorem heard_concat {deeds : List Deed} {deed : Deed} (h : Heard deeds)
    (asked : ∀ waiter kind milliseconds fields pattern,
      deed = ⟨.await waiter kind milliseconds, .ok fields⟩ →
      (⟨.register pattern, waiter⟩ : Deed) ∈ deeds → pattern.Admits ⟨kind, fields⟩) :
    Heard (deeds ++ [deed]) := by
  intro earlier later waiter kind milliseconds fields pattern whole registered
  obtain rfl | ⟨later, last, rfl⟩ := later.eq_nil_or_concat
  · obtain ⟨rfl, same⟩ := List.append_inj' whole rfl
    exact asked waiter kind milliseconds fields pattern (List.singleton_inj.mp same) registered
  · rw [List.concat_eq_append, ← List.cons_append, ← List.append_assoc] at whole
    obtain ⟨rfl, -⟩ := List.append_inj' whole rfl
    exact h earlier later waiter kind milliseconds fields pattern rfl registered

theorem sound_own (h : Sound timeouts a before t) {counter : TransactionCounter}
    {world : (effect : Effect) → effect.Answer}
    (applied : t.apply (.own counter world) = some next) : Sound timeouts a before next := by
  obtain ⟨_, effect, rest, busy, rfl⟩ := own_cases applied
  obtain ⟨_, working, goes⟩ := h.work
  obtain ⟨rfl, rfl⟩ := Prod.mk.inj (Option.some.inj (busy.symm.trans working))
  generalize answered : Lifecycle.answer t.life.host (Effect.respond t.events counter world)
    effect = answer
  have turns := turns_answer h.writable (Effect.respond t.events counter world) effect
  have writable := writable_answer h.writable (Effect.respond t.events counter world) effect
  rw [answered] at turns writable
  refine ⟨⟨_, rfl, fun more result later => ?_⟩, ?_, writable, ?_, ?_⟩
  · rw [List.append_assoc]
    exact goes _ _ ⟨answer.1, more, rfl, later⟩
  · exact unfolds_append_iff.mpr ⟨_, h.unfolds, _, turns, rfl⟩
  · intro pattern waiter member
    obtain old | new := List.mem_append.mp member
    · obtain ⟨past, later, registers⟩ := h.registered pattern waiter old
      exact ⟨past, _, registers.append _⟩
    · obtain same := List.mem_singleton.mp new
      obtain rfl : Effect.register pattern = effect := congrArg Deed.effect same
      obtain rfl := eq_of_heq (Deed.mk.inj same).2
      refine ⟨t.events, [], rfl, ?_⟩
      rw [← answered]
      exact congrArg (· + 1) (Waiters.sound_after t.events).issued
  · refine heard_concat h.heard fun waiter kind milliseconds fields pattern same registered => ?_
    obtain rfl : effect = .await waiter kind milliseconds := congrArg Deed.effect same
    obtain ⟨past, later, registers⟩ := h.registered pattern waiter registered
    have content : Effect.respond t.events counter world (.await waiter kind milliseconds) =
        .ok fields := by
      rw [← eq_of_heq (Deed.mk.inj same).2, ← answered]
      rfl
    exact admits_of_awaited registers content

theorem sound_others (h : Sound timeouts a before t) {made : Lifecycle.Step}
    {events : List Waiters.Event} (steady : Step.IsSteady (.others made events))
    (applied : t.apply (.others made events) = some next) : Sound timeouts a before next := by
  obtain ⟨life, harmless, goes, rfl⟩ := others_cases applied
  have keeps : Keeps t.life life := by
    refine keeps_of_harmless harmless (fun other same => ?_) goes
    subst same
    exact steady
  refine ⟨?_, ?_, keeps.writable h.writable, ?_, h.heard⟩
  · rw [keeps.work]
    exact h.work
  · rw [keeps.devices]
    exact h.unfolds
  · intro pattern waiter member
    obtain ⟨past, later, registers⟩ := h.registered pattern waiter member
    exact ⟨past, _, registers.append events⟩

theorem sound_run (h : Sound timeouts a before t) (steady : ∀ step ∈ steps, step.IsSteady)
    (ran : t.run steps = some next) : Sound timeouts a before next := by
  induction steps generalizing t with
  | nil =>
    obtain rfl := Option.some.inj ran
    exact h
  | cons step rest ih =>
    obtain ⟨between, applied, ran⟩ := Option.bind_eq_some_iff.mp ran
    obtain ⟨first, later⟩ := List.forall_mem_cons.mp steady
    refine ih ?_ later ran
    cases step with
    | own counter world => exact sound_own h applied
    | others made events => exact sound_others h first applied

/-! ### A whole registration -/

/-- The worker's next effects, with what the world answers to each. -/
def ownSteps (choices : Nat → TransactionCounter × ((effect : Effect) → effect.Answer))
    (count : Nat) : List Step :=
  (List.range count).map fun i => .own (choices i).1 (choices i).2

theorem ownSteps_succ (choices : Nat → TransactionCounter × ((effect : Effect) → effect.Answer))
    (count : Nat) : ownSteps choices (count + 1) =
      .own (choices 0).1 (choices 0).2 :: ownSteps (fun i => choices (i + 1)) count := by
  rw [ownSteps, List.range_succ_eq_map, List.map_cons, List.map_map]
  rfl

/-- Whatever the answers are, the worker comes to an end. -/
theorem exists_done {rest : Program (Except Failure Unit)}
    (busy : t.life.work = some (a, rest))
    (choices : Nat → TransactionCounter × ((effect : Effect) → effect.Answer)) :
    ∃ count u result, t.run (ownSteps choices count) = some u ∧
      u.life.work = some (a, .done result) := by
  induction rest generalizing t choices with
  | done result => exact ⟨0, t, result, rfl, busy⟩
  | perform effect rest ih =>
    obtain ⟨between, applied, working⟩ : ∃ between,
        t.apply (.own (choices 0).1 (choices 0).2) = some between ∧
          ∃ answer, between.life.work = some (a, rest answer) := by
      simp only [apply, busy, Lifecycle.apply, Option.map_some]
      exact ⟨_, rfl, _, rfl⟩
    obtain ⟨answer, working⟩ := working
    obtain ⟨count, u, result, ran, ended⟩ := ih answer working fun i => choices (i + 1)
    refine ⟨count + 1, u, result, ?_, ended⟩
    rw [ownSteps_succ]
    exact Option.bind_eq_some_iff.mpr ⟨between, applied, ran⟩

theorem sound_begin {l begun : Lifecycle} {p : Program (Except Failure Unit)}
    {past : List Waiters.Event} (took : l.apply .begin = some begun)
    (work : begun.work = some (a, p)) (writable : l.host.store.disk.Writable) :
    Sound l.host.setting.config.timeouts a l.host.store.devices ⟨begun, past, []⟩ := by
  obtain ⟨_, rest, -, -, rfl⟩ := Lifecycle.begin_cases took
  obtain ⟨rfl, rfl⟩ := Prod.mk.inj (Option.some.inj work)
  refine ⟨⟨_, rfl, fun more result yields => yields⟩, rfl, writable, ?_, ?_⟩
  · intro pattern waiter member
    cases member
  · intro earlier later waiter kind milliseconds fields pattern whole
    cases (List.append_eq_nil_iff.mp whole.symm).2

/-- What the worker does does not report a failure. -/
theorem errors_own {counter : TransactionCounter} {world : (effect : Effect) → effect.Answer}
    (applied : t.apply (.own counter world) = some next) :
    next.life.host.reports.errors = t.life.host.reports.errors := by
  obtain ⟨_, effect, rest, -, rfl⟩ := own_cases applied
  cases effect with
  | publish news => cases news <;> rfl
  | _ => rfl

/-- A registration is all or nothing. From the moment when the worker takes an announcement,
with a file that can be written and as long as no device leaves, it comes to an end whatever
the radio answers; on the way it reports no failure, and in the end it reports its own, if it
has failed. And exactly one of the endings is the case. -/
theorem registration_run {l begun : Lifecycle} {p : Program (Except Failure Unit)}
    {past : List Waiters.Event} (took : l.apply .begin = some begun)
    (work : begun.work = some (a, p)) (writable : l.host.store.disk.Writable)
    (steady : ∀ step ∈ steps, step.IsSteady) (ran : run ⟨begun, past, []⟩ steps = some t) :
    (∀ choices, ∃ count u result, t.run (ownSteps choices count) = some u ∧
      u.life.work = some (a, .done result)) ∧
    (∀ counter world next, t.apply (.own counter world) = some next →
      next.life.host.reports.errors = t.life.host.reports.errors) ∧
    ∀ finished, t.life.apply .finish = some finished → ∃ result,
      finished.ended = t.life.ended ++ [(a, result)] ∧
      finished.host.reports = t.life.host.reports.reportResult result ∧
      ∃! ending, (⟨l.host.setting.config.timeouts, a, l.host.store.devices,
        finished.host.store.devices, t.deeds, result⟩ : Course).Ends ending := by
  have sound := sound_run (sound_begin took work writable) steady ran
  obtain ⟨rest, working, goes⟩ := sound.work
  refine ⟨exists_done working, fun _ _ _ => errors_own, fun finished ended => ?_⟩
  obtain ⟨_, result, busy, rfl⟩ := Lifecycle.finish_cases ended
  obtain ⟨rfl, rfl⟩ := Prod.mk.inj (Option.some.inj (busy.symm.trans working))
  have yields := goes [] result ⟨rfl, rfl⟩
  rw [List.append_nil] at yields
  obtain ⟨ending, ends⟩ := Course.exists_ends
    (c := ⟨_, _, _, _, _, _⟩) yields sound.unfolds sound.heard
  exact ⟨result, rfl, rfl, ending, ends, fun other ends' => Course.ends_unique ends' ends⟩

/-- The answers of a radio that takes every question about a device. -/
def willing : (effect : Effect) → effect.Answer
  | .request .zdoSimpleDescReq _ => .ok (Lifecycle.granted, ())
  | effect => Lifecycle.taciturn effect

/-- What the lamp tells when it is asked: a confirmation and a reply without attributes, that it
is a router, that it has the endpoint 11, and what this offers. -/
def tellings : List Indication :=
  [⟨.afDataConfirm, (Lifecycle.granted, 1, 1, ())⟩,
    ⟨.afIncomingMessage, (0, 0, "0x0001", 1, 1, 0, 100, 0, 0, 0, [0x18, 0x01, 0x01], ())⟩,
    ⟨.zdoNodeDescRsp, ("0x0001", Lifecycle.granted, "0x0001", (⟨1, by decide⟩, false, false, ()),
      (0, 0, ()), 0, 0x100b, 0, 0, 0, 0, 0, ())⟩,
    ⟨.zdoActiveEpRsp, ("0x0001", Lifecycle.granted, "0x0001", [11], ())⟩,
    ⟨.zdoSimpleDescRsp,
      ("0x0001", Lifecycle.granted, "0x0001", 0, 11, 0x0104, 0x0100, 0, [6], [], ())⟩]

/-- What the lamp announces. -/
def arrival : Announcement := ("0x0001", "0x0001", Lifecycle.lamp, 0, ())

/-- A stack without devices whose worker is about to take the announcement of the lamp. -/
def welcoming : Lifecycle :=
  let host := Lifecycle.passingBy.host
  { host := { host with
    mux := { host.mux with indications := { host.mux.indications with items := tellings } }
    announced := { host.announced with items := [arrival] } } }

/-- The worker is busy, and then the lamp tells something. -/
def exchange (count : Nat) (telling : Indication) : List Step :=
  List.replicate count (.own .initial willing) ++ [.others .listen [.dispatch telling]]

/-- The lamp is asked everything, kept, and the owner told. -/
def interview : List Step :=
  (List.zipWith exchange [5, 1, 5, 4, 4] tellings).flatten ++
    List.replicate 4 (.own .initial willing)

/-- The lamp is registered with its endpoint. -/
theorem registration_interview : ∃ begun t finished result,
    welcoming.apply .begin = some begun ∧ run ⟨begun, [], []⟩ interview = some t ∧
      t.life.apply .finish = some finished ∧
      finished.host.store.devices.map (·.endpoints.map (·.id)) = [[11]] ∧
      ∃! ending, (⟨welcoming.host.setting.config.timeouts, arrival, [],
        finished.host.store.devices, t.deeds, result⟩ : Course).Ends ending := by
  let begun : Lifecycle := (welcoming.apply .begin).get (by decide +kernel)
  have took : welcoming.apply .begin = some begun := (Option.some_get _).symm
  let t : Tenure := (run ⟨begun, [], []⟩ interview).get (by decide +kernel)
  have ran : run ⟨begun, [], []⟩ interview = some t := (Option.some_get _).symm
  let finished : Lifecycle := (t.life.apply .finish).get (by decide +kernel)
  have ended : t.life.apply .finish = some finished := (Option.some_get _).symm
  have writable : welcoming.host.store.disk.Writable := Disk.writable_iff.mpr ⟨rfl, rfl⟩
  have steady : ∀ step ∈ interview, step.IsSteady := by
    simp [interview, exchange, tellings, Step.IsSteady]
  obtain ⟨result, -, -, ends⟩ :=
    (registration_run took rfl writable steady ran).2.2 finished ended
  exact ⟨begun, t, finished, result, took, ran, ended, by decide +kernel, ends⟩

end Tenure

end Zigbee.Host
