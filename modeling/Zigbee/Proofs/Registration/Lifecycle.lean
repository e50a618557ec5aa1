import Zigbee.Host.Schedule
import Zigbee.Proofs.Database.Addresses
import Zigbee.Proofs.Registration.Programs

/-!
# How devices come and go

Announcements and departures reach the database on different ways. The coordinator puts both
into queues of their own. The stack takes from these in any order: it removes a device that
has left at once, but an announcement waits in a second queue until the worker of the
registration takes it.

A `Lifecycle` is the host with the worker beside it: what is left of its registration is
carried out one effect at a time, and anything may happen between two of them. It also keeps
a history, of which the host knows nothing: what the coordinator has handed on, what has been
done to the database, and which registrations have ended.
-/

namespace Zigbee.Host

open Database Radio

/-- The announcement of a device. -/
def announcementOf? : Indication → Option Announcement
  | ⟨.zdoEndDeviceAnnceInd, fields⟩ => some fields
  | _ => none

/-- The extended address of a device that has left. -/
def departureOf? : Indication → Option String
  | ⟨.zdoLeaveInd, (_, ieee, _)⟩ => some ieee
  | _ => none

/-- Whether the indication tells that the device is there or has left, if it is about the
device at all. -/
def noticeOf? (ieee : String) (i : Indication) : Option Bool :=
  if (announcementOf? i).map (·.ieeeAddress) = some ieee then some true
  else if departureOf? i = some ieee then some false
  else none

/-- Whether an indication would find its queue full. -/
def Routes.refuses (r : Routes) : Indication → Bool
  | ⟨.zdoEndDeviceAnnceInd, fields⟩ => (r.announce.offer fields).1 != .queued
  | ⟨.zdoLeaveInd, fields⟩ => (r.leave.offer fields).1 != .queued
  | _ => false

/-- Something done to the database. -/
inductive Act where
  | insertion (ieee : String) (refused : Bool)
  /-- A record is removed; the store may have had another one for the same device. -/
  | removal (ieee : String) (doubled : Bool)
deriving DecidableEq, Repr

namespace Act

/-- The device concerned. -/
def ieeeAddress : Act → String
  | insertion ieee _ | removal ieee _ => ieee

/-- Whether the act is an insertion. -/
def inserts : Act → Bool
  | insertion _ _ => true
  | removal _ _ => false

/-- Whether the device is in the database after the act. -/
def keeps : Act → Bool
  | insertion _ refused => !refused
  | removal _ doubled => doubled

end Act

/-- The host, the worker of the registration, and their history. -/
structure Lifecycle where
  host : State
  /-- What the worker registers, and what is left to do. -/
  work : Option (Announcement × Program (Except Failure Unit)) := none
  /-- What the coordinator has handed on. -/
  heard : List Indication := []
  /-- Whether something did not fit into its queue. -/
  lost : Bool := false
  acts : List Act := []
  ended : List (Announcement × Except Failure Unit) := []

/-- Whether the host answers by itself, without the radio. -/
def Effect.isOwn : Effect → Bool
  | .device _ | .devices | .linkQuality _ | .insert _ | .publish _ => true
  | _ => false

namespace Lifecycle

/-- What one of the tasks does next. -/
inductive Step where
  /-- Everything in the host that does not concern its devices becomes what it is in the given
  state. -/
  | elsewhere (other : State)
  /-- The coordinator hands an indication on. -/
  | listen
  | takeAnnouncement
  | takeDeparture
  | takeTrustCenter
  | takeMessage
  | takeFailure
  | save
  /-- The worker takes an announcement. -/
  | begin
  /-- The worker's next effect; the answer of the radio and its devices is given. -/
  | effect (world : (effect : Effect) → effect.Answer)
  | finish

/-- Whether a step does not concern the devices of the host. -/
def Step.isAside : Step → Bool
  | .elsewhere _ | .takeTrustCenter | .takeMessage | .takeFailure | .save => true
  | _ => false

variable (l : Lifecycle)

/-- The answer to an effect, and the host after it. -/
def answer (host : State) (world : (effect : Effect) → effect.Answer) :
    (effect : Effect) → effect.Answer × State
  | .device ieee => (host.store.device? ieee, host)
  | .devices => (host.store.devices, host)
  | .linkQuality ieee => ((host.store.state? ieee).map (·.linkQuality), host)
  | .insert d => ((host.store.insert d).1, { host with store := (host.store.insert d).2 })
  | .publish news =>
    ((host.reports.publish news).1, { host with reports := (host.reports.publish news).2 })
  | effect => (world effect, host)

/-- What an effect does to the database. -/
def actsOf (host : State) (effect : Effect) : List Act :=
  (effect.insertion?.map fun d => .insertion d.ieeeAddress (host.store.refuses d)).toList

/-- What a step does. -/
def apply : Step → Option Lifecycle
  | .elsewhere other =>
    some { l with host := { other with
      store := { l.host.store with disk := other.store.disk }
      routes := { other.routes with
        announce := l.host.routes.announce
        leave := l.host.routes.leave }
      announced := l.host.announced } }
  | .listen =>
    match l.host.mux.indications.items with
    | [] => none
    | i :: _ => l.host.takeIndication.map fun host =>
      { l with host, heard := l.heard ++ [i], lost := l.lost || l.host.routes.refuses i }
  | .takeAnnouncement =>
    match l.host.routes.announce.items with
    | [] => none
    | a :: _ => l.host.takeAnnouncement.map fun host =>
      { l with host, lost := l.lost || (l.host.announced.offer a).1 != .queued }
  | .takeDeparture =>
    match l.host.routes.leave.items with
    | [] => none
    | (_, ieee, _) :: _ => l.host.takeDeparture.map fun host =>
      { l with host, acts := l.acts ++ [.removal ieee (l.host.store.doubles ieee)] }
  | .takeTrustCenter => l.host.takeTrustCenter.map fun host => { l with host }
  | .takeMessage => l.host.takeMessage.map fun host => { l with host }
  | .takeFailure => l.host.takeFailure.map fun host => { l with host }
  | .save => some { l with host := { l.host with store := l.host.store.save.2 } }
  | .begin =>
    match l.work, l.host.announced.items with
    | none, a :: rest =>
      some { l with
        host := { l.host with announced := { l.host.announced with items := rest } }
        work := some (a, register l.host.setting.config.timeouts a) }
    | _, _ => none
  | .effect world =>
    match l.work with
    | some (a, .perform effect next) =>
      some { l with
        host := (answer l.host world effect).2
        work := some (a, next (answer l.host world effect).1)
        acts := l.acts ++ actsOf l.host effect }
    | _ => none
  | .finish =>
    match l.work with
    | some (a, .done result) =>
      some { l with
        host := { l.host with reports := l.host.reports.reportResult result }
        work := none
        ended := l.ended ++ [(a, result)] }
    | _ => none

/-- The state after a list of steps. -/
def run : Lifecycle → List Step → Option Lifecycle
  | l, [] => some l
  | l, step :: rest => (l.apply step).bind (·.run rest)

/-- Whether everything that has been heard has been dealt with. -/
structure Drained : Prop where
  announce : l.host.routes.announce.items = []
  leave : l.host.routes.leave.items = []
  announced : l.host.announced.items = []
  work : l.work = none

/-- Whether every interrogation has got its answers. -/
def Answered : Prop :=
  ∀ registration ∈ l.ended, ∀ e, registration.2 = .error e → e.isInterrogation = false

/-! ### What has been heard and done -/

/-- The announcements that have been heard. -/
def announcements : List Announcement := l.heard.filterMap announcementOf?

/-- The extended addresses of the devices that have left. -/
def departures : List String := l.heard.filterMap departureOf?

/-- What the last indication about a device tells. -/
def lastNotice? (ieee : String) : Option Bool := (l.heard.filterMap (noticeOf? ieee)).getLast?

/-- The extended addresses with which devices have been inserted. -/
def insertions : List String := (l.acts.filter (·.inserts)).map (·.ieeeAddress)

/-- The extended addresses whose devices have been removed. -/
def removals : List String := (l.acts.filter (!·.inserts)).map (·.ieeeAddress)

/-- The last that has been done with a device. -/
def lastAct? (ieee : String) : Option Act :=
  (l.acts.filter (·.ieeeAddress == ieee)).getLast?

end Lifecycle

/-! ### What a step changes -/

/-- The queues of announcements and departures are the same, and the database holds the same
addresses. -/
structure SameDevices (s next : State) : Prop where
  announce : next.routes.announce.items = s.routes.announce.items
  leave : next.routes.leave.items = s.routes.leave.items
  announced : next.announced.items = s.announced.items
  ieeeAddresses : next.store.ieeeAddresses = s.store.ieeeAddresses

theorem announce_reportOffer (r : Routes) (name : String) (offer : Offer) :
    (r.reportOffer name offer).announce = r.announce ∧
      (r.reportOffer name offer).leave = r.leave := by
  cases offer <;> exact ⟨rfl, rfl⟩

/-- What is not refused is queued behind what was there before. -/
theorem items_route {r : Routes} {i : Indication} (room : r.refuses i = false) :
    (r.route i).announce.items = r.announce.items ++ (announcementOf? i).toList ∧
      (r.route i).leave.items.map (·.2.1) =
        r.leave.items.map (·.2.1) ++ (departureOf? i).toList := by
  obtain ⟨kind, fields⟩ := i
  cases kind with
  | zdoEndDeviceAnnceInd =>
    have queued := Channel.items_offer_of_queued (by simpa [Routes.refuses] using room)
    simp only [Routes.route, announce_reportOffer]
    exact ⟨queued, (List.append_nil _).symm⟩
  | zdoLeaveInd =>
    have queued := Channel.items_offer_of_queued (by simpa [Routes.refuses] using room)
    simp only [Routes.route, announce_reportOffer]
    refine ⟨(List.append_nil _).symm, ?_⟩
    rw [queued, List.map_append]
    rfl
  | zdoTcDevInd =>
    simp [Routes.route, announce_reportOffer, announcementOf?, departureOf?]
  | afIncomingMessage =>
    simp [Routes.route, announce_reportOffer, announcementOf?, departureOf?]
  | _ => simp [Routes.route, announcementOf?, departureOf?]

/-- An announcement goes to the end of the queue of the registration, if there is room; the
database stays. -/
theorem takeAnnouncement_cases {s next : State} {a : Announcement} {rest : List Announcement}
    (queue : s.routes.announce.items = a :: rest) (h : s.takeAnnouncement = some next) :
    next.routes.announce.items = rest ∧ next.routes.leave.items = s.routes.leave.items ∧
      ((s.announced.offer a).1 = .queued → next.announced.items = s.announced.items ++ [a]) ∧
      next.store = s.store := by
  simp only [State.takeAnnouncement, queue] at h
  obtain rfl := Option.some.inj h
  exact ⟨rfl, rfl, Channel.items_offer_of_queued, rfl⟩

/-- A departure removes the device at once. -/
theorem takeDeparture_cases {s next : State} {source ieee : String} {flags : _}
    {rest : List IndicationKind.zdoLeaveInd.layout.Carrier}
    (queue : s.routes.leave.items = (source, ieee, flags) :: rest)
    (h : s.takeDeparture = some next) :
    next.routes.announce.items = s.routes.announce.items ∧ next.routes.leave.items = rest ∧
      next.announced.items = s.announced.items ∧ next.store = (s.store.remove ieee).2 := by
  simp only [State.takeDeparture, queue] at h
  obtain rfl := Option.some.inj h
  simp only [State.unregister]
  split
  · rename_i e store removed
    rw [removed]
    exact ⟨rfl, rfl, rfl, rfl⟩
  · rename_i d store removed
    rw [removed]
    exact ⟨rfl, rfl, rfl, rfl⟩

theorem sameDevices_takeTrustCenter {s next : State} (h : s.takeTrustCenter = some next) :
    SameDevices s next := by
  unfold State.takeTrustCenter at h
  split at h
  · simp at h
  · obtain rfl := Option.some.inj h
    exact ⟨rfl, rfl, rfl, rfl⟩

theorem sameDevices_processMessage (s : State) (incoming : IncomingMessage) :
    SameDevices s (s.processMessage incoming) := by
  unfold State.processMessage
  split
  · exact ⟨rfl, rfl, rfl, rfl⟩
  · split
    · exact ⟨rfl, rfl, rfl, rfl⟩
    · exact ⟨rfl, rfl, rfl, Store.ieeeAddresses_recordSeen s.store incoming.source _ _⟩

theorem sameDevices_takeMessage {s next : State} (h : s.takeMessage = some next) :
    SameDevices s next := by
  unfold State.takeMessage at h
  split at h
  · simp at h
  · obtain rfl := Option.some.inj h
    exact { sameDevices_processMessage _ _ with }

theorem sameDevices_takeFailure {s next : State} (h : s.takeFailure = some next) :
    SameDevices s next := by
  unfold State.takeFailure at h
  split at h
  · simp at h
  · obtain rfl := Option.some.inj h
    exact ⟨rfl, rfl, rfl, rfl⟩

namespace Lifecycle

/-! ### The worker's effects -/

/-- The host gives the answers that its own registrations get. -/
theorem advance_perform {s : State} {owner : Owner} {held : List Nat} {effect : Effect}
    {next : effect.Answer → Rest} (world : (effect : Effect) → effect.Answer)
    (own : effect.isOwn = true) :
    State.advance owner s held (.perform effect next) =
      State.advance owner (answer s world effect).2 held (next (answer s world effect).1) := by
  cases effect <;> first | rfl | simp [Effect.isOwn] at own

/-- A device is given only for its own address. -/
theorem admits_answer (s : State) (world : (effect : Effect) → effect.Answer) (effect : Effect) :
    effect.Admits (answer s world effect).1 := by
  cases effect with
  | device ieee =>
    intro d found
    exact Store.ieeeAddress_of_device? found
  | _ => trivial

theorem eq_insert_of_insertion? {effect : Effect} {d : Device}
    (h : effect.insertion? = some d) : effect = .insert d := by
  cases effect with
  | insert d' => exact congrArg _ (Option.some.inj h)
  | _ => simp [Effect.insertion?] at h

theorem sameDevices_answer {s : State} {world : (effect : Effect) → effect.Answer}
    {effect : Effect} (none : effect.insertion? = none) :
    SameDevices s (answer s world effect).2 := by
  cases effect with
  | insert d => simp [Effect.insertion?] at none
  | _ => exact ⟨rfl, rfl, rfl, rfl⟩

/-! ### What a step needs and does -/

variable {l next : Lifecycle} {step : Step}

theorem aside_cases (aside : step.isAside = true) (applied : l.apply step = some next) :
    ∃ host, SameDevices l.host host ∧ next = { l with host } := by
  cases step with
  | elsewhere other =>
    obtain rfl := Option.some.inj applied
    refine ⟨_, ?_, rfl⟩
    exact ⟨rfl, rfl, rfl, rfl⟩
  | takeTrustCenter =>
    obtain ⟨host, taken, rfl⟩ := Option.map_eq_some_iff.mp applied
    exact ⟨host, sameDevices_takeTrustCenter taken, rfl⟩
  | takeMessage =>
    obtain ⟨host, taken, rfl⟩ := Option.map_eq_some_iff.mp applied
    exact ⟨host, sameDevices_takeMessage taken, rfl⟩
  | takeFailure =>
    obtain ⟨host, taken, rfl⟩ := Option.map_eq_some_iff.mp applied
    exact ⟨host, sameDevices_takeFailure taken, rfl⟩
  | save =>
    obtain rfl := Option.some.inj applied
    refine ⟨_, ?_, rfl⟩
    exact ⟨rfl, rfl, rfl, Store.ieeeAddresses_save _⟩
  | _ => simp [Step.isAside] at aside

theorem listen_cases (applied : l.apply .listen = some next) :
    ∃ i mux waiters, next = { l with
      host := { l.host with mux, waiters, routes := l.host.routes.route i }
      heard := l.heard ++ [i]
      lost := l.lost || l.host.routes.refuses i } := by
  simp only [apply] at applied
  split at applied
  · simp at applied
  · rename_i i rest queue
    obtain ⟨host, taken, rfl⟩ := Option.map_eq_some_iff.mp applied
    simp only [State.takeIndication, queue] at taken
    obtain rfl := Option.some.inj taken
    exact ⟨i, _, _, rfl⟩

theorem announcement_cases (applied : l.apply .takeAnnouncement = some next) :
    ∃ a rest host, l.host.routes.announce.items = a :: rest ∧
      l.host.takeAnnouncement = some host ∧
      next = { l with host, lost := l.lost || (l.host.announced.offer a).1 != .queued } := by
  simp only [apply] at applied
  split at applied
  · simp at applied
  · rename_i a rest queue
    obtain ⟨host, taken, rfl⟩ := Option.map_eq_some_iff.mp applied
    exact ⟨a, rest, host, queue, taken, rfl⟩

theorem departure_cases (applied : l.apply .takeDeparture = some next) :
    ∃ source ieee flags rest host,
      l.host.routes.leave.items = (source, ieee, flags) :: rest ∧
      l.host.takeDeparture = some host ∧
      next = { l with host, acts := l.acts ++ [.removal ieee (l.host.store.doubles ieee)] } := by
  simp only [apply] at applied
  split at applied
  · simp at applied
  · rename_i source ieee flags rest queue
    obtain ⟨host, taken, rfl⟩ := Option.map_eq_some_iff.mp applied
    exact ⟨source, ieee, flags, rest, host, queue, taken, rfl⟩

theorem begin_cases (applied : l.apply .begin = some next) :
    ∃ a rest, l.work = none ∧ l.host.announced.items = a :: rest ∧ next = { l with
      host := { l.host with announced := { l.host.announced with items := rest } }
      work := some (a, register l.host.setting.config.timeouts a) } := by
  simp only [apply] at applied
  split at applied
  · rename_i a rest idle queue
    exact ⟨a, rest, idle, queue, (Option.some.inj applied).symm⟩
  · simp at applied

theorem effect_cases {world : (effect : Effect) → effect.Answer}
    (applied : l.apply (.effect world) = some next) :
    ∃ a effect rest, l.work = some (a, .perform effect rest) ∧ next = { l with
      host := (answer l.host world effect).2
      work := some (a, rest (answer l.host world effect).1)
      acts := l.acts ++ actsOf l.host effect } := by
  simp only [apply] at applied
  split at applied
  · rename_i a effect rest busy
    exact ⟨a, effect, rest, busy, (Option.some.inj applied).symm⟩
  · simp at applied

theorem finish_cases (applied : l.apply .finish = some next) :
    ∃ a result, l.work = some (a, .done result) ∧ next = { l with
      host := { l.host with reports := l.host.reports.reportResult result }
      work := none
      ended := l.ended ++ [(a, result)] } := by
  simp only [apply] at applied
  split at applied
  · rename_i a result busy
    exact ⟨a, result, busy, (Option.some.inj applied).symm⟩
  · simp at applied

end Lifecycle

end Zigbee.Host
