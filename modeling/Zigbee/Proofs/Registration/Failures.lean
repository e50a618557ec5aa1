import Zigbee.Proofs.Database.Directory
import Zigbee.Proofs.Registration.Order

/-!
# What a failed operation leaves behind

An insertion or a removal fails for one of two reasons. An address is refused before anything
has been changed. But when the file cannot be written, the records in memory have been changed
already, and they stay so: the caller is told of a failure, and everything that comes later
finds what it would find after a success. So a device whose registration could not be saved is
known when it announces itself again, and one whose removal could not be saved is not when it
leaves again; neither of them is registered or unregistered in the eyes of the owner.
-/

/-- Whether a file or a stream failed. -/
def Zigbee.Failure.isIo : Zigbee.Failure → Bool
  | .io _ => true
  | _ => false

namespace Zigbee.Database

/-- The failure that is answered, if one is. -/
def Answer.failure? : Answer → Option Failure
  | .inserted (.error e) | .removed (.error e) => some e
  | _ => none

theorem Answer.failure?_inserted {result : Except Failure Unit} {e : Failure} :
    (Answer.inserted result).failure? = some e ↔ result = .error e := by
  cases result <;> simp [failure?]

theorem Answer.failure?_removed {result : Except Failure Device} {e : Failure} :
    (Answer.removed result).failure? = some e ↔ result = .error e := by
  cases result <;> simp [failure?]

namespace Store

variable {s t : Store} {operation : Operation} {e : Failure}

/-- The database with another file. -/
def onDisk (s : Store) (disk : Disk) : Store := { s with disk }

/-- Whether the operation inserts a device that is there just as it is. -/
def AlreadyHolds (s : Store) (operation : Operation) : Prop :=
  ∃ d, operation = .insert d ∧ s.device? d.ieeeAddress = some d

/-- Whether two databases hold the same records and can write their files. -/
structure Alike (s t : Store) : Prop where
  records : s.records = t.records
  writable : s.disk.Writable
  writable' : t.disk.Writable

/-! ### The same records -/

theorem records_perform (same : s.records = t.records) (operation : Operation) :
    (s.perform operation).records = (t.perform operation).records := by
  cases operation with
  | insert d => simp only [perform, records_insert, same]
  | remove ieee => simp only [perform, records_remove, same]
  | recordSeen network quality now => simp only [perform, records_recordSeen, same]
  | save => simp only [perform, records_save, same]
  | disturb disk => exact same

theorem writable_perform (writable : s.disk.Writable) {operation : Operation}
    (inMemory : ∀ disk, operation ≠ .disturb disk) :
    (s.perform operation).disk.Writable := by
  cases operation with
  | insert d =>
    obtain ⟨_, -, -, -, still⟩ | ⟨e, -, unchanged⟩ := insert_of_writable writable d
    · exact still
    · rw [perform, unchanged]
      exact writable
  | remove ieee =>
    obtain ⟨_, -, -, still⟩ | ⟨-, unchanged⟩ := remove_of_writable writable ieee
    · exact still
    · rw [perform, unchanged]
      exact writable
  | recordSeen network quality now =>
    simp only [perform, recordSeen]
    split <;> exact writable
  | save => exact (save_of_writable writable).2
  | disturb disk => exact absurd rfl (inMemory disk)

/-- What the file does not hinder depends on the records alone. -/
theorem Alike.fst_insert (alike : s.Alike t) (d : Device) : (s.insert d).1 = (t.insert d).1 := by
  obtain ⟨_, accepted, answered, -⟩ | ⟨e, refused, unchanged⟩ :=
    insert_of_writable alike.writable d
  · rw [alike.records] at accepted
    obtain ⟨_, -, answered', -⟩ | ⟨e, refused, -⟩ := insert_of_writable alike.writable' d
    · rw [answered, answered']
    · rw [accepted] at refused
      cases refused
  · rw [alike.records] at refused
    rw [unchanged, insert, refused]

theorem Alike.fst_remove (alike : s.Alike t) (ieee : String) :
    (s.remove ieee).1 = (t.remove ieee).1 := by
  have found : s.record? ieee = t.record? ieee := congrArg (List.find? _) alike.records
  obtain ⟨r, held, answered, -⟩ | ⟨absent, unchanged⟩ := remove_of_writable alike.writable ieee
  · obtain ⟨r', held', answered', -⟩ | ⟨absent, -⟩ := remove_of_writable alike.writable' ieee
    · rw [found, held'] at held
      rw [answered, answered', Option.some.inj held]
    · rw [found, absent] at held
      cases held
  · rw [unchanged, remove, ← found, absent]

theorem Alike.perform (alike : s.Alike t) (operation : Operation)
    (inMemory : ∀ disk, operation ≠ .disturb disk) :
    (s.perform operation).Alike (t.perform operation) where
  records := records_perform alike.records operation
  writable := writable_perform alike.writable inMemory
  writable' := writable_perform alike.writable' inMemory

/-! ### Failures -/

/-- Saving fails for no other reason than the file. -/
theorem isIo_of_save (failed : s.save.1 = .error e) : e.isIo = true := by
  unfold save at failed
  split at failed
  · cases failed
  · split at failed
    · cases failed
    · obtain rfl := Except.error.inj failed
      rfl

/-- A replacement changes nothing that can be seen exactly if it does not change the first
match. -/
theorem map_replaceFirst_eq_iff {α β : Type} {p : α → Bool} {f : α → α} {g : α → β} {l : List α} :
    (replaceFirst p f l).map g = l.map g ↔ ∀ a, l.find? p = some a → g (f a) = g a := by
  induction l with
  | nil => simp [replaceFirst]
  | cons first rest ih =>
    by_cases h : p first = true
    · rw [replaceFirst, if_pos h, List.find?_cons_of_pos h]
      simp
    · rw [replaceFirst, if_neg h, List.find?_cons_of_neg h, List.map_cons, List.map_cons,
        List.cons_inj_right, ih]

/-- An insertion fails because the address is refused, and then nothing has happened, or
because the file cannot be written. -/
theorem insert_failure_cases {d : Device} (failed : (s.insert d).1 = .error e) :
    (e.isIo = false ∧ (s.insert d).2 = s) ∨
    (e.isIo = true ∧ ∃ records, insertRecord s.records d = .ok records) := by
  cases accepted : insertRecord s.records d with
  | error e' =>
    rw [insert, accepted] at failed ⊢
    obtain rfl := Except.error.inj failed
    refine .inl ⟨?_, rfl⟩
    unfold insertRecord at accepted
    split at accepted
    · cases accepted
    · split at accepted
      · obtain rfl := Except.error.inj accepted
        rfl
      · cases accepted
  | ok records =>
    rw [insert, accepted] at failed
    dsimp only at failed
    split at failed
    · cases failed
    · rename_i saved
      obtain rfl := Except.error.inj failed
      exact .inr ⟨isIo_of_save (congrArg Prod.fst saved), records, rfl⟩

/-- So does a removal. -/
theorem remove_failure_cases {ieee : String} (failed : (s.remove ieee).1 = .error e) :
    (e.isIo = false ∧ (s.remove ieee).2 = s) ∨
    (e.isIo = true ∧ ∃ r, s.record? ieee = some r) := by
  cases found : s.record? ieee with
  | none =>
    rw [remove, found] at failed ⊢
    obtain rfl := Except.error.inj failed
    exact .inl ⟨rfl, rfl⟩
  | some r =>
    rw [remove, found] at failed
    dsimp only at failed
    split at failed
    · cases failed
    · rename_i saved
      obtain rfl := Except.error.inj failed
      exact .inr ⟨isIo_of_save (congrArg Prod.fst saved), r, rfl⟩

/-- An insertion that is accepted changes the devices unless it brings nothing new. -/
theorem device?_of_devices_insert {d : Device} {records : List Record}
    (accepted : insertRecord s.records d = .ok records)
    (same : (s.insert d).2.devices = s.devices) : s.device? d.ieeeAddress = some d := by
  rw [devices, records_insert, accepted, Except.toOption, Option.getD_some, devices] at same
  unfold insertRecord at accepted
  split at accepted
  · rename_i known
    obtain rfl := Except.ok.inj accepted
    obtain ⟨r, found⟩ := Option.isSome_iff_exists.mp (any_iff_isSome_find?.mp known)
    rw [device?, record?, found]
    exact congrArg some (map_replaceFirst_eq_iff.mp same r found).symm
  · split at accepted
    · cases accepted
    · obtain rfl := Except.ok.inj accepted
      simp at same

theorem records_insert_of_device? {d : Device} (known : s.device? d.ieeeAddress = some d) :
    (s.insert d).2.records = s.records := by
  obtain ⟨r, found, rfl⟩ := Option.map_eq_some_iff.mp known
  have kept : replaceFirst (·.device.ieeeAddress == r.device.ieeeAddress)
      (fun other => { other with device := r.device }) s.records = s.records := by
    have same := map_replaceFirst_eq_iff (g := id)
      (f := fun other : Record => { other with device := r.device })
      (p := (·.device.ieeeAddress == r.device.ieeeAddress)) (l := s.records)
    rw [List.map_id, List.map_id] at same
    refine same.mpr fun other first => ?_
    obtain rfl : r = other := Option.some.inj (found.symm.trans first)
    rfl
  have present : s.records.any (·.device.ieeeAddress == r.device.ieeeAddress) = true :=
    any_iff_isSome_find?.mpr (Option.isSome_of_mem found)
  rw [records_insert, insertRecord, if_pos present, Except.toOption, Option.getD_some, kept]

theorem devices_remove_ne {ieee : String} {r : Record} (found : s.record? ieee = some r) :
    (s.remove ieee).2.devices ≠ s.devices := by
  intro same
  have hr := List.mem_of_find?_eq_some found
  have nonempty := List.length_pos_of_mem hr
  have shorter := List.length_eraseP_of_mem (p := (·.device.ieeeAddress == ieee)) hr
    (beq_iff_eq.mpr (ieeeAddress_of_record? found))
  have length := congrArg List.length same
  rw [devices, devices, List.length_map, List.length_map, records_remove, shorter] at length
  omega

/-- An operation fails because an address is refused, and then nothing has happened; or because
the file cannot be written. Then it would have succeeded otherwise, and the devices are not
what they were, unless it has inserted what was there. -/
theorem failure_cases (failed : (s.answer operation).failure? = some e) :
    (e.isIo = false ∧ s.perform operation = s) ∨
    (e.isIo = true ∧ ((s.perform operation).devices = s.devices → s.AlreadyHolds operation) ∧
      ∀ disk : Disk, disk.Writable → ((s.onDisk disk).answer operation).failure? = none) := by
  cases operation with
  | insert d =>
    obtain refused | ⟨io, records, accepted⟩ :=
      insert_failure_cases (Answer.failure?_inserted.mp failed)
    · exact .inl refused
    · refine .inr ⟨io, fun same => ⟨d, rfl, device?_of_devices_insert accepted same⟩, ?_⟩
      intro disk writable
      obtain ⟨_, -, answered, -⟩ | ⟨_, refused, -⟩ :=
        insert_of_writable (s := s.onDisk disk) writable d
      · rw [answer, answered]
        rfl
      · rw [onDisk, accepted] at refused
        cases refused
  | remove ieee =>
    obtain refused | ⟨io, r, found⟩ := remove_failure_cases (Answer.failure?_removed.mp failed)
    · exact .inl refused
    · refine .inr ⟨io, fun same => absurd same (devices_remove_ne found), ?_⟩
      intro disk writable
      obtain ⟨r', -, answered, -⟩ | ⟨absent, -⟩ :=
        remove_of_writable (s := s.onDisk disk) writable ieee
      · rw [answer, answered]
        rfl
      · exact absurd (found.symm.trans absent) (by simp)
  | recordSeen network quality now => cases failed
  | save => cases failed
  | disturb disk => cases failed

theorem AlreadyHolds.records_perform (holds : s.AlreadyHolds operation) :
    (s.perform operation).records = s.records := by
  obtain ⟨d, rfl, known⟩ := holds
  exact records_insert_of_device? known

end Store
end Zigbee.Database

namespace Zigbee.Host

open Database Radio

namespace State

variable {s next : State} {t : Store}

/-- The host with another database. -/
def withStore (s : State) (store : Store) : State := { s with store }

/-- Whether a task does the same whatever has been written of the records. -/
def Oblivious (task : State → Option State) : Prop :=
  ∀ {s next : State} {t : Store}, s.store.Alike t → task s = some next →
    ∃ t', next.store.Alike t' ∧ task (s.withStore t) = some (next.withStore t')

theorem oblivious_takeIndication : Oblivious takeIndication := by
  intro s next t alike taken
  unfold takeIndication at taken
  split at taken
  · cases taken
  · rename_i queue
    obtain rfl := Option.some.inj taken
    refine ⟨t, alike, ?_⟩
    simp only [takeIndication, withStore, queue]

theorem oblivious_takeAnnouncement : Oblivious takeAnnouncement := by
  intro s next t alike taken
  unfold takeAnnouncement at taken
  split at taken
  · cases taken
  · rename_i queue
    obtain rfl := Option.some.inj taken
    refine ⟨t, alike, ?_⟩
    simp only [takeAnnouncement, withStore, queue]
    rfl

theorem oblivious_takeTrustCenter : Oblivious takeTrustCenter := by
  intro s next t alike taken
  unfold takeTrustCenter at taken
  split at taken
  · cases taken
  · rename_i queue
    obtain rfl := Option.some.inj taken
    refine ⟨t, alike, ?_⟩
    simp only [takeTrustCenter, withStore, queue]

theorem oblivious_takeFailure : Oblivious takeFailure := by
  intro s next t alike taken
  unfold takeFailure at taken
  split at taken
  · cases taken
  · rename_i queue
    obtain rfl := Option.some.inj taken
    refine ⟨t, alike, ?_⟩
    simp only [takeFailure, withStore, queue]

theorem unregister_alike (alike : s.store.Alike t) (ieee : String) :
    ∃ t', (s.unregister ieee).store.Alike t' ∧
      (s.withStore t).unregister ieee = (s.unregister ieee).withStore t' := by
  have answered := alike.fst_remove ieee
  have after := alike.perform (.remove ieee) (by simp)
  simp only [Store.perform] at after
  unfold unregister withStore
  dsimp only
  generalize s.store.remove ieee = removed at answered after ⊢
  generalize t.remove ieee = removed' at answered after ⊢
  obtain ⟨result, store⟩ := removed
  obtain ⟨result', store'⟩ := removed'
  obtain rfl : result = result' := answered
  cases result with
  | error e => exact ⟨store', after, rfl⟩
  | ok d => exact ⟨store', after, rfl⟩

theorem oblivious_takeDeparture : Oblivious takeDeparture := by
  intro s next t alike taken
  unfold takeDeparture at taken
  split at taken
  · cases taken
  · rename_i source ieee flags rest queue
    obtain rfl := Option.some.inj taken
    obtain ⟨t', after, same⟩ := unregister_alike (s := { s with
      routes := { s.routes with leave := { s.routes.leave with items := rest } } }) alike ieee
    refine ⟨t', after, ?_⟩
    have queue' : (s.withStore t).routes.leave.items = (source, ieee, flags) :: rest := queue
    simp only [takeDeparture, queue']
    exact congrArg some same

theorem processMessage_alike (alike : s.store.Alike t) (incoming : IncomingMessage) :
    ∃ t', (s.processMessage incoming).store.Alike t' ∧
      (s.withStore t).processMessage incoming = (s.processMessage incoming).withStore t' := by
  have found : t.deviceAt? incoming.source = s.store.deviceAt? incoming.source := by
    rw [Store.deviceAt?, Store.devices, ← alike.records]
    rfl
  have after := alike.perform
    (.recordSeen incoming.source incoming.linkQuality s.setting.moment) (by simp)
  unfold processMessage withStore
  dsimp only
  rw [found]
  split
  · exact ⟨t, alike, rfl⟩
  · split
    · exact ⟨t, alike, rfl⟩
    · exact ⟨_, after, rfl⟩

theorem oblivious_takeMessage : Oblivious takeMessage := by
  intro s next t alike taken
  unfold takeMessage at taken
  split at taken
  · cases taken
  · rename_i incoming rest queue
    obtain rfl := Option.some.inj taken
    obtain ⟨t', after, same⟩ := processMessage_alike (s := { s with
      routes := { s.routes with incoming := { s.routes.incoming with items := rest } } })
      alike incoming
    refine ⟨t', after, ?_⟩
    have queue' : (s.withStore t).routes.incoming.items = incoming :: rest := queue
    simp only [takeMessage, queue']
    exact congrArg some same

end State

namespace Lifecycle

variable {l next m : Lifecycle} {step : Step} {t : Store}

/-- The lifecycle of the host with another database. -/
def withStore (l : Lifecycle) (store : Store) : Lifecycle :=
  { l with host := l.host.withStore store }

/-- Whether the file can be written after the step if it could before. -/
def Step.IsSteady (step : Step) : Prop :=
  ∀ other, step = .elsewhere other → other.store.disk.Writable

/-- The worker gets the same answers. -/
theorem answer_alike {s : State} (alike : s.store.Alike t)
    (world : (effect : Effect) → effect.Answer) (effect : Effect) :
    (answer (s.withStore t) world effect).1 = (answer s world effect).1 ∧
      ∃ t', (answer s world effect).2.store.Alike t' ∧
        (answer (s.withStore t) world effect).2 = (answer s world effect).2.withStore t' := by
  have found (ieee : String) : t.record? ieee = s.store.record? ieee :=
    congrArg (List.find? _) alike.records.symm
  cases effect with
  | device ieee =>
    refine ⟨?_, t, alike, rfl⟩
    simp only [answer, State.withStore, Store.device?, found]
  | devices =>
    refine ⟨?_, t, alike, rfl⟩
    simp only [answer, State.withStore, Store.devices, alike.records]
  | linkQuality ieee =>
    refine ⟨?_, t, alike, rfl⟩
    simp only [answer, State.withStore, Store.state?, found]
  | insert d =>
    exact ⟨(alike.fst_insert d).symm, _, alike.perform (.insert d) (by simp), rfl⟩
  | _ => exact ⟨rfl, t, alike, rfl⟩

theorem actsOf_alike {s : State} (alike : s.store.Alike t) (effect : Effect) :
    actsOf (s.withStore t) effect = actsOf s effect := by
  simp only [actsOf, State.withStore, Store.refuses, alike.records]

/-- A step does the same whatever has been written of the records. -/
theorem apply_alike (alike : l.host.store.Alike t) (steady : step.IsSteady)
    (applied : l.apply step = some next) :
    ∃ t', next.host.store.Alike t' ∧ (l.withStore t).apply step = some (next.withStore t') := by
  cases step with
  | elsewhere other =>
    obtain rfl := Option.some.inj applied
    have writable := steady other rfl
    exact ⟨t.onDisk other.store.disk, ⟨alike.records, writable, writable⟩, rfl⟩
  | listen =>
    simp only [apply] at applied
    split at applied
    · cases applied
    · rename_i i rest queue
      obtain ⟨host, taken, rfl⟩ := Option.map_eq_some_iff.mp applied
      obtain ⟨t', after, taken'⟩ := State.oblivious_takeIndication alike taken
      have queue' : (l.host.withStore t).mux.indications.items = i :: rest := queue
      refine ⟨t', after, ?_⟩
      simp only [apply, withStore, queue', taken', Option.map_some]
      rfl
  | takeAnnouncement =>
    obtain ⟨a, rest, host, queue, taken, rfl⟩ := announcement_cases applied
    obtain ⟨t', after, taken'⟩ := State.oblivious_takeAnnouncement alike taken
    have queue' : (l.host.withStore t).routes.announce.items = a :: rest := queue
    refine ⟨t', after, ?_⟩
    simp only [apply, withStore, queue', taken', Option.map_some]
    rfl
  | takeDeparture =>
    obtain ⟨source, ieee, flags, rest, host, queue, taken, rfl⟩ := departure_cases applied
    obtain ⟨t', after, taken'⟩ := State.oblivious_takeDeparture alike taken
    have queue' : (l.host.withStore t).routes.leave.items = (source, ieee, flags) :: rest := queue
    have doubled : (l.host.withStore t).store.doubles ieee = l.host.store.doubles ieee := by
      rw [Store.doubles, Store.ieeeAddresses, Store.devices, Store.doubles, Store.ieeeAddresses,
        Store.devices, alike.records]
      rfl
    refine ⟨t', after, ?_⟩
    simp only [apply, withStore, queue', taken', doubled, Option.map_some]
  | takeTrustCenter =>
    obtain ⟨host, taken, rfl⟩ := Option.map_eq_some_iff.mp applied
    obtain ⟨t', after, taken'⟩ := State.oblivious_takeTrustCenter alike taken
    exact ⟨t', after, congrArg (Option.map _) taken'⟩
  | takeMessage =>
    obtain ⟨host, taken, rfl⟩ := Option.map_eq_some_iff.mp applied
    obtain ⟨t', after, taken'⟩ := State.oblivious_takeMessage alike taken
    exact ⟨t', after, congrArg (Option.map _) taken'⟩
  | takeFailure =>
    obtain ⟨host, taken, rfl⟩ := Option.map_eq_some_iff.mp applied
    obtain ⟨t', after, taken'⟩ := State.oblivious_takeFailure alike taken
    exact ⟨t', after, congrArg (Option.map _) taken'⟩
  | save =>
    obtain rfl := Option.some.inj applied
    exact ⟨t.save.2, alike.perform .save (by simp), rfl⟩
  | begin =>
    obtain ⟨a, rest, idle, queue, rfl⟩ := begin_cases applied
    have queue' : (l.host.withStore t).announced.items = a :: rest := queue
    refine ⟨t, alike, ?_⟩
    simp only [apply, withStore, idle, queue']
    rfl
  | effect world =>
    obtain ⟨a, effect, rest, busy, rfl⟩ := effect_cases applied
    obtain ⟨answered, t', after, same⟩ := answer_alike alike world effect
    refine ⟨t', after, ?_⟩
    simp only [apply, withStore, busy, answered, same, actsOf_alike alike]
  | finish =>
    obtain ⟨a, result, busy, rfl⟩ := finish_cases applied
    refine ⟨t, alike, ?_⟩
    simp only [apply, withStore, busy]
    rfl

theorem run_alike {steps : List Step} (alike : l.host.store.Alike t)
    (steady : ∀ step ∈ steps, step.IsSteady) (ran : l.run steps = some m) :
    ∃ t', m.host.store.Alike t' ∧ (l.withStore t).run steps = some (m.withStore t') := by
  induction steps generalizing l t with
  | nil =>
    obtain rfl := Option.some.inj ran
    exact ⟨t, alike, rfl⟩
  | cons step rest ih =>
    obtain ⟨next, applied, ran⟩ := Option.bind_eq_some_iff.mp ran
    obtain ⟨steady, later⟩ := List.forall_mem_cons.mp steady
    obtain ⟨t', after, applied'⟩ := apply_alike alike steady applied
    obtain ⟨t'', finally', ran'⟩ := ih after later ran
    refine ⟨t'', finally', ?_⟩
    rw [run, applied', Option.bind_some, ran']

/-- Whether nothing that happens later tells two databases apart, once the file can be written:
whatever is announced or leaves, whoever sends a message and whatever the devices answer, the
same is done and the owner is told the same. -/
def Indistinct (s t : Store) : Prop :=
  ∀ (l m : Lifecycle) (disk : Disk) (steps : List Step), disk.Writable →
    (∀ step ∈ steps, step.IsSteady) → (l.withStore (s.onDisk disk)).run steps = some m →
      ∃ store, store.records = m.host.store.records ∧
        (l.withStore (t.onDisk disk)).run steps = some (m.withStore store)

/-- Only other records can be told apart. -/
theorem indistinct_iff {s t : Store} : Indistinct s t ↔ s.records = t.records := by
  constructor
  · intro indistinct
    obtain ⟨store, records, same⟩ := indistinct passingBy _ {} []
      (Disk.writable_iff.mpr ⟨rfl, rfl⟩) (by simp) rfl
    have stores := congrArg (fun l => l.host.store.records) (Option.some.inj same)
    exact (stores.trans records).symm
  · intro same l m disk steps writable steady ran
    obtain ⟨t', after, ran'⟩ :=
      run_alike (l := l.withStore (s.onDisk disk)) (t := t.onDisk disk) ⟨same, writable, writable⟩
        steady ran
    exact ⟨t', after.records.symm, ran'⟩

/-- A failed insertion or removal leaves the devices as they were, and nothing that happens
later shows that it was tried, exactly if it is not the file that failed or the device inserted
was there just as it is. If it is the file that failed, everything later is as if the operation
had succeeded. -/
theorem harmless_failure_iff {s : Store} {operation : Operation} {e : Failure}
    (failed : (s.answer operation).failure? = some e) :
    ((s.perform operation).devices = s.devices ↔ e.isIo = false ∨ s.AlreadyHolds operation) ∧
    (Indistinct (s.perform operation) s ↔ e.isIo = false ∨ s.AlreadyHolds operation) ∧
    (e.isIo = true → ∀ disk : Disk, disk.Writable →
      ((s.onDisk disk).answer operation).failure? = none ∧
        Indistinct (s.perform operation) ((s.onDisk disk).perform operation)) := by
  have same_devices {s t : Store} (same : s.records = t.records) : s.devices = t.devices :=
    congrArg (List.map _) same
  simp only [indistinct_iff]
  obtain ⟨refused, unchanged⟩ | ⟨io, held, succeeds⟩ := Store.failure_cases failed
  · rw [unchanged]
    refine ⟨iff_of_true rfl (.inl refused), iff_of_true rfl (.inl refused), fun io => ?_⟩
    exact absurd (refused.symm.trans io) (by simp)
  · have only (harmless : e.isIo = false ∨ s.AlreadyHolds operation) :
        s.AlreadyHolds operation := harmless.resolve_left (by simp [io])
    refine ⟨⟨fun same => .inr (held same), fun harmless => ?_⟩,
      ⟨fun same => .inr (held (same_devices same)), fun harmless => ?_⟩, fun _ disk writable => ?_⟩
    · exact same_devices (only harmless).records_perform
    · exact (only harmless).records_perform
    · have kept : s.records = (s.onDisk disk).records := rfl
      exact ⟨succeeds disk writable, Store.records_perform kept operation⟩

/-- A database with the lamp. -/
def lit : Store := Store.empty.perform (.insert (Store.deviceWith lamp "0x0001"))

/-- Another device comes with the address of the lamp. -/
def intrusion : Operation := .insert (Store.deviceWith "0x0000000000000002" "0x0001")

theorem harmless_intrusion :
    (lit.answer intrusion).failure? = some (.addressConflict "0x0001" lamp) ∧
      (lit.perform intrusion).devices = lit.devices ∧ Indistinct (lit.perform intrusion) lit := by
  have failed : (lit.answer intrusion).failure? = some (.addressConflict "0x0001" lamp) := rfl
  obtain ⟨devices, indistinct, -⟩ := harmless_failure_iff failed
  exact ⟨failed, devices.mpr (.inl rfl), indistinct.mpr (.inl rfl)⟩

/-- Something stands where the file would be written first. -/
def blocked : Disk := { spoiled := true }

/-- The lamp announces itself, and the worker looks at what it then has to do. -/
def reunion : List Step :=
  [.listen, .takeAnnouncement, .begin] ++ List.replicate 3 (.effect taciturn) ++ [.finish]

/-- The owner has been told that the lamp has not been registered, or not been removed, because
the file could not be written. When the file can be written again, the lamp announces itself
and is taken for a known device, so it is never registered; or it leaves and is not known, so
it is never unregistered. -/
theorem unsaved_lamp_stays_changed :
    (let arrival := Operation.insert (Store.deviceWith lamp "0x0001")
     let s := Store.empty.onDisk blocked
     (s.answer arrival).failure? = some (.io .isADirectory) ∧
      (s.perform arrival).devices ≠ s.devices ∧
      ∃ m, (passingBy.withStore ((s.perform arrival).onDisk {})).run reunion = some m ∧
        m.host.reports.registered.items = [] ∧
        m.host.reports.becameAvailable.items = [Store.deviceWith lamp "0x0001"]) ∧
    (let s := lit.onDisk blocked
     (s.answer (.remove lamp)).failure? = some (.io .isADirectory) ∧
      (s.perform (.remove lamp)).devices ≠ s.devices ∧
      let host := passingBy.host.withStore ((s.perform (.remove lamp)).onDisk {})
      (host.unregister lamp).reports.unregistered.items = [] ∧
        (host.unregister lamp).reports.errors.items = [.deviceNotFound lamp]) := by
  refine ⟨⟨rfl, by decide +kernel, ?_⟩, rfl, by decide +kernel, rfl, rfl⟩
  exact ⟨_, rfl, rfl, rfl⟩

end Lifecycle
end Zigbee.Host
