import Mathlib.Data.List.Induction
import Mathlib.Data.List.Nodup
import Zigbee.Database.Store

/-!
# Which addresses the database holds

No two records ever have the same extended address. That no two have the same network
address needs one more thing: an insertion that finds a record with the extended address
of its device does not look whether another device holds the network address, so it may
take that address over. Nothing else makes two records share a network address. As long as
they do not, whatever looks a device up by its network address can only mean that one.
-/

namespace Zigbee.Database

/-! ### Replacing a record -/

section ReplaceFirst

variable {α β : Type} (p : α → Bool) (f : α → α)

/-- Nothing is replaced, or one element is. -/
theorem replaceFirst_cases (l : List α) :
    ((∀ a ∈ l, p a = false) ∧ Store.replaceFirst p f l = l) ∨
    ∃ front a back, l = front ++ a :: back ∧ p a = true ∧
      Store.replaceFirst p f l = front ++ f a :: back := by
  induction l with
  | nil => exact .inl ⟨by simp, rfl⟩
  | cons first rest ih =>
    by_cases h : p first = true
    · refine .inr ⟨[], first, rest, rfl, h, ?_⟩
      rw [Store.replaceFirst, if_pos h, List.nil_append]
    · rw [Store.replaceFirst, if_neg h]
      obtain ⟨none, same⟩ | ⟨front, a, back, rfl, ha, replaced⟩ := ih
      · refine .inl ⟨?_, by rw [same]⟩
        simpa [h] using none
      · exact .inr ⟨first :: front, a, back, rfl, ha, by rw [replaced, List.cons_append]⟩

/-- What the replacement keeps is the same in the whole list. -/
theorem map_replaceFirst {g : α → β} (keeps : ∀ a, g (f a) = g a) (l : List α) :
    (Store.replaceFirst p f l).map g = l.map g := by
  obtain ⟨-, same⟩ | ⟨front, a, back, rfl, -, replaced⟩ := replaceFirst_cases p f l
  · rw [same]
  · simp only [replaced, List.map_append, List.map_cons, keeps a]

/-- If only one element matches, it does not matter that only the first is replaced. -/
theorem replaceFirst_eq_map {l : List α}
    (single : l.Pairwise fun a b => ¬ (p a = true ∧ p b = true)) :
    Store.replaceFirst p f l = l.map fun a => if p a then f a else a := by
  induction l with
  | nil => rfl
  | cons first rest ih =>
    rw [List.pairwise_cons] at single
    by_cases h : p first = true
    · have others : rest.map (fun a => if p a then f a else a) = rest := by
        refine (List.map_congr_left fun a ha => if_neg ?_).trans (List.map_id' rest)
        exact fun matched => single.1 a ha ⟨h, matched⟩
      rw [Store.replaceFirst, if_pos h, List.map_cons, others, if_pos h]
    · rw [Store.replaceFirst, if_neg h, ih single.2, List.map_cons, if_neg h]

end ReplaceFirst

/-! ### Operations -/

/-- What callers do with the database, and what happens to its file. -/
inductive Operation where
  | insert (d : Device)
  | remove (ieee : String)
  | recordSeen (network : String) (quality : BitVec 8) (now : String)
  | save
  /-- The file, or what is around it, changes. -/
  | disturb (disk : Disk)

namespace Store

variable {s : Store} {operation : Operation}

/-- The store after an operation, whether it succeeds or fails. -/
def perform (s : Store) : Operation → Store
  | .insert d => (s.insert d).2
  | .remove ieee => (s.remove ieee).2
  | .recordSeen network quality now => (s.recordSeen network quality now).2
  | .save => s.save.2
  | .disturb disk => { s with disk }

/-- The store after operations. -/
def performAll (s : Store) (operations : List Operation) : Store :=
  operations.foldl perform s

/-- The extended addresses of the devices. -/
def ieeeAddresses (s : Store) : List String := s.devices.map (·.ieeeAddress)

/-- The network addresses of the devices. -/
def networkAddresses (s : Store) : List String := s.devices.map (·.networkAddress)

/-- Whether the operation gives a known device a network address that another one holds. -/
def Takeover (s : Store) (operation : Operation) : Prop :=
  ∃ d, operation = .insert d ∧ d.ieeeAddress ∈ s.ieeeAddresses ∧
    ∃ other ∈ s.devices, other.ieeeAddress ≠ d.ieeeAddress ∧
      other.networkAddress = d.networkAddress

/-- What every operation leaves to a later save is on the disk alone. -/
theorem records_save (s : Store) : s.save.2.records = s.records := by
  unfold save
  split
  · rfl
  · split <;> rfl

theorem records_insert (s : Store) (d : Device) :
    (s.insert d).2.records = (insertRecord s.records d).toOption.getD s.records := by
  unfold insert
  cases insertRecord s.records d with
  | error e => rfl
  | ok records =>
    have kept := records_save (s.change records)
    dsimp only
    generalize (s.change records).save = saved at kept ⊢
    obtain ⟨result, next⟩ := saved
    cases result <;> exact kept

theorem records_remove (s : Store) (ieee : String) :
    (s.remove ieee).2.records = s.records.eraseP (·.device.ieeeAddress == ieee) := by
  unfold remove
  cases found : s.record? ieee with
  | none =>
    refine (List.eraseP_of_forall_not ?_).symm
    exact List.find?_eq_none.mp found
  | some r =>
    have kept := records_save (s.change (s.records.eraseP (·.device.ieeeAddress == ieee)))
    dsimp only
    generalize (s.change (s.records.eraseP (·.device.ieeeAddress == ieee))).save = saved at kept ⊢
    obtain ⟨result, next⟩ := saved
    cases result <;> exact kept

theorem records_recordSeen (s : Store) (network : String) (quality : BitVec 8) (now : String) :
    (s.recordSeen network quality now).2.records =
      replaceFirst (·.device.networkAddress == network)
        (fun r => { r with state := some ⟨quality, now⟩ }) s.records := by
  unfold recordSeen
  split
  · rfl
  · rename_i unknown
    obtain ⟨-, same⟩ | ⟨front, a, back, split, ha, -⟩ := replaceFirst_cases
      (·.device.networkAddress == network)
      (fun r : Record => { r with state := some ⟨quality, now⟩ }) s.records
    · exact same.symm
    · refine absurd (List.any_eq_true.mpr ⟨a, ?_, ha⟩) unknown
      rw [split]
      exact List.mem_append_right _ (List.mem_cons_self ..)

/-- That a device has been heard changes no device. -/
theorem devices_recordSeen (s : Store) (network : String) (quality : BitVec 8) (now : String) :
    (s.recordSeen network quality now).2.devices = s.devices := by
  rw [devices, records_recordSeen]
  refine map_replaceFirst _ _ ?_ s.records
  intro r
  rfl

/-- Whether the store does not insert the device because another one holds its network
address. -/
def refuses (s : Store) (d : Device) : Bool := (insertRecord s.records d).toOption.isNone

/-- An insertion replaces the device with the same extended address, or adds one at the end,
or is refused. -/
theorem insert_cases (s : Store) (d : Device) :
    (s.refuses d = false ∧ ∃ front old back, s.devices = front ++ old :: back ∧
      old.ieeeAddress = d.ieeeAddress ∧ (s.insert d).2.devices = front ++ d :: back) ∨
    (s.refuses d = false ∧ d.ieeeAddress ∉ s.ieeeAddresses ∧
      d.networkAddress ∉ s.networkAddresses ∧ (s.insert d).2.devices = s.devices ++ [d]) ∨
    (s.refuses d = true ∧ d.ieeeAddress ∉ s.ieeeAddresses ∧
      (s.insert d).2.devices = s.devices) := by
  rw [devices, devices, records_insert]
  unfold refuses insertRecord
  split
  · rename_i known
    obtain ⟨none, -⟩ | ⟨front, r, back, whole, hr, replaced⟩ := replaceFirst_cases
      (·.device.ieeeAddress == d.ieeeAddress) (fun r : Record => { r with device := d }) s.records
    · obtain ⟨r, hr, same⟩ := List.any_eq_true.mp known
      simp [none r hr] at same
    · refine .inl ⟨rfl, front.map (·.device), r.device, back.map (·.device), ?_,
        by simpa using hr, ?_⟩
      · rw [whole, List.map_append, List.map_cons]
      · rw [Except.toOption, Option.getD_some, replaced, List.map_append, List.map_cons]
  · rename_i unknown
    have absent : d.ieeeAddress ∉ s.ieeeAddresses := by
      simpa [ieeeAddresses, devices] using unknown
    split
    · exact .inr (.inr ⟨rfl, absent, rfl⟩)
    · rename_i free
      refine .inr (.inl ⟨rfl, absent, ?_, ?_⟩)
      · simpa [networkAddresses, devices] using free
      · rw [Except.toOption, Option.getD_some, List.map_append, List.map_singleton]

/-! ### Extended addresses -/

theorem ieeeAddresses_recordSeen (s : Store) (network : String) (quality : BitVec 8)
    (now : String) : (s.recordSeen network quality now).2.ieeeAddresses = s.ieeeAddresses := by
  rw [ieeeAddresses, devices_recordSeen, ieeeAddresses]

theorem ieeeAddresses_save (s : Store) : s.save.2.ieeeAddresses = s.ieeeAddresses := by
  rw [ieeeAddresses, devices, records_save, ieeeAddresses, devices]

/-- No operation makes two devices share an extended address. -/
theorem nodup_ieeeAddresses_perform (h : s.ieeeAddresses.Nodup) (operation : Operation) :
    (s.perform operation).ieeeAddresses.Nodup := by
  cases operation with
  | insert d =>
    obtain ⟨-, front, old, back, whole, same, replaced⟩ | ⟨-, absent, -, added⟩ | ⟨-, -, kept⟩ :=
      insert_cases s d
    · rw [ieeeAddresses, whole] at h
      rw [perform, ieeeAddresses, replaced]
      simpa only [List.map_append, List.map_cons, same] using h
    · rw [perform, ieeeAddresses, added, List.map_append, List.nodup_append_comm]
      exact List.nodup_cons.mpr ⟨absent, h⟩
    · rw [perform, ieeeAddresses, kept]
      exact h
  | remove ieee =>
    rw [perform, ieeeAddresses, devices, records_remove]
    exact List.Nodup.sublist ((List.eraseP_sublist.map _).map _) h
  | recordSeen network quality now =>
    rw [perform, ieeeAddresses_recordSeen]
    exact h
  | save =>
    rw [perform, ieeeAddresses_save]
    exact h
  | disturb disk => exact h

theorem device?_eq (s : Store) (ieee : String) :
    s.device? ieee = s.devices.find? (·.ieeeAddress == ieee) := by
  rw [devices, List.find?_map]
  rfl

theorem isSome_device?_iff {ieee : String} :
    (s.device? ieee).isSome = true ↔ ieee ∈ s.ieeeAddresses := by
  rw [device?_eq, List.find?_isSome]
  simp [ieeeAddresses]

theorem ieeeAddress_of_device? {ieee : String} {d : Device} (h : s.device? ieee = some d) :
    d.ieeeAddress = ieee := by
  rw [device?_eq] at h
  simpa using List.find?_some h

/-- After an insertion that is not refused the device is there, and no other comes or goes. -/
theorem mem_ieeeAddresses_insert (s : Store) (d : Device) (ieee : String) :
    ieee ∈ (s.insert d).2.ieeeAddresses ↔
      if d.ieeeAddress = ieee then s.refuses d = false else ieee ∈ s.ieeeAddresses := by
  obtain ⟨accepted, front, old, back, whole, same, replaced⟩ | ⟨accepted, absent, -, added⟩ |
    ⟨refused, absent, kept⟩ := insert_cases s d
  · have addresses : (s.insert d).2.ieeeAddresses = s.ieeeAddresses := by
      simp only [ieeeAddresses, replaced, whole, List.map_append, List.map_cons, same]
    have known : d.ieeeAddress ∈ s.ieeeAddresses := by
      simp [ieeeAddresses, whole, same]
    rw [addresses]
    split
    · rename_i equal
      exact iff_of_true (equal ▸ known) accepted
    · rfl
  · rw [ieeeAddresses, added, List.map_append, List.mem_append, List.map_singleton,
      List.mem_singleton]
    split
    · rename_i equal
      exact iff_of_true (.inr equal.symm) accepted
    · rename_i different
      exact or_iff_left fun equal => different equal.symm
  · rw [ieeeAddresses, kept]
    split
    · rename_i equal
      exact iff_of_false (equal ▸ absent) (by simp [refused])
    · rfl

theorem ieeeAddresses_remove (s : Store) (ieee : String) :
    (s.remove ieee).2.ieeeAddresses = s.ieeeAddresses.erase ieee := by
  rw [ieeeAddresses, devices, records_remove, List.map_map, ieeeAddresses, devices, List.map_map,
    List.erase_eq_eraseP', List.eraseP_map]
  rfl

/-- Whether the store has more than one record with the extended address. -/
def doubles (s : Store) (ieee : String) : Bool := decide (2 ≤ s.ieeeAddresses.count ieee)

theorem doubles_eq_false (distinct : s.ieeeAddresses.Nodup) (ieee : String) :
    s.doubles ieee = false := by
  have once := List.nodup_iff_count_le_one.mp distinct ieee
  rw [doubles, decide_eq_false_iff_not]
  omega

/-- After a removal only another record can have the address, and no other device comes or
goes. -/
theorem mem_ieeeAddresses_remove (s : Store) (ieee other : String) :
    other ∈ (s.remove ieee).2.ieeeAddresses ↔
      if ieee = other then s.doubles ieee = true else other ∈ s.ieeeAddresses := by
  rw [ieeeAddresses_remove]
  split
  · rename_i same
    rw [← same, ← List.count_pos_iff, List.count_erase_self, doubles, decide_eq_true_iff]
    omega
  · rename_i different
    exact List.mem_erase_of_ne fun same => different same.symm

/-! ### Network addresses -/

/-- The address of a replaced device is taken if another device has it. -/
theorem takeover_insert_iff {front back : List Device} {old d : Device}
    (ieee : s.ieeeAddresses.Nodup) (whole : s.devices = front ++ old :: back)
    (same : old.ieeeAddress = d.ieeeAddress) :
    s.Takeover (.insert d) ↔ d.networkAddress ∈ (front ++ back).map (·.networkAddress) := by
  rw [ieeeAddresses, whole, List.map_append, List.map_cons, List.nodup_middle, List.nodup_cons,
    ← List.map_append, same] at ieee
  constructor
  · rintro ⟨d', inserted, -, other, hother, different, taken⟩
    obtain rfl := Operation.insert.inj inserted
    refine List.mem_map.mpr ⟨other, ?_, taken⟩
    rw [whole, List.mem_append, List.mem_cons] at hother
    obtain before | rfl | behind := hother
    · exact List.mem_append_left _ before
    · exact absurd same different
    · exact List.mem_append_right _ behind
  · intro taken
    obtain ⟨other, hother, held⟩ := List.mem_map.mp taken
    refine ⟨d, rfl, ?_, other, ?_, ?_, held⟩
    · rw [ieeeAddresses, whole, List.map_append, List.map_cons, same]
      exact List.mem_append_right _ (List.mem_cons_self ..)
    · rw [whole]
      obtain before | behind := List.mem_append.mp hother
      · exact List.mem_append_left _ before
      · exact List.mem_append_right _ (List.mem_cons_of_mem _ behind)
    · exact fun equal => ieee.1 (List.mem_map.mpr ⟨other, hother, equal⟩)

theorem not_takeover_of_absent {d : Device} (absent : d.ieeeAddress ∉ s.ieeeAddresses) :
    ¬ s.Takeover (.insert d) := by
  rintro ⟨d', inserted, known, -⟩
  obtain rfl := Operation.insert.inj inserted
  exact absent known

theorem not_takeover_of_ne {operation : Operation} (other : ∀ d, operation ≠ .insert d) :
    ¬ s.Takeover operation := by
  rintro ⟨d, inserted, -⟩
  exact other d inserted

/-- Only a takeover makes two devices share a network address. -/
theorem nodup_networkAddresses_perform_iff (ieee : s.ieeeAddresses.Nodup)
    (network : s.networkAddresses.Nodup) (operation : Operation) :
    (s.perform operation).networkAddresses.Nodup ↔ ¬ s.Takeover operation := by
  cases operation with
  | insert d =>
    obtain ⟨-, front, old, back, whole, same, replaced⟩ | ⟨-, absent, free, added⟩ |
      ⟨-, absent, kept⟩ := insert_cases s d
    · rw [networkAddresses, whole, List.map_append, List.map_cons, List.nodup_middle,
        List.nodup_cons, ← List.map_append] at network
      rw [perform, networkAddresses, replaced, List.map_append, List.map_cons, List.nodup_middle,
        List.nodup_cons, ← List.map_append, takeover_insert_iff ieee whole same]
      exact and_iff_left network.2
    · rw [perform, networkAddresses, added, List.map_append, List.nodup_append_comm]
      exact iff_of_true (List.nodup_cons.mpr ⟨free, network⟩) (not_takeover_of_absent absent)
    · rw [perform, networkAddresses, kept]
      exact iff_of_true network (not_takeover_of_absent absent)
  | remove ieee =>
    rw [perform, networkAddresses, devices, records_remove]
    refine iff_of_true (List.Nodup.sublist ((List.eraseP_sublist.map _).map _) network) ?_
    exact not_takeover_of_ne (by simp)
  | recordSeen address quality now =>
    rw [perform, networkAddresses, devices_recordSeen]
    exact iff_of_true network (not_takeover_of_ne (by simp))
  | save =>
    rw [perform, networkAddresses, devices, records_save]
    exact iff_of_true network (not_takeover_of_ne (by simp))
  | disturb disk => exact iff_of_true network (not_takeover_of_ne (by simp))

/-! ### What an address means -/

/-- Whether every address means one device. -/
structure Unambiguous (s : Store) : Prop where
  ieee : s.ieeeAddresses.Nodup
  network : s.networkAddresses.Nodup
  /-- Each device is found by its network address. -/
  found : ∀ d ∈ s.devices, s.deviceAt? d.networkAddress = some d
  /-- What is noted for a network address is noted wherever it stands. -/
  noted : ∀ address quality now, (s.recordSeen address quality now).2.records =
    s.records.map fun r =>
      if r.device.networkAddress == address then { r with state := some ⟨quality, now⟩ } else r

theorem find?_networkAddress {devices : List Device} {d : Device}
    (distinct : (devices.map (·.networkAddress)).Nodup) (hd : d ∈ devices) :
    devices.find? (·.networkAddress == d.networkAddress) = some d := by
  induction devices with
  | nil => simp at hd
  | cons first rest ih =>
    rw [List.map_cons, List.nodup_cons] at distinct
    obtain rfl | later := List.mem_cons.mp hd
    · rw [List.find?_cons_of_pos (by simp)]
    · have different : first.networkAddress ≠ d.networkAddress := fun same =>
        distinct.1 (List.mem_map.mpr ⟨d, later, same.symm⟩)
      rw [List.find?_cons_of_neg (by simpa using different)]
      exact ih distinct.2 later

theorem unambiguous_of_nodup (ieee : s.ieeeAddresses.Nodup)
    (network : s.networkAddresses.Nodup) : s.Unambiguous where
  ieee := ieee
  network := network
  found := fun _ hd => find?_networkAddress network hd
  noted := by
    intro address quality now
    rw [records_recordSeen]
    refine replaceFirst_eq_map _ _ ?_
    rw [networkAddresses, devices, List.map_map, List.Nodup, List.pairwise_map] at network
    refine network.imp ?_
    rintro r r' different ⟨held, held'⟩
    exact different ((beq_iff_eq.mp held).trans (beq_iff_eq.mp held').symm)

/-! ### Runs -/

theorem performAll_append (s : Store) (before : List Operation) (operation : Operation) :
    s.performAll (before ++ [operation]) = (s.performAll before).perform operation := by
  simp only [performAll, List.foldl_append, List.foldl_cons, List.foldl_nil]

theorem nodup_ieeeAddresses_run (h : s.ieeeAddresses.Nodup) (operations : List Operation) :
    (s.performAll operations).ieeeAddresses.Nodup := by
  induction operations generalizing s with
  | nil => exact h
  | cons operation rest ih => exact ih (nodup_ieeeAddresses_perform h operation)

/-- All along a run of operations every address means one device, exactly if no operation
of the run is a takeover. -/
theorem unambiguous_run_iff (ieee : s.ieeeAddresses.Nodup) (network : s.networkAddresses.Nodup)
    (operations : List Operation) :
    (∀ before, before <+: operations → (s.performAll before).Unambiguous) ↔
      ∀ before operation, before ++ [operation] <+: operations →
        ¬ (s.performAll before).Takeover operation := by
  constructor
  · intro clear before operation inside
    have first := clear before ((List.prefix_append _ _).trans inside)
    have after := clear (before ++ [operation]) inside
    rw [performAll_append] at after
    exact (nodup_networkAddresses_perform_iff first.ieee first.network operation).mp after.network
  · intro apart before
    induction before using List.reverseRecOn with
    | nil => exact fun _ => unambiguous_of_nodup ieee network
    | append_singleton before operation ih =>
      intro inside
      have first := ih ((List.prefix_append _ _).trans inside)
      rw [performAll_append]
      refine unambiguous_of_nodup (nodup_ieeeAddresses_perform first.ieee operation) ?_
      exact (nodup_networkAddresses_perform_iff first.ieee first.network operation).mpr
        (apart before operation inside)

/-- The database before any device has been inserted. -/
def empty : Store := { records := [], disk := {} }

/-- A device of which nothing is known but its addresses. -/
def deviceWith (ieee network : String) : Device where
  ieeeAddress := ieee
  networkAddress := network
  manufacturer := ""
  manufacturerId := 0
  model := ""
  logicalType := .unknown
  mainPowered := false
  powerSource := .unknown
  endpoints := []

theorem unambiguous_insert : empty.ieeeAddresses.Nodup ∧ empty.networkAddresses.Nodup ∧
    (empty.performAll [.insert (deviceWith "0x0000000000000001" "0x0001")]).Unambiguous := by
  have ieee : empty.ieeeAddresses.Nodup := List.nodup_nil
  have network : empty.networkAddresses.Nodup := List.nodup_nil
  refine ⟨ieee, network, (unambiguous_run_iff ieee network _).mpr ?_ _ List.prefix_rfl⟩
  rintro before operation inside ⟨d, -, known, -⟩
  have short := inside.length_le
  simp only [List.length_append, List.length_singleton] at short
  obtain rfl : before = [] := List.length_eq_zero_iff.mp (by omega)
  exact absurd known (List.not_mem_nil)

/-- Two devices come with addresses of their own, and then the first takes that of the
second. -/
def takeover : List Operation :=
  [.insert (deviceWith "0x0000000000000001" "0x0001"),
   .insert (deviceWith "0x0000000000000002" "0x0002"),
   .insert (deviceWith "0x0000000000000001" "0x0002")]

theorem takeover_shares_address :
    (empty.performAll takeover).networkAddresses = ["0x0002", "0x0002"] ∧
      ¬ (empty.performAll takeover).Unambiguous := by
  have shared : (empty.performAll takeover).networkAddresses = ["0x0002", "0x0002"] := by
    rfl
  refine ⟨shared, fun clear => ?_⟩
  have distinct := clear.network
  rw [shared] at distinct
  exact absurd distinct (by decide)

end Store

end Zigbee.Database
