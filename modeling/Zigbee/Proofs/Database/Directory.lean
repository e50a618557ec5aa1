import Mathlib.Data.List.Find
import Mathlib.Data.List.Nodup
import Mathlib.Logic.Function.Basic
import Zigbee.Proofs.Database.Addresses

/-!
# The database as a map

To a caller the database is a map from extended addresses to devices and their states that
remembers the order in which the addresses came. `Directory` is that map, with nothing said
of lists of records, of revisions or of a file; every operation on it changes the entry of
one address. The database represents a directory as long as its addresses are distinct, and
while its file can be written every operation keeps that so and gives the same answer on
both sides.
-/

namespace Zigbee.Database

/-! ### The map -/

/-- A map from extended addresses to devices and their states. -/
structure Directory where
  /-- The addresses, in the order in which they came. -/
  keys : List String
  entry : String → Option Record
  distinct : keys.Nodup
  mem_keys : ∀ ieee, ieee ∈ keys ↔ (entry ieee).isSome = true
  /-- Every device stands under its own address. -/
  named : ∀ {ieee r}, entry ieee = some r → r.device.ieeeAddress = ieee

/-- What an operation answers. What saving the file says is about the file only. -/
inductive Answer where
  | inserted (result : Except Failure Unit)
  | removed (result : Except Failure Device)
  | heard (known : Bool)
  | silent

/-- Whether the answer is that the operation was not done. -/
def Answer.Refused : Answer → Prop
  | .inserted result => ∃ e, result = .error e
  | .removed result => ∃ e, result = .error e
  | .heard known => known = false
  | .silent => False

namespace Directory

variable (m : Directory)

/-- The map with another entry for an address that it has. -/
def modify (ieee : String) (f : Record → Record)
    (keeps : ∀ r, r.device.ieeeAddress = ieee → (f r).device.ieeeAddress = ieee) :
    Directory where
  keys := m.keys
  entry := Function.update m.entry ieee ((m.entry ieee).map f)
  distinct := m.distinct
  mem_keys := by
    intro other
    rw [m.mem_keys, Function.update_apply]
    split
    · rename_i same
      rw [same, Option.isSome_map]
    · rfl
  named := by
    intro other r found
    rw [Function.update_apply] at found
    split at found
    · rename_i same
      obtain ⟨old, held, rfl⟩ := Option.map_eq_some_iff.mp found
      rw [same]
      exact keeps old (m.named held)
    · exact m.named found

/-- The map with a device more, at the end and without a state. -/
def append (d : Device) (absent : m.entry d.ieeeAddress = none) : Directory where
  keys := m.keys ++ [d.ieeeAddress]
  entry := Function.update m.entry d.ieeeAddress (some ⟨d, none⟩)
  distinct := by
    rw [List.nodup_append_comm, List.singleton_append, List.nodup_cons]
    refine ⟨?_, m.distinct⟩
    rw [m.mem_keys, absent]
    simp
  mem_keys := by
    intro ieee
    rw [List.mem_append, m.mem_keys, List.mem_singleton, Function.update_apply]
    split
    · rename_i same
      exact iff_of_true (.inr same) rfl
    · rename_i different
      exact or_iff_left different
  named := by
    intro ieee r found
    rw [Function.update_apply] at found
    split at found
    · rename_i same
      rw [← Option.some.inj found, same]
    · exact m.named found

/-- The map without an address. -/
def erase (ieee : String) : Directory where
  keys := m.keys.erase ieee
  entry := Function.update m.entry ieee none
  distinct := m.distinct.erase ieee
  mem_keys := by
    intro other
    rw [m.distinct.mem_erase_iff, m.mem_keys, Function.update_apply]
    split
    · rename_i same
      simp [same]
    · rename_i different
      exact and_iff_right different
  named := by
    intro other r found
    rw [Function.update_apply] at found
    split at found
    · simp at found
    · exact m.named found

section Entries

variable {m} {f : Record → Record} {ieee : String} {d : Device}

@[simp] theorem keys_modify
    {keeps : ∀ r, r.device.ieeeAddress = ieee → (f r).device.ieeeAddress = ieee} :
    (m.modify ieee f keeps).keys = m.keys := rfl

theorem entry_modify
    {keeps : ∀ r, r.device.ieeeAddress = ieee → (f r).device.ieeeAddress = ieee}
    (other : String) : (m.modify ieee f keeps).entry other =
      if other = ieee then (m.entry ieee).map f else m.entry other :=
  Function.update_apply ..

@[simp] theorem keys_append {absent : m.entry d.ieeeAddress = none} :
    (m.append d absent).keys = m.keys ++ [d.ieeeAddress] := rfl

theorem entry_append {absent : m.entry d.ieeeAddress = none} (other : String) :
    (m.append d absent).entry other =
      if other = d.ieeeAddress then some ⟨d, none⟩ else m.entry other :=
  Function.update_apply ..

theorem entry_erase (ieee other : String) :
    (m.erase ieee).entry other = if other = ieee then none else m.entry other :=
  Function.update_apply ..

end Entries

/-- The first address, in order, whose device has the network address. -/
def holder? (network : String) : Option String :=
  m.keys.find? fun ieee => (m.entry ieee).any (·.device.networkAddress == network)

/-- Insert or replace a device. -/
def insert (d : Device) : Except Failure Unit × Directory :=
  match absent : m.entry d.ieeeAddress with
  | some _ => (.ok (), m.modify d.ieeeAddress (fun r => { r with device := d }) fun _ _ => rfl)
  | none =>
    match m.holder? d.networkAddress with
    | some other => (.error (.addressConflict d.networkAddress other), m)
    | none => (.ok (), m.append d absent)

/-- Remove a device; the answer is the device. -/
def remove (ieee : String) : Except Failure Device × Directory :=
  match m.entry ieee with
  | some r => (.ok r.device, m.erase ieee)
  | none => (.error (.deviceNotFound ieee), m)

/-- Note that a device has been heard. -/
def recordSeen (network : String) (quality : BitVec 8) (now : String) : Bool × Directory :=
  match m.holder? network with
  | some ieee =>
    (true, m.modify ieee (fun r => { r with state := some ⟨quality, now⟩ }) fun _ same => same)
  | none => (false, m)

/-- The answer to an operation, and the map after it. -/
def perform : Operation → Answer × Directory
  | .insert d => ((m.insert d).map .inserted id)
  | .remove ieee => ((m.remove ieee).map .removed id)
  | .recordSeen network quality now => ((m.recordSeen network quality now).map .heard id)
  | .save | .disturb _ => (.silent, m)

/-- The entries, in order. -/
def records : List Record := m.keys.filterMap m.entry

/-- The map after operations. -/
def performAll (operations : List Operation) : Directory :=
  operations.foldl (fun m operation => (m.perform operation).2) m

/-- The operations, each with its answer. -/
def transcript : Directory → List Operation → List (Operation × Answer)
  | _, [] => []
  | m, operation :: rest =>
    (operation, (m.perform operation).1) :: transcript (m.perform operation).2 rest

/-- The device under an address after an operation, from the one before and the answer. -/
def heldAfter (ieee : String) (held : Option Device) : Operation × Answer → Option Device
  | (.insert d, .inserted (.ok _)) => if ieee = d.ieeeAddress then some d else held
  | (.remove other, .removed (.ok _)) => if ieee = other then none else held
  | _ => held

/-- The last device inserted under an address and not removed since, from the operations and
their answers alone; before the first of them, the given one. -/
def lastInserted (ieee : String) (initial : Option Device)
    (transcript : List (Operation × Answer)) : Option Device :=
  transcript.foldl (heldAfter ieee) initial

/-- The device under an address. -/
def device? (ieee : String) : Option Device := (m.entry ieee).map (·.device)

/-- After each operation the answer tells which device stands under an address. -/
theorem device?_perform (operation : Operation) (ieee : String) :
    (m.perform operation).2.device? ieee =
      heldAfter ieee (m.device? ieee) (operation, (m.perform operation).1) := by
  cases operation with
  | insert d =>
    simp only [perform, Prod.map_fst, Prod.map_snd, id_eq]
    unfold insert
    split
    · rename_i r known
      rw [heldAfter, device?, entry_modify, known, Option.map_some, apply_ite (Option.map _)]
      rfl
    · split
      · rfl
      · rw [heldAfter, device?, entry_append, apply_ite (Option.map _)]
        rfl
  | remove other =>
    simp only [perform, Prod.map_fst, Prod.map_snd, id_eq]
    unfold remove
    split
    · rw [heldAfter, device?, entry_erase, apply_ite (Option.map _)]
      rfl
    · rfl
  | recordSeen network quality now =>
    simp only [perform, Prod.map_fst, Prod.map_snd, id_eq]
    unfold recordSeen
    split
    · rename_i holder _
      have kept : (m.modify holder (fun r => { r with state := some ⟨quality, now⟩ })
          fun _ same => same).device? ieee = m.device? ieee := by
        rw [device?, entry_modify, device?]
        split
        · rename_i same
          rw [same, Option.map_map]
          rfl
        · rfl
      exact kept
    · rfl
  | save => rfl
  | disturb disk => rfl

theorem device?_performAll (operations : List Operation) (ieee : String) :
    (m.performAll operations).device? ieee =
      lastInserted ieee (m.device? ieee) (m.transcript operations) := by
  induction operations generalizing m with
  | nil => rfl
  | cons operation rest ih =>
    rw [transcript, lastInserted, List.foldl_cons, ← device?_perform, ← lastInserted, ← ih]
    rfl

end Directory

/-! ### A file that can be written -/

/-- Whether writing the file succeeds. -/
def Disk.Writable (d : Disk) : Prop := ∀ text, ∃ after, d.write text = .ok after

theorem Disk.writable_iff {d : Disk} : d.Writable ↔ d.place = .file ∧ d.spoiled = false := by
  unfold Writable write
  constructor
  · intro writable
    obtain ⟨after, written⟩ := writable ""
    split at written
    · simp at written
    · simp at written
    · rename_i place
      split at written
      · simp at written
      · exact ⟨place, by simpa using ‹¬ d.spoiled = true›⟩
  · rintro ⟨place, clear⟩ text
    exact ⟨_, by simp only [place, clear, Bool.false_eq_true, if_false]; rfl⟩

theorem Disk.Writable.write {d after : Disk} {text : String} (writable : d.Writable)
    (written : d.write text = .ok after) : after.Writable := by
  obtain ⟨place, clear⟩ := writable_iff.mp writable
  simp only [Disk.write, place, clear, Bool.false_eq_true, if_false, Except.ok.injEq] at written
  rw [← written, writable_iff]
  exact ⟨rfl, rfl⟩

namespace Store

variable {s : Store} {m : Directory}

/-- Saving succeeds, and the file can be written again. -/
theorem save_of_writable (writable : s.disk.Writable) :
    (∃ written, s.save.1 = .ok written) ∧ s.save.2.disk.Writable := by
  unfold save
  split
  · exact ⟨⟨false, rfl⟩, writable⟩
  · obtain ⟨after, written⟩ := writable (encode s.records)
    rw [written]
    exact ⟨⟨true, rfl⟩, writable.write written⟩

/-- An insertion fails for no other reason than the address, and then nothing changes. -/
theorem insert_of_writable (writable : s.disk.Writable) (d : Device) :
    (∃ records, insertRecord s.records d = .ok records ∧ (s.insert d).1 = .ok () ∧
      (s.insert d).2.records = records ∧ (s.insert d).2.disk.Writable) ∨
    ∃ e, insertRecord s.records d = .error e ∧ s.insert d = (.error e, s) := by
  have records := records_insert s d
  cases accepted : insertRecord s.records d with
  | error e => exact .inr ⟨e, rfl, by rw [insert, accepted]⟩
  | ok after =>
    obtain ⟨⟨written, saved⟩, still⟩ := save_of_writable (s := s.change after) writable
    refine .inl ⟨after, rfl, ?_⟩
    rw [accepted] at records
    rw [insert, accepted] at records ⊢
    dsimp only at records ⊢
    generalize (s.change after).save = result at saved still records ⊢
    obtain ⟨answer, next⟩ := result
    obtain rfl := saved
    exact ⟨rfl, records, still⟩

/-- A removal fails for no other reason than the address, and then nothing changes. -/
theorem remove_of_writable (writable : s.disk.Writable) (ieee : String) :
    (∃ r, s.record? ieee = some r ∧ (s.remove ieee).1 = .ok r.device ∧
      (s.remove ieee).2.disk.Writable) ∨
    s.record? ieee = none ∧ s.remove ieee = (.error (.deviceNotFound ieee), s) := by
  unfold remove
  cases found : s.record? ieee with
  | none => exact .inr ⟨rfl, rfl⟩
  | some r =>
    obtain ⟨⟨written, saved⟩, still⟩ := save_of_writable
      (s := s.change (s.records.eraseP (·.device.ieeeAddress == ieee))) writable
    refine .inl ⟨r, rfl, ?_⟩
    dsimp only
    generalize (s.change (s.records.eraseP (·.device.ieeeAddress == ieee))).save = result
      at saved still ⊢
    obtain ⟨answer, next⟩ := result
    obtain rfl := saved
    exact ⟨rfl, still⟩

/-! ### Lists of records -/

/-- If a key tells the elements apart, the first match is replaced by its key. -/
theorem replaceFirst_eq_map_of_find? {α β : Type} [DecidableEq β] {p : α → Bool} {f : α → α}
    {key : α → β} {l : List α} {a : α} (distinct : (l.map key).Nodup)
    (found : l.find? p = some a) :
    replaceFirst p f l = l.map fun b => if key b = key a then f b else b := by
  induction l with
  | nil => simp at found
  | cons first rest ih =>
    rw [List.map_cons, List.nodup_cons] at distinct
    by_cases h : p first = true
    · rw [List.find?_cons_of_pos h] at found
      obtain rfl := Option.some.inj found
      rw [replaceFirst, if_pos h, List.map_cons, if_pos rfl]
      refine congrArg _ ((List.map_congr_left fun b hb => if_neg ?_).trans (List.map_id' rest)).symm
      exact fun same => distinct.1 (List.mem_map.mpr ⟨b, hb, same⟩)
    · rw [List.find?_cons_of_neg h] at found
      have other : key first ≠ key a := fun same =>
        distinct.1 (List.mem_map.mpr ⟨a, List.mem_of_find?_eq_some found, same.symm⟩)
      rw [replaceFirst, if_neg h, ih distinct.2 found, List.map_cons, if_neg other]

theorem any_iff_isSome_find? {α : Type} {p : α → Bool} {l : List α} :
    l.any p = true ↔ (l.find? p).isSome = true :=
  List.any_eq_true.trans List.find?_isSome.symm

theorem find?_eraseP_of_disjoint {α : Type} {p q : α → Bool} (apart : ∀ a, p a = true → q a = false)
    (l : List α) : (l.eraseP p).find? q = l.find? q := by
  induction l with
  | nil => rfl
  | cons first rest ih =>
    by_cases h : p first = true
    · rw [List.eraseP_cons_of_pos h, List.find?_cons_of_neg (by simp [apart first h])]
    · rw [List.eraseP_cons_of_neg h, List.find?_cons, List.find?_cons, ih]

/-! ### What the database represents -/

/-- Whether the database has the entries of the map, in its order. -/
structure Represents (s : Store) (m : Directory) : Prop where
  keys : s.ieeeAddresses = m.keys
  entry : ∀ ieee, s.record? ieee = m.entry ieee

/-- The answer to an operation. -/
def answer (s : Store) : Operation → Answer
  | .insert d => .inserted (s.insert d).1
  | .remove ieee => .removed (s.remove ieee).1
  | .recordSeen network quality now => .heard (s.recordSeen network quality now).1
  | .save | .disturb _ => .silent

/-- The operations, each with its answer. -/
def transcript : Store → List Operation → List (Operation × Answer)
  | _, [] => []
  | s, operation :: rest => (operation, s.answer operation) :: transcript (s.perform operation) rest

theorem ieeeAddresses_eq_map (s : Store) :
    s.ieeeAddresses = s.records.map (·.device.ieeeAddress) := by
  rw [ieeeAddresses, devices, List.map_map]
  rfl

theorem ieeeAddress_of_record? {ieee : String} {r : Record} (found : s.record? ieee = some r) :
    r.device.ieeeAddress = ieee := by
  simpa using List.find?_some found

theorem mem_ieeeAddresses_iff (ieee : String) :
    ieee ∈ s.ieeeAddresses ↔ (s.record? ieee).isSome = true := by
  rw [← isSome_device?_iff, device?, Option.isSome_map]

theorem record?_of_mem (distinct : s.ieeeAddresses.Nodup) {r : Record} (hr : r ∈ s.records) :
    s.record? r.device.ieeeAddress = some r := by
  rw [ieeeAddresses_eq_map] at distinct
  cases found : s.record? r.device.ieeeAddress with
  | none => simpa using List.find?_eq_none.mp found r hr
  | some other =>
    have same := ieeeAddress_of_record? found
    exact congrArg some
      (List.inj_on_of_nodup_map distinct (List.mem_of_find?_eq_some found) hr same)

/-- The map that a database with distinct addresses is. -/
def directory (s : Store) (distinct : s.ieeeAddresses.Nodup) : Directory where
  keys := s.ieeeAddresses
  entry := s.record?
  distinct := distinct
  mem_keys := mem_ieeeAddresses_iff
  named := ieeeAddress_of_record?

theorem represents_directory (distinct : s.ieeeAddresses.Nodup) :
    s.Represents (s.directory distinct) := ⟨rfl, fun _ => rfl⟩

namespace Represents

theorem nodup (represents : s.Represents m) : s.ieeeAddresses.Nodup :=
  represents.keys ▸ m.distinct

/-- Nothing else is in the database. -/
theorem records_eq (represents : s.Represents m) : s.records = m.records := by
  have looked : ∀ r ∈ s.records, (m.entry ∘ fun r => r.device.ieeeAddress) r = some r := by
    intro r hr
    rw [Function.comp_apply, ← represents.entry, record?_of_mem represents.nodup hr]
  rw [Directory.records, ← represents.keys, ieeeAddresses_eq_map, List.filterMap_map,
    List.filterMap_congr looked, List.filterMap_some]

end Represents

/-- The holder of a network address is found in the database as in the map. -/
theorem Represents.holder?_eq (represents : s.Represents m) (network : String) :
    m.holder? network = (s.records.find? (·.device.networkAddress == network)).map
      (·.device.ieeeAddress) := by
  have looked : ∀ r ∈ s.records,
      (m.entry r.device.ieeeAddress).any (·.device.networkAddress == network) =
        (r.device.networkAddress == network) := by
    intro r hr
    rw [← represents.entry, record?_of_mem represents.nodup hr, Option.any_some]
  rw [Directory.holder?, ← represents.keys, ieeeAddresses_eq_map, List.find?_map]
  exact congrArg _ (List.find?_congr looked)

/-- Changing the record of one address changes that entry. -/
theorem Represents.modify {ieee : String} {f : Record → Record} (represents : s.Represents m)
    (keeps : ∀ r, r.device.ieeeAddress = ieee → (f r).device.ieeeAddress = ieee) {after : Store}
    (records : after.records =
      s.records.map fun r => if r.device.ieeeAddress = ieee then f r else r) :
    after.Represents (m.modify ieee f keeps) := by
  have kept : ∀ r : Record, (if r.device.ieeeAddress = ieee then f r else r).device.ieeeAddress =
      r.device.ieeeAddress := by
    intro r
    split
    · rename_i same
      rw [keeps r same, same]
    · rfl
  constructor
  · rw [ieeeAddresses_eq_map, records, List.map_map, Directory.keys_modify, ← represents.keys,
      ieeeAddresses_eq_map]
    exact List.map_congr_left fun r _ => kept r
  · intro other
    have same : ((fun r : Record => r.device.ieeeAddress == other) ∘
        fun r => if r.device.ieeeAddress = ieee then f r else r) =
        (·.device.ieeeAddress == other) := by
      funext r
      rw [Function.comp_apply, kept r]
    rw [record?, records, List.find?_map, same, ← record?, represents.entry,
      Directory.entry_modify]
    split
    · rename_i equal
      rw [equal]
      refine Option.map_congr fun r found => if_pos (m.named found)
    · rename_i different
      cases found : m.entry other with
      | none => rfl
      | some r =>
        rw [Option.map_some, if_neg]
        rw [m.named found]
        exact different

theorem Represents.append {d : Device} (represents : s.Represents m)
    (absent : m.entry d.ieeeAddress = none) {after : Store}
    (records : after.records = s.records ++ [⟨d, none⟩]) :
    after.Represents (m.append d absent) := by
  constructor
  · rw [ieeeAddresses_eq_map, records, List.map_append, ← ieeeAddresses_eq_map, represents.keys,
      Directory.keys_append, List.map_singleton]
  · intro other
    rw [record?, records, List.find?_append, ← record?, represents.entry, Directory.entry_append]
    split
    · rename_i equal
      rw [equal, absent, Option.none_or, List.find?_cons_of_pos (by simp)]
    · rename_i different
      rw [List.find?_cons_of_neg (by simpa using fun same => different same.symm), List.find?_nil,
        Option.or_none]

theorem Represents.erase {ieee : String} (represents : s.Represents m) {after : Store}
    (records : after.records = s.records.eraseP (·.device.ieeeAddress == ieee)) :
    after.Represents (m.erase ieee) := by
  have keys : after.ieeeAddresses = m.keys.erase ieee := by
    rw [← represents.keys, ← ieeeAddresses_remove, ieeeAddresses_eq_map, records,
      ieeeAddresses_eq_map, records_remove]
  refine ⟨keys, fun other => ?_⟩
  rw [Directory.entry_erase]
  split
  · rename_i equal
    rw [equal, ← Option.not_isSome_iff_eq_none, ← mem_ieeeAddresses_iff, keys]
    exact m.distinct.not_mem_erase
  · rename_i different
    rw [record?, records, find?_eraseP_of_disjoint, ← record?, represents.entry]
    intro r held
    rw [beq_iff_eq.mp held, beq_eq_false_iff_ne]
    exact fun same => different same.symm

/-! ### The operations -/

theorem insertRecord_of_known {d : Device} {r : Record} (distinct : s.ieeeAddresses.Nodup)
    (known : s.record? d.ieeeAddress = some r) :
    insertRecord s.records d = .ok (s.records.map fun r =>
      if r.device.ieeeAddress = d.ieeeAddress then { r with device := d } else r) := by
  have found : s.records.any (·.device.ieeeAddress == d.ieeeAddress) = true := by
    rw [any_iff_isSome_find?, ← record?, known, Option.isSome_some]
  rw [ieeeAddresses_eq_map] at distinct
  rw [insertRecord, if_pos found, replaceFirst_eq_map_of_find? distinct known,
    ieeeAddress_of_record? known]

theorem insertRecord_of_unknown (represents : s.Represents m) {d : Device}
    (unknown : s.record? d.ieeeAddress = none) :
    insertRecord s.records d = match m.holder? d.networkAddress with
      | some other => .error (.addressConflict d.networkAddress other)
      | none => .ok (s.records ++ [⟨d, none⟩]) := by
  have absent : ¬ s.records.any (·.device.ieeeAddress == d.ieeeAddress) = true := by
    rw [any_iff_isSome_find?, ← record?, unknown]
    simp
  rw [insertRecord, if_neg absent, represents.holder?_eq]
  cases s.records.find? (·.device.networkAddress == d.networkAddress) <;> rfl

/-- An insertion gives the answer that the map gives. -/
theorem Represents.insert (represents : s.Represents m) (writable : s.disk.Writable)
    (d : Device) :
    (s.insert d).1 = (m.insert d).1 ∧ (s.insert d).2.Represents (m.insert d).2 ∧
      (s.insert d).2.disk.Writable := by
  have entry := represents.entry d.ieeeAddress
  unfold Directory.insert
  split
  · rename_i r known
    have accepted := insertRecord_of_known represents.nodup (entry.trans known)
    obtain ⟨records, inserted, answer, after, still⟩ | ⟨e, refused, -⟩ :=
      insert_of_writable writable d
    · obtain rfl := Except.ok.inj (inserted.symm.trans accepted)
      refine ⟨answer, represents.modify ?_ after, still⟩
      exact fun _ _ => rfl
    · exact absurd (accepted.symm.trans refused) (by simp)
  · rename_i absent
    have tried := insertRecord_of_unknown represents (entry.trans absent)
    obtain ⟨records, inserted, answer, after, still⟩ | ⟨e, refused, kept⟩ :=
      insert_of_writable writable d
    · rw [inserted] at tried
      split at tried
      · simp at tried
      · obtain rfl := Except.ok.inj tried
        exact ⟨answer, represents.append absent after, still⟩
    · rw [refused] at tried
      split at tried
      · obtain rfl := Except.error.inj tried
        exact ⟨by rw [kept], by rw [kept]; exact represents, by rw [kept]; exact writable⟩
      · simp at tried

theorem Represents.remove (represents : s.Represents m) (writable : s.disk.Writable)
    (ieee : String) :
    (s.remove ieee).1 = (m.remove ieee).1 ∧ (s.remove ieee).2.Represents (m.remove ieee).2 ∧
      (s.remove ieee).2.disk.Writable := by
  have entry := represents.entry ieee
  unfold Directory.remove
  obtain ⟨r, known, answer, still⟩ | ⟨unknown, kept⟩ := remove_of_writable writable ieee
  · rw [← entry, known]
    exact ⟨answer, represents.erase (records_remove s ieee), still⟩
  · rw [← entry, unknown, kept]
    exact ⟨rfl, represents, writable⟩

theorem Represents.recordSeen (represents : s.Represents m) (network : String)
    (quality : BitVec 8) (now : String) :
    (s.recordSeen network quality now).1 = (m.recordSeen network quality now).1 ∧
      (s.recordSeen network quality now).2.Represents (m.recordSeen network quality now).2 := by
  unfold Store.recordSeen Directory.recordSeen
  rw [represents.holder?_eq]
  cases found : s.records.find? (·.device.networkAddress == network) with
  | none =>
    have unknown : ¬ s.records.any (·.device.networkAddress == network) = true := by
      rw [any_iff_isSome_find?, found]
      simp
    rw [if_neg unknown]
    exact ⟨rfl, represents⟩
  | some r =>
    have known : s.records.any (·.device.networkAddress == network) = true := by
      rw [any_iff_isSome_find?, found, Option.isSome_some]
    have distinct := represents.nodup
    rw [ieeeAddresses_eq_map] at distinct
    rw [if_pos known]
    refine ⟨rfl, represents.modify ?_ (replaceFirst_eq_map_of_find? distinct found)⟩
    exact fun _ same => same

/-- Whether the operation leaves the file one that can be written. -/
def Steady (operation : Operation) : Prop := ∀ disk, operation = .disturb disk → disk.Writable

/-- An operation gives the answer that the map gives, and the database goes on to represent
the map. -/
theorem Represents.perform (represents : s.Represents m) (writable : s.disk.Writable)
    {operation : Operation} (steady : Steady operation) :
    s.answer operation = (m.perform operation).1 ∧
      (s.perform operation).Represents (m.perform operation).2 ∧
      (s.perform operation).disk.Writable := by
  cases operation with
  | insert d =>
    obtain ⟨answer, after, still⟩ := represents.insert writable d
    exact ⟨congrArg Answer.inserted answer, after, still⟩
  | remove ieee =>
    obtain ⟨answer, after, still⟩ := represents.remove writable ieee
    exact ⟨congrArg Answer.removed answer, after, still⟩
  | recordSeen network quality now =>
    obtain ⟨answer, after⟩ := represents.recordSeen network quality now
    refine ⟨congrArg Answer.heard answer, after, ?_⟩
    rw [Store.perform, Store.recordSeen]
    split <;> exact writable
  | save =>
    have looked : ∀ ieee, s.save.2.record? ieee = s.record? ieee := by
      intro ieee
      rw [record?, records_save, record?]
    refine ⟨rfl, ⟨(ieeeAddresses_save s).trans represents.keys, fun ieee => ?_⟩,
      (save_of_writable writable).2⟩
    exact (looked ieee).trans (represents.entry ieee)
  | disturb disk => exact ⟨rfl, ⟨represents.keys, represents.entry⟩, steady disk rfl⟩

/-- The same for operations one after another. -/
theorem Represents.performAll {operations : List Operation} (represents : s.Represents m)
    (writable : s.disk.Writable) (steady : ∀ operation ∈ operations, Steady operation) :
    s.transcript operations = m.transcript operations ∧
      (s.performAll operations).Represents (m.performAll operations) ∧
      (s.performAll operations).disk.Writable := by
  induction operations generalizing s m with
  | nil => exact ⟨rfl, represents, writable⟩
  | cons operation rest ih =>
    obtain ⟨first, others⟩ := List.forall_mem_cons.mp steady
    obtain ⟨answer, after, still⟩ := represents.perform writable first
    obtain ⟨answers, represented⟩ := ih after still others
    refine ⟨?_, represented⟩
    rw [transcript, Directory.transcript, answer, answers]

/-- An operation that is refused changes nothing, in memory or on the disk. -/
theorem perform_of_refused (writable : s.disk.Writable) {operation : Operation}
    (refused : (s.answer operation).Refused) : s.perform operation = s := by
  cases operation with
  | insert d =>
    obtain ⟨e, failed⟩ := refused
    obtain ⟨records, -, answer, -⟩ | ⟨e', -, kept⟩ := insert_of_writable writable d
    · exact absurd (answer.symm.trans failed) (by simp)
    · exact congrArg Prod.snd kept
  | remove ieee =>
    obtain ⟨e, failed⟩ := refused
    obtain ⟨r, -, answer, -⟩ | ⟨-, kept⟩ := remove_of_writable writable ieee
    · exact absurd (answer.symm.trans failed) (by simp)
    · exact congrArg Prod.snd kept
  | recordSeen network quality now =>
    simp only [answer, Answer.Refused, perform] at refused ⊢
    unfold Store.recordSeen at refused ⊢
    split at refused
    · simp at refused
    · rename_i unknown
      rw [if_neg unknown]
  | save => exact refused.elim
  | disturb disk => exact refused.elim

/-- The database is a map from extended addresses that remembers their order, whatever is
done with it while its file can be written: every operation gives the answer of the map, and
the records are the entries of the map in order. What a removal answers can be read off the
operations before it and their answers, and what is refused changes nothing. -/
theorem refines_directory (distinct : s.ieeeAddresses.Nodup) (writable : s.disk.Writable)
    (operations : List Operation) (steady : ∀ operation ∈ operations, Steady operation) :
    s.transcript operations = (s.directory distinct).transcript operations ∧
    (s.performAll operations).records = ((s.directory distinct).performAll operations).records ∧
    (∀ ieee, ((s.performAll operations).remove ieee).1 =
      match Directory.lastInserted ieee (s.device? ieee) (s.transcript operations) with
      | some d => .ok d
      | none => .error (.deviceNotFound ieee)) ∧
    ∀ operation, ((s.performAll operations).answer operation).Refused →
      (s.performAll operations).perform operation = s.performAll operations := by
  obtain ⟨answers, represents, still⟩ :=
    (represents_directory distinct).performAll writable steady
  refine ⟨answers, represents.records_eq, fun ieee => ?_, fun _ => perform_of_refused still⟩
  have initial : s.device? ieee = (s.directory distinct).device? ieee := rfl
  rw [initial, answers, ← Directory.device?_performAll, (represents.remove still ieee).1,
    Directory.device?, Directory.remove]
  cases ((s.directory distinct).performAll operations).entry ieee <;> rfl

/-- A device comes and is heard, its address is refused to another one, it comes again with
another network address, and leaves. -/
def visit : List Operation :=
  [.insert (deviceWith "0x0000000000000001" "0x0001"),
   .recordSeen "0x0001" 200 "2026-01-01T00:00:00Z",
   .insert (deviceWith "0x0000000000000002" "0x0001"),
   .insert (deviceWith "0x0000000000000001" "0x0003")]

theorem remove_after_visit : empty.ieeeAddresses.Nodup ∧ empty.disk.Writable ∧
    (∀ operation ∈ visit, Steady operation) ∧
    ((empty.performAll visit).remove "0x0000000000000001").1 =
      .ok (deviceWith "0x0000000000000001" "0x0003") := by
  have distinct : empty.ieeeAddresses.Nodup := List.nodup_nil
  have writable : empty.disk.Writable := Disk.writable_iff.mpr ⟨rfl, rfl⟩
  have steady : ∀ operation ∈ visit, Steady operation := by
    simp [visit, Steady]
  obtain ⟨answers, -, removed, -⟩ := refines_directory distinct writable visit steady
  refine ⟨distinct, writable, steady, ?_⟩
  rw [removed, answers]
  rfl

end Store

end Zigbee.Database
