import Mathlib.Data.List.Nodup
import Zigbee.Database.Content
import Zigbee.Proofs.Document.JsonText

/-!
# The file and the records

Whatever records the database can hold, their file reads back as these records, in their
order and with everything that is known of each device. Only a device that was heard at a
moment that is no point in time would be refused.
-/

namespace Zigbee

open Document

/-! ### Parts of a record -/

namespace Wire.Enumeration

variable {e : Enumeration}

/-- A member is known by its name if no two have the same. -/
theorem ofName?_name (distinct : (e.members.map (·.1)).Nodup) (m : e.Member) :
    e.ofName? m.name = some m := by
  obtain ⟨entry, listed, code⟩ := List.mem_map.mp m.listed
  have named : ∃ entry, e.members.find? (·.2 == m.code) = some entry :=
    Option.isSome_iff_exists.mp (List.find?_isSome.mpr ⟨entry, listed, beq_iff_eq.mpr code⟩)
  obtain ⟨first, found⟩ := named
  have same : first.2 = m.code := by simpa using List.find?_some found
  have mem := List.mem_of_find?_eq_some found
  have back : e.members.find? (·.1 == first.1) = some first := by
    obtain ⟨other, found⟩ := Option.isSome_iff_exists.mp
      (List.find?_isSome (p := (·.1 == first.1)).mpr ⟨first, mem, beq_self_eq_true first.1⟩)
    have name : other.1 = first.1 := by simpa using List.find?_some found
    rw [found, List.inj_on_of_nodup_map distinct (List.mem_of_find?_eq_some found) mem name]
  rw [ofName?, Member.name, found, Option.map_some, Option.getD_some, back]
  exact (congrArg e.ofCode? same).trans (ofCode?_code e m)

end Wire.Enumeration

namespace Document.Tree

@[simp] theorem asUInt?_nat (size : Nat) (b : BitVec (8 * size)) :
    (nat b.toNat).asUInt? size = some b := by
  have small : b.toNat < Nat.pow 2 (8 * size) := b.isLt
  show (if b.toNat < Nat.pow 2 (8 * size) then some (BitVec.ofNat _ b.toNat) else none) = some b
  rw [if_pos small, BitVec.ofNat_toNat, BitVec.setWidth_eq]

/-- A list is taken out of a document as it was put in. -/
theorem asListOf?_map {α : Type} {accept : Tree → Option α} {f : α → Tree} {l : List α}
    (accepted : ∀ a ∈ l, accept (f a) = some a) : (list (l.map f)).asListOf? accept = some l := by
  rw [asListOf?]
  induction l with
  | nil => rfl
  | cons a rest ih =>
    obtain ⟨first, others⟩ := List.forall_mem_cons.mp accepted
    rw [List.map_cons, List.mapM_cons, first, ih others]
    rfl

/-- Whether the document is nested at most so deep, is sound, and can be told from its text. -/
structure Plain (n : Nat) (t : Tree) : Prop where
  sound : t.isSound = true
  shallow : t.depth ≤ n
  readable : t.IsReadable

theorem Plain.mono {m n : Nat} {t : Tree} (plain : Plain m t) (le : m ≤ n) : Plain n t :=
  { plain with shallow := Nat.le_trans plain.shallow le }

theorem plain_text (n : Nat) (text : String) : Plain n (.text text) :=
  ⟨rfl, Nat.zero_le n, trivial⟩

theorem plain_bool (n : Nat) (b : Bool) : Plain n (.bool b) := ⟨rfl, Nat.zero_le n, trivial⟩

theorem plain_nat (n : Nat) {width : Nat} (word : width ≤ 64) (b : BitVec width) :
    Plain n (nat b.toNat) := by
  have small : b.toNat < 2 ^ 64 :=
    Nat.lt_of_lt_of_le b.isLt (Nat.pow_le_pow_right (by decide) word)
  have whole : (0 : Int) ≤ b.toNat := Int.natCast_nonneg _
  exact ⟨rfl, Nat.zero_le n, Int.le_trans (by decide) whole, Int.ofNat_lt.mpr small⟩

theorem plain_list {n : Nat} {items : List Tree} (plain : ∀ item ∈ items, Plain n item) :
    Plain (n + 1) (.list items) := by
  have each : listIsSound items = true ∧ depthOfList items ≤ n := by
    induction items with
    | nil => exact ⟨rfl, Nat.zero_le n⟩
    | cons item rest ih =>
      obtain ⟨first, others⟩ := List.forall_mem_cons.mp plain
      obtain ⟨sound, shallow⟩ := ih others
      refine ⟨?_, Nat.max_le.mpr ⟨first.shallow, shallow⟩⟩
      rw [listIsSound, first.sound, sound]
      rfl
  exact ⟨each.1, Nat.succ_le_succ each.2,
    itemsAreReadable_iff.mpr fun item mem => (plain item mem).readable⟩

theorem plain_table {n : Nat} {entries : List (String × Tree)}
    (plain : ∀ entry ∈ entries, Plain n entry.2) : Plain (n + 1) (.table entries) := by
  have each : entriesAreSound entries = true ∧ depthOfEntries entries ≤ n := by
    induction entries with
    | nil => exact ⟨rfl, Nat.zero_le n⟩
    | cons entry rest ih =>
      obtain ⟨first, others⟩ := List.forall_mem_cons.mp plain
      obtain ⟨sound, shallow⟩ := ih others
      refine ⟨?_, Nat.max_le.mpr ⟨first.shallow, shallow⟩⟩
      rw [entriesAreSound, first.sound, sound]
      rfl
  exact ⟨each.1, Nat.succ_le_succ each.2,
    entriesAreReadable_iff.mpr fun entry mem => (plain entry mem).readable⟩

/-- What is taken out of a list has been accepted item by item. -/
theorem forall_of_asListOf? {α : Type} {accept : Tree → Option α} {P : α → Prop} {t : Tree}
    {l : List α} (each : ∀ t a, accept t = some a → P a) (taken : t.asListOf? accept = some l) :
    ∀ a ∈ l, P a := by
  cases t with
  | list items =>
    rw [asListOf?] at taken
    induction items generalizing l with
    | nil =>
      obtain rfl := Option.some.inj taken
      simp
    | cons item rest ih =>
      rw [List.mapM_cons] at taken
      obtain ⟨first, accepted, taken⟩ := Option.bind_eq_some_iff.mp taken
      obtain ⟨others, later, whole⟩ := Option.bind_eq_some_iff.mp taken
      obtain rfl := Option.some.inj whole
      exact List.forall_mem_cons.mpr ⟨each item first accepted, ih later⟩
  | _ => cases taken

end Document.Tree

theorem Endpoint.ofTree?_toTree (dialect : Dialect) (e : Endpoint) :
    Endpoint.ofTree? dialect e.toTree = some e := by
  have clusters (l : List (BitVec 16)) :
      (Tree.list (l.map fun c => .nat c.toNat)).asListOf? (·.asUInt? 2) = some l :=
    Tree.asListOf?_map fun c _ => Tree.asUInt?_nat 2 c
  have id := Tree.asUInt?_nat 1 e.id
  have profile := Tree.asUInt?_nat 2 e.profileId
  have device := Tree.asUInt?_nat 2 e.deviceId
  have version := Tree.asUInt?_nat 1 e.deviceVersion
  simp [ofTree?, toTree, Tree.fields?, Tree.uniqueValue?, clusters, id, profile, device, version]

theorem Device.ofTree?_toTree (dialect : Dialect) (d : Device) :
    Device.ofTree? dialect d.toTree = some d := by
  have endpoints : (Tree.list (d.endpoints.map Endpoint.toTree)).asListOf?
      (Endpoint.ofTree? dialect) = some d.endpoints :=
    Tree.asListOf?_map fun e _ => Endpoint.ofTree?_toTree dialect e
  have manufacturer := Tree.asUInt?_nat 2 d.manufacturerId
  have logicalType :=
    Wire.Enumeration.ofName?_name (e := Radio.logicalTypes) (by decide) d.logicalType
  have powerSource := Wire.Enumeration.ofName?_name (e := powerSources) (by decide) d.powerSource
  simp [ofTree?, toTree, Tree.fields?, Tree.uniqueValue?, fieldNames, entries, endpoints,
    manufacturer, Tree.asText?, Tree.asBool?, Tree.asMember?, logicalType, powerSource]

theorem Endpoint.plain_toTree (e : Endpoint) : Tree.Plain 2 e.toTree := by
  have clusters (l : List (BitVec 16)) :
      Tree.Plain 1 (.list (l.map fun c => .nat c.toNat)) :=
    Tree.plain_list (List.forall_mem_map.mpr fun c _ => Tree.plain_nat 0 (by decide) c)
  refine Tree.plain_table ?_
  simp only [List.forall_mem_cons]
  exact ⟨Tree.plain_nat 1 (by decide) _, Tree.plain_nat 1 (by decide) _,
    Tree.plain_nat 1 (by decide) _, Tree.plain_nat 1 (by decide) _, clusters _, clusters _,
    by simp⟩

theorem Device.plain_entries (d : Device) : ∀ entry ∈ d.entries, Tree.Plain 3 entry.2 := by
  have endpoints : Tree.Plain 3 (.list (d.endpoints.map Endpoint.toTree)) :=
    Tree.plain_list (List.forall_mem_map.mpr fun e _ => e.plain_toTree)
  simp only [entries, List.forall_mem_cons]
  exact ⟨Tree.plain_text 3 _, Tree.plain_text 3 _, Tree.plain_text 3 _,
    Tree.plain_nat 3 (by decide) _, Tree.plain_text 3 _, Tree.plain_text 3 _,
    Tree.plain_bool 3 _, Tree.plain_text 3 _, endpoints, by simp⟩

namespace Database

/-- Whether the device was heard at a point in time, if at all. -/
def Record.IsDated (r : Record) : Prop :=
  ∀ state, r.state = some state → Timestamp.isValid state.lastSeen = true

/-- Whether every device was heard at a point in time, if at all. -/
def Dated (records : List Record) : Prop := ∀ r ∈ records, r.IsDated

theorem DeviceState.ofTree?_toTree {state : DeviceState}
    (dated : Timestamp.isValid state.lastSeen = true) : ofTree? state.toTree = some state := by
  have quality := Tree.asUInt?_nat 1 state.linkQuality
  refine Option.bind_eq_some_iff.mpr ⟨(), if_pos dated, ?_⟩
  exact Option.bind_eq_some_iff.mpr ⟨state.linkQuality, quality, rfl⟩

theorem DeviceState.plain_toTree (state : DeviceState) : Tree.Plain 1 state.toTree := by
  refine Tree.plain_table ?_
  simp only [List.forall_mem_cons]
  exact ⟨Tree.plain_nat 0 (by decide) _, Tree.plain_text 0 _, by simp⟩

theorem Record.plain_toTree (r : Record) : Tree.Plain 4 r.toTree := by
  refine Tree.plain_table ?_
  rw [List.forall_mem_append]
  refine ⟨r.device.plain_entries, ?_⟩
  intro entry mem
  obtain ⟨state, -, rfl⟩ := Option.map_eq_some_iff.mp (Option.mem_toList.mp mem)
  exact state.plain_toTree.mono (by decide)

/-- The state stands behind the entries of the device. -/
theorem Record.ofTree?_toTree {r : Record} (dated : r.IsDated) :
    Record.ofTree? r.toTree = some r := by
  obtain ⟨device, state⟩ := r
  have plain : Tree.Plain 4 device.toTree := Tree.plain_table device.plain_entries
  have shallow : device.toTree.depth ≤ maxDepth := Nat.le_trans plain.shallow (by decide)
  have whole : Device.ofTree? .collected device.toTree = some device :=
    Device.ofTree?_toTree .collected device
  have others : (device.entries ++ (state.map fun s => ("state", s.toTree)).toList).filter
      (·.1 != "state") = device.entries := by
    cases state <;> simp [Device.entries]
  have value : Tree.uniqueValue? (device.entries ++
      (state.map fun s => ("state", s.toTree)).toList) "state" =
        some (state.map DeviceState.toTree) := by
    cases state <;> simp [Device.entries, Tree.uniqueValue?]
  have read : stateOf? (state.map DeviceState.toTree) = some state := by
    cases state with
    | none => rfl
    | some s => exact congrArg (Option.map some) (DeviceState.ofTree?_toTree (dated s rfl))
  rw [Device.toTree] at plain shallow whole
  refine Option.bind_eq_some_iff.mpr ⟨state, ?_, Option.bind_eq_some_iff.mpr ⟨(), ?_,
    Option.bind_eq_some_iff.mpr ⟨device, ?_, rfl⟩⟩⟩
  · rw [value]
    exact read
  · rw [others]
    exact if_pos ⟨plain.sound, shallow⟩
  · rw [others]
    exact whole

theorem DeviceState.isValid_of_ofTree? {t : Tree} {state : DeviceState}
    (read : ofTree? t = some state) : Timestamp.isValid state.lastSeen = true := by
  obtain ⟨fields, -, read⟩ := Option.bind_eq_some_iff.mp read
  split at read
  · obtain ⟨seen, -, read⟩ := Option.bind_eq_some_iff.mp read
    obtain ⟨_, checked, read⟩ := Option.bind_eq_some_iff.mp read
    obtain ⟨quality, -, read⟩ := Option.bind_eq_some_iff.mp read
    obtain rfl := Option.some.inj read
    by_contra invalid
    rw [guard, if_neg invalid] at checked
    cases checked
  · cases read

theorem Record.isDated_of_ofTree? {t : Tree} {r : Record} (read : ofTree? t = some r) :
    r.IsDated := by
  intro state held
  unfold ofTree? at read
  split at read
  · obtain ⟨found, stated, read⟩ := Option.bind_eq_some_iff.mp read
    obtain ⟨-, -, read⟩ := Option.bind_eq_some_iff.mp read
    obtain ⟨device, -, read⟩ := Option.bind_eq_some_iff.mp read
    obtain rfl := Option.some.inj read
    obtain ⟨value, -, stated⟩ := Option.bind_eq_some_iff.mp stated
    unfold stateOf? at stated
    split at stated
    · obtain rfl := Option.some.inj stated
      cases held
    · obtain rfl := Option.some.inj stated
      cases held
    · obtain ⟨s, known, rfl⟩ := Option.map_eq_some_iff.mp stated
      obtain rfl := Option.some.inj held
      exact DeviceState.isValid_of_ofTree? known
  · cases read

/-- The file of records that can be dated holds these records. -/
theorem decode?_encode {records : List Record} (dated : Dated records) :
    decode? (encode records) = some records := by
  have plain : Tree.Plain 6 (.table [("devices", .list (records.map Record.toTree))]) := by
    refine Tree.plain_table (List.forall_mem_singleton.mpr (Tree.plain_list ?_))
    exact List.forall_mem_map.mpr fun r _ => r.plain_toTree
  have whole : (Tree.list (records.map Record.toTree)).asListOf? Record.ofTree? = some records :=
    Tree.asListOf?_map fun r mem => Record.ofTree?_toTree (dated r mem)
  rw [decode?, encode, JsonReader.read?_pretty plain.readable]
  simp [Tree.fields?, Tree.uniqueValue?, whole]

/-- What a file holds can be dated. -/
theorem dated_of_decode? {text : String} {records : List Record}
    (read : decode? text = some records) : Dated records := by
  obtain ⟨t, -, read⟩ := Option.bind_eq_some_iff.mp read
  obtain ⟨fields, -, read⟩ := Option.bind_eq_some_iff.mp read
  split at read
  · exact Tree.forall_of_asListOf? (fun t r => Record.isDated_of_ofTree?) read
  · cases read

end Database
end Zigbee
