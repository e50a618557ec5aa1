import Zigbee.Proofs.Database.Directory

/-!
# What an insertion does to the devices

`Inserts` says what can become of the list of devices when a device is inserted, and what is
answered then: the first device with its extended address is replaced, or the device is added
at the end, or another device holds its network address and nothing changes. An insertion is
one of these whenever the file can be written.
-/

namespace Zigbee.Database

/-- How an insertion turns the devices, and what it answers, if the file can be written. -/
inductive Inserts (d : Device) : List Device → List Device → Except Failure Unit → Prop where
  | replaced (front back : List Device) (old : Device)
      (first : ∀ other ∈ front, other.ieeeAddress ≠ d.ieeeAddress)
      (same : old.ieeeAddress = d.ieeeAddress) :
      Inserts d (front ++ old :: back) (front ++ d :: back) (.ok ())
  | added (devices : List Device) (unknown : d.ieeeAddress ∉ devices.map (·.ieeeAddress))
      (free : d.networkAddress ∉ devices.map (·.networkAddress)) :
      Inserts d devices (devices ++ [d]) (.ok ())
  | refused (devices : List Device) (other : Device)
      (unknown : d.ieeeAddress ∉ devices.map (·.ieeeAddress))
      (holder : devices.find? (·.networkAddress == d.networkAddress) = some other) :
      Inserts d devices devices (.error (.addressConflict d.networkAddress other.ieeeAddress))

/-- There is only one first match. -/
theorem eq_of_first {front front' back back' : List Device} {a a' : Device} {ieee : String}
    (whole : front ++ a :: back = front' ++ a' :: back')
    (first : ∀ other ∈ front, other.ieeeAddress ≠ ieee) (here : a.ieeeAddress = ieee)
    (first' : ∀ other ∈ front', other.ieeeAddress ≠ ieee) (here' : a'.ieeeAddress = ieee) :
    front = front' ∧ a = a' ∧ back = back' := by
  induction front generalizing front' with
  | nil =>
    cases front' with
    | nil =>
      obtain ⟨rfl, rfl⟩ := List.cons.inj whole
      exact ⟨rfl, rfl, rfl⟩
    | cons other rest =>
      obtain ⟨rfl, -⟩ := List.cons.inj whole
      exact absurd here (first' a List.mem_cons_self)
  | cons other rest ih =>
    cases front' with
    | nil =>
      obtain ⟨rfl, -⟩ := List.cons.inj whole
      exact absurd here' (first other List.mem_cons_self)
    | cons other' rest' =>
      obtain ⟨rfl, later⟩ := List.cons.inj whole
      obtain ⟨rfl, rfl, rfl⟩ := ih later (List.forall_mem_cons.mp first).2
        (List.forall_mem_cons.mp first').2
      exact ⟨rfl, rfl, rfl⟩

/-- A known device is replaced. -/
theorem Inserts.of_known {d known : Device} {front back after : List Device}
    {answer : Except Failure Unit} (h : Inserts d (front ++ known :: back) after answer)
    (first : ∀ other ∈ front, other.ieeeAddress ≠ d.ieeeAddress)
    (same : known.ieeeAddress = d.ieeeAddress) :
    after = front ++ d :: back ∧ answer = .ok () := by
  have listed : d.ieeeAddress ∈ (front ++ known :: back).map (·.ieeeAddress) :=
    List.mem_map.mpr ⟨known, List.mem_append_right _ List.mem_cons_self, same⟩
  generalize whole : front ++ known :: back = before at h listed
  cases h with
  | replaced front' back' old first' same' =>
    obtain ⟨rfl, -, rfl⟩ := eq_of_first whole first same first' same'
    exact ⟨rfl, rfl⟩
  | added _ unknown free => exact absurd listed unknown
  | refused _ other unknown holder => exact absurd listed unknown

/-- An unknown device is added, unless another one holds its network address. -/
theorem Inserts.of_unknown {d : Device} {before after : List Device}
    {answer : Except Failure Unit} (h : Inserts d before after answer)
    (unknown : d.ieeeAddress ∉ before.map (·.ieeeAddress)) :
    (d.networkAddress ∉ before.map (·.networkAddress) ∧ after = before ++ [d] ∧
      answer = .ok ()) ∨
    ∃ other, before.find? (·.networkAddress == d.networkAddress) = some other ∧ after = before ∧
      answer = .error (.addressConflict d.networkAddress other.ieeeAddress) := by
  cases h with
  | replaced front back old first same =>
    refine absurd (List.mem_map.mpr ⟨old, ?_, same⟩) unknown
    exact List.mem_append_right _ List.mem_cons_self
  | added _ _ free => exact .inl ⟨free, rfl, rfl⟩
  | refused _ other _ holder => exact .inr ⟨other, holder, rfl, rfl⟩

/-- The first match is replaced. -/
theorem replaceFirst_append {α : Type} {p : α → Bool} {f : α → α} {front back : List α} {a : α}
    (first : ∀ other ∈ front, p other = false) (here : p a = true) :
    Store.replaceFirst p f (front ++ a :: back) = front ++ f a :: back := by
  induction front with
  | nil => exact if_pos here
  | cons other rest ih =>
    obtain ⟨apart, later⟩ := List.forall_mem_cons.mp first
    rw [List.cons_append, Store.replaceFirst, apart, ih later]
    rfl

namespace Store

variable {s : Store}

/-- The records become what an insertion makes of the devices, or are refused. -/
theorem inserts_insertRecord (records : List Record) (d : Device) :
    match insertRecord records d with
    | .ok after => Inserts d (records.map (·.device)) (after.map (·.device)) (.ok ())
    | .error e => Inserts d (records.map (·.device)) (records.map (·.device)) (.error e) := by
  unfold insertRecord
  by_cases known : records.any (·.device.ieeeAddress == d.ieeeAddress) = true
  · rw [if_pos known]
    obtain ⟨r, found⟩ := Option.isSome_iff_exists.mp (any_iff_isSome_find?.mp known)
    obtain ⟨here, front, back, rfl, first⟩ := List.find?_eq_some_iff_append.mp found
    have apart : ∀ other ∈ front, (other.device.ieeeAddress == d.ieeeAddress) = false := by
      intro other member
      exact Bool.not_eq_true' _ ▸ first other member
    dsimp only
    rw [replaceFirst_append apart here, List.map_append, List.map_cons, List.map_append,
      List.map_cons]
    refine .replaced _ _ _ ?_ (beq_iff_eq.mp here)
    intro other member
    obtain ⟨r', inside, rfl⟩ := List.mem_map.mp member
    exact beq_eq_false_iff_ne.mp (apart r' inside)
  · rw [if_neg known]
    have unknown : d.ieeeAddress ∉ (records.map (·.device)).map (·.ieeeAddress) := by
      simpa using known
    cases holder : records.find? (·.device.networkAddress == d.networkAddress) with
    | some other =>
      refine .refused _ other.device unknown ?_
      rw [List.find?_map]
      exact congrArg (Option.map (·.device)) holder
    | none =>
      dsimp only
      rw [List.map_append]
      refine .added _ unknown ?_
      simpa using List.find?_eq_none.mp holder

theorem inserts_insert (writable : s.disk.Writable) (d : Device) :
    Inserts d s.devices (s.insert d).2.devices (s.insert d).1 := by
  have inserts := inserts_insertRecord s.records d
  obtain ⟨records, accepted, answer, after, -⟩ | ⟨e, refused, unchanged⟩ :=
    insert_of_writable writable d
  · rw [accepted] at inserts
    rw [devices, devices, after, answer]
    exact inserts
  · rw [refused] at inserts
    rw [unchanged]
    exact inserts

end Store

end Zigbee.Database
