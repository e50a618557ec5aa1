import Zigbee.Network.Configuration
import Zigbee.Proofs.Wire.Address

/-!
# Comparing network parameters

Configurations are compared by the texts of their values, the key apart. Each text belongs to
one value only, so the comparison is one of the values: `diff_exact` lists the parameters that
differ, in the order of their declaration. Of the keys the list only shows whether they differ.
-/

namespace Zigbee.Text.Hex

/-- The digits of a byte string are read back as the bytes. -/
theorem bytesOfChars?_charsOfBytes (bytes : List UInt8) :
    bytesOfChars? (charsOfBytes bytes) = some bytes := by
  induction bytes with
  | nil => rfl
  | cons b rest ih =>
    have small := b.toNat_lt
    have whole : (16 * (b.toNat / 16) + b.toNat % 16).toUInt8 = b := by
      rw [Nat.div_add_mod]
      exact UInt8.ofNat_toNat
    rw [charsOfBytes, bytesOfChars?, digit?_digitChar (by omega), digit?_digitChar (by omega), ih]
    exact congrArg (fun b => some (b :: rest)) whole

theorem ofBytes_injective {bytes bytes' : List UInt8} (same : ofBytes bytes = ofBytes bytes') :
    bytes = bytes' := by
  have read := congrArg bytesOfChars? (String.ofList_injective same)
  rw [bytesOfChars?_charsOfBytes, bytesOfChars?_charsOfBytes] at read
  exact Option.some.inj read

theorem paddedNumber_injective {width n n' : Nat}
    (same : paddedNumber width n = paddedNumber width n') : n = n' := by
  have digits := (List.cons.inj (List.cons.inj (String.ofList_injective same)).2).2
  have read := congrArg (valueFrom? 0) digits
  rw [valueFrom?_padded, valueFrom?_padded] at read
  exact Option.some.inj read

end Zigbee.Text.Hex

namespace Zigbee.Network

namespace FieldDiff

/-- The difference with its two sides exchanged. -/
def exchanged (d : FieldDiff) : FieldDiff := ⟨d.field, d.actual, d.expected⟩

end FieldDiff

namespace NetworkConfiguration

/-! ### Texts of values -/

theorem panIdText_injective {id id' : BitVec 16} (same : panIdText id = panIdText id') :
    id = id' :=
  BitVec.eq_of_toNat_eq (Text.Hex.paddedNumber_injective same)

theorem extPanIdText_injective {id id' : BitVec 64} (same : extPanIdText id = extPanIdText id') :
    id = id' := by
  have bytes := congrArg Wire.ofLittleEndian (Text.Hex.ofBytes_injective same)
  have fits (id : BitVec 64) : id.toNat < Wire.capacity 8 := id.isLt
  rw [Wire.ofLittleEndian_littleEndian, Wire.ofLittleEndian_littleEndian,
    Nat.mod_eq_of_lt (fits id), Nat.mod_eq_of_lt (fits id')] at bytes
  exact BitVec.eq_of_toNat_eq bytes

theorem decimalText_injective {n n' : Nat} (same : toString n = toString n') : n = n' := by
  have digits : n.repr.toList = n'.repr.toList := congrArg String.toList same
  rw [Nat.toList_repr, Nat.toList_repr] at digits
  have read := congrArg (Nat.ofDigitChars 10 · 0) digits
  simp only [Nat.ofDigitChars_toDigits (b := 10) (by decide) (by decide)] at read
  exact read

/-- Comparing texts compares the values if no two values have the same text. -/
theorem compare_eq {α : Type} [DecidableEq α] (text : α → String) {value value' : α}
    (faithful : text value = text value' → value = value') (field : String) :
    compare field (text value) (text value') =
      if value = value' then [] else [⟨field, text value, text value'⟩] := by
  rw [compare]
  by_cases same : value = value'
  · rw [if_pos same, if_pos (congrArg text same)]
  · rw [if_neg same, if_neg fun texts => same (faithful texts)]

end NetworkConfiguration

/-! ### Parameters -/

/-- What a configuration consists of. -/
inductive Parameter where
  | ieeeAddress
  | panId
  | extPanId
  | networkKey
  | channel

namespace Parameter

open NetworkConfiguration

/-- The parameters in the order of their declaration. -/
def declared : List Parameter := [ieeeAddress, panId, extPanId, networkKey, channel]

/-- The name of a parameter. -/
def name : Parameter → String
  | ieeeAddress => "ieee_address"
  | panId => "pan_id"
  | extPanId => "ext_pan_id"
  | networkKey => "network_key"
  | channel => "channel"

/-- The two configurations hold the same value. -/
def Same (desired actual : NetworkConfiguration) : Parameter → Prop
  | ieeeAddress => desired.ieeeAddress = actual.ieeeAddress
  | panId => desired.panId = actual.panId
  | extPanId => desired.extPanId = actual.extPanId
  | networkKey => desired.networkKey = actual.networkKey
  | channel => desired.channel = actual.channel

instance (desired actual : NetworkConfiguration) (p : Parameter) :
    Decidable (p.Same desired actual) :=
  match p with
  | ieeeAddress => inferInstanceAs (Decidable (_ = _))
  | panId => inferInstanceAs (Decidable (_ = _))
  | extPanId => inferInstanceAs (Decidable (_ = _))
  | networkKey => inferInstanceAs (Decidable (_ = _))
  | channel => inferInstanceAs (Decidable (_ = _))

/-- What is shown of a value. -/
def shown (c : NetworkConfiguration) : Parameter → String
  | ieeeAddress => c.ieeeAddress
  | panId => panIdText c.panId
  | extPanId => extPanIdText c.extPanId
  | networkKey => redacted
  | channel => toString c.channel.toNat

/-- The difference in a parameter. -/
def difference (desired actual : NetworkConfiguration) (p : Parameter) : FieldDiff :=
  ⟨p.name, p.shown desired, p.shown actual⟩

variable {desired actual : NetworkConfiguration}

theorem mem_declared (p : Parameter) : p ∈ declared := by
  cases p <;> simp [declared]

theorem same_comm (desired actual : NetworkConfiguration) (p : Parameter) :
    p.Same desired actual ↔ p.Same actual desired := by
  cases p <;> exact eq_comm

/-- Configurations that hold the same values are the same. -/
theorem eq_iff_same : desired = actual ↔ ∀ p : Parameter, p.Same desired actual := by
  constructor
  · rintro rfl p
    cases p <;> rfl
  · intro same
    obtain ⟨ieeeAddress, panId, extPanId, networkKey, channel⟩ := desired
    obtain rfl : ieeeAddress = actual.ieeeAddress := same .ieeeAddress
    obtain rfl : panId = actual.panId := same .panId
    obtain rfl : extPanId = actual.extPanId := same .extPanId
    obtain rfl : networkKey = actual.networkKey := same .networkKey
    obtain rfl : channel = actual.channel := same .channel
    rfl

end Parameter

namespace NetworkConfiguration

open Parameter

variable {desired actual : NetworkConfiguration}

/-- The parameters in which two configurations differ, in the order of their declaration. -/
def differing (desired actual : NetworkConfiguration) : List Parameter :=
  declared.filter fun p => ¬ p.Same desired actual

/-- What is listed of one parameter. -/
def listed (desired actual : NetworkConfiguration) (p : Parameter) : List FieldDiff :=
  if p.Same desired actual then [] else [p.difference desired actual]

theorem flatMap_listed (parameters : List Parameter) :
    parameters.flatMap (listed desired actual) =
      (parameters.filter fun p => ¬ p.Same desired actual).map (difference desired actual) := by
  induction parameters with
  | nil => rfl
  | cons p rest ih =>
    rw [List.flatMap_cons, ih, listed]
    by_cases same : p.Same desired actual
    · rw [if_pos same, List.filter_cons_of_neg (by simpa using same), List.nil_append]
    · rw [if_neg same, List.filter_cons_of_pos (by simpa using same), List.map_cons,
        List.singleton_append]

/-- The differences that are listed are those of the parameters that differ. -/
theorem diff_eq : desired.diff actual =
    (differing desired actual).map (difference desired actual) := by
  have address : compare "ieee_address" desired.ieeeAddress actual.ieeeAddress =
      listed desired actual .ieeeAddress := compare_eq id id _
  have panId : compare "pan_id" (panIdText desired.panId) (panIdText actual.panId) =
      listed desired actual .panId := compare_eq _ panIdText_injective _
  have extPanId : compare "ext_pan_id" (extPanIdText desired.extPanId)
      (extPanIdText actual.extPanId) = listed desired actual .extPanId :=
    compare_eq _ extPanIdText_injective _
  have channel : compare "channel" (toString desired.channel.toNat)
      (toString actual.channel.toNat) = listed desired actual .channel :=
    compare_eq (fun channel : BitVec 8 => toString channel.toNat)
      (fun same => BitVec.eq_of_toNat_eq (decimalText_injective same)) _
  rw [diff, address, panId, extPanId, channel, differing, ← flatMap_listed]
  simp only [declared, List.flatMap_cons, List.flatMap_nil, List.append_nil, List.append_assoc]
  rfl

/-- Configurations agree only if they are the same. -/
theorem agrees_iff : desired.agrees actual = true ↔ desired = actual := by
  rw [agrees, List.isEmpty_iff, diff_eq, List.map_eq_nil_iff, differing, List.filter_eq_nil_iff,
    eq_iff_same]
  constructor
  · intro none p
    simpa using none p (mem_declared p)
  · intro same p _
    simpa using same p

theorem diff_comm : actual.diff desired = (desired.diff actual).map FieldDiff.exchanged := by
  have same : differing actual desired = differing desired actual :=
    List.filter_congr fun p _ => by simp only [same_comm actual desired]
  rw [diff_eq, diff_eq, same, List.map_map]
  rfl

/-- Of the keys the list shows whether they differ, and nothing else. -/
theorem diff_congr_key {key key' : Attribute.Octets 16}
    (alike : key = key' ↔ desired.networkKey = actual.networkKey) :
    diff { desired with networkKey := key } { actual with networkKey := key' } =
      desired.diff actual := by
  unfold diff
  simp only [alike]

/-- No parameter is listed twice. -/
theorem nodup_diff : ((desired.diff actual).map FieldDiff.field).Nodup := by
  have names : (declared.map name).Nodup := by decide
  have fields : (desired.diff actual).map FieldDiff.field =
      (differing desired actual).map name := by
    rw [diff_eq, List.map_map]
    rfl
  rw [fields]
  exact names.sublist (List.filter_sublist.map name)

/-- What is listed are the parameters that differ, each once and in the order of their
declaration, and there are none only if the configurations are the same. The two sides can be
exchanged, and other keys in their place show nothing else if they are equal or different just
as these are. -/
theorem diff_exact :
    (∀ desired actual : NetworkConfiguration,
      desired.diff actual =
        (declared.filter fun p => ¬ p.Same desired actual).map (difference desired actual) ∧
      ((desired.diff actual).map FieldDiff.field).Nodup ∧
      (desired.agrees actual = true ↔ desired = actual) ∧
      actual.diff desired = (desired.diff actual).map FieldDiff.exchanged) ∧
    (∀ (desired actual : NetworkConfiguration) (key key' : Attribute.Octets 16),
      (key = key' ↔ desired.networkKey = actual.networkKey) →
      diff { desired with networkKey := key } { actual with networkKey := key' } =
        desired.diff actual) :=
  ⟨fun _ _ => ⟨diff_eq, nodup_diff, agrees_iff, diff_comm⟩, fun _ _ _ _ => diff_congr_key⟩

/-- The key that repeats one byte. -/
def uniformKey (b : UInt8) : Attribute.Octets 16 := ⟨List.replicate 16 b, List.length_replicate⟩

/-- A configuration with a key on a channel. -/
def onChannel (channel : BitVec 8) (key : Attribute.Octets 16) : NetworkConfiguration :=
  { empty with channel := channel, networkKey := key }

/-- The list is the same for other keys that differ, and the same from the other side. -/
theorem diff_exact_onChannel :
    (uniformKey 7 = uniformKey 8 ↔ uniformKey 0 = uniformKey 0xff) ∧
    diff (onChannel 11 (uniformKey 7)) (onChannel 15 (uniformKey 8)) =
      [⟨"network_key", redacted, redacted⟩, ⟨"channel", "11", "15"⟩] ∧
    diff (onChannel 15 (uniformKey 0xff)) (onChannel 11 (uniformKey 0)) =
      [⟨"network_key", redacted, redacted⟩, ⟨"channel", "15", "11"⟩] := by
  obtain ⟨listed, keys⟩ := diff_exact
  have alike : uniformKey 7 = uniformKey 8 ↔ uniformKey 0 = uniformKey 0xff := by decide
  obtain ⟨exact, -, -, exchanged⟩ :=
    listed (onChannel 11 (uniformKey 0)) (onChannel 15 (uniformKey 0xff))
  exact ⟨alike, (keys _ _ _ _ alike).trans exact, exchanged.trans (congrArg _ exact)⟩

end NetworkConfiguration

end Zigbee.Network
