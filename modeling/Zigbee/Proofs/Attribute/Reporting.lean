import Zigbee.Attribute.Reporting
import Zigbee.Proofs.Attribute.RoundTrip

/-!
# Reporting configurations read back

A configuration is written by its direction: what the other direction would need is left
out, and so is the name of the attribute. The answer to a question is written with a
direction of its own, by which the configuration inside it is read, so the two have to agree.
-/

namespace Zigbee.Attribute

open Wire

variable {bytes : List UInt8}

theorem consumes_short (n : BitVec 16) : Consumes getShort (littleEndian 2 n.toNat) n :=
  (Consumes.littleEndian (by decide) n.isLt).andReturn (fun _ => rfl) (by simp)

theorem putRequired_eq_ok {value : Option (BitVec 16)} : putRequired value = .ok bytes ↔
    ∃ n, value = some n ∧ bytes = littleEndian 2 n.toNat := by
  cases value <;> simp [putRequired, eq_comm]

namespace ReportingConfiguration

variable {r : ReportingConfiguration} {t : DataType}

/-- Whether the configuration is one of reports that are triggered by a change. -/
def hasChange (r : ReportingConfiguration) : Bool :=
  r.direction == .reported && r.dataType.any DataType.isAnalog

/-- A configuration as it is read back: what its direction does not need is gone. -/
def carried (r : ReportingConfiguration) : ReportingConfiguration :=
  if r.direction = .reported then
    { r with
      attributeName := ""
      reportableChange := if r.hasChange then r.reportableChange.map Value.carried else none
      timeoutPeriod := none }
  else ⟨r.direction, "", r.attributeId, none, none, none, none, r.timeoutPeriod⟩

/-- The configuration has just the fields that its direction needs. -/
structure Canonical (r : ReportingConfiguration) : Prop where
  attributeName : r.attributeName = ""
  dataType : r.dataType.isSome = (r.direction == .reported)
  minimumInterval : r.minimumInterval.isSome = (r.direction == .reported)
  maximumInterval : r.maximumInterval.isSome = (r.direction == .reported)
  reportableChange : r.reportableChange.isSome = r.hasChange
  timeoutPeriod : r.timeoutPeriod.isSome = (r.direction != .reported)
  change : ∀ value ∈ r.reportableChange, value.Canonical

theorem Canonical.carried_eq (canonical : r.Canonical) : r.carried = r := by
  obtain ⟨direction, name, id, dataType, minimum, maximum, change, timeout⟩ := r
  obtain ⟨hname, htype, hminimum, hmaximum, hchange, htimeout, hvalue⟩ := canonical
  by_cases reported : direction = .reported
  · subst reported
    obtain rfl : timeout = none := by simpa using htimeout
    obtain rfl : name = "" := hname
    cases change with
    | none => simp [carried]
    | some value =>
      have analog : ReportingConfiguration.hasChange
        ⟨.reported, "", id, dataType, minimum, maximum, some value, none⟩ = true := hchange.symm
      simp only [carried, if_true, analog, Option.map_some,
        (hvalue value rfl).carried_eq]
  · have notReported : (direction == ReportDirection.reported) = false := by simpa using reported
    simp only [hasChange, notReported, Bool.false_and, Option.isSome_eq_false_iff,
      Option.isNone_iff_eq_none] at htype hminimum hmaximum hchange
    subst htype hminimum hmaximum hchange hname
    exact if_neg reported

theorem encodeChange_eq_ok {change : Option Value} : encodeChange t change = .ok bytes ↔
    if t.isAnalog then ∃ value, change = some value ∧ value.dataType = t ∧
      value.encodePayload = .ok bytes
    else bytes = [] := by
  unfold encodeChange
  split
  · cases change with
    | none => simp
    | some value =>
      by_cases same : value.dataType = t
      · simp [same]
      · simp [same]
  · simp [eq_comm]

/-- A configuration of sent reports is written field by field. -/
theorem encodeBody_eq_ok_of_reported (reported : r.direction = .reported) :
    r.encodeBody = .ok bytes ↔ ∃ t minimum maximum change, r.dataType = some t ∧
      r.minimumInterval = some minimum ∧ r.maximumInterval = some maximum ∧
      encodeChange t r.reportableChange = .ok change ∧
      bytes = littleEndian 2 r.attributeId.toNat ++ (t.encode ++ (littleEndian 2 minimum.toNat ++
        (littleEndian 2 maximum.toNat ++ change))) := by
  rw [encodeBody, if_pos reported]
  cases r.dataType with
  | none => simp [throw, throwThe, MonadExceptOf.throw]
  | some t =>
    simp only [bind_eq_ok, putRequired_eq_ok, pure, Except.pure, Except.ok.injEq,
      Option.some.injEq, List.append_assoc]
    constructor
    · rintro ⟨_, ⟨minimum, hminimum, rfl⟩, _, ⟨maximum, hmaximum, rfl⟩, change, written, rfl⟩
      exact ⟨t, minimum, maximum, change, rfl, hminimum, hmaximum, written, rfl⟩
    · rintro ⟨_, minimum, maximum, change, rfl, hminimum, hmaximum, written, rfl⟩
      exact ⟨_, ⟨minimum, hminimum, rfl⟩, _, ⟨maximum, hmaximum, rfl⟩, change, written, rfl⟩

/-- A configuration of received reports is the attribute and the time without reports. -/
theorem encodeBody_eq_ok_of_received (received : r.direction ≠ .reported) :
    r.encodeBody = .ok bytes ↔ ∃ timeout, r.timeoutPeriod = some timeout ∧
      bytes = littleEndian 2 r.attributeId.toNat ++ littleEndian 2 timeout.toNat := by
  rw [encodeBody, if_neg received]
  simp only [bind_eq_ok, putRequired_eq_ok, pure, Except.pure, Except.ok.injEq]
  constructor
  · rintro ⟨_, ⟨timeout, htimeout, rfl⟩, rfl⟩
    exact ⟨timeout, htimeout, rfl⟩
  · rintro ⟨timeout, htimeout, rfl⟩
    exact ⟨_, ⟨timeout, htimeout, rfl⟩, rfl⟩

/-- The change that is read back under the type that has been read. -/
theorem consumes_change {change : Option Value} (written : encodeChange t change = .ok bytes) :
    Consumes (decodeChange t) bytes (if t.isAnalog then change.map Value.carried else none) := by
  rw [encodeChange_eq_ok] at written
  split at written
  · rename_i analog
    obtain ⟨value, rfl, rfl, payload⟩ := written
    intro position rest
    rw [decodeChange, if_pos analog, if_pos analog]
    exact (Value.consumes_decodePayload payload).map position rest
  · rename_i discrete
    subst written
    intro position rest
    rw [decodeChange, if_neg discrete, if_neg discrete]
    rfl

/-- The body of a configuration is read back under the direction it has been written by. -/
theorem consumes_body (written : r.encodeBody = .ok bytes) :
    Consumes (decodeBody r.direction) bytes r.carried := by
  by_cases reported : r.direction = .reported
  · obtain ⟨t, minimum, maximum, change, htype, hminimum, hmaximum, changeWritten, rfl⟩ :=
      (encodeBody_eq_ok_of_reported reported).mp written
    have analog : r.hasChange = t.isAnalog := by simp [hasChange, reported, htype]
    have same : r.carried = ⟨r.direction, "", r.attributeId, some t, some minimum, some maximum,
        if t.isAnalog then r.reportableChange.map Value.carried else none, none⟩ := by
      rw [carried, if_pos reported, analog, htype, hminimum, hmaximum]
    rw [same]
    refine (consumes_short _).andThen (.ifTrue reported ?_)
    refine (consumes_dataType t).andThen ?_
    refine (consumes_short _).andThen ?_
    refine (consumes_short _).andThen ?_
    exact (consumes_change changeWritten).andReturn (fun _ => rfl) rfl
  · obtain ⟨timeout, htimeout, rfl⟩ := (encodeBody_eq_ok_of_received reported).mp written
    have same : r.carried = ⟨r.direction, "", r.attributeId, none, none, none, none,
        some timeout⟩ := by
      rw [carried, if_neg reported, htimeout]
    rw [same]
    refine (consumes_short _).andThen (.ifFalse reported ?_)
    exact (consumes_short _).andReturn (fun _ => rfl) rfl

theorem direction_carried (r : ReportingConfiguration) : r.carried.direction = r.direction := by
  unfold carried
  split <;> rfl

theorem attributeId_carried (r : ReportingConfiguration) :
    r.carried.attributeId = r.attributeId := by
  unfold carried
  split <;> rfl

/-- What is read back is written as the same bytes. -/
theorem encodeBody_carried (written : r.encodeBody = .ok bytes) :
    r.carried.encodeBody = .ok bytes := by
  have direction := direction_carried r
  by_cases reported : r.direction = .reported
  · obtain ⟨t, minimum, maximum, change, htype, hminimum, hmaximum, changeWritten, rfl⟩ :=
      (encodeBody_eq_ok_of_reported reported).mp written
    have analog : r.hasChange = t.isAnalog := by simp [hasChange, reported, htype]
    refine (encodeBody_eq_ok_of_reported (direction.trans reported)).mpr
      ⟨t, minimum, maximum, change, ?_, ?_, ?_, ?_, ?_⟩
    · rw [carried, if_pos reported, htype]
    · rw [carried, if_pos reported, hminimum]
    · rw [carried, if_pos reported, hmaximum]
    · rw [carried, if_pos reported, analog]
      rw [encodeChange_eq_ok] at changeWritten ⊢
      split at changeWritten
      · rename_i isAnalog
        obtain ⟨value, change, rfl, payload⟩ := changeWritten
        rw [if_pos isAnalog, change]
        exact ⟨value.carried, if_pos isAnalog, value.dataType_carried,
          value.encodePayload_carried payload⟩
      · rename_i discrete
        rwa [if_neg discrete]
    · rw [attributeId_carried]
  · obtain ⟨timeout, htimeout, rfl⟩ := (encodeBody_eq_ok_of_received reported).mp written
    refine (encodeBody_eq_ok_of_received (direction ▸ reported)).mpr ⟨timeout, ?_, ?_⟩
    · rw [carried, if_neg reported, htimeout]
    · rw [attributeId_carried]

theorem encode_eq_ok : r.encode = .ok bytes ↔
    ∃ body, r.encodeBody = .ok body ∧ bytes = reportDirections.encode r.direction ++ body := by
  simp only [encode, bind_eq_ok, pure, Except.pure, Except.ok.injEq, eq_comm (a := bytes)]

theorem consumes_decode (written : r.encode = .ok bytes) : Consumes decode bytes r.carried := by
  obtain ⟨body, bodyWritten, rfl⟩ := encode_eq_ok.mp written
  exact (Enumeration.consumes_decode (by decide) r.direction).andThen (consumes_body bodyWritten)

theorem encode_carried (written : r.encode = .ok bytes) : r.carried.encode = .ok bytes := by
  obtain ⟨body, bodyWritten, rfl⟩ := encode_eq_ok.mp written
  refine encode_eq_ok.mpr ⟨body, encodeBody_carried bodyWritten, ?_⟩
  rw [direction_carried]

theorem length_pos_of_encode (written : r.encode = .ok bytes) : 0 < bytes.length := by
  obtain ⟨body, -, rfl⟩ := encode_eq_ok.mp written
  exact Nat.succ_pos _

end ReportingConfiguration

namespace ReportingAnswer

variable {r : ReportingAnswer}

/-- An answer as it is read back: a configuration names its attribute itself, and without
success there is none. -/
def carried (r : ReportingAnswer) : ReportingAnswer :=
  if r.status.isSuccess then
    { r with
      attributeId := (r.configuration.map (·.attributeId)).getD r.attributeId
      configuration := r.configuration.map (·.carried) }
  else { r with configuration := none }

/-- A configuration that is written has the direction under which it is read. -/
def Coherent (r : ReportingAnswer) : Prop :=
  r.status.isSuccess = true → ∀ configuration ∈ r.configuration,
    configuration.direction = r.direction

/-- The answer has a configuration just on success, which is canonical and says the same as the
answer. -/
structure Canonical (r : ReportingAnswer) : Prop where
  configuration : r.configuration.isSome = r.status.isSuccess
  inner : ∀ configuration ∈ r.configuration, configuration.Canonical
  direction : ∀ configuration ∈ r.configuration, configuration.direction = r.direction
  attributeId : ∀ configuration ∈ r.configuration, configuration.attributeId = r.attributeId

theorem Canonical.coherent (canonical : r.Canonical) : r.Coherent := fun _ => canonical.direction

theorem Canonical.carried_eq (canonical : r.Canonical) : r.carried = r := by
  obtain ⟨status, direction, id, configuration⟩ := r
  obtain ⟨present, inner, hdirection, hid⟩ := canonical
  cases configuration with
  | none =>
    have failed : ¬Status.isSuccess status = true := by simp [← present]
    exact if_neg failed
  | some configuration =>
    have succeeded : Status.isSuccess status = true := present.symm
    rw [carried, if_pos succeeded]
    simp only [Option.map_some, Option.getD_some, (inner configuration rfl).carried_eq]
    rw [hid configuration rfl]

theorem encode_eq_ok_of_success (success : r.status.isSuccess = true) :
    r.encode = .ok bytes ↔ ∃ configuration body, r.configuration = some configuration ∧
      configuration.encodeBody = .ok body ∧
      bytes = statuses.encode r.status ++ (reportDirections.encode r.direction ++ body) := by
  rw [encode, if_pos success]
  cases r.configuration with
  | none => simp [throw, throwThe, MonadExceptOf.throw]
  | some configuration =>
    simp only [bind_eq_ok, pure, Except.pure, Except.ok.injEq, Option.some.injEq,
      eq_comm (a := bytes), List.append_assoc, exists_and_left, exists_eq_left']

theorem encode_eq_ok_of_failure (failure : ¬r.status.isSuccess = true) :
    r.encode = .ok bytes ↔ bytes = statuses.encode r.status ++
      (reportDirections.encode r.direction ++ littleEndian 2 r.attributeId.toNat) := by
  rw [encode, if_neg failure]
  simp only [pure, Except.pure, Except.ok.injEq, eq_comm (a := bytes), List.append_assoc]

/-- A coherent answer is read back under the layout it has been written in. -/
theorem consumes_decode (coherent : r.Coherent) (written : r.encode = .ok bytes) :
    Consumes decode bytes r.carried := by
  by_cases success : r.status.isSuccess = true
  · obtain ⟨configuration, body, present, bodyWritten, rfl⟩ :=
      (encode_eq_ok_of_success success).mp written
    have same : r.carried = ⟨r.status, r.direction, configuration.attributeId,
        some configuration.carried⟩ := by
      rw [carried, if_pos success, present]
      rfl
    rw [same]
    refine (Enumeration.consumes_decode (by decide) r.status).andThen ?_
    refine (Enumeration.consumes_decode (by decide) r.direction).andThen (.ifTrue success ?_)
    have read := ReportingConfiguration.consumes_body bodyWritten
    rw [coherent success configuration present] at read
    refine read.andReturn (fun _ => rfl) ?_
    rw [ReportingConfiguration.attributeId_carried]
  · obtain rfl := (encode_eq_ok_of_failure success).mp written
    rw [carried, if_neg success]
    refine (Enumeration.consumes_decode (by decide) r.status).andThen ?_
    refine (Enumeration.consumes_decode (by decide) r.direction).andThen (.ifFalse success ?_)
    exact (consumes_short r.attributeId).andReturn (fun _ => rfl) rfl

theorem encode_carried (written : r.encode = .ok bytes) : r.carried.encode = .ok bytes := by
  by_cases success : r.status.isSuccess = true
  · obtain ⟨configuration, body, present, bodyWritten, rfl⟩ :=
      (encode_eq_ok_of_success success).mp written
    rw [carried, if_pos success, present]
    refine (encode_eq_ok_of_success ?_).mpr ⟨configuration.carried, body, rfl,
      ReportingConfiguration.encodeBody_carried bodyWritten, rfl⟩
    exact success
  · obtain rfl := (encode_eq_ok_of_failure success).mp written
    rw [carried, if_neg success]
    refine (encode_eq_ok_of_failure ?_).mpr rfl
    exact success

theorem length_pos_of_encode (written : r.encode = .ok bytes) : 0 < bytes.length := by
  by_cases success : r.status.isSuccess = true
  · obtain ⟨configuration, body, -, -, rfl⟩ := (encode_eq_ok_of_success success).mp written
    exact Nat.succ_pos _
  · obtain rfl := (encode_eq_ok_of_failure success).mp written
    exact Nat.succ_pos _

/-- An answer that loses something on the wire still has its directions. -/
theorem coherent_of_carried (coherent : r.carried.Coherent) : r.Coherent := by
  intro success configuration present
  have carried : r.carried = ⟨r.status, r.direction, configuration.attributeId,
      some configuration.carried⟩ := by
    rw [ReportingAnswer.carried, if_pos success, present]
    rfl
  rw [carried] at coherent
  rw [← ReportingConfiguration.direction_carried]
  exact coherent success configuration.carried rfl

end ReportingAnswer

end Zigbee.Attribute
