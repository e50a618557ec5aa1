import Zigbee.Proofs.BringUp.Memory

/-!
# All writes or none

An obliging radio acknowledges every request and comes back from every reset. With such a
radio a sequence of frames only ends early where there is no frame to send, so whether a
flash is completed depends on the settings alone.

`Config.validate` makes sure that there is a frame for the channel. Of the address it asks
only that it is not empty, and the address is the seventh write. So the settings that pass
and leave a radio half written are those whose address cannot be read
(`whole_iff_readable`).
-/

namespace Zigbee.Host

open Network Radio Record Serial Settings Wire

variable {σ : Type} {w : Surroundings σ} {s : σ} {c : Config}
variable {asked turns : List Turn} {actual : NetworkConfiguration}
variable {read : Except Failure NetworkConfiguration} {result : Except Failure Unit}

/-! ### Obliging radios -/

/-- The radio in these surroundings does whatever it is asked. -/
structure Obliging (w : Surroundings σ) : Prop where
  acknowledges : ∀ s f, f.type = .syncRequest → (w.outcome s f).1.Acknowledges
  accepts : ∀ s f, f.type = .asyncRequest → (w.outcome s f).1 = .accepted
  /-- The radio comes back from a reset. -/
  returns : ∀ s waiter milliseconds,
    (w.answer s (.await waiter .sysResetInd milliseconds)).1.isOk = true

/-- A turn that an obliging radio can take. -/
def Turn.Obliged : Turn → Prop
  | .sent f o => (f.type = .syncRequest → o.Acknowledges) ∧ (f.type = .asyncRequest → o = .accepted)
  | .awaited kind came => kind = .sysResetInd → came = true

theorem Obliging.obliged {α : Type} (h : Obliging w) (p : Program α) (s : σ) :
    ∀ turn ∈ (p.converse w s).turns, turn.Obliged := by
  refine p.forall_turns (fun s f => ⟨h.acknowledges s f, h.accepts s f⟩) ?_ s
  rintro s waiter kind milliseconds rfl
  exact h.returns s waiter milliseconds

theorem obliging_radio : Obliging Memory.radio where
  acknowledges m f request := by
    refine ⟨_, if_neg ?_, m.head?_reply f⟩
    simp [request]
  accepts m f async := if_pos async
  returns _ _ _ := rfl

/-- An obliging radio takes all frames up to where there is none. -/
theorem InSequence.behind {front : List Frame} {rest : List (Except Failure Frame)}
    (h : InSequence (front.map .ok ++ rest) turns result)
    (requests : ∀ f ∈ front, f.type = .syncRequest) (obliged : ∀ turn ∈ turns, turn.Obliged) :
    ∃ later, framesOf turns = front ++ framesOf later ∧ InSequence rest later result := by
  induction front generalizing turns with
  | nil => exact ⟨turns, rfl, h⟩
  | cons f front ih =>
    rw [List.forall_mem_cons] at requests
    cases h with
    | refused refused =>
      have accepted := Outcome.verdict_eq_ok_iff.mpr
        ((obliged _ (List.mem_singleton_self _)).1 requests.1)
      rw [accepted] at refused
      cases refused
    | acknowledged acknowledged others =>
      obtain ⟨later, frames, rest⟩ := ih others requests.2 fun turn member =>
        obliged turn (List.mem_cons_of_mem _ member)
      exact ⟨later, congrArg (f :: ·) frames, rest⟩

/-- An obliging radio is reset once. -/
theorem Resets.once {retries : Nat}
    {result : Except Failure IndicationKind.sysResetInd.layout.Carrier}
    (h : Resets retries turns result) (obliged : ∀ turn ∈ turns, turn.Obliged) :
    framesOf turns = [resetFrame] ∧ result.isOk = true := by
  have sent {o : Outcome} {more : List Turn}
      (obliged : ∀ turn ∈ .sent resetFrame o :: more, turn.Obliged) : o.acceptance = .ok () := by
    rw [(obliged _ List.mem_cons_self).2 rfl]
    rfl
  cases h with
  | last attempt =>
    cases attempt with
    | unsent refused =>
      obtain ⟨o, rfl, refused⟩ := refused
      rw [sent obliged] at refused
      cases refused
    | sent accepted =>
      obtain ⟨o, rfl, -⟩ := accepted
      exact ⟨rfl, obliged _ (List.mem_append_right _ (List.mem_singleton_self _)) rfl⟩
  | again failed =>
    cases failed with
    | unsent refused =>
      obtain ⟨o, rfl, refused⟩ := refused
      rw [sent obliged] at refused
      cases refused
    | sent accepted =>
      have came := obliged (.awaited .sysResetInd false)
        (List.mem_append_left _ (List.mem_append_right _ (List.mem_singleton_self _))) rfl
      cases came

/-! ### How a call with an obliging radio ends -/

/-- Everything is written, and the radio has come back from the reset. -/
structure Completed (c : Config) (turns : List Turn) (result : Except Failure Unit) : Prop where
  frames : (framesOf turns).map .ok =
    [.ok infoQuestion, .ok memoryQuestion] ++ flashSteps c.network ++ [.ok resetFrame]
  returned : .awaited .sysResetInd true ∈ turns
  succeeds : result = .ok ()

/-- The radio is not written to, or everything is written. -/
def Whole (c : Config) (turns : List Turn) (result : Except Failure Unit) : Prop :=
  framesOf turns ⊆ [infoQuestion, memoryQuestion] ∨ Completed c turns result

/-- The writes before that of the address. -/
def firstWrites (c : NetworkConfiguration) : List Frame :=
  [RequestKind.utilSetPreCfgKey.frame c.networkKey.val,
   RequestKind.sapiZbWriteConfiguration.frame [0x87, 0x01, 0x00],
   RequestKind.utilSetPanId.frame (littleEndian 2 c.panId.toNat),
   RequestKind.sysOsalNvWrite.frame
     ([0x2d, 0x00, 0x00, 0x08] ++ littleEndian 8 c.extPanId.toNat),
   RequestKind.sapiZbWriteConfiguration.frame [0x8f, 0x01, 0x01],
   RequestKind.sapiZbWriteConfiguration.frame [0x64, 0x01, 0x01]]

theorem flashSteps_eq (c : NetworkConfiguration) : flashSteps c =
    (firstWrites c).map .ok ++ [addressStep c.ieeeAddress, channelStep c.channel] := rfl

theorem isRequest_firstWrites (c : NetworkConfiguration) :
    ∀ f ∈ firstWrites c, f.type = .syncRequest := by
  simp [firstWrites, RequestKind.frame]

namespace Asks

theorem frames_subset (asks : Asks asked read) :
    framesOf asked ⊆ [infoQuestion, memoryQuestion] := by
  cases asks with
  | unanswered => exact List.cons_subset_cons _ (List.nil_subset _)
  | answered => exact List.Subset.refl _

theorem frames_eq (asks : Asks asked (.ok actual)) :
    framesOf asked = [infoQuestion, memoryQuestion] := by
  generalize known : (.ok actual : Except Failure NetworkConfiguration) = read at asks
  cases asks with
  | unanswered => cases known
  | answered => rfl

end Asks

/-- All writes, given the number of the address and the mask of the channel. -/
def allWrites (c : NetworkConfiguration) (address : Nat) (mask : BitVec 32) : List Frame :=
  firstWrites c ++ [RequestKind.sysSetExtAddr.frame (littleEndian 8 address),
    RequestKind.utilSetChannels.frame (littleEndian 4 mask.toNat)]

theorem isRequest_allWrites (c : NetworkConfiguration) (address : Nat) (mask : BitVec 32) :
    ∀ f ∈ allWrites c address mask, f.type = .syncRequest := by
  refine List.forall_mem_append.mpr ⟨isRequest_firstWrites c, ?_⟩
  simp [RequestKind.frame]

/-- There is a frame for every write exactly if the address can be read and the channel has a
mask. -/
theorem flashSteps_eq_map_iff {c : NetworkConfiguration} {writes : List Frame} :
    flashSteps c = writes.map .ok ↔ ∃ address mask,
      HexAddress.parse? c.ieeeAddress 8 = some address ∧
      Channels.single? c.channel = some mask ∧ writes = allWrites c address mask := by
  -- A list of frames has no place for a step without one.
  have never {e : Failure} (failing : .error e ∈ flashSteps c) : flashSteps c ≠ writes.map .ok := by
    intro written
    rw [written] at failing
    simp at failing
  cases readable : HexAddress.parse? c.ieeeAddress 8 with
  | none =>
    refine iff_of_false (@never (.codec (.field "ext_address" 0 (.invalidHex c.ieeeAddress 16))) ?_)
      (by simp)
    rw [flashSteps_eq, addressStep, readable]
    exact List.mem_append_right _ List.mem_cons_self
  | some address =>
    cases known : Channels.single? c.channel with
    | none =>
      refine iff_of_false (@never (.unsupportedChannel c.channel) ?_) (by simp)
      rw [flashSteps_eq, channelStep, known]
      exact List.mem_append_right _ (List.mem_cons_of_mem _ List.mem_cons_self)
    | some mask =>
      have steps : flashSteps c = (allWrites c address mask).map .ok := by
        rw [flashSteps_eq, addressStep, readable, channelStep, known, allWrites, List.map_append]
        rfl
      rw [steps, List.map_inj_right fun _ _ => Except.ok.inj]
      constructor
      · rintro rfl
        exact ⟨address, mask, rfl, rfl, rfl⟩
      · rintro ⟨_, _, ⟨⟩, ⟨⟩, rfl⟩
        rfl

/-- If there is a frame for every write, a flash of an obliging radio is completed. -/
theorem completed_of_writable (asks : Asks asked (.ok actual))
    (said : Configures c asked (.ok actual) turns result) (differ : c.network.diff actual ≠ [])
    (allowed : c.settingsFlash = true) {address : Nat} {mask : BitVec 32}
    (readable : HexAddress.parse? c.network.ieeeAddress 8 = some address)
    (known : Channels.single? c.network.channel = some mask)
    (obliged : ∀ turn ∈ turns, turn.Obliged) : Completed c turns result := by
  have steps := flashSteps_eq_map_iff.mpr ⟨address, mask, readable, known, rfl⟩
  have succeeded {α : Type} {r : Except Failure α} (ok : r.isOk = true) :
      (r.map fun _ => ()) = .ok () := by
    cases r with
    | ok a => rfl
    | error e => cases ok
  cases said with
  | agreed same => exact absurd same differ
  | forbidden _ forbidden =>
    rw [allowed] at forbidden
    cases forbidden
  | broken _ _ flashes =>
    rw [steps, ← List.append_nil (List.map _ _)] at flashes
    obtain ⟨later, -, rest⟩ := flashes.behind (isRequest_allWrites _ _ _)
      (List.forall_mem_append.mp obliged).2
    cases rest
  | flashed _ _ flashes reset =>
    obtain ⟨-, obliged⟩ := List.forall_mem_append.mp obliged
    obtain ⟨frames, returned⟩ := reset.once (List.forall_mem_append.mp obliged).2
    refine ⟨?_, ?_, ?_⟩
    · rw [framesOf_append, framesOf_append, asks.frames_eq, frames, List.map_append,
        List.map_append, flashes.complete.1, List.append_assoc]
      rfl
    · exact List.mem_append_right _ (List.mem_append_right _ (reset.came_of_ok returned))
    · exact succeeded returned

/-- If the address cannot be read, the flash of an obliging radio is given up there. -/
theorem halfWritten_of_unread (asks : Asks asked (.ok actual))
    (said : Configures c asked (.ok actual) turns result) (differ : c.network.diff actual ≠ [])
    (allowed : c.settingsFlash = true) (unread : HexAddress.parse? c.network.ieeeAddress 8 = none)
    (obliged : ∀ turn ∈ turns, turn.Obliged) :
    framesOf turns = [infoQuestion, memoryQuestion] ++ firstWrites c.network ∧
      result = .error (.codec (.field "ext_address" 0 (.invalidHex c.network.ieeeAddress 16))) := by
  have stops {writes : List Turn} {result : Except Failure Unit}
      (flashes : InSequence (flashSteps c.network) writes result)
      (obliged : ∀ turn ∈ writes, turn.Obliged) :
      framesOf writes = firstWrites c.network ∧ result =
        .error (.codec (.field "ext_address" 0 (.invalidHex c.network.ieeeAddress 16))) := by
    rw [flashSteps_eq, addressStep, unread] at flashes
    obtain ⟨later, frames, rest⟩ := flashes.behind (isRequest_firstWrites _) obliged
    cases rest with
    | unwritten => exact ⟨frames.trans (List.append_nil _), rfl⟩
  cases said with
  | agreed same => exact absurd same differ
  | forbidden _ forbidden =>
    rw [allowed] at forbidden
    cases forbidden
  | broken _ _ flashes =>
    obtain ⟨frames, same⟩ := stops flashes (List.forall_mem_append.mp obliged).2
    rw [framesOf_append, asks.frames_eq, frames]
    exact ⟨rfl, same⟩
  | flashed _ _ flashes reset =>
    obtain ⟨-, obliged⟩ := List.forall_mem_append.mp obliged
    obtain ⟨-, impossible⟩ := stops flashes (List.forall_mem_append.mp obliged).1
    cases impossible

theorem whole_of_writable (asks : Asks asked read) (said : Configures c asked read turns result)
    (allowed : c.settingsFlash = true) {address : Nat} {mask : BitVec 32}
    (readable : HexAddress.parse? c.network.ieeeAddress 8 = some address)
    (known : Channels.single? c.network.channel = some mask)
    (obliged : ∀ turn ∈ turns, turn.Obliged) : Whole c turns result := by
  cases read with
  | error e =>
    cases said
    exact .inl asks.frames_subset
  | ok actual =>
    by_cases same : c.network.diff actual = []
    · cases said with
      | agreed => exact .inl asks.frames_subset
      | forbidden differ | broken differ | flashed differ => exact absurd same differ
    · exact .inr (completed_of_writable asks said same allowed readable known obliged)

theorem not_whole_of_unread (asks : Asks asked (.ok actual))
    (said : Configures c asked (.ok actual) turns result) (differ : c.network.diff actual ≠ [])
    (allowed : c.settingsFlash = true) (unread : HexAddress.parse? c.network.ieeeAddress 8 = none)
    (obliged : ∀ turn ∈ turns, turn.Obliged) : ¬Whole c turns result := by
  obtain ⟨frames, failed⟩ := halfWritten_of_unread asks said differ allowed unread obliged
  rintro (untouched | completed)
  · rw [frames] at untouched
    have write := untouched (List.mem_append_right _ List.mem_cons_self)
    simp [infoQuestion, memoryQuestion, RequestKind.frame, RequestKind.key] at write
  · rw [completed.succeeds] at failed
    cases failed

/-! ### Settings that pass -/

/-- The channel of settings that pass has a frame. -/
theorem channel_of_validate (valid : c.validate = .ok ()) :
    ∃ mask, Channels.single? c.network.channel = some mask := by
  unfold Config.validate at valid
  obtain ⟨-, -, valid⟩ := bind_eq_ok.mp valid
  obtain ⟨-, -, valid⟩ := bind_eq_ok.mp valid
  obtain ⟨-, -, valid⟩ := bind_eq_ok.mp valid
  obtain ⟨-, -, valid⟩ := bind_eq_ok.mp valid
  obtain ⟨-, -, valid⟩ := bind_eq_ok.mp valid
  obtain ⟨-, -, valid⟩ := bind_eq_ok.mp valid
  split at valid
  · rename_i exist
    exact ⟨_, if_pos exist⟩
  · cases valid

/-- Settings that pass leave no obliging radio half written exactly if their address can be
read. -/
theorem whole_iff_readable (valid : c.validate = .ok ()) (allowed : c.settingsFlash = true) :
    (∀ (σ : Type) (w : Surroundings σ), Obliging w → ∀ s,
      Whole c ((configureAndReset c).converse w s).turns
        ((configureAndReset c).converse w s).result) ↔
      (HexAddress.parse? c.network.ieeeAddress 8).isSome = true := by
  constructor
  · intro whole
    cases unread : HexAddress.parse? c.network.ieeeAddress 8 with
    | some value => rfl
    | none =>
      obtain ⟨asked, asks, said⟩ := Memory.remembers_radio.configures c Memory.blank
      have differ : c.network.diff (Memory.blank.parameters 11) ≠ [] := by
        intro agrees
        rw [(Memory.address_of_agrees agrees).1] at unread
        cases unread
      exact absurd (whole Memory Memory.radio obliging_radio Memory.blank)
        (not_whole_of_unread asks said differ allowed unread (obliging_radio.obliged _ _))
  · intro readable σ w obliging s
    obtain ⟨address, readable⟩ := Option.isSome_iff_exists.mp readable
    obtain ⟨mask, known⟩ := channel_of_validate valid
    exact whole_of_writable (says_readNetworkConfig σ w s) (configures c w s) allowed readable known
      (obliging.obliged _ s)

/-- The settings of a small network, whose coordinator has the address. -/
def sampleConfig (address : String) : Config :=
  { Config.initial with
    network := ⟨address, 0x1a62, 0xdddddddddddddddd, ⟨List.replicate 16 17, rfl⟩, 11⟩
    port := "/dev/ttyUSB0"
    settingsFlash := true }

/-- A blank radio is flashed with the settings: all eight writes, and the reset. -/
theorem completed_sample :
    let c := sampleConfig "0x00124b0001020304"
    let run := (configureAndReset c).converse Memory.radio Memory.blank
    Completed c run.turns run.result := by
  intro c run
  obtain ⟨asked, asks, said⟩ := Memory.remembers_radio.configures c Memory.blank
  have readable : HexAddress.parse? c.network.ieeeAddress 8 = some 0x00124b0001020304 := by decide
  have known : Channels.single? c.network.channel = some (1#32 <<< 11) := rfl
  have differ : c.network.diff (Memory.blank.parameters 11) ≠ [] := by decide
  exact completed_of_writable asks said differ rfl readable known
    (obliging_radio.obliged (configureAndReset c).program Memory.blank)

theorem whole_of_readable_sample :
    (sampleConfig "0x00124b0001020304").validate = .ok () ∧
    (sampleConfig "0x00124b0001020304").settingsFlash = true ∧
    ∀ (σ : Type) (w : Surroundings σ), Obliging w → ∀ s,
      Whole (sampleConfig "0x00124b0001020304")
        ((configureAndReset (sampleConfig "0x00124b0001020304")).converse w s).turns
        ((configureAndReset (sampleConfig "0x00124b0001020304")).converse w s).result :=
  ⟨rfl, rfl, (whole_iff_readable rfl rfl).mpr (by decide)⟩

/-- With a word for an address the settings pass, but the flash is given up after six writes. -/
theorem halfWritten_coordinator :
    let c := sampleConfig "coordinator"
    let run := (configureAndReset c).converse Memory.radio Memory.blank
    c.validate = .ok () ∧ c.settingsFlash = true ∧ Obliging Memory.radio ∧
      framesOf run.turns = [infoQuestion, memoryQuestion] ++ firstWrites c.network ∧
      run.result = .error (.codec (.field "ext_address" 0 (.invalidHex "coordinator" 16))) ∧
      ¬Whole c run.turns run.result := by
  intro c run
  obtain ⟨asked, asks, said⟩ := Memory.remembers_radio.configures c Memory.blank
  have unread : HexAddress.parse? c.network.ieeeAddress 8 = none := by decide
  have differ : c.network.diff (Memory.blank.parameters 11) ≠ [] := by decide
  have obliged := obliging_radio.obliged (configureAndReset c).program Memory.blank
  obtain ⟨frames, failed⟩ := halfWritten_of_unread asks said differ rfl unread obliged
  exact ⟨rfl, rfl, obliging_radio, frames, failed,
    not_whole_of_unread asks said differ rfl unread obliged⟩

end Zigbee.Host
