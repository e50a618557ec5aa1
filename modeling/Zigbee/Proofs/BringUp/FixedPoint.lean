import Zigbee.Proofs.BringUp.Completion

/-!
# Configuring a radio twice

A radio that remembers what it is told holds, after a call that succeeds, the parameters of
the settings: those it was found to have, or those that were written
(`Remembers.report_of_ok`). The host reads them all back as they stand in the settings, but for
the address, which it reads in the form that `HexAddress.format` gives and compares as text.
So the next call finds nothing to do exactly if the settings write the address in that form
(`settled_iff_canonical`).
-/

namespace Zigbee.Network

namespace Channels

/-- The channel of its own mask. -/
theorem only?_of_single? {channel : BitVec 8} {mask : BitVec 32}
    (known : single? channel = some mask) : only? mask = some channel := by
  have every : ∀ channel, exists? channel = true →
      only? (1#32 <<< channel.toNat) = some channel := by decide +kernel
  unfold single? at known
  split at known
  · rename_i exist
    obtain rfl := Option.some.inj known
    exact every channel exist
  · cases known

end Channels

theorem NetworkConfiguration.diff_self (c : NetworkConfiguration) : c.diff c = [] := by
  simp [diff, compare]

end Zigbee.Network

namespace Zigbee.Host

open Network Radio Record Serial Settings Wire

variable {σ : Type} {w : Surroundings σ} {memory : σ → Memory} {s : σ} {c : Config}

/-! ### What is in the memory after a flash -/

/-- The memory of a radio that holds the parameters, with the address as a number. -/
def Memory.holding (c : NetworkConfiguration) (address : Nat) (mask : BitVec 32) : Memory :=
  ⟨BitVec.ofNat 64 address, mask, c.panId, c.extPanId, c.networkKey⟩

theorem Memory.foldl_store_flash (c : NetworkConfiguration) (value : Nat) (mask : BitVec 32)
    (m : Memory) :
    (allWrites c value mask).foldl store m = .holding c value mask := by
  have extPanId : told? .sysOsalNvWrite [0x2d, 0x00, 0x00, 0x08] (RequestKind.sysOsalNvWrite.frame
      (0x2d :: 0x00 :: 0x00 :: 0x08 :: littleEndian 8 c.extPanId.toNat)) =
        some (littleEndian 8 c.extPanId.toNat) := told?_frame .sysOsalNvWrite _ _
  simp (disch := decide) [allWrites, firstWrites, store, told?_frame_other, holding, extPanId]

/-- The host reads the parameters back, with the address in its own form. -/
theorem Memory.report_holding {c : NetworkConfiguration} {value : Nat} {mask : BitVec 32}
    (address : HexAddress.parse? c.ieeeAddress 8 = some value)
    (channel : Channels.single? c.channel = some mask) :
    (Memory.holding c value mask).report =
      .ok { c with ieeeAddress := HexAddress.format value 8 } := by
  have fits : (BitVec.ofNat 64 value).toNat = value := by
    have small := HexAddress.lt_capacity_of_parse? address
    rw [capacity_eq_two_pow] at small
    exact Nat.mod_eq_of_lt small
  have same : Channels.only? (Memory.holding c value mask).mask = some c.channel :=
    Channels.only?_of_single? channel
  rw [report, same]
  simp only [parameters, holding, fits]

/-! ### After a call that succeeds -/

namespace Configures

variable {asked turns : List Turn} {actual : NetworkConfiguration}

/-- A call that succeeds has asked, and if it found a difference, written everything and reset
the radio. -/
theorem frames_of_ok (asks : Asks asked (.ok actual))
    (said : Configures c asked (.ok actual) turns (.ok ())) :
    (c.network.diff actual = [] ∧ framesOf turns = [infoQuestion, memoryQuestion]) ∨
      ∃ address mask count, HexAddress.parse? c.network.ieeeAddress 8 = some address ∧
        Channels.single? c.network.channel = some mask ∧
        framesOf turns = [infoQuestion, memoryQuestion] ++ (allWrites c.network address mask ++
          List.replicate count resetFrame) := by
  generalize ended : (.ok () : Except Failure Unit) = result at said
  cases said with
  | agreed same => exact .inl ⟨same, asks.frames_eq⟩
  | forbidden | broken => cases ended
  | flashed _ _ flashes reset =>
    obtain ⟨address, mask, readable, known, writes⟩ :=
      flashSteps_eq_map_iff.mp flashes.complete.1.symm
    obtain ⟨count, -, orders⟩ := reset.frames
    refine .inr ⟨address, mask, count + 1, readable, known, ?_⟩
    rw [framesOf_append, framesOf_append, asks.frames_eq, writes, orders]

/-- Whatever else it has sent has been acknowledged. -/
theorem heeded_of_ok (asks : Asks asked (.ok actual))
    (said : Configures c asked (.ok actual) turns (.ok ())) : ∀ f o, .sent f o ∈ turns →
      f ∈ [infoQuestion, memoryQuestion] ∨ f.type = .asyncRequest ∨ o.Acknowledges := by
  intro f o member
  generalize ended : (.ok () : Except Failure Unit) = result at said
  have question (member : .sent f o ∈ asked) : f ∈ [infoQuestion, memoryQuestion] :=
    asks.frames_eq ▸ mem_framesOf member
  cases said with
  | agreed same => exact .inl (question member)
  | forbidden | broken => cases ended
  | flashed _ _ flashes reset =>
    obtain asking | member := List.mem_append.mp member
    · exact .inl (question asking)
    · obtain write | order := List.mem_append.mp member
      · exact .inr (.inr (flashes.complete.2 f o write))
      · obtain ⟨count, -, orders⟩ := reset.frames
        have sent := mem_framesOf order
        rw [orders] at sent
        rw [List.eq_of_mem_replicate sent]
        exact .inr (.inl rfl)

end Configures

/-- After a call that succeeds the radio reports the parameters of the settings. -/
theorem Remembers.report_of_ok (r : Remembers w memory) (s : σ)
    (ok : ((configureAndReset c).converse w s).result = .ok ()) :
    ∃ actual, (memory ((configureAndReset c).converse w s).state).report = .ok actual ∧
      (c.network.diff actual = [] ∨ ∃ address,
        HexAddress.parse? c.network.ieeeAddress 8 = some address ∧
          actual = { c.network with ieeeAddress := HexAddress.format address 8 }) := by
  obtain ⟨asked, asks, said⟩ := r.configures c s
  rw [ok] at said
  cases told : (memory s).report with
  | error e =>
    rw [told] at said
    cases said
  | ok actual =>
    rw [told] at asks said
    have remembered : memory ((configureAndReset c).converse w s).state =
        (framesOf ((configureAndReset c).converse w s).turns).foldl Memory.store (memory s) :=
      r.memory_converse (configureAndReset c).program s fun f o member => by
        obtain question | heeded := said.heeded_of_ok asks f o member
        · exact .inr (r.acknowledges_questions (configureAndReset c).program s f o member question)
        · exact heeded
    -- Questions and orders to reset leave the memory alone, so only the writes are left.
    have questions (m : Memory) : [infoQuestion, memoryQuestion].foldl Memory.store m = m :=
      Memory.foldl_store_of_idle (fun f question => Memory.store_question question) m
    have resets (count : Nat) (m : Memory) :
        (List.replicate count resetFrame).foldl Memory.store m = m :=
      Memory.foldl_store_of_idle (fun f order => Memory.store_async
        (List.eq_of_mem_replicate order ▸ rfl)) m
    rw [remembered]
    obtain ⟨same, frames⟩ | ⟨address, mask, count, readable, known, frames⟩ :=
      said.frames_of_ok asks
    · rw [frames, questions]
      exact ⟨actual, told, .inl same⟩
    · rw [frames, List.foldl_append, List.foldl_append, questions, Memory.foldl_store_flash, resets]
      exact ⟨_, Memory.report_holding readable known, .inr ⟨address, readable, rfl⟩⟩

/-! ### The next call -/

/-- The host finds no difference, so the call sends the two questions and succeeds, whether or
not it may write. -/
def Settled (c : Config) (w : Surroundings σ) (s : σ) : Prop :=
  (∃ actual, (readNetworkConfig.converse w s).result = .ok actual ∧ c.network.diff actual = []) ∧
    ∀ allowed : Bool,
      let run := (configureAndReset { c with settingsFlash := allowed }).converse w s
      framesOf run.turns = [infoQuestion, memoryQuestion] ∧ run.result = .ok ()

theorem settled_of_agrees {actual : NetworkConfiguration}
    (told : (readNetworkConfig.converse w s).result = .ok actual)
    (same : c.network.diff actual = []) : Settled c w s := by
  refine ⟨⟨actual, told, same⟩, fun allowed => ?_⟩
  have asks := says_readNetworkConfig σ w s
  have said := configures { c with settingsFlash := allowed } w s
  rw [told] at asks said
  dsimp only
  generalize ((configureAndReset { c with settingsFlash := allowed }).converse w s).turns = turns,
    ((configureAndReset { c with settingsFlash := allowed }).converse w s).result = result at said ⊢
  cases said with
  | agreed => exact ⟨asks.frames_eq, rfl⟩
  | forbidden differ | broken differ | flashed differ => exact absurd same differ

/-- What agrees with a report writes its address as the host does. -/
theorem canonical_of_agrees {desired actual : NetworkConfiguration} {m : Memory} {address : Nat}
    (told : m.report = .ok actual) (same : desired.diff actual = [])
    (readable : HexAddress.parse? desired.ieeeAddress 8 = some address) :
    desired.ieeeAddress = HexAddress.format address 8 := by
  unfold Memory.report at told
  split at told
  · obtain rfl := Except.ok.inj told
    obtain ⟨known, canonical⟩ := Memory.address_of_agrees same
    rw [readable] at known
    obtain rfl := Option.some.inj known
    exact canonical
  · cases told

/-- With settings that pass, a call that succeeds leaves nothing to do for the next one, exactly
if the settings write the address as the host reads it. -/
theorem settled_iff_canonical (valid : c.validate = .ok ()) (allowed : c.settingsFlash = true) :
    (∀ (σ : Type) (w : Surroundings σ) (memory : σ → Memory), Remembers w memory → ∀ s,
      ((configureAndReset c).converse w s).result = .ok () →
        Settled c w ((configureAndReset c).converse w s).state) ↔
      ∀ address, HexAddress.parse? c.network.ieeeAddress 8 = some address →
        c.network.ieeeAddress = HexAddress.format address 8 := by
  constructor
  · intro settles address readable
    by_cases same : c.network.diff (Memory.blank.parameters 11) = []
    · exact canonical_of_agrees Memory.report_blank same readable
    · obtain ⟨asked, asks, said⟩ := Memory.remembers_radio.configures c Memory.blank
      obtain ⟨mask, known⟩ := channel_of_validate valid
      have completed := completed_of_writable asks said same allowed readable known
        (obliging_radio.obliged _ _)
      obtain ⟨⟨actual, told, agrees⟩, -⟩ :=
        settles Memory Memory.radio id Memory.remembers_radio Memory.blank completed.succeeds
      rw [(Memory.remembers_radio.asks _).2] at told
      exact canonical_of_agrees told agrees readable
  · intro canonical σ w memory r s ok
    obtain ⟨actual, told, outcome⟩ := r.report_of_ok s ok
    refine settled_of_agrees ((r.asks _).2.trans told) ?_
    obtain same | ⟨address, readable, rfl⟩ := outcome
    · exact same
    · rw [← canonical address readable]
      exact c.network.diff_self

theorem settled_of_canonical_sample :
    (sampleConfig "0x00124b0001020304").validate = .ok () ∧
    (sampleConfig "0x00124b0001020304").settingsFlash = true ∧
    ∀ (σ : Type) (w : Surroundings σ) (memory : σ → Memory), Remembers w memory → ∀ s,
      ((configureAndReset (sampleConfig "0x00124b0001020304")).converse w s).result = .ok () →
        Settled (sampleConfig "0x00124b0001020304") w
          ((configureAndReset (sampleConfig "0x00124b0001020304")).converse w s).state := by
  have canonical (address : Nat) (readable :
      HexAddress.parse? "0x00124b0001020304" 8 = some address) :
      "0x00124b0001020304" = HexAddress.format address 8 := by
    have value : HexAddress.parse? "0x00124b0001020304" 8 = some 0x00124b0001020304 := by decide
    obtain rfl := Option.some.inj (value.symm.trans readable)
    decide
  exact ⟨rfl, rfl, (settled_iff_canonical rfl rfl).mpr canonical⟩

/-- With an address in capital letters the radio is flashed and the call succeeds, and the next
call finds the same address to be another one. -/
theorem unsettled_capitals :
    let c := sampleConfig "0x00124B0001020304"
    let run := (configureAndReset c).converse Memory.radio Memory.blank
    c.validate = .ok () ∧ c.settingsFlash = true ∧ Remembers Memory.radio id ∧
      Completed c run.turns run.result ∧
      Completed c ((configureAndReset c).converse Memory.radio run.state).turns
        ((configureAndReset c).converse Memory.radio run.state).result ∧
      ¬Settled c Memory.radio run.state := by
  intro c run
  have readable : HexAddress.parse? c.network.ieeeAddress 8 = some 0x00124b0001020304 := by decide
  have known : Channels.single? c.network.channel = some (1#32 <<< 11) := rfl
  have differs {m : Memory} {actual : NetworkConfiguration} (told : m.report = .ok actual) :
      c.network.diff actual ≠ [] := fun same =>
    absurd (canonical_of_agrees told same readable) (by decide)
  have completes {m : Memory} {actual : NetworkConfiguration} (told : m.report = .ok actual) :
      Completed c ((configureAndReset c).converse Memory.radio m).turns
        ((configureAndReset c).converse Memory.radio m).result := by
    obtain ⟨asked, asks, said⟩ := Memory.remembers_radio.configures c m
    rw [id, told] at asks said
    exact completed_of_writable asks said (differs told) rfl readable known
      (obliging_radio.obliged _ m)
  have first := completes Memory.report_blank
  obtain ⟨actual, told, -⟩ := Memory.remembers_radio.report_of_ok Memory.blank first.succeeds
  refine ⟨rfl, rfl, Memory.remembers_radio, first, completes told, ?_⟩
  rintro ⟨⟨other, toldOther, same⟩, -⟩
  rw [(Memory.remembers_radio.asks _).2] at toldOther
  exact differs toldOther same

end Zigbee.Host
