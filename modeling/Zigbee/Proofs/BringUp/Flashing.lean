import Zigbee.Host.BringUp
import Zigbee.Proofs.Program.Conversation

/-!
# Configuring the radio with care

`configureAndReset` first asks the radio for its network parameters. It writes only if they
differ from the settings and if it may. The writes come in a fixed order (`flashSteps`), each
only after the radio has acknowledged the one before, and the reset only after all of them.

The conversation of a sequence of writes is described by `InSequence`, that of the questions
by `Asks`, and that of the whole call by `Configures`, which says exactly what can be heard and
how the call ends. `careful_configureAndReset` draws from it what matters for the radio.
-/

namespace Zigbee.Host

open Network Radio Record Serial Settings Wire

/-! ### Frames in sequence -/

/-- Frames that are sent one after the other, each once the one before has been acknowledged.
The sequence ends with a frame that is not acknowledged, or where there is none to send. -/
inductive InSequence : List (Except Failure Frame) → List Turn → Except Failure Unit → Prop where
  | done : InSequence [] [] (.ok ())
  | unwritten {e : Failure} {steps : List (Except Failure Frame)} :
      InSequence (.error e :: steps) [] (.error e)
  | refused {f : Frame} {o : Outcome} {e : Failure} {steps : List (Except Failure Frame)}
      (refused : o.verdict = .error e) : InSequence (.ok f :: steps) [.sent f o] (.error e)
  | acknowledged {f : Frame} {o : Outcome} {steps : List (Except Failure Frame)}
      {turns : List Turn} {result : Except Failure Unit} (acknowledged : o.verdict = .ok ())
      (rest : InSequence steps turns result) :
      InSequence (.ok f :: steps) (.sent f o :: turns) result

namespace InSequence

variable {steps more : List (Except Failure Frame)} {turns later before after : List Turn}
variable {turn : Turn} {result : Except Failure Unit} {e : Failure}

theorem append_error (h : InSequence steps turns (.error e))
    (more : List (Except Failure Frame)) : InSequence (steps ++ more) turns (.error e) := by
  generalize failed : (.error e : Except Failure Unit) = r at h
  induction h with
  | done => cases failed
  | unwritten => exact .unwritten
  | refused refused => exact .refused refused
  | acknowledged acknowledged rest ih => exact .acknowledged acknowledged (ih failed)

theorem append_ok (h : InSequence steps turns (.ok ())) (next : InSequence more later result) :
    InSequence (steps ++ more) (turns ++ later) result := by
  generalize completed : (.ok () : Except Failure Unit) = r at h
  induction h with
  | done => exact next
  | unwritten | refused => cases completed
  | acknowledged acknowledged rest ih => exact .acknowledged acknowledged (ih completed)

/-- The frames are a first part of the sequence. -/
theorem frames_prefix (h : InSequence steps turns result) :
    (framesOf turns).map .ok <+: steps := by
  induction h with
  | done | unwritten => exact List.nil_prefix
  | refused => exact ⟨_, rfl⟩
  | acknowledged acknowledged rest ih => exact List.cons_prefix_cons.mpr ⟨rfl, ih⟩

/-- Whatever a frame follows has been acknowledged. -/
theorem acknowledges_of_before (h : InSequence steps turns result)
    (split : turns = before ++ turn :: after) : ∀ f o, .sent f o ∈ before → o.Acknowledges := by
  induction h generalizing before with
  | done | unwritten => simp at split
  | refused =>
    cases before with
    | nil => exact fun _ _ none => absurd none List.not_mem_nil
    | cons first rest => simp at split
  | acknowledged acknowledged rest ih =>
    cases before with
    | nil => exact fun _ _ none => absurd none List.not_mem_nil
    | cons first others =>
      obtain ⟨rfl, behind⟩ := List.cons.inj split
      intro f o member
      obtain same | later := List.mem_cons.mp member
      · obtain ⟨rfl, rfl⟩ := Turn.sent.inj same
        exact Outcome.verdict_eq_ok_iff.mp acknowledged
      · exact ih behind f o later

/-- A sequence that has come to its end has been acknowledged from end to end. -/
theorem complete (h : InSequence steps turns (.ok ())) :
    (framesOf turns).map .ok = steps ∧ ∀ f o, .sent f o ∈ turns → o.Acknowledges := by
  generalize completed : (.ok () : Except Failure Unit) = r at h
  induction h with
  | done => exact ⟨rfl, fun _ _ none => absurd none List.not_mem_nil⟩
  | unwritten | refused => cases completed
  | acknowledged acknowledged rest ih =>
    obtain ⟨frames, others⟩ := ih completed
    refine ⟨congrArg (_ :: ·) frames, fun f o member => ?_⟩
    obtain same | later := List.mem_cons.mp member
    · obtain ⟨rfl, rfl⟩ := Turn.sent.inj same
      exact Outcome.verdict_eq_ok_iff.mp acknowledged
    · exact others f o later

end InSequence

namespace Call

/-- A request whose response is a status is a sequence of one frame. -/
theorem says_requestChecked {kind : RequestKind} {fields : kind.layout.Carrier}
    {status : kind.answer.Carrier → Status}
    (verdict : ∀ o : Outcome,
      (do Failure.checkStatus (status (← o.answer kind)) : Except Failure Unit) = o.verdict) :
    (requestChecked kind fields status).Says (InSequence [frameOf kind fields]) := by
  cases written : frameOf kind fields with
  | error e =>
    refine (says_request_unwritten written).bind ?_ ?_
    · rintro turns reason ⟨rfl, failed⟩
      obtain rfl := Except.error.inj failed
      exact .unwritten
    · rintro turns answer ⟨-, impossible⟩
      cases impossible
  | ok f =>
    refine (says_request written).bind ?_ ?_
    · rintro turns e ⟨o, rfl, failed⟩
      refine .refused ?_
      rw [← verdict, ← failed]
      rfl
    · rintro turns answer ⟨o, rfl, answered⟩
      refine (says_check _).mono ?_
      rintro _ _ ⟨rfl, rfl⟩
      have checked : Failure.checkStatus (status answer) = o.verdict := by
        rw [← verdict, ← answered]
        rfl
      rw [List.append_nil, checked]
      cases judged : o.verdict with
      | error e => exact .refused judged
      | ok => exact .acknowledged judged .done

/-- One step, and then the others. -/
theorem Says.step {step : Except Failure Frame} {back : List (Except Failure Frame)}
    {c : Call Unit} {next : Unit → Call Unit} (first : c.Says (InSequence [step]))
    (rest : (next ()).Says (InSequence back)) : (c >>= next).Says (InSequence (step :: back)) := by
  refine first.bind (fun _ _ failed => failed.append_error back) fun turns _ sent => ?_
  exact rest.mono fun _ _ => sent.append_ok

end Call

/-! ### The writes -/

/-- The order to reset. -/
def resetFrame : Frame := ResetKind.sysResetReq.frame [0x01]

/-- The frame that sets the extended address; a text that is no address has none. -/
def addressStep (text : String) : Except Failure Frame :=
  match HexAddress.parse? text 8 with
  | some value => .ok (RequestKind.sysSetExtAddr.frame (littleEndian 8 value))
  | none => .error (.codec (.field "ext_address" 0 (.invalidHex text 16)))

/-- The frame that sets the channel; one outside the band has none. -/
def channelStep (channel : BitVec 8) : Except Failure Frame :=
  match Channels.single? channel with
  | some mask => .ok (RequestKind.utilSetChannels.frame (littleEndian 4 mask.toNat))
  | none => .error (.unsupportedChannel channel)

/-- The writes of the network parameters, in their order: the key, the part in the network,
the two numbers of the network, direct callbacks, the security mode, the address and the
channel. -/
def flashSteps (c : NetworkConfiguration) : List (Except Failure Frame) :=
  [.ok (RequestKind.utilSetPreCfgKey.frame c.networkKey.val),
   .ok (RequestKind.sapiZbWriteConfiguration.frame [0x87, 0x01, 0x00]),
   .ok (RequestKind.utilSetPanId.frame (littleEndian 2 c.panId.toNat)),
   .ok (RequestKind.sysOsalNvWrite.frame
     ([0x2d, 0x00, 0x00, 0x08] ++ littleEndian 8 c.extPanId.toNat)),
   .ok (RequestKind.sapiZbWriteConfiguration.frame [0x8f, 0x01, 0x01]),
   .ok (RequestKind.sapiZbWriteConfiguration.frame [0x64, 0x01, 0x01]),
   addressStep c.ieeeAddress,
   channelStep c.channel]

theorem frameOf_address (text : String) : frameOf .sysSetExtAddr (text, ()) = addressStep text := by
  unfold addressStep frameOf
  cases read : HexAddress.parse? text 8 with
  | some value =>
    have written : RequestKind.sysSetExtAddr.layout.write (text, ()) =
        .ok (littleEndian 8 value ++ []) :=
      encode_field_eq_ok.mpr ⟨_, _, HexAddress.encode_of_parse? read, rfl, rfl⟩
    simp only [written, List.append_nil]
  | none =>
    have unwritten : RequestKind.sysSetExtAddr.layout.write (text, ()) =
        .error (.field "ext_address" 0 (.invalidHex text 16)) := by
      change (Layout.field "ext_address" (.address 8) .done).encode [] 0 (text, ()) = _
      rw [Layout.encode, Layout.encode, HexAddress.encode_of_unread read]
      rfl
    simp only [unwritten]

theorem frameOf_channel {channel : BitVec 8} {mask : BitVec 32}
    (known : Channels.single? channel = some mask) :
    frameOf .utilSetChannels (mask, ()) = channelStep channel := by
  rw [channelStep, known]
  rfl

theorem says_writeConfiguration (id : BitVec 8) (value : List UInt8) :
    (writeConfiguration id value).Says
      (InSequence [frameOf .sapiZbWriteConfiguration (id, value, ())]) :=
  Call.says_requestChecked fun o => by cases o <;> rfl

theorem says_writeMemory {item : MemoryItem} {fields : item.layout.Carrier} {value : List UInt8}
    (written : item.layout.write fields = .ok value) :
    (writeMemory item fields).Says
      (InSequence [frameOf .sysOsalNvWrite (item.id, 0, value, ())]) := by
  rw [writeMemory, written]
  refine (Call.says_check _).bind ?_ ?_
  · rintro turns e ⟨-, impossible⟩
    cases impossible
  · rintro turns content ⟨rfl, same⟩
    obtain rfl := Except.ok.inj same
    exact Call.says_requestChecked fun o => by cases o <;> rfl

/-- To set the channel is the last write. -/
theorem says_setChannel (channel : BitVec 8) :
    Call.Says (InSequence [channelStep channel])
      (match Channels.single? channel with
        | some mask => requestChecked .utilSetChannels (mask, ()) (·.1)
        | none => throw (.unsupportedChannel channel)) := by
  cases known : Channels.single? channel with
  | some mask =>
    rw [← frameOf_channel known]
    exact Call.says_requestChecked fun o => by cases o <;> rfl
  | none =>
    refine (Call.says_throw _).mono ?_
    rintro turns r ⟨rfl, rfl⟩
    rw [channelStep, known]
    exact .unwritten

/-- The radio is written to in the order of the steps. -/
theorem says_flash (c : NetworkConfiguration) : (flash c).Says (InSequence (flashSteps c)) := by
  have key : frameOf .utilSetPreCfgKey (c.networkKey, ()) =
      .ok (RequestKind.utilSetPreCfgKey.frame c.networkKey.val) :=
    congrArg (fun payload => Except.ok (RequestKind.utilSetPreCfgKey.frame payload))
      (List.append_nil c.networkKey.val)
  have panId : frameOf .utilSetPanId (c.panId, ()) =
      .ok (RequestKind.utilSetPanId.frame (littleEndian 2 c.panId.toNat)) := rfl
  have memory : MemoryItem.extPanId.layout.write (c.extPanId, ()) =
      .ok (littleEndian 8 c.extPanId.toNat) := rfl
  have extPanId : frameOf .sysOsalNvWrite
        (MemoryItem.extPanId.id, 0, littleEndian 8 c.extPanId.toNat, ()) =
      .ok (RequestKind.sysOsalNvWrite.frame
        ([0x2d, 0x00, 0x00, 0x08] ++ littleEndian 8 c.extPanId.toNat)) := rfl
  rw [flashSteps, flash, ← key, ← panId, ← extPanId, ← frameOf_address]
  refine .step (Call.says_requestChecked fun o => by cases o <;> rfl) ?_
  refine .step (says_writeConfiguration logicalTypeSetting [0]) ?_
  refine .step (Call.says_requestChecked fun o => by cases o <;> rfl) ?_
  refine .step (says_writeMemory memory) ?_
  refine .step (says_writeConfiguration directCallbackSetting [1]) ?_
  refine .step (says_writeConfiguration securityModeSetting [1]) ?_
  refine .step (Call.says_requestChecked fun o => by cases o <;> rfl) ?_
  exact says_setChannel c.channel

/-! ### The questions -/

/-- The question for what the radio was started with. -/
def infoQuestion : Frame := RequestKind.utilGetNvInfo.frame []

/-- The question for the extended number of the network. -/
def memoryQuestion : Frame := RequestKind.sysOsalNvRead.frame [0x2d, 0x00, 0x00]

/-- The parameter that an answer from the radio's memory tells. -/
def recalled (item : MemoryItem) (o : Outcome) : Except Failure item.layout.Carrier := do
  let (status, value, ()) ← o.answer .sysOsalNvRead
  Failure.checkStatus status
  (item.layout.read value).mapError .codec

/-- The network parameters that the answers to the two questions tell. -/
def reported (info memory : Outcome) : Except Failure NetworkConfiguration := do
  let (_, address, mask, panId, _, key, ()) ← info.answer .utilGetNvInfo
  let (extPanId, ()) ← recalled .extPanId memory
  match Channels.only? mask with
  | some channel => .ok ⟨address, panId, extPanId, key, channel⟩
  | none => .error (.scanChannels mask)

/-- The conversation in which the network parameters are asked for. The second question is
only asked if the first is answered. -/
inductive Asks : List Turn → Except Failure NetworkConfiguration → Prop where
  | unanswered {info : Outcome} {e : Failure} (failed : info.answer .utilGetNvInfo = .error e) :
      Asks [.sent infoQuestion info] (.error e)
  | answered {info memory : Outcome} {fields : RequestKind.utilGetNvInfo.answer.Carrier}
      (told : info.answer .utilGetNvInfo = .ok fields) :
      Asks [.sent infoQuestion info, .sent memoryQuestion memory] (reported info memory)

variable {σ : Type} {w : Surroundings σ} {s : σ}

theorem converse_readMemory {item : MemoryItem} {payload : List UInt8}
    (written : RequestKind.sysOsalNvRead.layout.write (item.id, 0, ()) = .ok payload) :
    (readMemory item).converse w s =
      w.submit s (RequestKind.sysOsalNvRead.frame payload) (recalled item) := by
  have asked := Call.converse_request (w := w) (s := s) written
  cases answer :
      (w.outcome s (RequestKind.sysOsalNvRead.frame payload)).1.answer .sysOsalNvRead with
  | error e =>
    rw [readMemory, Call.converse_submit_bind_error asked answer]
    simp only [Surroundings.submit, recalled, answer]
    rfl
  | ok fields =>
    obtain ⟨status, value, ⟨⟩⟩ := fields
    rw [readMemory, Call.converse_submit_bind_ok asked answer]
    simp only [Call.check_bind, Surroundings.submit, recalled, answer]
    rfl

theorem converse_readNetworkConfig_answered {fields : RequestKind.utilGetNvInfo.answer.Carrier}
    (told : (w.outcome s infoQuestion).1.answer .utilGetNvInfo = .ok fields) :
    readNetworkConfig.converse w s =
      ⟨[.sent infoQuestion (w.outcome s infoQuestion).1,
        .sent memoryQuestion (w.outcome (w.outcome s infoQuestion).2 memoryQuestion).1],
       reported (w.outcome s infoQuestion).1
        (w.outcome (w.outcome s infoQuestion).2 memoryQuestion).1,
       (w.outcome (w.outcome s infoQuestion).2 memoryQuestion).2⟩ := by
  have first : (Call.request .utilGetNvInfo ()).converse w s =
      w.submit s infoQuestion (Outcome.answer .utilGetNvInfo) := Call.converse_request rfl
  have second : (readMemory .extPanId).converse w (w.outcome s infoQuestion).2 =
      w.submit (w.outcome s infoQuestion).2 memoryQuestion (recalled .extPanId) :=
    converse_readMemory rfl
  obtain ⟨flags, address, mask, panId, security, key, ⟨⟩⟩ := fields
  rw [readNetworkConfig, Call.converse_submit_bind_ok first told]
  cases memory : recalled .extPanId
      (w.outcome (w.outcome s infoQuestion).2 memoryQuestion).1 with
  | error e =>
    rw [Call.converse_submit_bind_error second memory]
    simp only [reported, told, memory]
    rfl
  | ok value =>
    obtain ⟨extPanId, ⟨⟩⟩ := value
    have parameters : reported (w.outcome s infoQuestion).1
        (w.outcome (w.outcome s infoQuestion).2 memoryQuestion).1 =
          match Channels.only? mask with
          | some channel => .ok ⟨address, panId, extPanId, key, channel⟩
          | none => .error (.scanChannels mask) := by
      rw [reported, told, memory]
      rfl
    rw [Call.converse_submit_bind_ok second memory, parameters]
    cases Channels.only? mask <;> rfl

theorem converse_readNetworkConfig_unanswered {e : Failure}
    (failed : (w.outcome s infoQuestion).1.answer .utilGetNvInfo = .error e) :
    readNetworkConfig.converse w s =
      ⟨[.sent infoQuestion (w.outcome s infoQuestion).1], .error e,
        (w.outcome s infoQuestion).2⟩ := by
  have first : (Call.request .utilGetNvInfo ()).converse w s =
      w.submit s infoQuestion (Outcome.answer .utilGetNvInfo) := Call.converse_request rfl
  rw [readNetworkConfig, Call.converse_submit_bind_error first failed]

theorem says_readNetworkConfig : readNetworkConfig.Says Asks := by
  intro σ w s
  cases told : (w.outcome s infoQuestion).1.answer .utilGetNvInfo with
  | error e =>
    rw [converse_readNetworkConfig_unanswered told]
    exact .unanswered told
  | ok fields =>
    rw [converse_readNetworkConfig_answered told]
    exact .answered told

/-! ### The reset -/

/-- The order to reset is sent, and again up to `retries` times if the radio does not come
back. -/
def Resets (retries : Nat) :
    List Turn → Except Failure IndicationKind.sysResetInd.layout.Carrier → Prop :=
  Call.Retried (Awaited (fun turns r => ∃ o, turns = [.sent resetFrame o] ∧ r = o.acceptance)
    .sysResetInd) retries

theorem says_reset (timeouts : Timeouts) : (reset timeouts).Says (Resets timeouts.reset.retries) :=
  says_sendAndWait timeouts.reset (.any .sysResetInd) (Call.says_order rfl)

namespace Resets

variable {retries : Nat} {turns : List Turn}
variable {result : Except Failure IndicationKind.sysResetInd.layout.Carrier}

/-- Nothing else is sent, and the order at most once more than it may be retried. -/
theorem frames (h : Resets retries turns result) :
    ∃ count ≤ retries, framesOf turns = List.replicate (count + 1) resetFrame := by
  have attempt {turns : List Turn} {r : Except Failure _}
      (h : Awaited (fun turns r => ∃ o, turns = [.sent resetFrame o] ∧ r = o.acceptance)
        .sysResetInd turns r) : framesOf turns = [resetFrame] := by
    cases h with
    | unsent sent =>
      obtain ⟨o, rfl, -⟩ := sent
      rfl
    | sent sent =>
      obtain ⟨o, rfl, -⟩ := sent
      rfl
  induction h with
  | last made => exact ⟨0, Nat.zero_le _, attempt made⟩
  | again failed retryable rest ih =>
    obtain ⟨count, few, frames⟩ := ih
    refine ⟨count + 1, Nat.succ_le_succ few, ?_⟩
    rw [framesOf_append, attempt failed, frames]
    rfl

/-- If the reset succeeds, the radio has come back. -/
theorem came_of_ok (h : Resets retries turns result) (ok : result.isOk = true) :
    .awaited .sysResetInd true ∈ turns := by
  induction h with
  | last made =>
    cases made with
    | unsent sent => simp [Except.isOk, Except.toBool] at ok
    | sent sent =>
      rw [ok]
      exact List.mem_append_right _ (List.mem_singleton_self _)
  | again failed retryable rest ih => exact List.mem_append_right _ (ih ok)

end Resets

/-! ### The whole call -/

/-- What can be heard of the call, and how it ends, once the parameters of the radio have been
asked for. -/
inductive Configures (c : Config) (asked : List Turn) :
    Except Failure NetworkConfiguration → List Turn → Except Failure Unit → Prop where
  /-- The radio's parameters cannot be told. -/
  | unread {e : Failure} : Configures c asked (.error e) asked (.error e)
  | agreed {actual : NetworkConfiguration} (same : c.network.diff actual = []) :
      Configures c asked (.ok actual) asked (.ok ())
  | forbidden {actual : NetworkConfiguration} (differ : c.network.diff actual ≠ [])
      (forbidden : c.settingsFlash = false) :
      Configures c asked (.ok actual) asked (.error (.configMismatch (c.network.diff actual)))
  /-- A write fails, and with it the call. -/
  | broken {actual : NetworkConfiguration} {writes : List Turn} {e : Failure}
      (differ : c.network.diff actual ≠ []) (allowed : c.settingsFlash = true)
      (flashes : InSequence (flashSteps c.network) writes (.error e)) :
      Configures c asked (.ok actual) (asked ++ writes) (.error e)
  | flashed {actual : NetworkConfiguration} {writes resets : List Turn}
      {result : Except Failure IndicationKind.sysResetInd.layout.Carrier}
      (differ : c.network.diff actual ≠ []) (allowed : c.settingsFlash = true)
      (flashes : InSequence (flashSteps c.network) writes (.ok ()))
      (reset : Resets c.timeouts.reset.retries resets result) :
      Configures c asked (.ok actual) (asked ++ (writes ++ resets)) (result.map fun _ => ())

theorem configures (c : Config) (w : Surroundings σ) (s : σ) :
    Configures c (readNetworkConfig.converse w s).turns (readNetworkConfig.converse w s).result
      ((configureAndReset c).converse w s).turns ((configureAndReset c).converse w s).result := by
  unfold configureAndReset
  cases read : (readNetworkConfig.converse w s).result with
  | error e =>
    rw [Call.converse_bind_error read]
    exact .unread
  | ok actual =>
    rw [Call.converse_bind_ok read]
    -- The surroundings after the questions may be any, so the rest is described by `Says`.
    generalize (readNetworkConfig.converse w s).turns = asked
    refine (?_ : Call.Says
      (fun more r => Configures c asked (.ok actual) (asked ++ more) r) _) σ w _
    dsimp only
    split
    · rename_i same
      refine (Call.says_pure ()).mono ?_
      rintro _ _ ⟨rfl, rfl⟩
      rw [List.append_nil]
      exact .agreed (List.isEmpty_iff.mp same)
    · rename_i differ
      rw [List.isEmpty_iff] at differ
      split
      · rename_i allowed
        refine (says_flash c.network).bind (fun writes e => .broken differ allowed) ?_
        intro writes _ flashes
        refine (says_reset c.timeouts).discard.mono ?_
        rintro resets _ ⟨result, reset, rfl⟩
        exact .flashed differ allowed flashes reset
      · rename_i forbidden
        refine (Call.says_throw _).bind ?_ ?_
        · rintro _ e ⟨rfl, same⟩
          obtain rfl := Except.error.inj same
          rw [List.append_nil]
          exact .forbidden differ (Bool.eq_false_iff.mpr forbidden)
        · rintro _ _ ⟨-, impossible⟩
          cases impossible

/-! ### Care -/

/-- A flash that never leaves a step out. -/
structure CarefulFlash (c : Config) (turns : List Turn) (result : Except Failure Unit) :
    Prop where
  /-- The writes come in their order, and after the last of them the order to reset, at most
  once more than it may be retried. -/
  sequence : (framesOf turns).map .ok <+: flashSteps c.network ++
    List.replicate (c.timeouts.reset.retries + 1) (.ok resetFrame)
  /-- Whatever comes after a write, the write has been acknowledged. -/
  acknowledged : ∀ before turn after, turns = before ++ turn :: after →
    ∀ f o, .sent f o ∈ before → f ≠ resetFrame → o.Acknowledges
  /-- The call only succeeds if every write has been acknowledged and the radio has come back
  from the reset. -/
  complete : result = .ok () → flashSteps c.network <+: (framesOf turns).map .ok ∧
    (∀ f o, .sent f o ∈ turns → f ≠ resetFrame → o.Acknowledges) ∧
    .awaited .sysResetInd true ∈ turns

/-- The call asks for the parameters of the radio, and after that does no more than it may. -/
inductive Careful (c : Config) : List Turn → Except Failure Unit → Prop where
  | unread {asked : List Turn} {e : Failure} (asks : Asks asked (.error e)) :
      Careful c asked (.error e)
  | agreed {asked : List Turn} {actual : NetworkConfiguration} (asks : Asks asked (.ok actual))
      (same : c.network.diff actual = []) : Careful c asked (.ok ())
  | forbidden {asked : List Turn} {actual : NetworkConfiguration} (asks : Asks asked (.ok actual))
      (differ : c.network.diff actual ≠ []) (forbidden : c.settingsFlash = false) :
      Careful c asked (.error (.configMismatch (c.network.diff actual)))
  | flashed {asked turns : List Turn} {actual : NetworkConfiguration} {result : Except Failure Unit}
      (asks : Asks asked (.ok actual)) (differ : c.network.diff actual ≠ [])
      (allowed : c.settingsFlash = true) (careful : CarefulFlash c turns result) :
      Careful c (asked ++ turns) result

theorem carefulFlash_of_broken {c : Config} {writes : List Turn} {e : Failure}
    (flashes : InSequence (flashSteps c.network) writes (.error e)) :
    CarefulFlash c writes (.error e) where
  sequence := flashes.frames_prefix.trans (List.prefix_append _ _)
  acknowledged _ _ _ split f o member _ := flashes.acknowledges_of_before split f o member
  complete impossible := by cases impossible

theorem carefulFlash_of_flashed {c : Config} {writes resets : List Turn}
    {result : Except Failure IndicationKind.sysResetInd.layout.Carrier}
    (flashes : InSequence (flashSteps c.network) writes (.ok ()))
    (reset : Resets c.timeouts.reset.retries resets result) :
    CarefulFlash c (writes ++ resets) (result.map fun _ => ()) := by
  obtain ⟨frames, acknowledged⟩ := flashes.complete
  obtain ⟨count, few, orders⟩ := reset.frames
  have all : (framesOf (writes ++ resets)).map .ok =
      flashSteps c.network ++ List.replicate (count + 1) (.ok resetFrame) := by
    rw [framesOf_append, List.map_append, frames, orders, List.map_replicate]
  have written (f : Frame) (o : Outcome) (member : .sent f o ∈ writes ++ resets)
      (other : f ≠ resetFrame) : o.Acknowledges := by
    obtain write | order := List.mem_append.mp member
    · exact acknowledged f o write
    · have sent : f ∈ framesOf resets := mem_framesOf order
      rw [orders] at sent
      exact absurd (List.eq_of_mem_replicate sent) other
  refine ⟨?_, ?_, fun ok => ⟨?_, written, ?_⟩⟩
  · rw [all]
    refine (List.prefix_append_right_inj _).mpr ⟨List.replicate (c.timeouts.reset.retries - count)
      (.ok resetFrame), ?_⟩
    rw [List.replicate_append_replicate]
    congr 1
    omega
  · rintro before turn after split f o member
    refine written f o ?_
    rw [split]
    exact List.mem_append_left _ member
  · rw [all]
    exact List.prefix_append _ _
  · refine List.mem_append_right _ (reset.came_of_ok ?_)
    cases result with
    | ok answer => rfl
    | error e => cases ok

theorem careful_of_configures {c : Config} {asked turns : List Turn}
    {read : Except Failure NetworkConfiguration} {result : Except Failure Unit}
    (asks : Asks asked read) (configures : Configures c asked read turns result) :
    Careful c turns result := by
  cases configures with
  | unread => exact .unread asks
  | agreed same => exact .agreed asks same
  | forbidden differ forbidden => exact .forbidden asks differ forbidden
  | broken differ allowed flashes =>
    exact .flashed asks differ allowed (carefulFlash_of_broken flashes)
  | flashed differ allowed flashes reset =>
    exact .flashed asks differ allowed (carefulFlash_of_flashed flashes reset)

/-- However the radio behaves, it is configured with care. The call is one that `Configures`
describes, so it ends early only where a question, a write or the reset has failed. -/
theorem careful_configureAndReset (c : Config) :
    (configureAndReset c).Says fun turns result => Careful c turns result ∧
      ∃ asked read, Asks asked read ∧ Configures c asked read turns result := by
  intro σ w s
  have asks := says_readNetworkConfig σ w s
  have said := configures c w s
  exact ⟨careful_of_configures asks said, _, _, asks, said⟩

end Zigbee.Host
