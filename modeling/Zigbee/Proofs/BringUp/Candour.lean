import Zigbee.Proofs.BringUp.Completion
import Zigbee.Proofs.Program.Adoption

/-!
# Failures that the radio reports

Most answers of the radio say whether the request has been carried out: by a status, or, for
the parameters that it was started with, by a flag for each one that could not be read. While
the network is brought up almost every step looks at the answer it gets (`Heeds`), and the
call fails with the first that tells of a failure. Two answers are passed over: nobody looks
at the flags, and nobody looks at the status of the answer that tells the radio's own
address, which the host adopts.

`BringsUp` says how a run is put together from these parts. `Candid` is what one would expect
of it, and `candid_iff_unfailing` says when it comes true.
-/

namespace Zigbee.Radio.RequestKind

/-- A request is known by its key. -/
theorem find?_key (kind : RequestKind) : all.find? (·.key == kind.key) = some kind := by
  cases kind <;> rfl

theorem key_injective {kind other : RequestKind} (same : kind.key = other.key) : kind = other := by
  have found := find?_key kind
  rw [same, find?_key other] at found
  exact (Option.some.inj found).symm

theorem eq_of_frame_eq {kind other : RequestKind} {payload content : List UInt8}
    (same : kind.frame payload = other.frame content) : kind = other :=
  key_injective (congrArg (fun f : Serial.Frame => (f.subsystem, f.command)) same)

/-- What the answer to a request says of its success. An endpoint may be registered already, and
the parameters that the radio was started with are flagged one by one if they could not be
read. Answers without a status say nothing. -/
def succeeded : (kind : RequestKind) → kind.answer.Carrier → Bool
  | afRegister, (status, ()) => Status.isSuccess status || decide (status = Status.duplicateEntry)
  | utilGetNvInfo, (((address, channels, panId, security, key, ()), ()), _) =>
    !(address || channels || panId || security || key)
  | zdoStartupFromApp, (status, ()) => status.code != 2
  | sysPing, _ | sysVersion, _ | sysGetExtAddr, _ | sysGetTime, _ | sapiZbStartRequest, _
  | utilTimeAlive, _ => true
  | sysOsalNvRead, (status, _) | sapiZbReadConfiguration, (status, _)
  | utilGetDeviceInfo, (status, _) | sysSetExtAddr, (status, _) | sysOsalNvWrite, (status, _)
  | sysSetTime, (status, _) | afDataRequest, (status, _) | afDataRequestExt, (status, _)
  | zdoNwkAddrReq, (status, _) | zdoIeeeAddrReq, (status, _) | zdoNodeDescReq, (status, _)
  | zdoPowerDescReq, (status, _) | zdoSimpleDescReq, (status, _) | zdoActiveEpReq, (status, _)
  | zdoBindReq, (status, _) | zdoUnbindReq, (status, _) | zdoMgmtLqiReq, (status, _)
  | zdoMgmtRtgReq, (status, _) | zdoMgmtBindReq, (status, _) | zdoMgmtLeaveReq, (status, _)
  | zdoMgmtPermitJoinReq, (status, _) | sapiZbWriteConfiguration, (status, _)
  | sapiZbPermitJoiningRequest, (status, _) | utilSetPanId, (status, _)
  | utilSetChannels, (status, _) | utilSetPreCfgKey, (status, _)
  | utilCallbackSubCmd, (status, _) | utilLedControl, (status, _)
  | appCnfBdbStartCommissioning, (status, _) | appCnfBdbSetChannel, (status, _) =>
    Status.isSuccess status

end Zigbee.Radio.RequestKind

namespace Zigbee.Host

open Network Radio Record Serial Settings Wire

/-- The question for the radio's own address. -/
def deviceQuestion : Frame := RequestKind.utilGetDeviceInfo.frame []

/-! ### Calls that heed every answer -/

namespace Turn

/-- If the radio has answered a request, its answer says success. -/
def Succeeds : Turn → Prop
  | .sent f o => ∀ (kind : RequestKind) (payload : List UInt8), f = kind.frame payload →
    ∀ fields, o.answer kind = .ok fields → kind.succeeded fields = true
  | .awaited _ _ => True

/-- The turn is not the question for the radio's own address. -/
def Foreign : Turn → Prop
  | .sent f _ => f ≠ deviceQuestion
  | .awaited _ _ => True

theorem succeeds_frame_iff {kind : RequestKind} {payload : List UInt8} {o : Outcome} :
    (Turn.sent (kind.frame payload) o).Succeeds ↔
      ∀ fields, o.answer kind = .ok fields → kind.succeeded fields = true := by
  constructor
  · exact fun succeeds => succeeds kind payload rfl
  · intro success other content same
    obtain rfl := RequestKind.eq_of_frame_eq same
    exact success

theorem foreign_frame {kind : RequestKind} (other : kind ≠ .utilGetDeviceInfo)
    (payload : List UInt8) (o : Outcome) : (Turn.sent (kind.frame payload) o).Foreign :=
  fun same => other (RequestKind.eq_of_frame_eq same)

end Turn

/-- The radio has not been asked for its own address, and if the part of the conversation has come
to a good end, every answer in it says success. -/
structure Heeded {α : Type} (turns : List Turn) (result : Except Failure α) : Prop where
  foreign : ∀ turn ∈ turns, turn.Foreign
  succeeds : ∀ a, result = .ok a → ∀ turn ∈ turns, turn.Succeeds

theorem heeded_nothing {α : Type} (result : Except Failure α) : Heeded [] result :=
  ⟨fun _ none => absurd none List.not_mem_nil, fun _ _ _ none => absurd none List.not_mem_nil⟩

/-- Whatever surrounds the call, it heeds the answers that it gets, and it adopts nothing. -/
structure Call.Heeds {α : Type} (c : Call α) : Prop where
  tells : c.Says Heeded
  adopts : c.program.AdoptsNothing

namespace Call

variable {α β : Type} {c : Call α} {f : α → Call β}

theorem Heeds.bind (first : c.Heeds) (rest : ∀ a, (f a).Heeds) : (c >>= f).Heeds where
  tells := by
    refine first.tells.bind (fun turns e heeded => ⟨heeded.foreign, nofun⟩) fun turns a heeded => ?_
    refine (rest a).tells.mono fun more r later => ⟨?_, fun b same => ?_⟩
    · exact List.forall_mem_append.mpr ⟨heeded.foreign, later.foreign⟩
    · exact List.forall_mem_append.mpr ⟨heeded.succeeds a rfl, later.succeeds b same⟩
  adopts := adoptsNothing_bind first.adopts fun a => (rest a).adopts

theorem heeds_check (result : Except Failure α) : (check result).Heeds where
  tells := (says_check result).mono fun _ _ ⟨silent, _⟩ => silent ▸ heeded_nothing _
  adopts := adoptsNothing_check result

theorem heeds_ask {effect : Effect}
    (unheard : ∀ (σ : Type) (w : Surroundings σ) (s : σ), (w.perform s effect).turns = [])
    (idle : effect.adopted = []) : (ask effect).Heeds where
  tells := (says_ask effect unheard).mono fun _ _ ⟨silent, _⟩ => silent ▸ heeded_nothing _
  adopts := adoptsNothing_ask idle

/-- A request whose answer is judged, provided that no failure passes the judgement. -/
theorem heeds_judged {kind : RequestKind} (fields : kind.layout.Carrier)
    {judge : kind.answer.Carrier → Except Failure α} (other : kind ≠ .utilGetDeviceInfo)
    (strict : ∀ answer a, judge answer = .ok a → kind.succeeded answer = true) :
    (request kind fields >>= fun answer => check (judge answer)).Heeds where
  tells := by
    cases written : kind.layout.write fields with
    | error e =>
      have unwritten : frameOf kind fields = .error (.codec e) := by rw [frameOf, written]
      refine (says_request_unwritten unwritten).bind ?_ ?_
      · rintro turns reason ⟨rfl, -⟩
        exact heeded_nothing _
      · rintro turns answer ⟨-, impossible⟩
        cases impossible
    | ok payload =>
      have frame : frameOf kind fields = .ok (kind.frame payload) := by rw [frameOf, written]
      have foreign (o : Outcome) : ∀ turn ∈ [Turn.sent (kind.frame payload) o], turn.Foreign :=
        List.forall_mem_singleton.mpr (Turn.foreign_frame other payload o)
      refine (says_request frame).bind ?_ ?_
      · rintro turns e ⟨o, rfl, -⟩
        exact ⟨foreign o, nofun⟩
      · rintro turns answer ⟨o, rfl, answered⟩
        refine (says_check _).mono ?_
        rintro _ _ ⟨rfl, rfl⟩
        refine ⟨foreign o, fun a passed => List.forall_mem_singleton.mpr ?_⟩
        refine Turn.succeeds_frame_iff.mpr fun fields told => ?_
        obtain rfl := Except.ok.inj (answered.trans told)
        exact strict answer a passed
  adopts := adoptsNothing_bind (adoptsNothing_request kind fields) fun _ => adoptsNothing_check _

/-- A request whose answer says nothing of success. -/
theorem heeds_request {kind : RequestKind} (fields : kind.layout.Carrier)
    (other : kind ≠ .utilGetDeviceInfo) (mute : ∀ answer, kind.succeeded answer = true) :
    (request kind fields).Heeds := by
  have judged : (request kind fields >>= fun answer => check (.ok answer)).Heeds :=
    heeds_judged fields other fun answer _ _ => mute answer
  rwa [show request kind fields >>= (fun answer => check (.ok answer)) = request kind fields from
    bind_pure _] at judged

theorem Heeds.discard (heeds : c.Heeds) : Call.Heeds (discard c) where
  tells := by
    refine heeds.tells.discard.mono ?_
    rintro turns _ ⟨result, heeded, rfl⟩
    refine ⟨heeded.foreign, fun a same => ?_⟩
    cases result with
    | ok b => exact heeded.succeeds b rfl
    | error e => cases same
  adopts := by
    refine Program.AdoptsNothing.bind heeds.adopts ?_
    rintro (e | a) <;> exact Program.adoptsNothing_done _

theorem heeds_forM {γ : Type} {step : γ → Call Unit} (steps : ∀ x, (step x).Heeds)
    (items : List γ) : Call.Heeds (items.forM step) := by
  induction items with
  | nil => exact heeds_check (.ok ())
  | cons x items ih => exact (steps x).bind fun _ => ih

end Call

/-! ### The steps of bringing the network up -/

open Call

theorem heeds_requestChecked {kind : RequestKind} (fields : kind.layout.Carrier)
    {status : kind.answer.Carrier → Status} (other : kind ≠ .utilGetDeviceInfo)
    (judged : ∀ answer, kind.succeeded answer = (status answer).isSuccess) :
    (requestChecked kind fields status).Heeds := by
  refine heeds_judged fields other fun answer _ passed => ?_
  rw [judged]
  exact beq_iff_eq.mpr (checkStatus_eq_ok_iff.mp passed)

theorem heeds_reset (timeouts : Timeouts) : (reset timeouts).Heeds where
  tells := by
    refine (says_reset timeouts).mono fun turns result resets => ?_
    obtain ⟨count, -, frames⟩ := resets.frames
    have order {f : Frame} {o : Outcome} (member : .sent f o ∈ turns) {kind : RequestKind}
        {payload : List UInt8} : f ≠ kind.frame payload := by
      have sent : f ∈ framesOf turns := mem_framesOf member
      rw [frames] at sent
      rw [List.eq_of_mem_replicate sent]
      exact fun same => nomatch congrArg Frame.type same
    refine ⟨fun turn member => ?_, fun _ _ turn member => ?_⟩
    · cases turn with
      | sent f o => exact order member
      | awaited => trivial
    · cases turn with
      | sent f o => exact fun _ _ same => absurd same (order member)
      | awaited => trivial
  adopts := adoptsNothing_sendAndWait _ _ (Program.adoptsNothing_ofEffect rfl)

theorem heeds_setTime : setTime.Heeds :=
  (heeds_ask (fun _ _ _ => rfl) rfl).bind fun _ =>
    heeds_requestChecked _ (by decide) fun _ => rfl

theorem heeds_setLed (on : Bool) : (setLed on).Heeds :=
  heeds_requestChecked _ (by decide) fun _ => rfl

theorem heeds_permitJoin (enabled : Bool) : (permitJoin enabled).Heeds :=
  (heeds_ask (fun _ _ _ => rfl) rfl).bind fun _ =>
    heeds_requestChecked _ (by decide) fun _ => rfl

/-- How the answer to a registration is judged. -/
def judgeRegistration : RequestKind.afRegister.answer.Carrier → Except Failure Unit
  | (status, ()) =>
    if status = Status.duplicateEntry then .ok () else Failure.checkStatus status

theorem registerEndpoint_eq (endpoint : BitVec 8) (profile : BitVec 16) :
    registerEndpoint endpoint profile =
      Call.request .afRegister
        (endpoint, profile, applicationDeviceId, 1, ⟨0, by decide⟩, [], [], ()) >>=
        fun answer => Call.check (judgeRegistration answer) := by
  refine congrArg (Call.request .afRegister _ >>= ·) (funext fun (status, ()) => ?_)
  by_cases duplicate : status = Status.duplicateEntry
  · exact (if_pos duplicate).trans (congrArg Call.check (if_pos duplicate).symm)
  · exact (if_neg duplicate).trans (congrArg Call.check (if_neg duplicate).symm)

theorem succeeded_of_judgeRegistration {answer : RequestKind.afRegister.answer.Carrier}
    (passed : judgeRegistration answer = .ok ()) :
    RequestKind.afRegister.succeeded answer = true := by
  obtain ⟨status, ⟨⟩⟩ := answer
  by_cases duplicate : status = Status.duplicateEntry
  · exact Bool.or_eq_true_iff.mpr (.inr (decide_eq_true duplicate))
  · have checked := (if_neg duplicate).symm.trans passed
    exact Bool.or_eq_true_iff.mpr (.inl (beq_iff_eq.mpr (checkStatus_eq_ok_iff.mp checked)))

theorem heeds_registerEndpoint (endpoint : BitVec 8) (profile : BitVec 16) :
    (registerEndpoint endpoint profile).Heeds := by
  rw [registerEndpoint_eq]
  exact heeds_judged _ (by decide) fun _ _ => succeeded_of_judgeRegistration

theorem heeds_writeConfiguration (id : BitVec 8) (value : List UInt8) :
    (writeConfiguration id value).Heeds :=
  heeds_requestChecked _ (by decide) fun _ => rfl

theorem heeds_writeMemory (item : MemoryItem) (fields : item.layout.Carrier) :
    (writeMemory item fields).Heeds :=
  (heeds_check _).bind fun _ => heeds_requestChecked _ (by decide) fun _ => rfl

theorem heeds_flash (desired : NetworkConfiguration) : (flash desired).Heeds := by
  refine (heeds_requestChecked _ (by decide) fun _ => rfl).bind fun _ => ?_
  refine (heeds_writeConfiguration _ _).bind fun _ => ?_
  refine (heeds_requestChecked _ (by decide) fun _ => rfl).bind fun _ => ?_
  refine (heeds_writeMemory _ _).bind fun _ => ?_
  refine (heeds_writeConfiguration _ _).bind fun _ => ?_
  refine (heeds_writeConfiguration _ _).bind fun _ => ?_
  refine (heeds_requestChecked _ (by decide) fun _ => rfl).bind fun _ => ?_
  cases Channels.single? desired.channel with
  | some mask => exact heeds_requestChecked _ (by decide) fun _ => rfl
  | none => exact heeds_check (.error _)

/-! ### The parts of bringing the network up -/

/-- What comes before the questions for the parameters. -/
def greet (c : Config) : Call Unit := do
  discard (reset c.timeouts)
  setTime
  discard (Call.request .sysVersion ())

/-- What is done about the parameters that the radio has. -/
def agree (c : Config) (actual : NetworkConfiguration) : Call Unit := do
  let differences := c.network.diff actual
  if differences.isEmpty then return
  unless c.settingsFlash do throw (.configMismatch differences)
  flash c.network
  discard (reset c.timeouts)

/-- What comes between the parameters and the question for the radio's own address. -/
def launch (subsystems : callbackSubsystems.Member) (action : switchActions.Member) :
    Call Unit := do
  requestChecked .utilCallbackSubCmd (subsystems, action, ()) (·.1)
  discard (Call.request .sapiZbStartRequest ())

/-- What comes after that address has been adopted. -/
def serve (c : Config) : Call Unit := do
  setLed c.led
  (profiles.zipIdx 1).forM fun (profile, n) => registerEndpoint (BitVec.ofNat 8 n) profile
  permitJoin c.permitJoin

theorem bringUp_eq (c : Config) : bringUp c =
    greet c >>= fun _ => readNetworkConfig >>= fun actual =>
      (agree c actual >>= fun _ => launch ⟨0xffff, by decide⟩ ⟨1, by decide⟩) >>= fun _ =>
      Call.request .utilGetDeviceInfo () >>= fun info =>
        Call.ask (.adoptAddress info.2.2.1) >>= fun _ => serve c := by
  have configures : configureAndReset c = readNetworkConfig >>= agree c := rfl
  simp only [bringUp, configures, greet, launch, serve, bind_assoc]
  rfl

theorem heeds_greet (c : Config) : (greet c).Heeds :=
  (heeds_reset c.timeouts).discard.bind fun _ => heeds_setTime.bind fun _ =>
    (heeds_request _ (by decide) fun _ => rfl).discard

theorem heeds_agree (c : Config) (actual : NetworkConfiguration) : (agree c actual).Heeds := by
  unfold agree
  dsimp only
  split
  · exact heeds_check (.ok ())
  · split
    · exact (heeds_flash c.network).bind fun _ => (heeds_reset c.timeouts).discard
    · exact Heeds.bind (heeds_check (.error _)) fun _ =>
        (heeds_flash c.network).bind fun _ => (heeds_reset c.timeouts).discard

theorem heeds_launch (subsystems : callbackSubsystems.Member) (action : switchActions.Member) :
    (launch subsystems action).Heeds :=
  (heeds_requestChecked _ (by decide) fun _ => rfl).bind fun _ =>
    (heeds_request _ (by decide) fun _ => rfl).discard

theorem heeds_serve (c : Config) : (serve c).Heeds :=
  (heeds_setLed c.led).bind fun _ =>
    (heeds_forM (fun _ => heeds_registerEndpoint _ _) _).bind fun _ => heeds_permitJoin c.permitJoin

theorem adoptsNothing_readNetworkConfig : readNetworkConfig.program.AdoptsNothing := by
  refine adoptsNothing_bind (adoptsNothing_request _ _) fun info => ?_
  refine adoptsNothing_bind ?_ fun memory => ?_
  · refine adoptsNothing_bind (adoptsNothing_request _ _) fun answer => ?_
    exact adoptsNothing_bind (adoptsNothing_check _) fun _ => adoptsNothing_check _
  · obtain ⟨extPanId, ⟨⟩⟩ := memory
    cases Channels.only? info.2.2.1 with
    | some channel => exact adoptsNothing_check (.ok _)
    | none => exact adoptsNothing_check (.error _)

/-- What can be heard when the network is brought up, which address is adopted, and how it ends.
The greeting, what is done about the parameters, and what comes last heed every answer. -/
inductive BringsUp : List Turn → List String → Except Failure Unit → Prop where
  | ungreeted {greeting : List Turn} {e : Failure}
      (greets : Heeded greeting (.error e : Except Failure Unit)) :
      BringsUp greeting [] (.error e)
  | unread {greeting asked : List Turn} {e : Failure}
      (greets : Heeded greeting (.ok () : Except Failure Unit)) (asks : Asks asked (.error e)) :
      BringsUp (greeting ++ asked) [] (.error e)
  | unsettled {greeting asked settling : List Turn} {actual : NetworkConfiguration} {e : Failure}
      (greets : Heeded greeting (.ok () : Except Failure Unit)) (asks : Asks asked (.ok actual))
      (settles : Heeded settling (.error e : Except Failure Unit)) :
      BringsUp (greeting ++ (asked ++ settling)) [] (.error e)
  | uninformed {greeting asked settling : List Turn} {actual : NetworkConfiguration} {o : Outcome}
      {e : Failure}
      (greets : Heeded greeting (.ok () : Except Failure Unit)) (asks : Asks asked (.ok actual))
      (settles : Heeded settling (.ok () : Except Failure Unit))
      (untold : o.answer .utilGetDeviceInfo = .error e) :
      BringsUp (greeting ++ (asked ++ (settling ++ [.sent deviceQuestion o]))) [] (.error e)
  | informed {greeting asked settling serving : List Turn} {actual : NetworkConfiguration}
      {o : Outcome} {info : RequestKind.utilGetDeviceInfo.answer.Carrier}
      {result : Except Failure Unit}
      (greets : Heeded greeting (.ok () : Except Failure Unit)) (asks : Asks asked (.ok actual))
      (settles : Heeded settling (.ok () : Except Failure Unit))
      (told : o.answer .utilGetDeviceInfo = .ok info) (serves : Heeded serving result) :
      BringsUp (greeting ++ (asked ++ (settling ++ .sent deviceQuestion o :: serving)))
        [info.2.2.1] result

theorem bringsUp (c : Config) : (bringUp c).Runs BringsUp := by
  rw [bringUp_eq]
  have greet := (heeds_greet c).tells.runs (heeds_greet c).adopts
  refine greet.bind ?_ ?_
  · rintro greeting _ e ⟨rfl, greets⟩
    exact .ungreeted greets
  rintro greeting _ ⟨⟩ ⟨rfl, greets⟩
  have read := says_readNetworkConfig.runs adoptsNothing_readNetworkConfig
  refine read.bind ?_ ?_
  · rintro asked _ e ⟨rfl, asks⟩
    exact .unread greets asks
  rintro asked _ actual ⟨rfl, asks⟩
  have settle {subsystems action} :=
    (heeds_agree c actual).bind fun _ => heeds_launch subsystems action
  refine (settle.tells.runs settle.adopts).bind ?_ ?_
  · rintro settling _ e ⟨rfl, settles⟩
    exact .unsettled greets asks settles
  rintro settling _ ⟨⟩ ⟨rfl, settles⟩
  have ask := (says_request (rfl : frameOf .utilGetDeviceInfo () = .ok deviceQuestion)).runs
    (adoptsNothing_request .utilGetDeviceInfo ())
  refine ask.bind ?_ ?_
  · rintro _ _ e ⟨rfl, o, rfl, untold⟩
    exact .uninformed greets asks settles untold.symm
  rintro _ _ info ⟨rfl, o, rfl, told⟩
  refine (runs_adopt info.2.2.1).bind ?_ ?_
  · rintro _ _ e ⟨-, -, impossible⟩
    cases impossible
  rintro _ _ ⟨⟩ ⟨rfl, rfl, -⟩
  refine ((heeds_serve c).tells.runs (heeds_serve c).adopts).mono ?_
  rintro serving _ result ⟨rfl, serves⟩
  exact .informed greets asks settles told.symm serves

/-! ### Candour -/

/-- The parameters of the network are compared with those that the two answers tell. -/
structure Compares (turns : List Turn) (info memory : Outcome) : Prop where
  asked : .sent infoQuestion info ∈ turns
  recalled : .sent memoryQuestion memory ∈ turns
  told : (reported info memory).isOk = true

/-- No flag is set for the address, the channels, the number of the network or the key: what is
compared of the answer could be read. -/
def ReadsCompared (info : Outcome) : Prop :=
  ∀ address channels panId security key rest,
    info.answer .utilGetNvInfo = .ok (((address, channels, panId, security, key, ()), ()), rest) →
    address = false ∧ channels = false ∧ panId = false ∧ key = false

/-- The flag is not set for the security level. -/
def ReadsSecurity (info : Outcome) : Prop :=
  ∀ address channels panId security key rest,
    info.answer .utilGetNvInfo = .ok (((address, channels, panId, security, key, ()), ()), rest) →
    security = false

/-- Bringing the network up passes over no failure that the radio reports. -/
structure Candid (turns : List Turn) (addresses : List String) (result : Except Failure Unit) :
    Prop where
  /-- It only succeeds if every answer says success. -/
  succeeds : result = .ok () → ∀ turn ∈ turns, turn.Succeeds
  /-- What could not be read is not compared with the settings. -/
  compares : ∀ info memory, Compares turns info memory → ReadsCompared info
  /-- The address of an answer that tells of a failure is not adopted. -/
  adopts : ∀ o info, .sent deviceQuestion o ∈ turns → o.answer .utilGetDeviceInfo = .ok info →
    RequestKind.utilGetDeviceInfo.succeeded info = false → info.2.2.1 ∉ addresses

/-- The two answers that are passed over tell of no failure that matters. The flag for the security
level only matters where the call succeeds, since the level is compared with nothing. -/
structure Unfailing (turns : List Turn) (result : Except Failure Unit) : Prop where
  compared : ∀ info memory, Compares turns info memory → ReadsCompared info
  security : result = .ok () → ∀ info, .sent infoQuestion info ∈ turns → ReadsSecurity info
  device : ∀ o info, .sent deviceQuestion o ∈ turns → o.answer .utilGetDeviceInfo = .ok info →
    RequestKind.utilGetDeviceInfo.succeeded info = true

/-! ### How the parts fit together -/

section Parts

variable {turns asked : List Turn} {addresses : List String} {result : Except Failure Unit}
variable {info memory o : Outcome} {actual : NetworkConfiguration}

theorem succeeds_info_iff :
    (Turn.sent infoQuestion info).Succeeds ↔ ReadsCompared info ∧ ReadsSecurity info := by
  refine Turn.succeeds_frame_iff.trans ⟨fun clear => ?_, fun ⟨compared, level⟩ => ?_⟩
  · have flags {address channels panId security key : Bool} {rest}
        (told : info.answer .utilGetNvInfo =
          .ok (((address, channels, panId, security, key, ()), ()), rest)) :
        (address || channels || panId || security || key) = false :=
      Bool.not_eq_true' _ ▸ clear _ told
    constructor
    · intro address channels panId security key rest told
      have none := flags told
      simp only [Bool.or_eq_false_iff] at none
      exact ⟨none.1.1.1.1, none.1.1.1.2, none.1.1.2, none.2⟩
    · intro address channels panId security key rest told
      have none := flags told
      simp only [Bool.or_eq_false_iff] at none
      exact none.1.2
  · rintro ⟨⟨⟨address, channels, panId, security, key, ⟨⟩⟩, ⟨⟩⟩, rest⟩ told
    obtain ⟨rfl, rfl, rfl, rfl⟩ := compared _ _ _ _ _ _ told
    obtain rfl := level _ _ _ _ _ _ told
    rfl

theorem succeeds_memory (told : reported info memory = .ok actual) :
    (Turn.sent memoryQuestion memory).Succeeds := by
  obtain ⟨⟨_, _, _, _, _, _, ⟨⟩⟩, -, read⟩ := bind_eq_ok.mp told
  change (recalled .extPanId memory >>= _) = _ at read
  obtain ⟨_, recalls, _⟩ := bind_eq_ok.mp read
  obtain ⟨⟨status, value, ⟨⟩⟩, answered, judged⟩ := bind_eq_ok.mp recalls
  obtain ⟨_, checked, _⟩ := bind_eq_ok.mp judged
  refine Turn.succeeds_frame_iff.mpr fun fields same => ?_
  obtain rfl := Except.ok.inj (answered.symm.trans same)
  exact beq_iff_eq.mpr (checkStatus_eq_ok_iff.mp checked)

theorem Asks.eq_of_ok (asks : Asks asked (.ok actual)) : ∃ info memory,
    asked = [.sent infoQuestion info, .sent memoryQuestion memory] ∧
      reported info memory = .ok actual := by
  generalize known : (.ok actual : Except Failure NetworkConfiguration) = read at asks
  cases asks with
  | unanswered => cases known
  | answered => exact ⟨_, _, rfl, rfl⟩

theorem Asks.device_not_mem {read : Except Failure NetworkConfiguration} (asks : Asks asked read) :
    .sent deviceQuestion o ∉ asked := by
  have other : deviceQuestion ∉ framesOf asked := fun member =>
    absurd (asks.frames_subset member) (by decide)
  exact fun member => other (mem_framesOf member)

theorem Heeded.device_not_mem {α : Type} {r : Except Failure α} (heeded : Heeded turns r) :
    .sent deviceQuestion o ∉ turns :=
  fun member => heeded.foreign _ member rfl

namespace BringsUp

/-- The address is adopted that the radio tells, whatever it tells of its success. -/
theorem adopted (run : BringsUp turns addresses result) (asked : .sent deviceQuestion o ∈ turns)
    {info : RequestKind.utilGetDeviceInfo.answer.Carrier}
    (told : o.answer .utilGetDeviceInfo = .ok info) : info.2.2.1 ∈ addresses := by
  cases run with
  | ungreeted greets => exact absurd asked greets.device_not_mem
  | unread greets asks =>
    simp only [List.mem_append, greets.device_not_mem, asks.device_not_mem, or_false] at asked
  | unsettled greets asks settles =>
    simp only [List.mem_append, greets.device_not_mem, asks.device_not_mem,
      settles.device_not_mem, or_false] at asked
  | uninformed greets asks settles untold =>
    simp only [List.mem_append, greets.device_not_mem, asks.device_not_mem,
      settles.device_not_mem, false_or, List.mem_singleton, Turn.sent.injEq, true_and] at asked
    rw [asked, untold] at told
    cases told
  | informed greets asks settles known serves =>
    simp only [List.mem_append, List.mem_cons, greets.device_not_mem, asks.device_not_mem,
      settles.device_not_mem, serves.device_not_mem, false_or, or_false, Turn.sent.injEq,
      true_and] at asked
    rw [asked, known] at told
    obtain rfl := Except.ok.inj told
    exact List.mem_singleton_self _

/-- If the call succeeds, all answers say success but perhaps two. -/
theorem succeeds_or (run : BringsUp turns addresses (.ok ())) : ∃ info memory o,
    Compares turns info memory ∧ .sent deviceQuestion o ∈ turns ∧ ∀ turn ∈ turns,
      turn.Succeeds ∨ turn = .sent infoQuestion info ∨ turn = .sent deviceQuestion o := by
  generalize ended : (.ok () : Except Failure Unit) = result at run
  cases run with
  | ungreeted | unread | unsettled | uninformed => cases ended
  | @informed _ _ _ _ _ o _ _ greets asks settles known serves =>
    obtain ⟨info, memory, rfl, told⟩ := asks.eq_of_ok
    refine ⟨info, memory, o, ⟨?_, ?_, by rw [told]; rfl⟩, ?_, fun turn member => ?_⟩
    · simp
    · simp
    · simp
    · simp only [List.mem_append, List.mem_cons, List.not_mem_nil, or_false] at member
      obtain early | (rfl | rfl) | middle | rfl | late := member
      · exact .inl (greets.succeeds () rfl turn early)
      · exact .inr (.inl rfl)
      · exact .inl (succeeds_memory told)
      · exact .inl (settles.succeeds () rfl turn middle)
      · exact .inr (.inr rfl)
      · exact .inl (serves.succeeds () ended.symm turn late)

end BringsUp

end Parts

/-- Bringing the network up passes over no failure exactly if the two answers that nobody looks at
tell of none: whatever else the radio reports to have failed is heeded. -/
theorem candid_iff_unfailing (c : Config) {σ : Type} (w : Surroundings σ) (s : σ) :
    Candid ((bringUp c).converse w s).turns ((bringUp c).program.adopted w s)
        ((bringUp c).converse w s).result ↔
      Unfailing ((bringUp c).converse w s).turns ((bringUp c).converse w s).result := by
  have run := bringsUp c σ w s
  constructor
  · intro candid
    refine ⟨candid.compares, fun ended info asked => ?_, fun o info asked told => ?_⟩
    · exact (succeeds_info_iff.mp (candid.succeeds ended _ asked)).2
    · refine eq_true_of_ne_false fun failed => ?_
      exact candid.adopts o info asked told failed (run.adopted asked told)
  · intro unfailing
    refine ⟨fun ended turn member => ?_, unfailing.compared, fun o info asked told failed => ?_⟩
    · rw [ended] at run
      obtain ⟨info, memory, o, compares, asked, others⟩ := run.succeeds_or
      obtain succeeds | rfl | rfl := others turn member
      · exact succeeds
      · exact succeeds_info_iff.mpr
          ⟨unfailing.compared info memory compares, unfailing.security ended info compares.asked⟩
      · exact Turn.succeeds_frame_iff.mpr fun fields told => unfailing.device o fields asked told
    · rw [unfailing.device o info asked told] at failed
      cases failed

/-! ### Radios that tell their own address -/

namespace Memory

/-- A radio that holds the parameters, and answers the question for its own address as given. It
knows the address that the host has adopted. -/
def station (m : Memory) (device : List UInt8) : Surroundings String where
  outcome address f :=
    (if f.type = .asyncRequest then .accepted
      else .answered ⟨.syncResponse, f.subsystem, f.command,
        if f = deviceQuestion then device
        else if f = RequestKind.sysVersion.frame [] then [2, 1, 2, 7, 1] else m.reply f⟩, address)
  answer address
    | .adoptAddress adopted => ((), adopted)
    | .networkAddress => (address, address)
    | effect => (quiet effect, address)

variable {α : Type} {m : Memory} {device : List UInt8} {p : Program α} {address : String}
variable {o : Outcome}

theorem outcome_station {f : Frame}
    (member : .sent f o ∈ (p.converse (m.station device) address).turns) :
    o = ((m.station device).outcome "" f).1 := by
  refine p.forall_turns (P := fun turn => ∀ f o, turn = .sent f o →
    o = ((m.station device).outcome "" f).1) ?_ ?_ address _ member f o rfl
  · rintro s f _ _ ⟨⟩
    rfl
  · rintro s waiter kind milliseconds f o ⟨⟩

/-- The radio flags none of its parameters. -/
theorem succeeds_info_station
    (member : .sent infoQuestion o ∈ (p.converse (m.station device) address).turns) :
    ReadsCompared o ∧ ReadsSecurity o := by
  obtain rfl := outcome_station member
  have informs : (Frame.mk .syncResponse .util 0x01 (m.info 5)).payload = m.info 5 := rfl
  have told := answer_info informs
  constructor
  · intro _ _ _ _ _ _ same
    cases told.symm.trans same
    exact ⟨rfl, rfl, rfl, rfl⟩
  · intro _ _ _ _ _ _ same
    cases told.symm.trans same
    rfl

end Memory

/-- A radio with the parameters of the sample, which tells its own address with a status. -/
def sampleStation (status : UInt8) : Surroundings String :=
  let network := (sampleConfig "0x00124b0001020304").network
  Memory.station
    ⟨0x00124b0001020304, 1#32 <<< 11, network.panId, network.extPanId, network.networkKey⟩
    [status, 4, 3, 2, 1, 0, 0x4b, 0x12, 0, 0xfe, 0xff, 1, 9, 0]

/-- A radio that reports no failure is brought up with candour. -/
theorem candid_sampleStation :
    let c := sampleConfig "0x00124b0001020304"
    let run := (bringUp c).converse (sampleStation 0) ""
    run.result.isOk = true ∧ (bringUp c).program.adopted (sampleStation 0) "" = ["0xfffe"] ∧
      Candid run.turns ((bringUp c).program.adopted (sampleStation 0) "") run.result := by
  intro c run
  have known : ((sampleStation 0).outcome "" deviceQuestion).1.answer .utilGetDeviceInfo =
      .ok (Status.success, "0x00124b0001020304", "0xfffe", 1, ⟨9, by decide⟩, [], ()) := by rfl
  refine ⟨by decide +kernel, by decide +kernel, (candid_iff_unfailing c _ _).mpr ?_⟩
  refine ⟨fun info memory compares => (Memory.succeeds_info_station compares.asked).1,
    fun _ info asked => (Memory.succeeds_info_station asked).2, fun o info asked told => ?_⟩
  obtain rfl := Memory.outcome_station asked
  cases known.symm.trans told
  rfl

/-- A radio says that it could not tell its own address. The address in its answer is adopted
nevertheless, and the call succeeds. -/
theorem uncandid_sampleStation :
    let c := sampleConfig "0x00124b0001020304"
    let run := (bringUp c).converse (sampleStation 1) ""
    run.result = .ok () ∧ (bringUp c).program.adopted (sampleStation 1) "" = ["0xfffe"] ∧
      ¬Candid run.turns ((bringUp c).program.adopted (sampleStation 1) "") run.result := by
  intro c run
  have ended : run.result = .ok () := by
    have succeeded : run.result.isOk = true := by decide +kernel
    cases result : run.result with
    | ok => rfl
    | error e => rw [result] at succeeded; cases succeeded
  have known : ((sampleStation 1).outcome "" deviceQuestion).1.answer .utilGetDeviceInfo =
      .ok (⟨1, by decide⟩, "0x00124b0001020304", "0xfffe", 1, ⟨9, by decide⟩, [], ()) := by rfl
  refine ⟨ended, by decide +kernel, fun candid => ?_⟩
  have heard := bringsUp c String (sampleStation 1) ""
  rw [ended] at heard
  obtain ⟨_, _, o, -, asked, -⟩ := heard.succeeds_or
  obtain rfl := Memory.outcome_station asked
  cases Turn.succeeds_frame_iff.mp (candid.succeeds ended _ asked) _ known

end Zigbee.Host
