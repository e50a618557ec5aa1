import Zigbee.Host.Commands
import Zigbee.Proofs.Waiters.Vigil

/-!
# Which message completes a command

A command to a device is completed by a message that comes from the device and carries the
number of the request. Devices number what they send on their own account too, so a report
or any other command of the device may carry that number by coincidence, and then it is
taken for the reply: nothing looks at its cluster or at its command before the call has let
go of its waiter. So the message that completes a call is a reply to its request exactly if
no such message has come ahead of the reply since the waiter was registered.
-/

/-! ### Replies -/

namespace Zigbee.Cluster

/-- The command with which a device answers a command of all clusters. -/
def GlobalKind.response? : GlobalKind → Option GlobalKind
  | readAttributes => some readAttributesResponse
  | writeAttributes | writeAttributesUndivided => some writeAttributesResponse
  | configureReporting => some configureReportingResponse
  | readReportingConfiguration => some readReportingConfigurationResponse
  | discoverAttributes => some discoverAttributesResponse
  | readAttributesStructured => some readAttributesResponse
  | writeAttributesStructured => some writeAttributesStructuredResponse
  | discoverCommandsReceived => some discoverCommandsReceivedResponse
  | discoverCommandsGenerated => some discoverCommandsGeneratedResponse
  | discoverAttributesExtended => some discoverAttributesExtendedResponse
  | _ => none

/-- The command with which a device answers a command of a single cluster. -/
def LocalKind.response? : LocalKind → Option LocalKind
  | identifyQuery => some identifyQueryResponse
  | _ => none

/-- Whether the second command answers the first: it is the response that the first is paired
with, or a default response that names the first. -/
inductive Command.Answers (request : Command) : Command → Prop where
  | general {asked : GlobalCommand} {answer : GlobalCommand} (same : request = .general asked)
      (paired : asked.kind.response? = some answer.kind) : Answers request (.general answer)
  | specific {asked : LocalCommand} {answer : LocalCommand} (same : request = .specific asked)
      (paired : asked.kind.response? = some answer.kind) : Answers request (.specific answer)
  | default (status : Attribute.Status) :
      Answers request (.general ⟨.defaultResponse, (request.id.toBitVec, status, ())⟩)

end Zigbee.Cluster

namespace Zigbee.Host

open Cluster Radio Settings Wire

/-- A request of the cluster library. -/
inductive Errand where
  | perform (target : Target) (command : LocalCommand)
  | read (address : String) (cluster : BitVec 16) (ids : List (BitVec 16))
  | write (address : String) (cluster : BitVec 16)
      (fields : GlobalKind.writeAttributes.layout.Carrier)
  | configure (address : String) (cluster : BitVec 16)
      (fields : GlobalKind.configureReporting.layout.Carrier)

/-- The number that is read from a frame is that of its header. -/
theorem sequenceNumber?_of_decode {cluster : BitVec 16} {bytes : List UInt8}
    {frame : Cluster.Frame} (read : Cluster.Frame.decode cluster bytes = .ok frame) :
    sequenceNumber? bytes = some frame.sequenceNumber := by
  obtain ⟨raw, decoded, read⟩ := bind_eq_ok.mp read
  obtain ⟨command, -, read⟩ := bind_eq_ok.mp read
  rw [sequenceNumber?, mapError_eq_ok.mp decoded, ← Except.ok.inj read]
  rfl

namespace Errand

/-- What the call gives. -/
@[reducible] def Result : Errand → Type
  | perform _ _ => Unit
  | read _ _ _ => GlobalKind.readAttributesResponse.layout.Carrier
  | write _ _ _ => GlobalKind.writeAttributesResponse.layout.Carrier
  | configure _ _ _ => Unit

/-- The call. -/
def call (timeouts : Timeouts) : (errand : Errand) → Call errand.Result
  | perform target command => localCommand timeouts target command
  | read address cluster ids => readAttributes timeouts address cluster ids
  | write address cluster fields => writeAttributes timeouts address cluster fields
  | configure address cluster fields => configureReporting timeouts address cluster fields

/-- The device. -/
def address : Errand → String
  | perform target _ => target.networkAddress
  | read address _ _ | write address _ _ | configure address _ _ => address

/-- The endpoint of the device. -/
def endpoint : Errand → BitVec 8
  | perform target _ => target.endpointId
  | _ => everyEndpoint

/-- The cluster. -/
def cluster : Errand → BitVec 16
  | perform _ command => command.kind.clusterCode
  | read _ cluster _ | write _ cluster _ | configure _ cluster _ => cluster

/-- The command. -/
def command : Errand → Command
  | perform _ command => .specific command
  | read _ _ ids => .general ⟨.readAttributes, (ids, ())⟩
  | write _ _ fields => .general ⟨.writeAttributes, fields⟩
  | configure _ _ fields => .general ⟨.configureReporting, fields⟩

/-- The frame. -/
def builder : Errand → FrameBuilder
  | perform _ command => (FrameBuilder.specific command).set (.disableDefaultResponse false)
  | read _ _ ids =>
    (FrameBuilder.general ⟨.readAttributes, (ids, ())⟩).set (.disableDefaultResponse true)
  | write _ _ fields =>
    (FrameBuilder.general ⟨.writeAttributes, fields⟩).set (.disableDefaultResponse true)
  | configure _ _ fields =>
    (FrameBuilder.general ⟨.configureReporting, fields⟩).set (.disableDefaultResponse true)

variable (errand : Errand) (number : UInt8)

/-- What is sent to the device. -/
def message (data : List UInt8) : RequestKind.afDataRequest.layout.Carrier :=
  (errand.address, errand.endpoint, sourceEndpoint, errand.cluster, number.toBitVec, 0, radius,
    data, ())

/-- What the call waits for. -/
def pattern : Pattern := ⟨.afIncomingMessage, isReply errand.address number.toBitVec⟩

/-- Whether the message replies to the request: it comes from the device, belongs to the
cluster, and its frame has the number and a command that answers that of the request. -/
structure IsReply (m : IncomingMessage) : Prop where
  source : m.source = errand.address
  cluster : m.clusterId = errand.cluster
  answers : ∃ frame, Frame.decode m.clusterId m.data = .ok frame ∧
    frame.sequenceNumber = number ∧ errand.command.Answers frame.command

/-- Whether the message has what the call looks at: it comes from the device and carries the
number. -/
structure Coincides (m : IncomingMessage) : Prop where
  source : m.source = errand.address
  number : sequenceNumber? m.data = some number

end Errand

/-- The indication that delivers a message. -/
def delivery (m : IncomingMessage) : Indication := ⟨.afIncomingMessage, m.toFields⟩

namespace Errand

variable {errand : Errand} {number : UInt8} {m : IncomingMessage}

/-- Whether a message of the device that carries the number and is no reply has come ahead of
every reply. -/
def Overtaken (errand : Errand) (number : UInt8) (events : List Waiters.Event) : Prop :=
  ∃ earlier m later, events = earlier ++ .dispatch (delivery m) :: later ∧
    errand.Coincides number m ∧ ¬ errand.IsReply number m ∧
    ∀ reply, .dispatch (delivery reply) ∈ earlier → ¬ errand.IsReply number reply

/-- A reply has what the call looks at. -/
theorem IsReply.coincides (h : errand.IsReply number m) : errand.Coincides number m where
  source := h.source
  number := by
    obtain ⟨frame, read, rfl, -⟩ := h.answers
    exact sequenceNumber?_of_decode read

theorem isReply_iff : isReply errand.address number.toBitVec m.toFields = true ↔
    errand.Coincides number m := by
  unfold isReply
  simp only [IncomingMessage.ofFields_toFields, Bool.and_eq_true, beq_iff_eq]
  exact ⟨fun ⟨source, carried⟩ => ⟨source, carried⟩, fun ⟨source, carried⟩ => ⟨source, carried⟩⟩

/-- The call takes the messages that have what it looks at, and nothing else. -/
theorem admits_iff {i : Indication} : (errand.pattern number).Admits i ↔
    ∃ m, i = delivery m ∧ errand.Coincides number m := by
  constructor
  · obtain ⟨kind, fields⟩ := i
    rintro ⟨same, accepted⟩
    obtain rfl : kind = .afIncomingMessage := same
    exact ⟨.ofFields fields, rfl, isReply_iff.mp accepted⟩
  · rintro ⟨m, rfl, coincides⟩
    exact ⟨rfl, isReply_iff.mpr coincides⟩

/-! ### What a call awaits -/

/-- What has been done when a message is awaited: the request has been numbered, the waiter has
been registered with that number, and the radio has taken the request that carries it. -/
structure Asked (errand : Errand) (number : UInt8) (waiter : Nat) (deeds : List Deed) : Prop where
  numbered : ∃ data, ⟨.encode errand.builder, .ok (number, data)⟩ ∈ deeds ∧
    ∃ answer, ⟨.request .afDataRequest (errand.message number data), .ok answer⟩ ∈ deeds ∧
      Status.isSuccess answer.1 = true
  registered : ⟨.register (errand.pattern number), waiter⟩ ∈ deeds

theorem Asked.append {waiter : Nat} {deeds : List Deed} (h : errand.Asked number waiter deeds)
    (deed : Deed) : errand.Asked number waiter (deeds ++ [deed]) := by
  obtain ⟨⟨data, numbered, answer, sent, accepted⟩, registered⟩ := h
  exact ⟨⟨data, List.mem_append_left _ numbered, answer, List.mem_append_left _ sent, accepted⟩,
    List.mem_append_left _ registered⟩

/-- The only messages that are awaited are those that the request asks for. -/
def Awaits (errand : Errand) (deeds : List Deed) (effect : Effect) : Prop :=
  ∀ waiter limit, effect = .await waiter .afIncomingMessage limit →
    ∃ number, errand.Asked number waiter deeds

variable {deeds : List Deed} {timeouts : Timeouts}

theorem isSuccess_of_checkStatus {status : Status}
    (accepted : Failure.checkStatus status = .ok ()) : status.isSuccess = true := by
  unfold Failure.checkStatus at accepted
  split at accepted
  · assumption
  · cases accepted

theorem keeps_requestChecked {number : UInt8} {data : List UInt8} {past : List Deed} :
    (requestChecked .afDataRequest (errand.message number data) (·.1)).Keeps errand.Awaits
      (fun deeds result => past ⊆ deeds ∧ (result = .ok () → ∃ answer,
        ⟨.request .afDataRequest (errand.message number data), .ok answer⟩ ∈ deeds ∧
        Status.isSuccess answer.1 = true)) past := by
  refine Call.Keeps.bind (Call.Keeps.request (R := fun deeds result =>
    deeds = past ++ [⟨.request .afDataRequest (errand.message number data), result⟩]) nofun
    fun _ => rfl) ?_ ?_
  · rintro _ e rfl
    exact ⟨List.subset_append_left .., nofun⟩
  · rintro _ answer rfl
    refine Call.Keeps.check ⟨List.subset_append_left .., fun accepted => ⟨answer, ?_, ?_⟩⟩
    · exact List.mem_append_right _ List.mem_cons_self
    · exact isSuccess_of_checkStatus accepted

/-- An attempt awaits a message only after the radio has taken the request. -/
theorem keeps_dataRequest {number : UInt8} {data : List UInt8}
    (numbered : ⟨.encode errand.builder, .ok (number, data)⟩ ∈ deeds) :
    (dataRequest timeouts (errand.message number data)).Keeps errand.Awaits (fun _ _ => True)
      deeds := by
  let ready (deeds : List Deed) : Prop := ⟨.encode errand.builder, .ok (number, data)⟩ ∈ deeds
  have later {deeds : List Deed} (h : ready deeds) (deed : Deed) : ready (deeds ++ [deed]) :=
    List.mem_append_left _ h
  refine Call.Keeps.mono (Call.Keeps.retry ready (R := fun deeds _ => ready deeds) ?_
    (fun _ _ numbered _ => numbered) _ numbered) fun _ _ _ => trivial
  intro deeds numbered
  refine Call.Keeps.withWaiter nofun fun confirmation => Call.Keeps.withWaiter nofun fun reply => ?_
  refine Call.Keeps.mono (R := fun deeds _ => ready deeds) ?_ fun deeds result numbered =>
    ⟨nofun, nofun, later (later numbered _) _⟩
  refine keeps_requestChecked.bind (fun _ _ h => h.1 (later (later numbered _) _)) ?_
  rintro deeds' ⟨⟩ ⟨kept, accepted⟩
  have numbered : ready deeds' := kept (later (later numbered _) _)
  have asked : errand.Asked number reply deeds' :=
    ⟨⟨data, numbered, accepted rfl⟩, kept (List.mem_append_right _ List.mem_cons_self)⟩
  refine Call.Keeps.bind (Call.Keeps.await nofun
    (R := fun deeds _ => ready deeds ∧ errand.Asked number reply deeds)
    fun _ => ⟨later numbered _, asked.append _⟩) (fun _ _ h => h.1) ?_
  rintro deeds' ⟨status, rest⟩ ⟨numbered, asked⟩
  dsimp only
  split
  · refine Call.Keeps.bind (Call.Keeps.await ?_ (R := fun deeds _ => ready deeds)
      fun _ => later numbered _) (fun _ _ h => h) fun _ _ h => .pure h
    rintro waiter limit same
    obtain rfl := (Effect.await.inj same).1
    exact ⟨number, asked⟩
  · exact .throw numbered

theorem keeps_clusterRequest (errand : Errand) (timeouts : Timeouts) :
    (clusterRequest timeouts errand.address errand.endpoint errand.cluster errand.builder).Keeps
      errand.Awaits (fun _ _ => True) [] := by
  refine Call.Keeps.bind (Call.Keeps.encode (R := fun deeds result =>
    deeds = [⟨.encode errand.builder, result⟩]) nofun fun _ => rfl) (fun _ _ _ => trivial) ?_
  rintro _ ⟨number, data⟩ rfl
  have numbered : (⟨.encode errand.builder, .ok (number, data)⟩ : Deed) ∈
    [⟨.encode errand.builder, .ok (number, data)⟩] := List.mem_cons_self
  exact Call.Keeps.bind (keeps_dataRequest numbered) (fun _ _ _ => trivial) fun _ _ _ =>
    .check trivial

theorem keeps_forM_check {α : Type} {allowed : List Deed → Effect → Prop} {deeds : List Deed}
    (check : α → Except Failure Unit) (items : List α) :
    Call.Keeps allowed (fun _ _ => True) deeds
      (items.forM fun item => Call.check (check item)) := by
  induction items with
  | nil => exact .pure trivial
  | cons item rest ih =>
    exact Call.Keeps.bind (.check (R := fun deeds' _ => deeds' = deeds) rfl)
      (fun _ _ _ => trivial) fun _ _ same => same ▸ ih

/-- A call awaits no other messages than its request asks for. -/
theorem keeps_call : (errand.call timeouts).Keeps errand.Awaits (fun _ _ => True) [] := by
  -- what follows the request only looks at the reply
  cases errand with
  | perform target command =>
    refine Call.Keeps.bind (keeps_clusterRequest (perform target command) timeouts)
      (fun _ _ _ => trivial) fun _ frame _ => ?_
    split
    · split
      · exact .pure trivial
      · exact .throw trivial
    · exact .throw trivial
  | read address cluster ids =>
    refine Call.Keeps.bind (keeps_clusterRequest (read address cluster ids) timeouts)
      (fun _ _ _ => trivial) fun _ frame _ => ?_
    split
    · exact .pure trivial
    · exact .throw trivial
  | write address cluster fields =>
    refine Call.Keeps.bind (keeps_clusterRequest (write address cluster fields) timeouts)
      (fun _ _ _ => trivial) fun _ frame _ => ?_
    obtain ⟨kind, answer⟩ | ⟨kind, answer⟩ := frame.command
    · cases kind with
      | writeAttributesResponse =>
        exact Call.Keeps.bind (keeps_forM_check _ _) (fun _ _ _ => trivial) fun _ _ _ =>
          .pure trivial
      | _ => exact .throw trivial
    · exact .throw trivial
  | configure address cluster fields =>
    refine Call.Keeps.bind (keeps_clusterRequest (configure address cluster fields) timeouts)
      (fun _ _ _ => trivial) fun _ frame _ => ?_
    split
    · exact .check trivial
    · exact .throw trivial

/-! ### The message that completes a call -/

theorem delivery_injective {m m' : IncomingMessage} (same : delivery m = delivery m') : m = m' :=
  congrArg IncomingMessage.ofFields (eq_of_heq (Indication.mk.inj same).2)

/-- The first message that has what the call looks at is a reply unless another one has come
ahead of every reply. -/
theorem isReply_iff_not_overtaken {waiter : Nat} {later : List Waiters.Event}
    (takes : Waiters.Takes ⟨waiter, errand.pattern number⟩ later (delivery m)) :
    errand.IsReply number m ↔ ¬ errand.Overtaken number later := by
  constructor
  · rintro replies ⟨earlier, other, last, rfl, coincides, foreign, none⟩
    obtain came | same := takes.mem_or_eq (admits_iff.mpr ⟨other, rfl, coincides⟩)
    · exact none m came replies
    · exact foreign (delivery_injective same ▸ replies)
  · intro clear
    obtain ⟨earlier, last, rfl, spared, admits⟩ := takes
    obtain ⟨m', same, coincides⟩ := admits_iff.mp admits
    obtain rfl := delivery_injective same
    by_contra foreign
    refine clear ⟨earlier, m, last, rfl, coincides, foreign, fun reply came replies => ?_⟩
    exact spared _ came (admits_iff.mpr ⟨reply, rfl, replies.coincides⟩)

/-- A call goes on with a message that comes from the device and carries the number of the
request, and that is the first such message behind the registration of its waiter. It is a
reply unless some other message with these two properties has come ahead of every reply. -/
theorem isReply_taken_iff {past : List Waiters.Event} {steps : List Vigil.Step}
    {v : Vigil (Except Failure errand.Result)} {waiter limit : Nat}
    {next : Except Failure IndicationKind.afIncomingMessage.layout.Carrier →
      Program (Except Failure errand.Result)} {i : Indication}
    (ran : Vigil.run ⟨errand.call timeouts, past, []⟩ steps = some v)
    (awaits : v.rest = .perform (.await waiter .afIncomingMessage limit) next)
    (met : (Waiters.after v.events).expectation waiter = .met i) :
    ∃ number before later m,
      errand.Asked number waiter v.deeds ∧
      Waiters.Registers v.events before ⟨waiter, errand.pattern number⟩ later ∧
      past <+: before ∧
      i = delivery m ∧
      (∀ counter world,
        (v.apply (.own counter world)).map (·.rest) = some (next (.ok m.toFields))) ∧
      errand.Coincides number m ∧
      (errand.IsReply number m ↔ ¬ errand.Overtaken number later) := by
  have faithful := Vigil.faithful_run keeps_call ran
  have allowed := faithful.keeps
  rw [awaits] at allowed
  obtain ⟨number, asked⟩ := allowed.1 waiter limit rfl
  obtain ⟨before, later, registers, behind⟩ := faithful.registered _ _ asked.registered
  obtain ⟨-, takes, -⟩ := ((Waiters.sound_after v.events).met_iff registers).mp met
  obtain ⟨earlier, last, whole, spared, admits⟩ := takes
  obtain ⟨m, rfl, coincides⟩ := admits_iff.mp admits
  refine ⟨number, before, later, m, asked, registers, behind, rfl, fun counter world => ?_,
    coincides, isReply_iff_not_overtaken ⟨earlier, last, whole, spared, admits⟩⟩
  obtain ⟨rest, events, deeds⟩ := v
  obtain rfl : rest = _ := awaits
  rw [Vigil.apply, Option.map_some, Effect.respond, Waiters.waitAlone, met]
  rfl

/-- A device is asked whether it is on. -/
def question : Errand := .read "0x1a2b" 6 [0]

/-- The device tells on its own account that it has been switched on, and has got as far as the
number of the question. -/
def report : IncomingMessage :=
  { IncomingMessage.empty with
    clusterId := 6
    source := "0x1a2b"
    data := [0x18, 1, 0x0a, 0, 0, 0x10, 1] }

/-- The device answers the question. -/
def response : IncomingMessage :=
  { report with data := [0x18, 1, 0x01, 0, 0, 0, 0x10, 1] }

/-- The question is asked, and messages come before the confirmation does. -/
def answered (messages : List IncomingMessage) : List Vigil.Step :=
  .replicate 4 (.own .initial granting) ++
    [.elsewhere (messages.map fun m => .dispatch (delivery m)),
     .elsewhere [.dispatch (Waiters.confirmation 1)], .own .initial granting]

theorem isReply_response : question.IsReply 1 response where
  source := rfl
  cluster := rfl
  answers := ⟨_, rfl, rfl, .general rfl rfl⟩

theorem not_isReply_report (number : UInt8) : ¬ question.IsReply number report := by
  rintro ⟨-, -, frame, read, -, answers⟩
  have decoded : Cluster.Frame.decode 6 report.data = .ok _ := rfl
  obtain rfl := Except.ok.inj (decoded.symm.trans read)
  cases answers with
  | general same paired => cases same; cases paired

/-- The message that an event delivers. -/
def messageOf? : Waiters.Event → Option IncomingMessage
  | .dispatch i => IncomingMessage.ofIndication? i
  | _ => none

theorem isReply_taken_response :
    ∃ v waiter limit next, Vigil.run ⟨question.call .usual, [], []⟩ (answered [response]) = some v ∧
      v.rest = .perform (.await waiter .afIncomingMessage limit) next ∧
      (Waiters.after v.events).expectation waiter = .met (delivery response) ∧
      ∃ number, question.IsReply number response := by
  refine ⟨_, 2, _, _, rfl, rfl, rfl, ?_⟩
  obtain ⟨number, before, later, m, -, registers, -, same, -, coincides, replies⟩ :=
    isReply_taken_iff
      (show Vigil.run ⟨question.call .usual, [], []⟩ (answered [response]) = some _ from rfl)
      rfl rfl
  obtain rfl := delivery_injective same
  obtain rfl : 1 = number := Option.some.inj coincides.number
  refine ⟨1, replies.mpr ?_⟩
  -- the response is the only message
  rintro ⟨earlier, other, last, rfl, -, foreign, -⟩
  have came : Waiters.Event.dispatch (delivery other) ∈
      before ++ .register (question.pattern 1) :: (earlier ++ .dispatch (delivery other) :: last) :=
    List.mem_append_right _
      (List.mem_cons_of_mem _ (List.mem_append_right _ List.mem_cons_self))
  rw [← registers.whole] at came
  have delivered : other ∈ [response] := List.mem_filterMap.mpr
    ⟨_, came, (rfl : messageOf? (.dispatch (delivery other)) = some other)⟩
  exact foreign (List.mem_singleton.mp delivered ▸ isReply_response)

/-- A report that comes ahead of the reply completes the question, which fails. -/
theorem report_completes_question :
    ∃ v waiter limit next,
      Vigil.run ⟨question.call .usual, [], []⟩ (answered [report, response]) = some v ∧
      v.rest = .perform (.await waiter .afIncomingMessage limit) next ∧
      (Waiters.after v.events).expectation waiter = .met (delivery report) ∧
      (∀ number, ¬ question.IsReply number report) ∧
      (v.run (.replicate 3 (.own .initial granting))).map (·.rest) =
        some (.done (.error (.unexpectedResponse
          "expected ReadAttributesResponse, got ReportAttributes"))) :=
  ⟨_, 2, _, _, rfl, rfl, rfl, not_isReply_report, rfl⟩

end Errand

end Zigbee.Host
