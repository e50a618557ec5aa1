import Zigbee.Host.Requests
import Zigbee.Proofs.Radio.Records
import Zigbee.Proofs.Waiters.Vigil
import Zigbee.Proofs.Wire.AddressText

/-!
# Whose answer a call accepts

A call that concerns a device is given the address as a text. The request carries the number
that the text denotes, but the answer is recognised by comparing that text with the one that
the address in the answer is read as, which is always the canonical text of its number. So a
call accepts an answer if its address is the number that has been sent and the text that the
call was given is the canonical one; a call that was given any other text of the number
accepts no answer at all.
-/

namespace Zigbee.Host

open Cluster Radio Record Settings Wire

/-- A call that concerns a device. -/
inductive Inquiry where
  | activeEndpoints (address : String)
  | nodeDescription (address : String)
  | simpleDescription (address : String) (endpoint : BitVec 8)
  | bind (fields : RequestKind.zdoBindReq.layout.Carrier)
  | unbind (fields : RequestKind.zdoUnbindReq.layout.Carrier)
  | send (fields : RequestKind.afDataRequest.layout.Carrier)

namespace Inquiry

/-- What the call gives. -/
@[reducible] def Result : Inquiry → Type
  | activeEndpoints _ => IndicationKind.zdoActiveEpRsp.layout.Carrier
  | nodeDescription _ => IndicationKind.zdoNodeDescRsp.layout.Carrier
  | simpleDescription _ _ => IndicationKind.zdoSimpleDescRsp.layout.Carrier
  | bind _ | unbind _ => Unit
  | send _ => IncomingMessage

/-- The call. -/
def call (timeouts : Timeouts) : (inquiry : Inquiry) → Call inquiry.Result
  | activeEndpoints address => Host.activeEndpoints timeouts address
  | nodeDescription address => Host.nodeDescription timeouts address
  | simpleDescription address endpoint => Host.simpleDescription timeouts address endpoint
  | bind fields => Host.bind timeouts fields
  | unbind fields => Host.unbind timeouts fields
  | send fields => dataRequest timeouts fields

/-- The text of the address that the call is given. -/
def address : Inquiry → String
  | activeEndpoints address | nodeDescription address | simpleDescription address _ => address
  | bind fields | unbind fields | send fields => fields.1

/-- The kind of the request. -/
def requestKind : Inquiry → RequestKind
  | activeEndpoints _ => .zdoActiveEpReq
  | nodeDescription _ => .zdoNodeDescReq
  | simpleDescription _ _ => .zdoSimpleDescReq
  | bind _ => .zdoBindReq
  | unbind _ => .zdoUnbindReq
  | send _ => .afDataRequest

/-- The request. -/
def request : (inquiry : Inquiry) → inquiry.requestKind.layout.Carrier
  | activeEndpoints address | nodeDescription address => (address, address, ())
  | simpleDescription address endpoint => (address, address, endpoint, ())
  | bind fields | unbind fields | send fields => fields

/-- The kind of the answer. -/
def answerKind : Inquiry → IndicationKind
  | activeEndpoints _ => .zdoActiveEpRsp
  | nodeDescription _ => .zdoNodeDescRsp
  | simpleDescription _ _ => .zdoSimpleDescRsp
  | bind _ => .zdoBindRsp
  | unbind _ => .zdoUnbindRsp
  | send _ => .afIncomingMessage

/-- The device that an answer is about. -/
def subject : (inquiry : Inquiry) → inquiry.answerKind.layout.Carrier → String
  | activeEndpoints _, (_, _, subject, _) => subject
  | nodeDescription _, (_, _, subject, _) => subject
  | simpleDescription _ _, (_, _, subject, _) => subject
  | bind _, (source, _) => source
  | unbind _, (source, _) => source
  | send _, fields => (IncomingMessage.ofFields fields).source

/-- Whether, but for the device, an answer is what has been asked for: it is about the same
endpoint, or carries the number of the transaction. -/
def Fits : (inquiry : Inquiry) → inquiry.answerKind.layout.Carrier → Prop
  | simpleDescription _ endpoint, (_, _, _, _, number, _) => number = endpoint
  | send (_, _, _, _, transaction, _), fields =>
    sequenceNumber? (IncomingMessage.ofFields fields).data = some ⟨transaction⟩
  | activeEndpoints _, _ | nodeDescription _, _ | bind _, _ | unbind _, _ => True

/-- What the call waits for. -/
def accepts : (inquiry : Inquiry) → inquiry.answerKind.layout.Carrier → Bool
  | activeEndpoints address => fun (_, _, subject, _) => subject == address
  | nodeDescription address => fun (_, _, subject, _) => subject == address
  | simpleDescription address endpoint => fun (_, _, subject, _, number, _) =>
    subject == address && number == endpoint
  | bind (destination, _) => fun (source, _) => source == destination
  | unbind (destination, _) => fun (source, _) => source == destination
  | send (destination, _, _, _, transaction, _) => isReply destination transaction

/-- The pattern of its waiter. -/
def pattern (inquiry : Inquiry) : Pattern := ⟨inquiry.answerKind, inquiry.accepts⟩

variable {inquiry : Inquiry} {fields : inquiry.answerKind.layout.Carrier}

/-! ### What a call accepts -/

/-- The texts are compared. -/
theorem accepts_iff : inquiry.accepts fields = true ↔
    inquiry.subject fields = inquiry.address ∧ inquiry.Fits fields := by
  cases inquiry with
  | activeEndpoints address | nodeDescription address =>
    exact beq_iff_eq.trans (and_iff_left trivial).symm
  | simpleDescription address endpoint =>
    exact Bool.and_eq_true_iff.trans (and_congr beq_iff_eq beq_iff_eq)
  | bind asked | unbind asked => exact beq_iff_eq.trans (and_iff_left trivial).symm
  | send asked => exact Bool.and_eq_true_iff.trans (and_congr beq_iff_eq beq_iff_eq)

/-- An address in what the radio delivers is always read as the canonical text. -/
theorem canonical_subject {payload : List UInt8}
    (delivered : inquiry.answerKind.layout.read payload = .ok fields) :
    HexAddress.Canonical 2 (inquiry.subject fields) := by
  obtain ⟨c, read⟩ := Layout.read_eq_ok.mp delivered
  obtain ⟨canonical, -⟩ := (RadioRecord.indication inquiry.answerKind).accepted read
  cases inquiry with
  | activeEndpoints address | nodeDescription address | simpleDescription address endpoint =>
    exact canonical.2.2.1
  | bind asked | unbind asked => exact canonical.1
  | send asked => exact canonical.2.2.1

/-- Of the texts of a number, only the canonical one is ever matched. -/
theorem accepts_iff_of_delivered {payload : List UInt8} {number : Nat}
    (sent : HexAddress.parse? inquiry.address 2 = some number)
    (delivered : inquiry.answerKind.layout.read payload = .ok fields) :
    inquiry.accepts fields = true ↔ HexAddress.Canonical 2 inquiry.address ∧
      HexAddress.parse? (inquiry.subject fields) 2 = some number ∧ inquiry.Fits fields := by
  have canonical := canonical_subject delivered
  rw [accepts_iff, ← and_assoc]
  refine and_congr_left fun _ => ⟨fun same => ?_, fun ⟨own, equal⟩ => ?_⟩
  · rw [← same]
    exact ⟨canonical, same ▸ sent⟩
  · obtain ⟨n, parsed, same⟩ := canonical.exists_format (by decide) (by decide)
    obtain ⟨n', parsed', same'⟩ := own.exists_format (by decide) (by decide)
    obtain rfl := Option.some.inj (parsed.symm.trans equal)
    obtain rfl := Option.some.inj (parsed'.symm.trans sent)
    rw [same, same']

/-- The same call with another text of the address. -/
def readdress (text : String) : Inquiry → Inquiry
  | activeEndpoints _ => activeEndpoints text
  | nodeDescription _ => nodeDescription text
  | simpleDescription _ endpoint => simpleDescription text endpoint
  | bind (_, rest) => bind (text, rest)
  | unbind (_, rest) => unbind (text, rest)
  | send (_, rest) => send (text, rest)

@[simp] theorem address_readdress (inquiry : Inquiry) (text : String) :
    (inquiry.readdress text).address = text := by
  cases inquiry <;> rfl

@[simp] theorem readdress_address : inquiry.readdress inquiry.address = inquiry := by
  cases inquiry <;> rfl

/-- A call with a text that is not canonical recognises nothing. -/
theorem not_admits_of_not_canonical {i : Indication} {payload : List UInt8} {number : Nat}
    (sent : HexAddress.parse? inquiry.address 2 = some number)
    (other : ¬ HexAddress.Canonical 2 inquiry.address)
    (delivered : i.kind.layout.read payload = .ok i.fields) : ¬ inquiry.pattern.Admits i := by
  obtain ⟨kind, fields⟩ := i
  rintro ⟨same, accepted⟩
  obtain rfl : kind = inquiry.answerKind := same
  exact other ((accepts_iff_of_delivered sent delivered).mp accepted).1

/-- Two texts of a number are as good as each other if both are canonical or neither is. -/
theorem admits_readdress_iff {i : Indication} {payload : List UInt8} {number : Nat} {text : String}
    (sent : HexAddress.parse? inquiry.address 2 = some number)
    (sent' : HexAddress.parse? text 2 = some number)
    (alike : HexAddress.Canonical 2 text ↔ HexAddress.Canonical 2 inquiry.address)
    (delivered : i.kind.layout.read payload = .ok i.fields) :
    (inquiry.readdress text).pattern.Admits i ↔ inquiry.pattern.Admits i := by
  by_cases canonical : HexAddress.Canonical 2 inquiry.address
  · obtain ⟨n, parsed, same⟩ := canonical.exists_format (by decide) (by decide)
    obtain ⟨n', parsed', same'⟩ := (alike.mpr canonical).exists_format (by decide) (by decide)
    obtain rfl := Option.some.inj (parsed.symm.trans sent)
    obtain rfl := Option.some.inj (parsed'.symm.trans sent')
    rw [same', ← same, readdress_address]
  · have address := inquiry.address_readdress text
    refine iff_of_false (not_admits_of_not_canonical (address.symm ▸ sent') ?_ delivered)
      (not_admits_of_not_canonical sent canonical delivered)
    rw [address, alike]
    exact canonical

/-! ### What a call does -/

/-- Whether the call performs the effect: it makes no request but its own, and registers no
other waiter for answers than its own. -/
def Performs (inquiry : Inquiry) : Effect → Prop
  | .request kind fields =>
    (⟨kind, fields⟩ : (kind : RequestKind) × kind.layout.Carrier) =
      ⟨inquiry.requestKind, inquiry.request⟩
  | .register pattern => pattern.kind = inquiry.answerKind → pattern = inquiry.pattern
  | _ => True

/-- Whether a call performs nothing else. -/
abbrev KeptBy (inquiry : Inquiry) {α : Type} (deeds : List Deed) (c : Call α) : Prop :=
  c.Keeps (fun _ => inquiry.Performs) (fun _ _ => True) deeds

theorem keeps_requestChecked (inquiry : Inquiry) (deeds : List Deed)
    (status : inquiry.requestKind.answer.Carrier → Status) :
    inquiry.KeptBy deeds (requestChecked inquiry.requestKind inquiry.request status) :=
  Call.Keeps.andThen (.request rfl fun _ => trivial) fun _ _ => .check trivial

theorem keeps_sendAndWait (inquiry : Inquiry) (policy : RetryPolicy)
    (status : inquiry.requestKind.answer.Carrier → Status) :
    inquiry.KeptBy [] (sendAndWait policy inquiry.pattern
      (requestChecked inquiry.requestKind inquiry.request status)) := by
  refine Call.Keeps.retry (fun _ => True) (fun deeds _ => ?_) (fun _ _ _ _ => trivial) _ trivial
  refine Call.Keeps.withWaiter (fun _ => rfl) fun waiter => ?_
  refine Call.Keeps.mono (R := fun _ _ => True) ?_ fun _ _ _ => ⟨trivial, trivial⟩
  exact (keeps_requestChecked inquiry _ status).andThen fun _ _ => .await trivial fun _ => trivial

theorem keeps_dataRequest (timeouts : Timeouts)
    (fields : RequestKind.afDataRequest.layout.Carrier) :
    (send fields).KeptBy [] (dataRequest timeouts fields) := by
  refine Call.Keeps.retry (fun _ => True) (fun deeds _ => ?_) (fun _ _ _ _ => trivial) _ trivial
  refine Call.Keeps.withWaiter nofun fun confirmation => ?_
  refine Call.Keeps.withWaiter (fun _ => rfl) fun reply => ?_
  refine Call.Keeps.mono (R := fun _ _ => True) ?_ fun _ _ _ => ⟨trivial, trivial, trivial⟩
  refine (keeps_requestChecked (send fields) _ (·.1)).andThen fun _ _ => ?_
  refine Call.Keeps.andThen (.await trivial fun _ => trivial) ?_
  rintro deeds ⟨status, rest⟩
  dsimp only
  split
  · exact Call.Keeps.andThen (.await trivial fun _ => trivial) fun _ _ => .pure trivial
  · exact .throw trivial

/-- A call makes its own request and waits for its own answers, and does nothing else. -/
theorem keeps_call (inquiry : Inquiry) (timeouts : Timeouts) :
    inquiry.KeptBy [] (inquiry.call timeouts) := by
  cases inquiry with
  | activeEndpoints address =>
    exact (keeps_sendAndWait (activeEndpoints address) timeouts.zdo (·.1)).andThen fun _ _ =>
      Call.Keeps.andThen (.check trivial) fun _ _ => .pure trivial
  | nodeDescription address =>
    exact (keeps_sendAndWait (nodeDescription address) timeouts.zdo (·.1)).andThen fun _ _ =>
      Call.Keeps.andThen (.check trivial) fun _ _ => .pure trivial
  | simpleDescription address endpoint =>
    exact (keeps_sendAndWait (simpleDescription address endpoint) timeouts.zdo (·.1)).andThen
      fun _ _ => Call.Keeps.andThen (.check trivial) fun _ _ => .pure trivial
  | bind fields =>
    exact (keeps_sendAndWait (bind fields) timeouts.zdo (·.1)).andThen fun _ _ => .check trivial
  | unbind fields =>
    exact (keeps_sendAndWait (unbind fields) timeouts.zdo (·.1)).andThen fun _ _ => .check trivial
  | send fields => exact keeps_dataRequest timeouts fields

/-- The request carries the number of the address. -/
theorem exists_write_request {payload : List UInt8} {number : Nat}
    (sent : HexAddress.parse? inquiry.address 2 = some number)
    (written : inquiry.requestKind.layout.write inquiry.request = .ok payload) :
    ∃ rest, payload = littleEndian 2 number ++ rest := by
  have first {rest : Layout} {b : rest.Carrier}
      (written : (Layout.field "dst_addr" (.address 2) rest).encode [] 0 (inquiry.address, b) =
        .ok payload) : ∃ rest, payload = littleEndian 2 number ++ rest := by
    obtain ⟨front, back, address, -, whole⟩ := encode_field_eq_ok.mp written
    rw [show (Layout.address 2).encode [] 0 inquiry.address = HexAddress.encode _ _ from rfl,
      HexAddress.encode_of_parse? sent] at address
    exact ⟨back, whole.trans (congrArg (· ++ back) (Except.ok.inj address).symm)⟩
  cases inquiry with
  | bind fields | unbind fields | send fields => exact first (b := fields.2) written
  | activeEndpoints | nodeDescription | simpleDescription => exact first written

/-! ### In a run -/

variable {timeouts : Timeouts} {past : List Waiters.Event} {steps : List Vigil.Step}
variable {v : Vigil (Except Failure inquiry.Result)}

/-- Wherever a call has got to, its requests carry the number of the address. An answer that
comes while a waiter for answers waits completes it exactly if the address in the answer is
that number, the answer fits, and the call was given the canonical text of the number. So two
texts of a number have the same effect if both are canonical, and if neither is. -/
theorem accepts_delivered_iff {number : Nat}
    (sent : HexAddress.parse? inquiry.address 2 = some number)
    (ran : Vigil.run ⟨inquiry.call timeouts, past, []⟩ steps = some v) :
    (∀ kind fields answer payload, (⟨.request kind fields, answer⟩ : Deed) ∈ v.deeds →
      kind.layout.write fields = .ok payload →
      kind = inquiry.requestKind ∧ ∃ rest, payload = littleEndian 2 number ++ rest) ∧
    (∀ waiter pattern, (⟨.register pattern, waiter⟩ : Deed) ∈ v.deeds →
      pattern.kind = inquiry.answerKind → Waiters.Waits v.events ⟨waiter, pattern⟩ →
      ∀ payload answer, inquiry.answerKind.layout.read payload = .ok answer →
        ((Waiters.after (v.events ++ [.dispatch ⟨inquiry.answerKind, answer⟩])).expectation waiter =
            .met ⟨inquiry.answerKind, answer⟩ ↔
          HexAddress.Canonical 2 inquiry.address ∧
            HexAddress.parse? (inquiry.subject answer) 2 = some number ∧ inquiry.Fits answer)) ∧
    ∀ text, HexAddress.parse? text 2 = some number →
      (HexAddress.Canonical 2 text ↔ HexAddress.Canonical 2 inquiry.address) →
      ∀ payload (i : Indication), i.kind.layout.read payload = .ok i.fields →
        ((inquiry.readdress text).pattern.Admits i ↔ inquiry.pattern.Admits i) := by
  have faithful := Vigil.faithful_run (keeps_call inquiry timeouts) ran
  refine ⟨?_, ?_, fun text sent' alike payload i => admits_readdress_iff sent sent' alike⟩
  · intro kind fields answer payload member written
    obtain ⟨-, performs⟩ := faithful.allowed_of_mem member
    obtain ⟨rfl, same⟩ := Sigma.mk.inj performs
    obtain rfl := eq_of_heq same
    exact ⟨rfl, exists_write_request sent written⟩
  · intro waiter pattern member kind waits payload answer delivered
    obtain ⟨-, performs⟩ := faithful.allowed_of_mem member
    obtain rfl : pattern = inquiry.pattern := performs kind
    rw [Waiters.expectation_dispatch_iff waits, ← accepts_iff_of_delivered sent delivered]
    exact ⟨fun ⟨_, accepted⟩ => accepted, fun accepted => ⟨rfl, accepted⟩⟩

/-- The waiter is registered and the radio takes the request. -/
def asked : List Vigil.Step := .replicate 2 (.own .initial granting)

/-- What the radio delivers when the device 0x1a2b has no endpoints. -/
def noEndpoints : IndicationKind.zdoActiveEpRsp.layout.Carrier :=
  ("0x1a2b", Status.success, "0x1a2b", [], ())

theorem accepts_delivered_noEndpoints :
    HexAddress.parse? "0x1a2b" 2 = some 0x1a2b ∧
    ∃ v, Vigil.run ⟨(activeEndpoints "0x1a2b").call .usual, [], []⟩ asked = some v ∧
      (Waiters.after (v.events ++ [.dispatch ⟨.zdoActiveEpRsp, noEndpoints⟩])).expectation 1 =
        .met ⟨.zdoActiveEpRsp, noEndpoints⟩ := by
  have sent : HexAddress.parse? (activeEndpoints "0x1a2b").address 2 = some 0x1a2b := rfl
  have ran : Vigil.run ⟨(activeEndpoints "0x1a2b").call .usual, [], []⟩ asked = some _ := rfl
  have canonical : HexAddress.Canonical 2 (HexAddress.format 0x1a2b 2) :=
    HexAddress.canonical_format (by decide) (by decide)
  have waits : Waiters.Waits _ ⟨1, (activeEndpoints "0x1a2b").pattern⟩ :=
    ((Waiters.sound_after [.register (activeEndpoints "0x1a2b").pattern]).pending _).mp
      List.mem_cons_self
  obtain ⟨-, accepts, -⟩ := accepts_delivered_iff sent ran
  refine ⟨sent, _, ran, ?_⟩
  exact (accepts 1 _ List.mem_cons_self rfl waits [0x2b, 0x1a, 0, 0x2b, 0x1a, 0] noEndpoints
    rfl).mpr ⟨canonical, rfl, trivial⟩

/-- A call that was given another text of the address goes on waiting. -/
theorem upper_case_unrecognised :
    HexAddress.parse? "0x1A2B" 2 = some 0x1a2b ∧
    IndicationKind.zdoActiveEpRsp.layout.read [0x2b, 0x1a, 0, 0x2b, 0x1a, 0] = .ok noEndpoints ∧
    HexAddress.parse? ((activeEndpoints "0x1A2B").subject noEndpoints) 2 = some 0x1a2b ∧
    (activeEndpoints "0x1A2B").Fits noEndpoints ∧
    ∃ v, Vigil.run ⟨(activeEndpoints "0x1A2B").call .usual, [], []⟩ asked = some v ∧
      (Waiters.after v.events).expectation 1 = .possible ∧
      (Waiters.after (v.events ++ [.dispatch ⟨.zdoActiveEpRsp, noEndpoints⟩])).expectation 1 =
        .possible :=
  ⟨rfl, rfl, rfl, trivial, _, rfl, rfl, rfl⟩

end Inquiry

end Zigbee.Host
