import Zigbee.Host.State
import Zigbee.Proofs.Registration.Programs
import Zigbee.Proofs.Waiters.Vigil

/-!
# How an interrogation ends

`Program.Yields` reads a program from its end: these have been its deeds, and this is its
result. A result can then be taken apart as the program is put together, so each part has
deeds and a result of its own. An interrogation is a sequence of queries: either all of them
have been answered, and the record is made of the answers, or one of them has failed, and the
failure names it. What a query returns the radio has delivered to a waiter of the query.
-/

namespace Zigbee.Host

open Cluster Radio Settings

/-- Whether the program does just these deeds and then has the result. -/
def Program.Yields {α : Type} : Program α → List Deed → α → Prop
  | .done a, deeds, result => deeds = [] ∧ a = result
  | .perform effect next, deeds, result =>
    ∃ answer rest, deeds = ⟨effect, answer⟩ :: rest ∧ (next answer).Yields rest result

/-- The deeds of a program that goes on after another one are those of both. -/
theorem Program.yields_bind_iff {α β : Type} {p : Program α} {f : α → Program β}
    {deeds : List Deed} {result : β} : (p.bind f).Yields deeds result ↔
      ∃ front a back, deeds = front ++ back ∧ p.Yields front a ∧ (f a).Yields back result := by
  constructor
  · intro h
    induction p generalizing deeds with
    | done a => exact ⟨[], a, deeds, rfl, ⟨rfl, rfl⟩, h⟩
    | perform effect next ih =>
      obtain ⟨answer, rest, rfl, later⟩ := h
      obtain ⟨front, a, back, rfl, first, second⟩ := ih answer later
      exact ⟨⟨effect, answer⟩ :: front, a, back, rfl, ⟨answer, front, rfl, first⟩, second⟩
  · rintro ⟨front, a, back, rfl, first, second⟩
    induction p generalizing front with
    | done a =>
      obtain ⟨rfl, rfl⟩ := first
      exact second
    | perform effect next ih =>
      obtain ⟨answer, rest, rfl, later⟩ := first
      exact ⟨answer, rest ++ back, rfl, ih answer rest later⟩

/-- What is quiet has done only quiet deeds. -/
theorem Program.Quiet.deeds {α : Type} {R : α → Prop} {p : Program α} {deeds : List Deed}
    {result : α} (quiet : p.Quiet R) (h : p.Yields deeds result) :
    R result ∧ ∀ deed ∈ deeds, deed.effect.isQuiet = true := by
  induction p generalizing deeds with
  | done a =>
    obtain ⟨rfl, rfl⟩ := h
    exact ⟨quiet, fun _ member => absurd member List.not_mem_nil⟩
  | perform effect next ih =>
    obtain ⟨answer, rest, rfl, later⟩ := h
    obtain ⟨described, silent⟩ := ih answer (quiet.2 answer) later
    exact ⟨described, List.forall_mem_cons.mpr ⟨quiet.1, silent⟩⟩

namespace Call

variable {α β : Type} {c : Call α} {f : α → Call β} {deeds : List Deed}

/-- The same for a call, which ends with a result or a failure. -/
def Yields (c : Call α) (deeds : List Deed) (result : Except Failure α) : Prop :=
  Program.Yields c deeds result

/-- The first failure is the failure of the whole. -/
theorem Yields.bind {result : Except Failure β} (h : (c >>= f).Yields deeds result) :
    (∃ e, c.Yields deeds (.error e) ∧ result = .error e) ∨
      ∃ front a back, deeds = front ++ back ∧ c.Yields front (.ok a) ∧
        (f a).Yields back result := by
  obtain ⟨front, ended, back, rfl, first, second⟩ := Program.yields_bind_iff.mp h
  cases ended with
  | error e =>
    obtain ⟨rfl, rfl⟩ := second
    exact .inl ⟨e, by rwa [List.append_nil], rfl⟩
  | ok a => exact .inr ⟨front, a, back, rfl, first, second⟩

theorem Yields.bind_error {e : Failure} (h : c.Yields deeds (.error e)) :
    (c >>= f).Yields deeds (.error e) :=
  Program.yields_bind_iff.mpr ⟨deeds, .error e, [], (List.append_nil _).symm, h, rfl, rfl⟩

theorem Yields.bind_ok {a : α} {more : List Deed} {result : Except Failure β}
    (first : c.Yields deeds (.ok a)) (second : (f a).Yields more result) :
    (c >>= f).Yields (deeds ++ more) result :=
  Program.yields_bind_iff.mpr ⟨deeds, .ok a, more, rfl, first, second⟩

/-- A failure that is caught is followed by what is done about it. -/
theorem Yields.tryCatch {handle : Failure → Call α} {result : Except Failure α}
    (h : Yields (tryCatch c handle) deeds result) :
    (∃ a, c.Yields deeds (.ok a) ∧ result = .ok a) ∨
      ∃ front e back, deeds = front ++ back ∧ c.Yields front (.error e) ∧
        (handle e).Yields back result := by
  obtain ⟨front, ended, back, rfl, first, second⟩ := Program.yields_bind_iff.mp h
  cases ended with
  | error e => exact .inr ⟨front, e, back, rfl, first, second⟩
  | ok a =>
    obtain ⟨rfl, rfl⟩ := second
    exact .inl ⟨a, by rwa [List.append_nil], rfl⟩

theorem yields_pure (a : α) : (Pure.pure a : Call α).Yields [] (.ok a) := ⟨rfl, rfl⟩

theorem Yields.pure {a : α} {result : Except Failure α}
    (h : (Pure.pure a : Call α).Yields deeds result) : deeds = [] ∧ result = .ok a :=
  ⟨h.1, h.2.symm⟩

theorem Yields.throw {e : Failure} {result : Except Failure α}
    (h : (MonadExcept.throw e : Call α).Yields deeds result) : deeds = [] ∧ result = .error e :=
  ⟨h.1, h.2.symm⟩

theorem Yields.check {checked result : Except Failure α}
    (h : (check checked).Yields deeds result) : deeds = [] ∧ result = checked :=
  ⟨h.1, h.2.symm⟩

/-- The last attempt is the one that counts. -/
theorem Yields.retry {a : α} {retries : Nat} (h : Yields (retry c retries) deeds (.ok a)) :
    ∃ front back, deeds = front ++ back ∧ c.Yields back (.ok a) := by
  induction retries generalizing deeds with
  | zero => exact ⟨[], deeds, rfl, h⟩
  | succ retries ih =>
    obtain ⟨_, first, ⟨⟩⟩ | ⟨front, e, back, rfl, -, later⟩ := Yields.tryCatch h
    · exact ⟨[], deeds, rfl, first⟩
    · by_cases again : e.isRetryable = true
      · rw [if_pos again] at later
        obtain ⟨between, last, rfl, made⟩ := ih later
        exact ⟨front ++ between, last, (List.append_assoc ..).symm, made⟩
      · rw [if_neg again] at later
        cases (Yields.throw later).2

theorem Yields.ask {effect : Effect} {result : Except Failure effect.Answer}
    (h : (ask effect).Yields deeds result) :
    ∃ answer, deeds = [⟨effect, answer⟩] ∧ result = .ok answer := by
  obtain ⟨answer, rest, rfl, rfl, rfl⟩ := h
  exact ⟨answer, rfl, rfl⟩

theorem Yields.lift {p : Program α} {result : Except Failure α}
    (h : Yields (ExceptT.lift p) deeds result) : ∃ a, p.Yields deeds a ∧ result = .ok a := by
  obtain ⟨front, a, back, rfl, first, rfl, rfl⟩ := Program.yields_bind_iff.mp h
  exact ⟨a, by rwa [List.append_nil], rfl⟩

/-- A waiter is registered, used and forgotten, whatever comes of its use. -/
theorem Yields.withWaiter {pattern : Pattern} {use : Nat → Call α} {result : Except Failure α}
    (h : (withWaiter pattern use).Yields deeds result) :
    ∃ waiter middle, deeds = ⟨.register pattern, waiter⟩ :: (middle ++ [⟨.dismiss waiter, ()⟩]) ∧
      (use waiter).Yields middle result := by
  obtain ⟨_, never, ⟨⟩⟩ | ⟨_, waiter, later, rfl, registers, uses⟩ := Yields.bind h
  · obtain ⟨_, -, ⟨⟩⟩ := Yields.ask never
  obtain ⟨_, rfl, ⟨⟩⟩ := Yields.ask registers
  obtain ⟨_, unused, ⟨⟩⟩ | ⟨middle, ended, last, rfl, uses, dismisses⟩ := Yields.bind uses
  · obtain ⟨_, -, ⟨⟩⟩ := Yields.lift unused
  obtain ⟨_, used, ⟨⟩⟩ := Yields.lift uses
  obtain ⟨_, kept, ⟨⟩⟩ | ⟨_, _, _, rfl, forgets, checks⟩ := Yields.bind dismisses
  · obtain ⟨_, -, ⟨⟩⟩ := Yields.ask kept
  obtain ⟨_, rfl, ⟨⟩⟩ := Yields.ask forgets
  obtain ⟨rfl, rfl⟩ := Yields.check checks
  exact ⟨waiter, middle, rfl, used⟩

end Call

/-! ### What the radio has delivered -/

/-- Whether every indication that has been awaited is one that its waiter has asked for. -/
def Heard (deeds : List Deed) : Prop :=
  ∀ earlier later waiter kind milliseconds fields pattern,
    deeds = earlier ++ ⟨.await waiter kind milliseconds, .ok fields⟩ :: later →
    ⟨.register pattern, waiter⟩ ∈ earlier → pattern.Admits ⟨kind, fields⟩

theorem Heard.between {front part back : List Deed} (h : Heard (front ++ part ++ back)) :
    Heard part := by
  intro earlier later waiter kind milliseconds fields pattern whole registered
  refine h (front ++ earlier) (later ++ back) waiter kind milliseconds fields pattern ?_ ?_
  · rw [whole, List.append_assoc, List.append_assoc, List.append_assoc, List.cons_append]
  · exact List.mem_append_right _ registered

theorem Heard.left {front back : List Deed} (h : Heard (front ++ back)) : Heard front := by
  have whole : Heard ([] ++ front ++ back) := h
  exact whole.between

theorem Heard.right {front back : List Deed} (h : Heard (front ++ back)) : Heard back := by
  have whole : Heard (front ++ back ++ []) := by rwa [List.append_nil]
  exact whole.between

/-- Whether the radio has delivered an indication with the content to somebody who waited. -/
def Delivered (deeds : List Deed) (kind : IndicationKind) (fields : kind.layout.Carrier) : Prop :=
  ∃ waiter milliseconds, (⟨.await waiter kind milliseconds, .ok fields⟩ : Deed) ∈ deeds

theorem Delivered.mono {deeds more : List Deed} {kind : IndicationKind}
    {fields : kind.layout.Carrier} (h : Delivered deeds kind fields) (subset : deeds ⊆ more) :
    Delivered more kind fields := by
  obtain ⟨waiter, milliseconds, member⟩ := h
  exact ⟨waiter, milliseconds, subset member⟩

/-- What has been sent for and waited for has been delivered, and it is what has been asked. -/
theorem delivered_of_sendAndWait {policy : RetryPolicy} {pattern : Pattern} {send : Call Unit}
    {deeds : List Deed} {fields : pattern.kind.layout.Carrier} (heard : Heard deeds)
    (h : (sendAndWait policy pattern send).Yields deeds (.ok fields)) :
    Delivered deeds pattern.kind fields ∧ pattern.accepts fields = true := by
  obtain ⟨front, back, rfl, attempt⟩ := Call.Yields.retry h
  obtain ⟨waiter, middle, rfl, used⟩ := Call.Yields.withWaiter attempt
  obtain ⟨e, -, ⟨⟩⟩ | ⟨sent, _, awaited, rfl, -, awaits⟩ := Call.Yields.bind used
  obtain ⟨answer, rest, rfl, rfl, rfl⟩ := awaits
  constructor
  · refine ⟨waiter, policy.milliseconds, List.mem_append_right _ (List.mem_cons_of_mem _ ?_)⟩
    exact List.mem_append_left _ (List.mem_append_right _ List.mem_cons_self)
  · obtain ⟨_, accepted⟩ := heard.right (⟨.register pattern, waiter⟩ :: sent)
      [⟨.dismiss waiter, ()⟩] waiter
      pattern.kind policy.milliseconds fields pattern (by simp) List.mem_cons_self
    exact accepted

/-- The same if the status in the answer is checked. -/
theorem delivered_of_answered {policy : RetryPolicy} {pattern : Pattern} {send : Call Unit}
    {status : pattern.kind.layout.Carrier → Status} {deeds : List Deed}
    {fields : pattern.kind.layout.Carrier} (heard : Heard deeds)
    (h : Call.Yields (do
      let answer ← sendAndWait policy pattern send
      Call.check (Failure.checkStatus (status answer))
      return answer) deeds (.ok fields)) :
    Delivered deeds pattern.kind fields ∧ pattern.accepts fields = true := by
  obtain ⟨_, -, ⟨⟩⟩ | ⟨front, answer, _, rfl, sent, later⟩ := Call.Yields.bind h
  obtain ⟨_, -, ⟨⟩⟩ | ⟨_, _, _, rfl, checks, returns⟩ := Call.Yields.bind later
  obtain ⟨rfl, same⟩ := Call.Yields.pure returns
  obtain rfl := Except.ok.inj same
  obtain ⟨rfl, -⟩ := Call.Yields.check checks
  rw [List.append_nil, List.append_nil]
  exact delivered_of_sendAndWait heard.left sent

/-! ### Queries -/

/-- What a device says it is. -/
abbrev NodeDescriptor := IndicationKind.zdoNodeDescRsp.layout.Carrier

namespace NodeDescriptor

/-- The network address of the device described. -/
def subject : NodeDescriptor → String
  | (_, _, address, _) => address

/-- Its part in the network. -/
def logicalType : NodeDescriptor → LogicalType
  | (_, _, _, (type, _), _) => type

/-- The number of its manufacturer. -/
def manufacturer : NodeDescriptor → BitVec 16
  | (_, _, _, _, _, _, code, _) => code

end NodeDescriptor

/-- The endpoints that a device says it has. -/
abbrev EndpointList := IndicationKind.zdoActiveEpRsp.layout.Carrier

namespace EndpointList

/-- The network address of the device. -/
def subject : EndpointList → String
  | (_, _, address, _) => address

/-- The numbers of its endpoints. -/
def ids : EndpointList → List UInt8
  | (_, _, _, numbers, ()) => numbers

end EndpointList

/-- What an endpoint offers. -/
abbrev EndpointDescriptor := IndicationKind.zdoSimpleDescRsp.layout.Carrier

/-- The endpoint with what it offers. -/
def EndpointDescriptor.endpoint : EndpointDescriptor → Endpoint
  | (_, _, _, _, number, profile, device, version, served, used, ()) =>
    ⟨number, profile, device, version, served, used⟩

/-- What a device tells about itself in the basic cluster, and what it takes its power from. -/
abbrev Basics := GlobalKind.readAttributesResponse.layout.Carrier × PowerSource

/-- A step of an interrogation. -/
inductive Query where
  | basics
  | node
  | endpoints
  | endpoint (id : UInt8)
deriving DecidableEq

namespace Query

/-- The name of the step. -/
def name : Query → String
  | basics => "querying basic metadata"
  | node => "querying node description"
  | endpoints => "querying active endpoints"
  | endpoint id => s!"query endpoint {id} description"

/-- What is answered. -/
@[reducible] def Answer : Query → Type
  | basics => Basics
  | node => NodeDescriptor
  | endpoints => EndpointList
  | endpoint _ => EndpointDescriptor

/-- The query to the device with the network address. -/
def call (timeouts : Timeouts) (address : String) : (query : Query) → Call query.Answer
  | basics => do
    let answer ← readAttributes timeouts address basicCluster
      [manufacturerName, modelName, powerSourceAttribute]
    let source ← Call.check (powerSourceOf ⟨.readAttributesResponse, answer⟩)
    return (answer, source)
  | node => nodeDescription timeouts address
  | endpoints => activeEndpoints timeouts address
  | endpoint id => simpleDescription timeouts address id.toBitVec

end Query

/-- The queries of an interrogation, in order, if the device has the endpoints. -/
def Query.sequence (ids : List UInt8) : List Query :=
  [.basics, .node, .endpoints] ++ ids.map .endpoint

/-- Whether the deeds are those of queries that have been answered one after the other. -/
def Answers (timeouts : Timeouts) (address : String) :
    List ((query : Query) × query.Answer) → List Deed → Prop
  | [], deeds => deeds = []
  | ⟨query, answer⟩ :: rest, deeds =>
    ∃ front back, deeds = front ++ back ∧ (query.call timeouts address).Yields front (.ok answer) ∧
      Answers timeouts address rest back

/-- Whether the deeds are those of the first of the queries, of which the last one has
failed. -/
def FailsAt (timeouts : Timeouts) (address : String) (queries : List Query) (query : Query)
    (source : Failure) (deeds : List Deed) : Prop :=
  ∃ answered rest front back, answered.map (·.1) ++ query :: rest = queries ∧
    deeds = front ++ back ∧ Answers timeouts address answered front ∧
      (query.call timeouts address).Yields back (.error source)

variable {timeouts : Timeouts} {address : String} {deeds : List Deed} {query : Query}

theorem answers_single (query : Query) {answer : query.Answer}
    (h : (query.call timeouts address).Yields deeds (.ok answer)) :
    Answers timeouts address [⟨query, answer⟩] deeds :=
  ⟨deeds, [], (List.append_nil _).symm, h, rfl⟩

theorem Answers.append {first second : List ((query : Query) × query.Answer)} {more : List Deed}
    (h : Answers timeouts address first deeds) (later : Answers timeouts address second more) :
    Answers timeouts address (first ++ second) (deeds ++ more) := by
  induction first generalizing deeds with
  | nil =>
    obtain rfl := h
    exact later
  | cons reply rest ih =>
    obtain ⟨front, back, rfl, answered, behind⟩ := h
    exact ⟨front, back ++ more, List.append_assoc .., answered, ih behind⟩

theorem failsAt_first {rest : List Query} {source : Failure}
    (h : (query.call timeouts address).Yields deeds (.error source)) :
    FailsAt timeouts address (query :: rest) query source deeds :=
  ⟨[], rest, [], deeds, rfl, rfl, rfl, h⟩

theorem FailsAt.behind {answered : List ((query : Query) × query.Answer)} {queries : List Query}
    {source : Failure} {more : List Deed} (answers : Answers timeouts address answered deeds)
    (h : FailsAt timeouts address queries query source more) :
    FailsAt timeouts address (answered.map (·.1) ++ queries) query source (deeds ++ more) := by
  obtain ⟨between, rest, front, back, rfl, rfl, fine, failed⟩ := h
  refine ⟨answered ++ between, rest, deeds ++ front, back, ?_, ?_, answers.append fine, failed⟩
  · rw [List.map_append, List.append_assoc]
  · rw [List.append_assoc]

/-- Whether the answer has been delivered as one to the query. Messages to devices have
confirmations and replies of their own. -/
def Query.Told (address : String) (deeds : List Deed) : (query : Query) → query.Answer → Prop
  | basics, _ => True
  | node, descriptor =>
    Delivered deeds .zdoNodeDescRsp descriptor ∧ descriptor.subject = address
  | endpoints, list => Delivered deeds .zdoActiveEpRsp list ∧ list.subject = address
  | endpoint id, descriptor =>
    Delivered deeds .zdoSimpleDescRsp descriptor ∧ descriptor.endpoint.id = id.toBitVec

theorem Query.Told.mono {answer : query.Answer} {more : List Deed}
    (h : query.Told address deeds answer) (subset : deeds ⊆ more) :
    query.Told address more answer := by
  cases query with
  | basics => trivial
  | node | endpoints | endpoint id => exact ⟨h.1.mono subset, h.2⟩

theorem told_of_yields {answer : query.Answer} (heard : Heard deeds)
    (h : (query.call timeouts address).Yields deeds (.ok answer)) :
    query.Told address deeds answer := by
  cases query with
  | basics => trivial
  | node =>
    obtain ⟨delivered, accepted⟩ := delivered_of_answered heard h
    exact ⟨delivered, beq_iff_eq.mp accepted⟩
  | endpoints =>
    obtain ⟨delivered, accepted⟩ := delivered_of_answered heard h
    exact ⟨delivered, beq_iff_eq.mp accepted⟩
  | endpoint id =>
    obtain ⟨delivered, accepted⟩ := delivered_of_answered heard h
    exact ⟨delivered, beq_iff_eq.mp (Bool.and_eq_true_iff.mp accepted).2⟩

theorem told_of_answers {replies : List ((query : Query) × query.Answer)} (heard : Heard deeds)
    (h : Answers timeouts address replies deeds) :
    ∀ reply ∈ replies, reply.1.Told address deeds reply.2 := by
  induction replies generalizing deeds with
  | nil => simp
  | cons reply rest ih =>
    obtain ⟨front, back, rfl, answered, behind⟩ := h
    refine List.forall_mem_cons.mpr ⟨?_, fun other member => ?_⟩
    · exact (told_of_yields heard.left answered).mono (List.subset_append_left _ _)
    · exact (ih heard.right behind other member).mono (List.subset_append_right _ _)

/-! ### Interrogations -/

theorem yields_step {α : Type} {name : String} {query : Call α} {result : Except Failure α}
    (h : (step name query).Yields deeds result) :
    (∃ answer, query.Yields deeds (.ok answer) ∧ result = .ok answer) ∨
      ∃ source, query.Yields deeds (.error source) ∧
        result = .error (.interrogation name source) := by
  obtain answered | ⟨front, source, back, rfl, failed, later⟩ := Call.Yields.tryCatch h
  · exact .inl answered
  · obtain ⟨rfl, rfl⟩ := Call.Yields.throw later
    exact .inr ⟨source, by rwa [List.append_nil], rfl⟩

/-- A query that is a step of its own is answered, or fails under its name. -/
theorem yields_query (query : Query) {α : Type} {f : query.Answer → Call α}
    {result : Except Failure α}
    (h : (step query.name (query.call timeouts address) >>= f).Yields deeds result) :
    (∃ source, (query.call timeouts address).Yields deeds (.error source) ∧
      result = .error (.interrogation query.name source)) ∨
    ∃ front answer back, deeds = front ++ back ∧
      Answers timeouts address [⟨query, answer⟩] front ∧ (f answer).Yields back result := by
  obtain ⟨_, asked, rfl⟩ | ⟨front, answer, back, rfl, asked, later⟩ := Call.Yields.bind h
  · obtain ⟨_, -, ⟨⟩⟩ | ⟨source, failed, ⟨⟩⟩ := yields_step asked
    exact .inl ⟨source, failed, rfl⟩
  · obtain ⟨_, answered, ⟨⟩⟩ | ⟨_, -, ⟨⟩⟩ := yields_step asked
    exact .inr ⟨front, answer, back, rfl, answers_single query answered, later⟩

/-- The first query is made in two steps of the same name. -/
theorem yields_basics {α : Type}
    {f : GlobalKind.readAttributesResponse.layout.Carrier → PowerSource → Call α}
    {result : Except Failure α}
    (h : Call.Yields (do
      let answer ← step Query.basics.name (readAttributes timeouts address basicCluster
        [manufacturerName, modelName, powerSourceAttribute])
      let source ← step Query.basics.name
        (Call.check (powerSourceOf ⟨.readAttributesResponse, answer⟩))
      f answer source) deeds result) :
    (∃ source, (Query.basics.call timeouts address).Yields deeds (.error source) ∧
      result = .error (.interrogation Query.basics.name source)) ∨
    ∃ front answer back, deeds = front ++ back ∧
      Answers timeouts address [⟨.basics, answer⟩] front ∧
      (f answer.1 answer.2).Yields back result := by
  obtain ⟨_, asked, rfl⟩ | ⟨front, answer, deeds, rfl, asked, later⟩ := Call.Yields.bind h
  · obtain ⟨_, -, ⟨⟩⟩ | ⟨source, failed, ⟨⟩⟩ := yields_step asked
    exact .inl ⟨source, Call.Yields.bind_error failed, rfl⟩
  obtain ⟨_, told, ⟨⟩⟩ | ⟨_, -, ⟨⟩⟩ := yields_step asked
  obtain ⟨_, asked, rfl⟩ | ⟨_, source, back, rfl, asked, goes⟩ := Call.Yields.bind later
  · obtain ⟨_, -, ⟨⟩⟩ | ⟨source, failed, ⟨⟩⟩ := yields_step asked
    exact .inl ⟨source, Call.Yields.bind_ok told (Call.Yields.bind_error failed), rfl⟩
  · obtain ⟨_, checked, ⟨⟩⟩ | ⟨_, -, ⟨⟩⟩ := yields_step asked
    have both : (Query.basics.call timeouts address).Yields _ (.ok (answer, source)) :=
      Call.Yields.bind_ok told (Call.Yields.bind_ok checked (Call.yields_pure (answer, source)))
    obtain ⟨rfl, -⟩ := Call.Yields.check checked
    rw [List.append_nil, List.append_nil] at both
    exact .inr ⟨front, (answer, source), back, rfl, answers_single .basics both, goes⟩

theorem yields_interrogateEndpoint {id : UInt8} {result : Except Failure Endpoint}
    (h : (interrogateEndpoint timeouts address id).Yields deeds result) :
    (∃ answer : EndpointDescriptor,
      ((Query.endpoint id).call timeouts address).Yields deeds (.ok answer) ∧
        result = .ok answer.endpoint) ∨
    ∃ source, ((Query.endpoint id).call timeouts address).Yields deeds (.error source) ∧
      result = .error (.interrogation (Query.endpoint id).name source) := by
  obtain ⟨_, asked, rfl⟩ | ⟨front, answer, _, rfl, asked, returns⟩ := Call.Yields.bind h
  · obtain ⟨_, -, ⟨⟩⟩ | ⟨source, failed, ⟨⟩⟩ := yields_step asked
    exact .inr ⟨source, failed, rfl⟩
  · obtain ⟨rfl, rfl⟩ := Call.Yields.pure returns
    obtain ⟨_, answered, ⟨⟩⟩ | ⟨_, -, ⟨⟩⟩ := yields_step asked
    exact .inl ⟨answer, by rwa [List.append_nil], rfl⟩

/-- The replies of endpoints. -/
def endpointReplies (descriptors : List (UInt8 × EndpointDescriptor)) :
    List ((query : Query) × query.Answer) :=
  descriptors.map fun (id, descriptor) => ⟨.endpoint id, descriptor⟩

/-- The endpoints are asked one after the other. -/
theorem yields_interrogateEndpoints_loop {ids : List UInt8} {found : List Endpoint}
    {result : Except Failure (List Endpoint)}
    (h : Call.Yields (List.mapM.loop (interrogateEndpoint timeouts address) ids found) deeds
      result) :
    (∃ descriptors, Answers timeouts address (endpointReplies descriptors) deeds ∧
      descriptors.map (·.1) = ids ∧
      result = .ok (found.reverse ++ descriptors.map (·.2.endpoint))) ∨
    ∃ query source, FailsAt timeouts address (ids.map .endpoint) query source deeds ∧
      result = .error (.interrogation query.name source) := by
  induction ids generalizing found deeds with
  | nil =>
    obtain ⟨rfl, rfl⟩ := Call.Yields.pure h
    exact .inl ⟨[], rfl, rfl, by rw [List.map_nil, List.append_nil]⟩
  | cons id rest ih =>
    obtain ⟨_, asked, rfl⟩ | ⟨front, endpoint, back, rfl, asked, later⟩ := Call.Yields.bind h
    · obtain ⟨_, -, ⟨⟩⟩ | ⟨source, failed, ⟨⟩⟩ := yields_interrogateEndpoint asked
      exact .inr ⟨.endpoint id, source, failsAt_first failed, rfl⟩
    · obtain ⟨descriptor, answered, ⟨⟩⟩ | ⟨_, -, ⟨⟩⟩ := yields_interrogateEndpoint asked
      have single := answers_single (.endpoint id) answered
      obtain ⟨descriptors, answers, rfl, rfl⟩ | ⟨query, source, fails, rfl⟩ := ih later
      · refine .inl ⟨(id, descriptor) :: descriptors, single.append answers, rfl, ?_⟩
        rw [List.reverse_cons, List.append_assoc]
        rfl
      · exact .inr ⟨query, source, fails.behind single, rfl⟩

/-- The record that the answers make. -/
def Announcement.record (a : Announcement) (basics : Basics) (node : NodeDescriptor)
    (endpoints : List Endpoint) : Device :=
  let answer : GlobalCommand := ⟨.readAttributesResponse, basics.1⟩
  { ieeeAddress := a.ieeeAddress
    networkAddress := a.networkAddress
    manufacturer := textOf answer manufacturerName
    manufacturerId := node.manufacturer
    model := textOf answer modelName
    logicalType := node.logicalType
    mainPowered := a.mainPowered
    powerSource := basics.2
    endpoints }

/-- The replies of a complete interrogation. -/
def allReplies (basics : Basics) (node : NodeDescriptor) (list : EndpointList)
    (descriptors : List (UInt8 × EndpointDescriptor)) : List ((query : Query) × query.Answer) :=
  [⟨.basics, basics⟩, ⟨.node, node⟩, ⟨.endpoints, list⟩] ++ endpointReplies descriptors

/-- An interrogation makes the record of all the answers, or fails as the first query that
fails. -/
theorem yields_interrogate {a : Announcement} {result : Except Failure Device}
    (h : (interrogate timeouts a).Yields deeds result) :
    (∃ basics node list descriptors,
      Answers timeouts a.networkAddress (allReplies basics node list descriptors) deeds ∧
      descriptors.map (·.1) = list.ids ∧
      result = .ok (a.record basics node (descriptors.map (·.2.endpoint)))) ∨
    ∃ ids query source, FailsAt timeouts a.networkAddress (Query.sequence ids) query source deeds ∧
      result = .error (.interrogation query.name source) := by
  obtain ⟨source, failed, rfl⟩ | ⟨_, basics, _, rfl, first, h⟩ := yields_basics h
  · exact .inr ⟨[], .basics, source, failsAt_first failed, rfl⟩
  obtain ⟨source, failed, rfl⟩ | ⟨_, node, _, rfl, second, h⟩ := yields_query .node h
  · exact .inr ⟨[], .node, source, (failsAt_first failed).behind first, rfl⟩
  obtain ⟨source, failed, rfl⟩ | ⟨_, list, _, rfl, third, h⟩ := yields_query .endpoints h
  · exact .inr ⟨[], .endpoints, source, ((failsAt_first failed).behind second).behind first, rfl⟩
  obtain ⟨_, asked, rfl⟩ | ⟨_, endpoints, _, rfl, asked, h⟩ := Call.Yields.bind h
  · obtain ⟨_, -, -, ⟨⟩⟩ | ⟨query, source, fails, ⟨⟩⟩ := yields_interrogateEndpoints_loop asked
    exact .inr ⟨list.ids, query, source, ((fails.behind third).behind second).behind first, rfl⟩
  · obtain ⟨rfl, rfl⟩ := Call.Yields.pure h
    obtain ⟨descriptors, answers, ids, ⟨⟩⟩ | ⟨_, _, -, ⟨⟩⟩ := yields_interrogateEndpoints_loop asked
    refine .inl ⟨basics, node, list, descriptors, ?_, ids, rfl⟩
    rw [List.append_nil]
    exact first.append (second.append (third.append answers))

/-! ### Registrations -/

/-- A device is kept, and if that goes well the owner is told. -/
theorem yields_keep {d : Device} {news : DeviceNews} {result : Except Failure Unit}
    (h : Call.Yields (Call.insert d >>= fun _ => Call.publish news) deeds result) :
    (∃ e, deeds = [⟨.insert d, .error e⟩] ∧ result = .error e) ∨
      deeds = [⟨.insert d, .ok ()⟩, ⟨.publish news, result⟩] := by
  obtain ⟨e, kept, rfl⟩ | ⟨_, _, _, rfl, kept, told⟩ := Call.Yields.bind h
  · obtain ⟨_, _, rfl, rfl, rfl⟩ := kept
    exact .inl ⟨e, rfl, rfl⟩
  · obtain ⟨_, _, rfl, rfl, rfl⟩ := kept
    obtain ⟨_, _, rfl, rfl, rfl⟩ := told
    exact .inr rfl

/-- A registration looks for the device. A known one is kept with its new address; another one
is interrogated, and kept if that goes well. -/
theorem yields_register {a : Announcement} {result : Except Failure Unit}
    (h : (register timeouts a).Yields deeds result) :
    (∃ (known : Device) (rest : List Deed),
      deeds = ⟨.device a.ieeeAddress, some known⟩ :: rest ∧
      Call.Yields (Call.insert { known with networkAddress := a.networkAddress } >>= fun _ =>
        Call.publish (.becameAvailable { known with networkAddress := a.networkAddress }))
        rest result) ∨
    ∃ rest, deeds = ⟨.device a.ieeeAddress, none⟩ :: rest ∧
      ((∃ e, (interrogate timeouts a).Yields rest (.error e) ∧ result = .error e) ∨
        ∃ d front back, rest = front ++ back ∧ (interrogate timeouts a).Yields front (.ok d) ∧
          Call.Yields (Call.insert d >>= fun _ => Call.publish (.registered d)) back result) := by
  obtain ⟨found, rest, rfl, later⟩ := h
  cases found with
  | some known => exact .inl ⟨known, rest, rfl, later⟩
  | none =>
    refine .inr ⟨rest, rfl, ?_⟩
    obtain failed | ⟨front, d, back, rfl, asked, kept⟩ := Call.Yields.bind later
    · exact .inl failed
    · exact .inr ⟨d, front, back, rfl, asked, kept⟩

end Zigbee.Host
