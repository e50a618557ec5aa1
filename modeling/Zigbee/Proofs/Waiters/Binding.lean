import Zigbee.Proofs.Waiters.Inquiries

/-!
# How a binding proceeds

A call that makes or removes a binding registers a waiter, asks the radio, and waits if the
radio takes the request; otherwise it gives the waiter up and perhaps starts again. So what
it has done so far, its deeds, tells where it stands, and where it stands tells what it does
next: `keeps_call`. While no wait ends without its indication the radio takes only one
request, and the status that has been waited for is what the call reports.
-/

namespace Zigbee.Host

open Cluster Radio Settings Wire

/-- Whether the answer is that the radio has taken a binding request. -/
def Effect.isGranted : (effect : Effect) → effect.Answer → Bool
  | .request .zdoBindReq _, .ok (status, ()) => Status.isSuccess status
  | .request .zdoUnbindReq _, .ok (status, ()) => Status.isSuccess status
  | _, _ => false

/-- Where a call for a binding stands. -/
inductive Position where
  /-- Between attempts. -/
  | idle
  /-- A waiter has been registered. -/
  | registered (waiter : Nat)
  /-- The radio has not taken the request. -/
  | refused (waiter : Nat)
  /-- The radio has taken the request. -/
  | granted (waiter : Nat)
  /-- The waiter has been completed with a status. -/
  | taken (waiter : Nat) (status : Status)
  /-- The waiter has been forgotten after that. -/
  | left (waiter : Nat) (status : Status)
  /-- Something else has happened. -/
  | astray

namespace Position

/-- The position after one more deed. -/
def next : Position → Deed → Position
  | idle, ⟨.register _, waiter⟩ => registered waiter
  | registered waiter, ⟨.request kind fields, answer⟩ =>
    if (Effect.request kind fields).isGranted answer then granted waiter else refused waiter
  | refused _, ⟨.dismiss _, _⟩ => idle
  | granted waiter, ⟨.await _ .zdoBindRsp _, .ok (_, status, _)⟩ => taken waiter status
  | granted waiter, ⟨.await _ .zdoUnbindRsp _, .ok (_, status, _)⟩ => taken waiter status
  | taken waiter status, ⟨.dismiss _, _⟩ => left waiter status
  | _, _ => astray

/-- The position after the deeds of a call. -/
def after (deeds : List Deed) : Position := deeds.foldl next idle

@[simp] theorem after_concat (deeds : List Deed) (deed : Deed) :
    after (deeds ++ [deed]) = (after deeds).next deed :=
  List.foldl_concat ..

@[simp] theorem next_astray (deed : Deed) : astray.next deed = astray := by
  unfold next
  rfl

/-- The waiter that the call has or had last. -/
def waiter? : Position → Option Nat
  | registered waiter | granted waiter | taken waiter _ | left waiter _ => some waiter
  | idle | refused _ | astray => none

end Position

/-- A call for a binding. -/
inductive Binding where
  | bind (fields : RequestKind.zdoBindReq.layout.Carrier)
  | unbind (fields : RequestKind.zdoUnbindReq.layout.Carrier)

namespace Binding

variable (binding : Binding)

/-- The call as one that concerns a device. -/
def inquiry : Binding → Inquiry
  | bind fields => .bind fields
  | unbind fields => .unbind fields

/-- The call. -/
def call (timeouts : Timeouts) : Binding → Call Unit
  | bind fields => Host.bind timeouts fields
  | unbind fields => Host.unbind timeouts fields

/-- The text of the address of the device. -/
def destination : String := binding.inquiry.address

/-- The kind of the answer. -/
def kind : IndicationKind := binding.inquiry.answerKind

/-- What the call waits for. -/
def pattern : Pattern := binding.inquiry.pattern

/-- The answer of a device. -/
def answer (source : String) (status : Status) : Binding → Indication
  | bind _ => ⟨.zdoBindRsp, (source, status, ())⟩
  | unbind _ => ⟨.zdoUnbindRsp, (source, status, ())⟩

variable {binding}

theorem admits_iff {i : Indication} :
    binding.pattern.Admits i ↔ ∃ status, i = binding.answer binding.destination status := by
  obtain ⟨kind, fields⟩ := i
  constructor
  · rintro ⟨same, accepted⟩
    obtain rfl : kind = binding.inquiry.answerKind := same
    obtain ⟨own, -⟩ := Inquiry.accepts_iff.mp accepted
    cases binding with
    | bind asked | unbind asked =>
      obtain ⟨source, status, ⟨⟩⟩ := fields
      obtain rfl : source = _ := own
      exact ⟨status, rfl⟩
  · rintro ⟨status, same⟩
    cases binding with
    | bind asked | unbind asked =>
      cases same
      obtain ⟨destination, rest⟩ := asked
      exact ⟨rfl, beq_self_eq_true destination⟩

/-- Answers of one kind do not tell apart what they answer. -/
theorem answer_of_kind {other : Binding} (same : binding.kind = other.kind) (source : String)
    (status : Status) : binding.answer source status = other.answer source status := by
  cases binding <;> cases other <;> first | rfl | cases same

/-- What the call does at a position. -/
def Does (binding : Binding) : Position → Effect → Prop
  | .idle, effect => effect = .register binding.pattern
  | .registered _, effect =>
    effect = .request binding.inquiry.requestKind binding.inquiry.request
  | .granted waiter, effect => ∃ limit, effect = .await waiter binding.kind limit
  | .refused waiter, effect | .taken waiter _, effect => effect = .dismiss waiter
  | .left _ _, _ => False
  | .astray, _ => True

/-- What the call ends with at a position. -/
def Ends : Position → Except Failure Unit → Prop
  | .idle, result => ∃ e, result = .error e
  | .left _ status, result => result = Failure.checkStatus status
  | .astray, _ => True
  | _, _ => False

/-- A call goes on by its position. -/
abbrev KeptBy (binding : Binding) (deeds : List Deed) (c : Call Unit) : Prop :=
  c.Keeps (fun deeds => binding.Does (.after deeds)) (fun deeds => Ends (.after deeds)) deeds

/-- The status that the radio responds with. -/
def response : (binding : Binding) → binding.inquiry.requestKind.answer.Carrier → Status
  | bind _ => (·.1)
  | unbind _ => (·.1)

/-- The status that the device answers with. -/
def verdict : (binding : Binding) → binding.kind.layout.Carrier → Status
  | bind _ => (·.2.1)
  | unbind _ => (·.2.1)

theorem isGranted_ok (response : binding.inquiry.requestKind.answer.Carrier) :
    (Effect.request binding.inquiry.requestKind binding.inquiry.request).isGranted (.ok response) =
      Status.isSuccess (binding.response response) := by
  cases binding <;> rfl

theorem isGranted_error (e : Failure) :
    (Effect.request binding.inquiry.requestKind binding.inquiry.request).isGranted (.error e) =
      false := by
  cases binding <;> rfl

theorem isGranted_granting :
    (Effect.request binding.inquiry.requestKind binding.inquiry.request).isGranted
      (granting (.request binding.inquiry.requestKind binding.inquiry.request)) = true := by
  cases binding <;> rfl

theorem isGranted_quiet :
    (Effect.request binding.inquiry.requestKind binding.inquiry.request).isGranted
      (quiet (.request binding.inquiry.requestKind binding.inquiry.request)) = false :=
  isGranted_error _

theorem next_await_ok (waiter limit : Nat) (content : binding.kind.layout.Carrier) :
    (Position.granted waiter).next ⟨.await waiter binding.kind limit, .ok content⟩ =
      .taken waiter (binding.verdict content) := by
  cases binding <;> rfl

theorem next_await_error (waiter limit : Nat) (e : Failure) :
    (Position.granted waiter).next ⟨.await waiter binding.kind limit, .error e⟩ = .astray := by
  cases binding <;> rfl

/-- The position behind a wait for the answer of a device. -/
theorem next_taken {waiter limit : Nat} (source : String) (status : Status) :
    (Position.granted waiter).next ⟨.await waiter binding.kind limit,
      State.contentOf binding.kind (binding.answer source status)⟩ = .taken waiter status := by
  cases binding <;> rfl

/-- Nothing is said of a call that has gone astray. -/
theorem keeps_of_astray {α : Type} {R : List Deed → α → Prop} {deeds : List Deed} {p : Program α}
    (astray : Position.after deeds = .astray)
    (any : ∀ deeds result, Position.after deeds = .astray → R deeds result) :
    p.Keeps (fun deeds => binding.Does (.after deeds)) R deeds := by
  induction p generalizing deeds with
  | done result => exact any deeds result astray
  | perform effect next ih =>
    constructor
    · show binding.Does (Position.after deeds) effect
      rw [astray]
      trivial
    · exact fun answer => ih answer (by rw [Position.after_concat, astray, Position.next_astray])

/-- How an attempt ends. -/
inductive Attempted (binding : Binding) :
    Position → Except Failure binding.kind.layout.Carrier → Prop where
  | failed (e : Failure) : Attempted binding .idle (.error e)
  | answered (waiter : Nat) (content : binding.kind.layout.Carrier) :
      Attempted binding (.left waiter (binding.verdict content)) (.ok content)
  | astray (result : Except Failure binding.kind.layout.Carrier) : Attempted binding .astray result

theorem keeps_requestChecked {deeds : List Deed} {waiter : Nat}
    (registered : Position.after deeds = .registered waiter) :
    (requestChecked binding.inquiry.requestKind binding.inquiry.request binding.response).Keeps
      (fun deeds => binding.Does (.after deeds))
      (fun deeds result => (∃ e, result = .error e ∧ Position.after deeds = .refused waiter) ∨
        result = .ok () ∧ Position.after deeds = .granted waiter) deeds := by
  refine Call.Keeps.bind (Call.Keeps.request (by rw [registered]; rfl) (R := fun deeds' result =>
    deeds' = deeds ++ [⟨.request binding.inquiry.requestKind binding.inquiry.request, result⟩])
    fun _ => rfl) ?_ ?_
  · rintro _ e rfl
    refine .inl ⟨e, rfl, ?_⟩
    rw [Position.after_concat, registered, Position.next, isGranted_error]
    rfl
  · rintro _ response rfl
    refine .check ?_
    rw [Position.after_concat, registered, Position.next, isGranted_ok, Failure.checkStatus]
    cases Status.isSuccess (binding.response response) with
    | true => exact .inr ⟨rfl, rfl⟩
    | false => exact .inl ⟨_, rfl, rfl⟩

theorem keeps_attempt {deeds : List Deed} (limit : Nat)
    (begun : Position.after deeds = .idle ∨ Position.after deeds = .astray) :
    (Call.withWaiter binding.pattern fun waiter => do
      requestChecked binding.inquiry.requestKind binding.inquiry.request binding.response
      Call.await waiter binding.pattern.kind limit).Keeps
      (fun deeds => binding.Does (.after deeds))
      (fun deeds => binding.Attempted (.after deeds)) deeds := by
  obtain idle | astray := begun
  swap
  · exact keeps_of_astray astray fun deeds result astray => astray ▸ .astray result
  refine Call.Keeps.withWaiter (by rw [idle]; rfl) fun waiter => ?_
  have registered : Position.after (deeds ++ [⟨.register binding.pattern, waiter⟩]) =
      .registered waiter := by
    rw [Position.after_concat, idle]
    rfl
  refine Call.Keeps.bind (keeps_requestChecked registered) ?_ ?_
  · rintro deeds' e (⟨_, ⟨⟩, refused⟩ | ⟨⟨⟩, -⟩)
    rw [Position.after_concat, refused]
    exact ⟨rfl, .failed e⟩
  · rintro deeds' ⟨⟩ (⟨_, ⟨⟩, -⟩ | ⟨-, granted⟩)
    refine Call.Keeps.await (by rw [granted]; exact ⟨limit, rfl⟩) ?_
    rintro (e | content)
    · have astray : Position.after (deeds' ++ [⟨.await waiter binding.kind limit, .error e⟩]) =
          .astray := by
        rw [Position.after_concat, granted, next_await_error]
      refine ⟨show binding.Does (.after _) _ from astray ▸ trivial, ?_⟩
      rw [Position.after_concat, show Position.after (deeds' ++ _) = _ from astray]
      exact .astray _
    · have taken : Position.after (deeds' ++ [⟨.await waiter binding.kind limit, .ok content⟩]) =
          .taken waiter (binding.verdict content) := by
        rw [Position.after_concat, granted, next_await_ok]
      refine ⟨show binding.Does (.after _) _ from taken ▸ rfl, ?_⟩
      rw [Position.after_concat, show Position.after (deeds' ++ _) = _ from taken]
      exact .answered waiter content

theorem keeps_sendAndWait (policy : RetryPolicy) :
    (sendAndWait policy binding.pattern
      (requestChecked binding.inquiry.requestKind binding.inquiry.request binding.response)).Keeps
      (fun deeds => binding.Does (.after deeds))
      (fun deeds => binding.Attempted (.after deeds)) [] := by
  refine Call.Keeps.retry
    (fun deeds => Position.after deeds = .idle ∨ Position.after deeds = .astray)
    (fun deeds => keeps_attempt policy.milliseconds) ?_ _ (.inl rfl)
  rintro deeds e attempted -
  generalize Position.after deeds = position at attempted
  cases attempted with
  | failed => exact .inl rfl
  | astray => exact .inr rfl

/-- A call goes on by its position, and ends where its position says. -/
theorem keeps_call (binding : Binding) (timeouts : Timeouts) :
    binding.KeptBy [] (binding.call timeouts) := by
  have ends {deeds : List Deed} {result : Except Failure binding.kind.layout.Carrier}
      (attempted : binding.Attempted (.after deeds) result) :
      Ends (.after deeds) (result.bind fun content =>
        Failure.checkStatus (binding.verdict content)) := by
    generalize Position.after deeds = position at attempted
    cases attempted with
    | failed e => exact ⟨e, rfl⟩
    | answered waiter content => exact rfl
    | astray => exact trivial
  cases binding with
  | bind fields | unbind fields =>
    exact Call.Keeps.bind (keeps_sendAndWait timeouts.zdo) (fun _ _ => ends) fun _ _ attempted =>
      .check (ends attempted)

end Binding

end Zigbee.Host
