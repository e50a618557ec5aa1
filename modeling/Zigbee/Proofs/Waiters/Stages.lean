import Zigbee.Proofs.Waiters.Inquiries
import Zigbee.Proofs.Waiters.Replies

/-!
# How a message to a device proceeds

An attempt to send a frame to a device registers a waiter for the confirmation and one for the
reply, makes the request, asks the waiters for what they have got, one after the other, and
forgets them. So what has been done in it tells how far it is, its `Stage`, and the stage tells
what it does next: `governs_dataRequest`. If a part of it fails the call may try again, and
nothing more is said of it.
-/

namespace Zigbee.Host

open Cluster Radio Settings

/-! ### Attempts -/

section Attempt

variable (fields : RequestKind.afDataRequest.layout.Carrier)

/-- The text of the address of the device. -/
def destinationOf : RequestKind.afDataRequest.layout.Carrier → String
  | (destination, _) => destination

/-- The number of the transaction. -/
def transactionOf : RequestKind.afDataRequest.layout.Carrier → BitVec 8
  | (_, _, _, _, transaction, _) => transaction

/-- What the call waits for first. -/
def confirmationPattern : Pattern := Waiters.confirming (transactionOf fields)

/-- What the call waits for then. -/
def replyPattern : Pattern := (Inquiry.send fields).pattern

/-- A confirmation with the number. -/
def confirmationOf (status : Status) (endpoint : BitVec 8) : Indication :=
  ⟨.afDataConfirm, (status, endpoint, transactionOf fields, ())⟩

/-- One attempt to send the frame. -/
def transact (milliseconds : Nat) : Call IncomingMessage :=
  Call.withWaiter (confirmationPattern fields) fun confirmation =>
  Call.withWaiter (replyPattern fields) fun reply => do
    requestChecked .afDataRequest fields (·.1)
    let (status, _) ← Call.await confirmation .afDataConfirm milliseconds
    if Status.isSuccess status then
      return .ofFields (← Call.await reply .afIncomingMessage milliseconds)
    else throw (Failure.dataConfirm status)

variable {fields} {timeouts : Timeouts}

theorem dataRequest_eq : dataRequest timeouts fields =
    retry (transact fields timeouts.data.milliseconds) timeouts.data.retries := rfl

/-- A call goes on after an attempt that is worth another one like a call with a retry less. -/
theorem dataRequest_succ {milliseconds retries : Nat}
    (left : timeouts.data = ⟨milliseconds, retries + 1⟩) :
    dataRequest timeouts fields = tryCatch (transact fields milliseconds) fun e =>
      if e.isRetryable then dataRequest { timeouts with data := ⟨milliseconds, retries⟩ } fields
      else throw e := by
  rw [dataRequest_eq, left]
  rfl

theorem confirmationPattern_admits_iff {i : Indication} :
    (confirmationPattern fields).Admits i ↔
      ∃ status endpoint, i = confirmationOf fields status endpoint := by
  constructor
  · obtain ⟨kind, content⟩ := i
    rintro ⟨same, accepted⟩
    obtain rfl : kind = .afDataConfirm := same
    obtain ⟨status, endpoint, number, ⟨⟩⟩ := content
    obtain rfl : number = transactionOf fields := beq_iff_eq.mp accepted
    exact ⟨status, endpoint, rfl⟩
  · rintro ⟨status, endpoint, rfl⟩
    exact ⟨rfl, beq_self_eq_true (transactionOf fields)⟩

/-- What the waiter for the reply takes is a message. -/
theorem exists_delivery_of_admits {i : Indication} (admits : (replyPattern fields).Admits i) :
    ∃ m, i = delivery m := by
  obtain ⟨kind, content⟩ := i
  obtain ⟨same, -⟩ := admits
  obtain rfl : kind = .afIncomingMessage := same
  exact ⟨.ofFields content, rfl⟩

end Attempt

/-! ### How far an attempt is -/

/-- Whether the answer is that the radio takes the message. -/
def Effect.isTaken : (effect : Effect) → effect.Answer → Bool
  | .request .afDataRequest _, .ok (status, ()) => Status.isSuccess status
  | _, _ => false

/-- How far an attempt is. -/
inductive Stage where
  | begun
  /-- The waiter for the confirmation has been registered. -/
  | half (confirmation : Nat)
  /-- Both waiters have been registered. -/
  | registered (confirmation reply : Nat)
  /-- The radio has taken the request. -/
  | taken (confirmation reply : Nat)
  /-- The frame has been delivered. -/
  | confirmed (confirmation reply : Nat)
  /-- The frame has not been delivered, and what comes then is left open. -/
  | unconfirmed (confirmation : Nat)
  /-- The reply has come. -/
  | replied (confirmation reply : Nat) (m : IncomingMessage)
  /-- The waiter for the reply has been forgotten. -/
  | leaving (confirmation reply : Nat) (m : IncomingMessage)
  /-- Both waiters have been forgotten. -/
  | left (confirmation reply : Nat) (m : IncomingMessage)
  /-- Something else has happened. -/
  | astray

namespace Stage

/-- The stage after one more deed. -/
def next : Stage → Deed → Stage
  | begun, ⟨.register _, c⟩ => half c
  | half c, ⟨.register _, r⟩ => registered c r
  | registered c r, ⟨.request kind fields, answer⟩ =>
    if (Effect.request kind fields).isTaken answer then taken c r else astray
  | taken c r, ⟨.await _ .afDataConfirm _, .ok (status, _)⟩ =>
    if Status.isSuccess status then confirmed c r else unconfirmed c
  | confirmed c r, ⟨.await _ .afIncomingMessage _, .ok content⟩ => replied c r (.ofFields content)
  | replied c r m, ⟨.dismiss _, _⟩ => leaving c r m
  | leaving c r m, ⟨.dismiss _, _⟩ => left c r m
  | unconfirmed c, _ => unconfirmed c
  | _, _ => astray

/-- The stage after the deeds of an attempt. -/
def after (deeds : List Deed) : Stage := deeds.foldl next begun

@[simp] theorem after_concat (deeds : List Deed) (deed : Deed) :
    after (deeds ++ [deed]) = (after deeds).next deed :=
  List.foldl_concat ..

/-- Whether nothing more is said of the call. -/
def IsOpen : Stage → Prop
  | unconfirmed _ | astray => True
  | _ => False

/-- How many effects there are to come. -/
def remaining : Stage → Nat
  | begun => 7
  | half _ => 6
  | registered _ _ => 5
  | taken _ _ => 4
  | confirmed _ _ => 3
  | replied _ _ _ => 2
  | leaving _ _ _ => 1
  | left _ _ _ | unconfirmed _ | astray => 0

/-- What the call does at a stage. -/
def Does (fields : RequestKind.afDataRequest.layout.Carrier) : Stage → Effect → Prop
  | begun, effect => effect = .register (confirmationPattern fields)
  | half _, effect => effect = .register (replyPattern fields)
  | registered _ _, effect => effect = .request .afDataRequest fields
  | taken c _, effect => ∃ limit, effect = .await c .afDataConfirm limit
  | confirmed _ r, effect => ∃ limit, effect = .await r .afIncomingMessage limit
  | replied _ r _, effect => effect = .dismiss r
  | leaving c _ _, effect => effect = .dismiss c
  | left _ _ _, _ => False
  | unconfirmed _, _ | astray, _ => True

/-- What the call ends with at a stage. -/
def Ends : Stage → Except Failure IncomingMessage → Prop
  | left _ _ m, result => result = .ok m
  | unconfirmed _, _ | astray, _ => True
  | _, _ => False

variable {fields : RequestKind.afDataRequest.layout.Carrier} {stage : Stage}

theorem IsOpen.next (h : stage.IsOpen) (deed : Deed) : (stage.next deed).IsOpen := by
  cases stage with
  | unconfirmed | astray =>
    unfold Stage.next
    exact trivial
  | _ => exact h.elim

theorem IsOpen.does (h : stage.IsOpen) (effect : Effect) : stage.Does fields effect := by
  cases stage with
  | unconfirmed | astray => exact trivial
  | _ => exact h.elim

theorem IsOpen.ends (h : stage.IsOpen) (result : Except Failure IncomingMessage) :
    stage.Ends result := by
  cases stage with
  | unconfirmed | astray => exact trivial
  | _ => exact h.elim

/-- Each effect takes the call further. -/
theorem remaining_next {effect : Effect} (answer : effect.Answer)
    (does : stage.Does fields effect) (closed : ¬ stage.IsOpen) :
    (stage.next ⟨effect, answer⟩).remaining < stage.remaining := by
  cases stage with
  | begun | half | replied | leaving =>
    obtain rfl := does
    exact Nat.lt_succ_self _
  | registered c r =>
    obtain rfl := does
    rw [next]
    split
    · exact Nat.lt_succ_self _
    · exact Nat.succ_pos _
  | taken c r =>
    obtain ⟨limit, rfl⟩ := does
    obtain e | ⟨status, content⟩ := answer
    · exact Nat.succ_pos _
    · rw [next]
      split
      · exact Nat.lt_succ_self _
      · exact Nat.succ_pos _
  | confirmed c r =>
    obtain ⟨limit, rfl⟩ := does
    cases answer with
    | error e => exact Nat.succ_pos _
    | ok content => exact Nat.lt_succ_self _
  | left c r m => exact does.elim
  | unconfirmed | astray => exact absurd trivial closed

/-! ### What an attempt does -/

/-- Whether the call goes on by its stage. -/
abbrev Governs (fields : RequestKind.afDataRequest.layout.Carrier) {α : Type}
    (R : List Deed → Except Failure α → Prop) (deeds : List Deed) (c : Call α) : Prop :=
  c.Keeps (fun deeds => (after deeds).Does fields) R deeds

/-- Whether both waiters can be forgotten then, and the result be given. -/
structure Closes (fields : RequestKind.afDataRequest.layout.Carrier) (c r : Nat)
    (deeds : List Deed) (result : Except Failure IncomingMessage) : Prop where
  reply : (after deeds).Does fields (.dismiss r)
  confirmation : (after (deeds ++ [⟨.dismiss r, ()⟩])).Does fields (.dismiss c)
  ends : (after ((deeds ++ [⟨.dismiss r, ()⟩]) ++ [⟨.dismiss c, ()⟩])).Ends result

variable {deeds : List Deed} {c r : Nat} {result : Except Failure IncomingMessage}

theorem closes_of_isOpen (h : (after deeds).IsOpen) : Closes fields c r deeds result := by
  have forgotten : (after (deeds ++ [⟨.dismiss r, ()⟩])).IsOpen := after_concat .. ▸ h.next _
  exact ⟨h.does _, forgotten.does _, after_concat .. ▸ (forgotten.next _).ends _⟩

theorem closes_of_replied {m : IncomingMessage} (replied : after deeds = .replied c r m) :
    Closes fields c r deeds (.ok m) := by
  have leaving : after (deeds ++ [⟨.dismiss r, ()⟩]) = .leaving c r m := by
    rw [after_concat, replied]
    rfl
  refine ⟨by rw [replied]; rfl, by rw [leaving]; rfl, ?_⟩
  rw [after_concat, leaving]
  rfl

theorem isTaken_ok (response : RequestKind.afDataRequest.answer.Carrier) :
    (Effect.request .afDataRequest fields).isTaken (.ok response) =
      Status.isSuccess response.1 := rfl

theorem governs_requestChecked (registered : after deeds = .registered c r) :
    Governs fields (fun deeds result => (∃ e, result = .error e ∧ (after deeds).IsOpen) ∨
      result = .ok () ∧ after deeds = .taken c r) deeds
      (requestChecked .afDataRequest fields (·.1)) := by
  refine Call.Keeps.bind (Call.Keeps.request (by rw [registered]; rfl) (R := fun deeds' result =>
    deeds' = deeds ++ [⟨.request .afDataRequest fields, result⟩]) fun _ => rfl) ?_ ?_
  · rintro _ e rfl
    refine .inl ⟨e, rfl, ?_⟩
    rw [after_concat, registered]
    exact trivial
  · rintro _ response rfl
    refine .check ?_
    rw [after_concat, registered, Stage.next, isTaken_ok, Failure.checkStatus]
    cases Status.isSuccess response.1 with
    | true => exact .inr ⟨rfl, rfl⟩
    | false => exact .inl ⟨_, rfl, trivial⟩

theorem governs_awaitReply {milliseconds : Nat} (confirmed : after deeds = .confirmed c r) :
    Governs fields (Closes fields c r) deeds
      (do return .ofFields (← Call.await r .afIncomingMessage milliseconds)) := by
  refine Call.Keeps.bind (Call.Keeps.await (by rw [confirmed]; exact ⟨_, rfl⟩)
    (R := fun deeds (result : Except Failure IndicationKind.afIncomingMessage.layout.Carrier) =>
      match result with
      | .error _ => (after deeds).IsOpen
      | .ok content => after deeds = .replied c r (.ofFields content)) ?_) ?_ ?_
  · rintro (e | content)
    · rw [after_concat, confirmed]
      exact trivial
    · dsimp only
      rw [after_concat, confirmed]
      rfl
  · exact fun deeds e isOpen => closes_of_isOpen isOpen
  · exact fun deeds content replied => .pure (closes_of_replied replied)

theorem governs_awaitBoth {milliseconds : Nat} (taken : after deeds = .taken c r) :
    Governs fields (Closes fields c r) deeds (do
      let (status, _) ← Call.await c .afDataConfirm milliseconds
      if Status.isSuccess status then
        return .ofFields (← Call.await r .afIncomingMessage milliseconds)
      else throw (Failure.dataConfirm status)) := by
  refine Call.Keeps.bind (Call.Keeps.await (by rw [taken]; exact ⟨_, rfl⟩)
    (R := fun deeds (result : Except Failure IndicationKind.afDataConfirm.layout.Carrier) =>
      match result with
      | .error _ => (after deeds).IsOpen
      | .ok (status, _) => if Status.isSuccess status then after deeds = .confirmed c r
        else (after deeds).IsOpen) ?_) ?_ ?_
  · rintro (e | ⟨status, content⟩)
    · rw [after_concat, taken]
      exact trivial
    · dsimp only
      rw [after_concat, taken, Stage.next]
      split
      · rfl
      · exact trivial
  · exact fun deeds e isOpen => closes_of_isOpen isOpen
  · rintro deeds ⟨status, content⟩ verdict
    dsimp only at verdict ⊢
    split
    · rename_i success
      exact governs_awaitReply ((if_pos success).mp verdict)
    · rename_i failure
      exact .throw (closes_of_isOpen ((if_neg failure).mp verdict))

/-- Nothing is said of a call that is open. -/
theorem governs_of_isOpen {p : Program (Except Failure IncomingMessage)}
    (h : (after deeds).IsOpen) :
    p.Keeps (fun deeds => (after deeds).Does fields) (fun deeds => (after deeds).Ends) deeds := by
  induction p generalizing deeds with
  | done result => exact h.ends result
  | perform effect next ih =>
    exact ⟨h.does effect, fun answer => ih answer (after_concat .. ▸ h.next _)⟩

/-- An attempt goes on by its stage, and ends as the stage says. -/
theorem governs_transact {milliseconds : Nat}
    (begun : after deeds = .begun ∨ (after deeds).IsOpen) :
    Governs fields (fun deeds => (after deeds).Ends) deeds (transact fields milliseconds) := by
  obtain begun | isOpen := begun
  swap
  · exact governs_of_isOpen isOpen
  refine Call.Keeps.withWaiter (by rw [begun]; rfl) fun c => ?_
  have half : after (deeds ++ [⟨.register (confirmationPattern fields), c⟩]) = .half c := by
    rw [after_concat, begun]
    rfl
  refine Call.Keeps.withWaiter (by rw [half]; rfl) fun r => ?_
  have registered : after ((deeds ++ [⟨.register (confirmationPattern fields), c⟩]) ++
      [⟨.register (replyPattern fields), r⟩]) = .registered c r := by
    rw [after_concat, half]
    rfl
  -- each way out of the attempt forgets both waiters
  refine Call.Keeps.mono (R := Closes fields c r) ?_ fun deeds result closes =>
    ⟨closes.reply, closes.confirmation, closes.ends⟩
  refine Call.Keeps.bind (governs_requestChecked registered) ?_ ?_
  · rintro deeds e (⟨-, -, isOpen⟩ | ⟨⟨⟩, -⟩)
    exact closes_of_isOpen isOpen
  · rintro deeds ⟨⟩ (⟨e, ⟨⟩, -⟩ | ⟨-, taken⟩)
    exact governs_awaitBoth taken

/-- A call goes on by its stage within its first attempt, and ends as the stage says. -/
theorem governs_dataRequest (timeouts : Timeouts) :
    Governs fields (fun deeds => (after deeds).Ends) [] (dataRequest timeouts fields) := by
  rw [dataRequest_eq]
  refine Call.Keeps.retry (fun deeds => after deeds = .begun ∨ (after deeds).IsOpen)
    (fun deeds => governs_transact) ?_ _ (.inl rfl)
  rintro deeds e ends -
  generalize after deeds = stage at ends
  cases stage with
  | unconfirmed | astray => exact .inr trivial
  | left => cases ends
  | _ => exact ends.elim

end Stage

end Zigbee.Host
