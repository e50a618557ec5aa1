import Zigbee.Host.Registration

/-!
# What programs do to devices

Only two effects concern the devices of the host: to keep a device, and to tell the owner.
A program is quiet if it performs neither, whatever the answers to its other effects.
Everything that the interrogation of a device is made of is quiet.
-/

/-- Whether a device did not answer as it should when it was interrogated. -/
def Zigbee.Failure.isInterrogation : Zigbee.Failure → Bool
  | .interrogation _ _ => true
  | _ => false

namespace Zigbee.Host

open Cluster Radio Settings

/-- Whether the effect neither keeps a device nor tells the owner. -/
def Effect.isQuiet : Effect → Bool
  | .insert _ | .publish _ => false
  | _ => true

/-- Whether the program is quiet and its results are as described. -/
def Program.Quiet {α : Type} (R : α → Prop) : Program α → Prop
  | .done result => R result
  | .perform effect next => effect.isQuiet = true ∧ ∀ answer, (next answer).Quiet R

theorem Program.Quiet.bind {α β : Type} {R : α → Prop} {S : β → Prop} {p : Program α}
    {f : α → Program β} (hp : p.Quiet R) (hf : ∀ a, R a → (f a).Quiet S) :
    (p.bind f).Quiet S := by
  induction p with
  | done a => exact hf a hp
  | perform effect next ih => exact ⟨hp.1, fun answer => ih answer (hp.2 answer)⟩

namespace Call

variable {α β : Type}

/-- Whether the call is quiet and its results are as described. -/
def Returns (R : Except Failure α → Prop) (c : Call α) : Prop := Program.Quiet R c

/-- Whether the call is quiet. -/
def IsQuiet (c : Call α) : Prop := c.Returns fun _ => True

variable {R : Except Failure α → Prop} {S : Except Failure β → Prop}

theorem Returns.bind {c : Call α} {f : α → Call β} (hc : c.Returns R)
    (error : ∀ e, R (.error e) → S (.error e)) (ok : ∀ a, R (.ok a) → (f a).Returns S) :
    (c >>= f).Returns S := by
  refine Program.Quiet.bind hc ?_
  rintro (e | a) result
  · exact error e result
  · exact ok a result

theorem Returns.tryCatch {c : Call α} {handle : Failure → Call α}
    {S : Except Failure α → Prop} (hc : c.Returns R) (ok : ∀ a, R (.ok a) → S (.ok a))
    (error : ∀ e, R (.error e) → (handle e).Returns S) :
    (tryCatch c handle : Call α).Returns S := by
  refine Program.Quiet.bind hc ?_
  rintro (e | a) result
  · exact error e result
  · exact ok a result

theorem Returns.pure {a : α} (h : R (.ok a)) : (pure a : Call α).Returns R := h

theorem Returns.throw {e : Failure} (h : R (.error e)) : (throw e : Call α).Returns R := h

theorem IsQuiet.bind {c : Call α} {f : α → Call β} (hc : c.IsQuiet) (hf : ∀ a, (f a).IsQuiet) :
    (c >>= f).IsQuiet :=
  Returns.bind hc (fun _ _ => trivial) fun a _ => hf a

theorem IsQuiet.throw (e : Failure) : (throw e : Call α).IsQuiet := trivial

theorem IsQuiet.pure (a : α) : (pure a : Call α).IsQuiet := trivial

theorem isQuiet_check (result : Except Failure α) : (check result).IsQuiet := trivial

theorem isQuiet_request (kind : RequestKind) (fields : kind.layout.Carrier) :
    (request kind fields).IsQuiet := ⟨rfl, fun _ => trivial⟩

theorem isQuiet_await (waiter : Nat) (kind : IndicationKind) (milliseconds : Nat) :
    (await waiter kind milliseconds).IsQuiet := ⟨rfl, fun _ => trivial⟩

theorem isQuiet_encode (builder : FrameBuilder) : (encode builder).IsQuiet :=
  ⟨rfl, fun _ => trivial⟩

theorem isQuiet_withWaiter {pattern : Pattern} {use : Nat → Call α}
    (h : ∀ waiter, (use waiter).IsQuiet) : (withWaiter pattern use).IsQuiet := by
  refine IsQuiet.bind ⟨rfl, fun _ => trivial⟩ fun waiter => ?_
  refine IsQuiet.bind ?_ fun result => ?_
  · exact Program.Quiet.bind (h waiter) fun _ _ => trivial
  · exact IsQuiet.bind ⟨rfl, fun _ => trivial⟩ fun _ => isQuiet_check result

theorem isQuiet_retry {attempt : Call α} (h : attempt.IsQuiet) (retries : Nat) :
    Call.IsQuiet (retry attempt retries) := by
  induction retries with
  | zero => exact h
  | succ retries ih =>
    refine Returns.tryCatch (S := fun _ => True) h (fun _ _ => trivial) fun e _ => ?_
    split
    · exact ih
    · exact IsQuiet.throw e

end Call

/-! ### Requests -/

open Call

theorem isQuiet_requestChecked (kind : RequestKind) (fields : kind.layout.Carrier)
    (status : kind.answer.Carrier → Status) : (requestChecked kind fields status).IsQuiet :=
  (isQuiet_request kind fields).bind fun _ => isQuiet_check _

theorem isQuiet_sendAndWait (policy : RetryPolicy) (pattern : Pattern) {send : Call Unit}
    (h : send.IsQuiet) : (sendAndWait policy pattern send).IsQuiet :=
  isQuiet_retry (isQuiet_withWaiter fun _ => h.bind fun _ => isQuiet_await _ _ _) _

theorem isQuiet_activeEndpoints (timeouts : Timeouts) (address : String) :
    (activeEndpoints timeouts address).IsQuiet := by
  refine IsQuiet.bind (isQuiet_sendAndWait _ _ (isQuiet_requestChecked _ _ _)) fun answer => ?_
  exact (isQuiet_check _).bind fun _ => IsQuiet.pure _

theorem isQuiet_nodeDescription (timeouts : Timeouts) (address : String) :
    (nodeDescription timeouts address).IsQuiet := by
  refine IsQuiet.bind (isQuiet_sendAndWait _ _ (isQuiet_requestChecked _ _ _)) fun answer => ?_
  exact (isQuiet_check _).bind fun _ => IsQuiet.pure _

theorem isQuiet_simpleDescription (timeouts : Timeouts) (address : String) (endpoint : BitVec 8) :
    (simpleDescription timeouts address endpoint).IsQuiet := by
  refine IsQuiet.bind (isQuiet_sendAndWait _ _ (isQuiet_requestChecked _ _ _)) fun answer => ?_
  exact (isQuiet_check _).bind fun _ => IsQuiet.pure _

theorem isQuiet_dataRequest (timeouts : Timeouts)
    (fields : RequestKind.afDataRequest.layout.Carrier) :
    (dataRequest timeouts fields).IsQuiet := by
  refine isQuiet_retry (isQuiet_withWaiter fun _ => isQuiet_withWaiter fun _ => ?_) _
  refine (isQuiet_requestChecked _ _ _).bind fun _ => ?_
  refine (isQuiet_await _ _ _).bind fun confirmation => ?_
  obtain ⟨status, rest⟩ := confirmation
  dsimp only
  split
  · exact (isQuiet_await _ _ _).bind fun _ => IsQuiet.pure _
  · exact IsQuiet.throw _

theorem isQuiet_clusterRequest (timeouts : Timeouts) (address : String) (endpoint : BitVec 8)
    (cluster : BitVec 16) (builder : FrameBuilder) :
    (clusterRequest timeouts address endpoint cluster builder).IsQuiet := by
  refine (isQuiet_encode _).bind fun encoded => ?_
  exact (isQuiet_dataRequest _ _).bind fun _ => isQuiet_check _

theorem isQuiet_readAttributes (timeouts : Timeouts) (address : String) (cluster : BitVec 16)
    (ids : List (BitVec 16)) : (readAttributes timeouts address cluster ids).IsQuiet := by
  refine (isQuiet_clusterRequest _ _ _ _ _).bind fun frame => ?_
  split
  · exact IsQuiet.pure _
  · exact IsQuiet.throw _

/-! ### Interrogation -/

/-- Whether the result, if it is a failure, is one of the interrogation. -/
def Excused {α : Type} (result : Except Failure α) : Prop :=
  ∀ e, result = .error e → e.isInterrogation = true

theorem excused_ok {α : Type} (a : α) : Excused (.ok a) := by
  intro e result
  simp at result

theorem Excused.error {α β : Type} {e : Failure} (h : Excused (.error e : Except Failure α)) :
    Excused (.error e : Except Failure β) := by
  rintro e' ⟨⟩
  exact h e rfl

/-- A step of an interrogation is quiet, and its failures are those of the interrogation. -/
theorem returns_step {α : Type} (name : String) {query : Call α} (h : query.IsQuiet) :
    (step name query).Returns Excused := by
  refine Returns.tryCatch h (fun a _ => excused_ok a) fun e _ => ?_
  refine Returns.throw ?_
  rintro e' ⟨⟩
  rfl

theorem returns_interrogateEndpoint (timeouts : Timeouts) (address : String) (id : UInt8) :
    (interrogateEndpoint timeouts address id).Returns Excused := by
  refine Returns.bind (returns_step _ (isQuiet_simpleDescription _ _ _)) (fun _ h => h.error) ?_
  exact fun description _ => Returns.pure (excused_ok _)

theorem returns_interrogateEndpoints (timeouts : Timeouts) (address : String)
    (ids : List UInt8) :
    Call.Returns Excused (ids.mapM (interrogateEndpoint timeouts address)) := by
  have asked (found : List Endpoint) :
      Call.Returns Excused (List.mapM.loop (interrogateEndpoint timeouts address) ids found) := by
    induction ids generalizing found with
    | nil => exact Returns.pure (excused_ok _)
    | cons id rest ih =>
      refine Returns.bind (returns_interrogateEndpoint _ _ _) (fun _ h => h.error) ?_
      exact fun endpoint _ => ih (endpoint :: found)
  exact asked []

/-- What an interrogation comes to: the device that has announced itself. -/
theorem returns_interrogate (timeouts : Timeouts) (a : Announcement) :
    (interrogate timeouts a).Returns fun result =>
      Excused result ∧ ∀ d, result = .ok d →
        d.ieeeAddress = a.ieeeAddress ∧ d.networkAddress = a.networkAddress := by
  have excused {α : Type} (e : Failure) (h : Excused (.error e : Except Failure α)) :
      Excused (.error e : Except Failure Device) ∧
        ∀ d, (.error e : Except Failure Device) = .ok d →
          d.ieeeAddress = a.ieeeAddress ∧ d.networkAddress = a.networkAddress :=
    ⟨h.error, fun d result => by simp at result⟩
  refine Returns.bind (returns_step _ (isQuiet_readAttributes _ _ _ _)) excused ?_
  intro basics _
  refine Returns.bind (returns_step _ (isQuiet_check _)) excused ?_
  intro source _
  refine Returns.bind (returns_step _ (isQuiet_nodeDescription _ _)) excused ?_
  intro description _
  refine Returns.bind (returns_step _ (isQuiet_activeEndpoints _ _)) excused ?_
  intro active _
  refine Returns.bind (returns_interrogateEndpoints _ _ _) excused ?_
  intro endpoints _
  refine Returns.pure ⟨excused_ok _, ?_⟩
  rintro d ⟨⟩
  exact ⟨rfl, rfl⟩

/-! ### Registration -/

/-- The device that the effect inserts. -/
def Effect.insertion? : Effect → Option Device
  | .insert d => some d
  | _ => none

/-- Whether the host may give the answer: it only gives a device for its own address. -/
def Effect.Admits : (effect : Effect) → effect.Answer → Prop
  | .device ieee, answer => ∀ d : Device, answer = some d → d.ieeeAddress = ieee
  | _, _ => True

/-- Whether the program inserts no device. -/
def Program.InsertsNone {α : Type} : Program α → Prop
  | .done _ => True
  | .perform effect next => effect.insertion? = none ∧ ∀ answer, (next answer).InsertsNone

/-- Whether the program inserts the device exactly once, or ends with a failed
interrogation. -/
def Program.InsertsOnce (ieee : String) : Program (Except Failure Unit) → Prop
  | .done result => ∃ e, result = .error e ∧ e.isInterrogation = true
  | .perform effect next =>
    match effect.insertion? with
    | some d => d.ieeeAddress = ieee ∧ ∀ answer, (next answer).InsertsNone
    | none => ∀ answer, effect.Admits answer → (next answer).InsertsOnce ieee

theorem insertion?_of_isQuiet {effect : Effect} (h : effect.isQuiet = true) :
    effect.insertion? = none := by
  cases effect with
  | insert d => simp [Effect.isQuiet] at h
  | _ => rfl

/-- What is quiet may come first. -/
theorem insertsOnce_bind {α : Type} {ieee : String} {R : α → Prop} {p : Program α}
    {f : α → Program (Except Failure Unit)} (hp : p.Quiet R)
    (hf : ∀ a, R a → (f a).InsertsOnce ieee) : (p.bind f).InsertsOnce ieee := by
  induction p with
  | done a => exact hf a hp
  | perform effect next ih =>
    simp only [Program.bind, Program.InsertsOnce, insertion?_of_isQuiet hp.1]
    exact fun answer _ => ih answer (hp.2 answer)

/-- A device is kept, and then the owner is told. -/
theorem insertsOnce_insert {ieee : String} {d : Device} (news : DeviceNews)
    (h : d.ieeeAddress = ieee) :
    Program.InsertsOnce ieee (Call.insert d >>= fun _ => Call.publish news : Call Unit) := by
  refine ⟨h, ?_⟩
  rintro (e | ⟨⟩)
  · trivial
  · exact ⟨rfl, fun _ => trivial⟩

/-- A registration keeps the device that has announced itself. -/
theorem insertsOnce_register (timeouts : Timeouts) (a : Announcement) :
    Program.InsertsOnce a.ieeeAddress (register timeouts a) := by
  rintro (- | known) admitted
  · refine insertsOnce_bind (p := interrogate timeouts a) (returns_interrogate timeouts a) ?_
    rintro (e | d) ⟨excused, same⟩
    · exact ⟨e, rfl, excused e rfl⟩
    · exact insertsOnce_insert (.registered d) (same d rfl).1
  · exact insertsOnce_insert (d := { known with networkAddress := a.networkAddress }) _
      (admitted known rfl)

end Zigbee.Host
