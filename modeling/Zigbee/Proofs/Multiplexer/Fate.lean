import Zigbee.Proofs.Multiplexer.Line
import Zigbee.Proofs.Multiplexer.Pairing

/-!
# The fate of a frame

Every frame that is routed, or taken by the writer, meets one fate. An indication that can
be decoded is broadcast; one that cannot, and a frame that only the host may send, is
reported; a response ends the wait for the request in flight, or is reported as well.

`Conducts` says what this means for the state: a move broadcasts, reports and answers
exactly what the fate of its frame demands. Apart from that only the failure of the receiver
is reported.
-/

namespace Zigbee.Host

open Radio Serial

/-- What becomes of a frame. -/
inductive Fate where
  | broadcast (i : Indication)
  | reported (e : Failure)
  /-- It ends the wait for a request. -/
  | resolved (request : Submission) (outcome : Outcome)

namespace Fate

/-- What is broadcast. -/
def indication? : Fate → Option Indication
  | .broadcast i => some i
  | _ => none

/-- What is reported. -/
def failure? : Fate → Option Failure
  | .reported e => some e
  | _ => none

/-- The fate of a frame that is no response. -/
def ofOther (f : Frame) : Fate :=
  if f.type = .asyncRequest then
    match Indication.decode f.subsystem f.command f.payload with
    | .ok i => .broadcast i
    | .error e => .reported e
  else .reported (.unsupportedFrame f.type f.subsystem)

end Fate

/-- Whether the fate is right for the frame. -/
inductive Deserves (f : Frame) : Fate → Prop where
  | broadcast {i : Indication} (indication : f.type = .asyncRequest)
      (decodes : Indication.decode f.subsystem f.command f.payload = .ok i) :
      Deserves f (.broadcast i)
  | undecodable {e : Failure} (indication : f.type = .asyncRequest)
      (fails : Indication.decode f.subsystem f.command f.payload = .error e) :
      Deserves f (.reported e)
  | unsupported (other : f.type ≠ .asyncRequest) (noResponse : f.type ≠ .syncResponse) :
      Deserves f (.reported (.unsupportedFrame f.type f.subsystem))
  | resolved {request : Submission} {outcome : Outcome} (response : f.type = .syncResponse)
      (answers : Multiplexer.match? request.frame f = some outcome) :
      Deserves f (.resolved request outcome)
  | stray (response : f.type = .syncResponse) :
      Deserves f (.reported (.orphanResponse f.subsystem f.command))

theorem deserves_ofOther {f : Frame} (other : f.type ≠ .syncResponse) :
    Deserves f (.ofOther f) := by
  unfold Fate.ofOther
  split
  · rename_i indication
    split
    · rename_i i decodes
      exact .broadcast indication decodes
    · rename_i e fails
      exact .undecodable indication fails
  · rename_i noIndication
    exact .unsupported noIndication other

namespace Multiplexer

variable {m next : Multiplexer} {move : Move}

/-! ### Fates in one move -/

/-- The fate of a response that the writer takes. -/
def fateOfResponse (m : Multiplexer) (response : Frame) : Fate :=
  match m.writer with
  | .waiting request _ =>
    match match? request.frame response with
    | some outcome => .resolved request outcome
    | none => .reported (.orphanResponse response.subsystem response.command)
  | _ => .reported (.orphanResponse response.subsystem response.command)

/-- The frame that meets its fate in the move. -/
def settles (m : Multiplexer) : Move → List (Frame × Fate)
  | .route =>
    match m.inbox with
    | f :: _ => if f.type = .syncResponse then [] else [(f, .ofOther f)]
    | [] => []
  | .takeResponse =>
    match m.responses with
    | response :: _ => [(response, m.fateOfResponse response)]
    | [] => []
  | _ => []

/-- What the owner of the line is told when the receiver has failed. -/
def closure (m : Multiplexer) : List Failure :=
  match m.receiver with
  | .ended (.error _) => [.transportClosed]
  | _ => []

/-- What is reported in the move: the fate of a frame, or that the receiver fails. -/
def complaints (m : Multiplexer) (move : Move) : List Failure :=
  (m.settles move).filterMap (·.2.failure?) ++
    match m.apply move with
    | some next => next.closure.drop m.closure.length
    | none => []

/-- What a move makes of the frames. -/
structure Conducts (m : Multiplexer) (move : Move) (next : Multiplexer) : Prop where
  single : (m.settles move).length ≤ 1
  once : (m.complaints move).length ≤ 1
  deserved : ∀ settled ∈ m.settles move, Deserves settled.1 settled.2
  /-- Nothing is broadcast but what is the fate of a frame, -/
  indications : next.indications =
    ((m.settles move).filterMap (·.2.indication?)).foldl Broadcast.push m.indications
  /-- nothing else is reported, but that the receiver fails, -/
  errors : next.errors = (m.complaints move).foldl Channel.push m.errors
  closure : next.closure = m.closure ∨ m.closure = [] ∧ next.closure = [.transportClosed]
  /-- a response that ends a wait ends that for the request in flight, -/
  resolved : ∀ f request outcome, (f, .resolved request outcome) ∈ m.settles move →
    (∃ patience, m.writer = .waiting request patience) ∧ next.writer = .idle ∧
      next.outcomes = m.outcomes ++ if request.id ∈ m.abandoned then [] else [(request.id, outcome)]
  /-- one that is reported does not answer it, -/
  stray : ∀ f e request patience, (f, .reported e) ∈ m.settles move → f.type = .syncResponse →
    m.writer = .waiting request patience → match? request.frame f = none
  /-- and no caller gets a reply but from a response with that fate. -/
  replies : ∀ id outcome, Learns m next id outcome → outcome.isReply = true →
    ∃ f request, (f, .resolved request outcome) ∈ m.settles move ∧ request.id = id

theorem closure_of_same (same : next.receiver = m.receiver) : next.closure = m.closure := by
  rw [closure, same, closure]

theorem closure_of_running (running : m.receiver = .running) : m.closure = [] := by
  rw [closure, running]

theorem complaints_of_closure (same : next.closure = m.closure) (h : m.apply move = some next) :
    m.complaints move = (m.settles move).filterMap (·.2.failure?) := by
  simp only [complaints, h, same, List.drop_length, List.append_nil]

theorem settles_of_other (other : move ≠ .route ∧ move ≠ .takeResponse) : m.settles move = [] := by
  cases move with
  | route => exact absurd rfl other.1
  | takeResponse => exact absurd rfl other.2
  | _ => rfl

theorem not_learns_of_deaf (deaf : move ≠ .takeResponse) (h : m.apply move = some next)
    {id : Nat} {outcome : Outcome} (reply : outcome.isReply = true) :
    ¬ Learns m next id outcome := by
  refine not_learns_reply (length_replies_apply h ?_) reply
  cases move with
  | takeResponse => exact absurd rfl deaf
  | _ => rfl

/-- A move with which no frame meets its fate. -/
theorem conducts_of_none (h : m.apply move = some next) (none : m.settles move = [])
    (deaf : move ≠ .takeResponse) (indications : next.indications = m.indications)
    (errors : next.errors = m.errors) (closure : next.closure = m.closure) :
    m.Conducts move next where
  single := by simp [none]
  once := by simp [complaints_of_closure closure h, none]
  deserved := by simp [none]
  indications := by simp [none, indications]
  errors := by simp [complaints_of_closure closure h, none, errors]
  closure := .inl closure
  resolved := by simp [none]
  stray := by simp [none]
  replies _ _ learns reply := absurd learns (not_learns_of_deaf deaf h reply)

theorem conducts_failed {error : FrameError} {rest : List UInt8} (running : m.receiver = .running)
    (h : m.apply .receive = some (m.failReceiver error rest)) :
    m.Conducts .receive (m.failReceiver error rest) where
  single := Nat.zero_le 1
  once := by
    simp only [complaints, h, closure_of_running running]
    exact Nat.le_refl 1
  deserved _ none := absurd none List.not_mem_nil
  indications := rfl
  errors := by
    simp only [complaints, h, closure_of_running running]
    rfl
  closure := .inr ⟨closure_of_running running, rfl⟩
  resolved _ _ _ none := absurd none List.not_mem_nil
  stray _ _ _ _ none := absurd none List.not_mem_nil
  replies _ _ learns reply := absurd learns (not_learns_of_deaf (by simp) h reply)

/-- A move with which one frame meets its fate. -/
theorem conducts_of_one {f : Frame} {fate : Fate} (h : m.apply move = some next)
    (settles : m.settles move = [(f, fate)]) (deserved : Deserves f fate)
    (indications : next.indications = fate.indication?.toList.foldl Broadcast.push m.indications)
    (errors : next.errors = fate.failure?.toList.foldl Channel.push m.errors)
    (receiver : next.receiver = m.receiver)
    (resolved : ∀ request outcome, fate = .resolved request outcome →
      (∃ patience, m.writer = .waiting request patience) ∧ next.writer = .idle ∧
        next.outcomes = m.outcomes ++
          if request.id ∈ m.abandoned then [] else [(request.id, outcome)])
    (stray : ∀ e request patience, fate = .reported e → f.type = .syncResponse →
      m.writer = .waiting request patience → match? request.frame f = none)
    (replies : ∀ id outcome, Learns m next id outcome → outcome.isReply = true →
      ∃ request, fate = .resolved request outcome ∧ request.id = id) :
    m.Conducts move next where
  single := by simp [settles]
  once := by
    rw [complaints_of_closure (closure_of_same receiver) h, settles]
    exact List.length_filterMap_le _ _
  deserved := by simpa [settles] using deserved
  indications := by
    rw [settles, indications]
    cases fate <;> rfl
  errors := by
    rw [complaints_of_closure (closure_of_same receiver) h, settles, errors]
    cases fate <;> rfl
  closure := .inl (closure_of_same receiver)
  resolved g request outcome member := by
    rw [settles, List.mem_singleton] at member
    exact resolved request outcome (Prod.mk.inj member).2.symm
  stray g e request patience member response waiting := by
    rw [settles, List.mem_singleton] at member
    obtain ⟨rfl, rfl⟩ := Prod.mk.inj member
    exact stray e request patience rfl response waiting
  replies id outcome learns reply := by
    obtain ⟨request, rfl, same⟩ := replies id outcome learns reply
    exact ⟨f, request, settles ▸ List.mem_singleton_self _, same⟩

/-- What the router does to a frame that is no response is its fate. -/
theorem deliver_fate (m : Multiplexer) (f : Frame) :
    (m.deliver f).indications =
        (Fate.ofOther f).indication?.toList.foldl Broadcast.push m.indications ∧
    (m.deliver f).errors = (Fate.ofOther f).failure?.toList.foldl Channel.push m.errors := by
  unfold deliver Fate.ofOther
  by_cases indication : f.type = .asyncRequest
  · rw [if_pos indication, if_pos indication]
    cases Indication.decode f.subsystem f.command f.payload <;> exact ⟨rfl, rfl⟩
  · rw [if_neg indication, if_neg indication]
    exact ⟨rfl, rfl⟩

theorem ofOther_ne_resolved (f : Frame) (request : Submission) (outcome : Outcome) :
    Fate.ofOther f ≠ .resolved request outcome := by
  unfold Fate.ofOther
  split
  · split <;> simp
  · simp

theorem conducts_delivered {f : Frame} {rest : List Frame} (hinbox : m.inbox = f :: rest)
    (other : f.type ≠ .syncResponse)
    (h : m.apply .route = some ({ m with inbox := rest }.deliver f)) :
    m.Conducts .route ({ m with inbox := rest }.deliver f) := by
  have settles : m.settles .route = [(f, .ofOther f)] := by
    simp only [Multiplexer.settles, hinbox, if_neg other]
  obtain ⟨indications, errors⟩ := deliver_fate { m with inbox := rest } f
  have same := (sameLine_deliver { m with inbox := rest } f).1
  refine conducts_of_one h settles (deserves_ofOther other) indications errors same.receiver ?_ ?_
    ?_
  · exact fun request outcome fate => absurd fate (ofOther_ne_resolved f request outcome)
  · exact fun e request patience fate response => absurd response other
  · exact fun id outcome learns reply => absurd learns (not_learns_of_deaf (by simp) h reply)

theorem conducts_strayed {response : Frame} {rest : List Frame}
    (hresponses : m.responses = response :: rest) (type : response.type = .syncResponse)
    (unasked : ∀ request patience, m.writer = .waiting request patience →
      match? request.frame response = none)
    (h : m.apply .takeResponse = some ({ m with responses := rest }.reportOrphan response)) :
    m.Conducts .takeResponse ({ m with responses := rest }.reportOrphan response) := by
  have fate : m.fateOfResponse response =
      .reported (.orphanResponse response.subsystem response.command) := by
    unfold fateOfResponse
    split
    · rename_i request patience waiting
      rw [unasked request patience waiting]
    · rfl
  have settles : m.settles .takeResponse =
      [(response, .reported (.orphanResponse response.subsystem response.command))] := by
    simp only [Multiplexer.settles, hresponses, fate]
  refine conducts_of_one h settles (.stray type) rfl rfl rfl ?_ ?_ ?_
  · exact fun request outcome fate => absurd fate (by simp)
  · exact fun e request patience fate response waiting => unasked request patience waiting
  · refine fun id outcome learns reply => absurd learns (not_learns_reply ?_ reply)
    exact Nat.le_refl _

theorem conducts_matched {response : Frame} {rest : List Frame} {request : Submission}
    {patience : Patience} {outcome : Outcome} (hresponses : m.responses = response :: rest)
    (type : response.type = .syncResponse)
    (hwriter : m.writer = .waiting request patience)
    (answers : match? request.frame response = some outcome)
    (h : m.apply .takeResponse = some
      ({ m with responses := rest, writer := .idle }.conclude request outcome)) :
    m.Conducts .takeResponse
      ({ m with responses := rest, writer := .idle }.conclude request outcome) := by
  have settles : m.settles .takeResponse = [(response, .resolved request outcome)] := by
    simp only [Multiplexer.settles, hresponses, fateOfResponse, hwriter, answers]
  have same := sameFrames_conclude { m with responses := rest, writer := .idle } request outcome
  refine conducts_of_one h settles (.resolved type answers) same.indications same.errors
    same.receiver ?_ ?_ ?_
  · intro request' outcome' fate
    obtain ⟨rfl, rfl⟩ := Fate.resolved.inj fate
    refine ⟨⟨patience, hwriter⟩, (desk_conclude _ _ _).1, ?_⟩
    rw [outcomes_conclude]
  · exact fun e request patience fate => absurd fate (by simp)
  · intro id given learns reply
    obtain ⟨request', patience', response', rest', hwaiting, own, -, hresponses', hgiven⟩ :=
      (learns_of_takeResponse_iff h reply).mp learns
    obtain ⟨rfl, -⟩ := WriterState.waiting.inj (hwriter.symm.trans hwaiting)
    obtain ⟨rfl, -⟩ := List.cons.inj (hresponses.symm.trans hresponses')
    obtain rfl := Option.some.inj (answers.symm.trans hgiven)
    exact ⟨request, rfl, own⟩

/-- Every move conducts the frames to the fates that they deserve. -/
theorem conducts_apply (responses : ∀ f ∈ m.responses, f.type = .syncResponse)
    (h : m.apply move = some next) : m.Conducts move next := by
  have head {response : Frame} {rest : List Frame} (hresponses : m.responses = response :: rest) :
      response.type = .syncResponse :=
    responses response (hresponses ▸ List.mem_cons_self ..)
  cases conveys_of_apply h with
  | aside none other quiet same =>
    exact conducts_of_none h (settles_of_other other) other.2 same.indications same.errors
      (closure_of_same same.receiver)
  | arrived | left | read => exact conducts_of_none h rfl (by simp) rfl rfl rfl
  | lost found running | halted running =>
    exact conducts_of_none h rfl (by simp) rfl rfl (closure_of_running running).symm
  | failed none running => exact conducts_failed running h
  | discarded hinbox response | passed hinbox response =>
    have none : m.settles .route = [] := by
      simp only [settles, hinbox, if_pos response]
    exact conducts_of_none h none (by simp) rfl rfl rfl
  | delivered hinbox other => exact conducts_delivered hinbox other h
  | closed empty =>
    have none : m.settles .route = [] := by
      simp only [settles, empty]
    exact conducts_of_none h none (by simp) rfl rfl rfl
  | strayed hresponses unasked => exact conducts_strayed hresponses (head hresponses) unasked h
  | matched hresponses hwriter answers =>
    exact conducts_matched hresponses (head hresponses) hwriter answers h

end Multiplexer

end Zigbee.Host
