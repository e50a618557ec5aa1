import Zigbee.Proofs.Multiplexer.Exchange
import Zigbee.Radio.Request

/-!
# Whose answer a caller gets

A response carries no number of its request. The writer takes it for the answer to the
request in flight if it is an error frame or has the request's subsystem and command. That
is right as long as the radio has answered the earlier requests before their callers lost
patience.

It goes wrong exactly if the response in hand answers an earlier request, whose caller has
gone, and it is an error frame or that request had the same subsystem and command as the one
in flight.
-/

namespace Zigbee.Host

open Serial

/-- Whether the outcome is what the radio has replied. -/
def Outcome.isReply : Outcome → Bool
  | .answered _ | .failed (.errorFrame ..) => true
  | _ => false

namespace Multiplexer

variable {m next : Multiplexer} {move : Move} {s : Submission}

/-- The replies that callers have got. -/
def replies (m : Multiplexer) : List (Nat × Outcome) :=
  m.outcomes.filter (·.2.isReply)

/-- Whether a caller learns the outcome of its submission between the two states. -/
def Learns (m next : Multiplexer) (id : Nat) (outcome : Outcome) : Prop :=
  ∃ more, next.outcomes = m.outcomes ++ more ∧ (id, outcome) ∈ more

theorem isReply_of_match? {request response : Frame} {outcome : Outcome}
    (h : match? request response = some outcome) : outcome.isReply = true := by
  unfold match? at h
  split at h
  · obtain rfl := Option.some.inj h
    rfl
  · split at h
    · obtain rfl := Option.some.inj h
      rfl
    · simp at h

theorem match?_isSome_iff {request response : Frame} :
    (match? request response).isSome = true ↔
      response.errorCode?.isSome = true ∨
        response.subsystem = request.subsystem ∧ response.command = request.command := by
  unfold match?
  split
  · rename_i code hcode
    simp [hcode]
  · rename_i hcode
    split
    · rename_i same
      simp [same]
    · rename_i different
      simp [hcode, different]

/-! ### Replies come only from responses -/

theorem replies_conclude {outcome : Outcome} (silent : outcome.isReply = false) :
    (m.conclude s outcome).replies = m.replies := by
  unfold conclude
  split
  · rfl
  · simp [replies, tell, silent]

theorem replies_endWriter (m : Multiplexer) (result : Except Failure Unit) :
    (m.endWriter result).replies = m.replies := by
  have last : m.lastOutcomes.filter (·.2.isReply) = [] := by
    rw [List.filter_eq_nil_iff]
    intro told htold
    obtain ⟨s, -, rfl⟩ := List.mem_map.mp htold
    simp [Outcome.isReply]
  rw [endWriter_eq]
  simp only [replies, List.filter_append, last, List.append_nil]

theorem replies_forsake (m : Multiplexer) (s : Submission) : (m.forsake s).replies = m.replies := by
  unfold forsake
  split
  · simp [replies, tell, Outcome.isReply]
  · rfl

theorem replies_enqueue (m : Multiplexer) (s : Submission) : (m.enqueue s).replies = m.replies := by
  rw [enqueue_eq]
  cases s.patience <;> simp [replies, Outcome.isReply]

/-- No move but the taking of a response gives anybody a reply. -/
theorem length_replies_apply (h : m.apply move = some next) (deaf : move.hears = false) :
    next.replies.length ≤ m.replies.length := by
  by_cases line : move.isLine = true
  · have same : next.replies = m.replies := by
      rw [replies, replies, (sameDesk_of_line line h).outcomes]
    exact Nat.le_of_eq (congrArg _ same)
  cases move with
  | submit s =>
    obtain ⟨-, rfl⟩ | ⟨-, -, rfl⟩ | ⟨-, rfl⟩ := submit_cases h
    · simp [replies, tell, Outcome.isReply]
    · exact Nat.le_of_eq (congrArg _ (replies_enqueue m s))
    · exact Nat.le_refl _
  | enter =>
    obtain ⟨s, rest, -, -, rfl⟩ := enter_cases h
    exact Nat.le_of_eq (congrArg _ (replies_enqueue _ s))
  | giveUp id =>
    obtain rfl := Option.some.inj h
    exact (List.filter_sublist.filter _).length_le
  | expire id now =>
    obtain ⟨s, patience, -, -, -, -, rfl⟩ := expire_cases h
    have same : ({ m with abandoned := m.abandoned ++ [id] }.tell id
        (timedOut patience)).replies = m.replies := by
      simp [replies, tell, timedOut, Outcome.isReply]
    exact Nat.le_of_eq (congrArg _ same)
  | release =>
    obtain rfl := release_eq h
    exact Nat.le_refl _
  | takeResponse => simp [Move.hears] at deaf
  | takeSubmission now =>
    obtain ⟨s, rest, -, -, ⟨-, rfl⟩ | ⟨-, reason, -, -, rfl⟩ | ⟨-, -, patience, -, rfl⟩⟩ :=
      taken_cases h
    · exact Nat.le_refl _
    · have same := (replies_endWriter _ (.error reason)).trans
        (replies_forsake { m with queue := rest } s)
      exact Nat.le_of_eq (congrArg _ same)
    · exact Nat.le_of_eq (congrArg _ (replies_conclude rfl))
  | withdraw now =>
    obtain ⟨request, patience, -, rfl⟩ := withdraw_cases h
    exact Nat.le_of_eq (congrArg _ (replies_conclude rfl))
  | finish =>
    obtain ⟨-, -, rfl⟩ | ⟨request, patience, -, -, rfl⟩ := finish_cases h
    · exact Nat.le_of_eq (congrArg _ (replies_endWriter _ _))
    · exact Nat.le_of_eq (congrArg _ (replies_conclude rfl))
  | arrive | disconnect | jam | stop | receive | halt | route => simp [Move.isLine] at line

theorem not_learns_reply {id : Nat} {outcome : Outcome}
    (fewer : next.replies.length ≤ m.replies.length) (reply : outcome.isReply = true) :
    ¬ Learns m next id outcome := by
  rintro ⟨more, told, member⟩
  have longer : next.replies.length = m.replies.length + (more.filter (·.2.isReply)).length := by
    rw [replies, told, List.filter_append, List.length_append]
    rfl
  have some : 0 < (more.filter (·.2.isReply)).length :=
    List.length_pos_of_mem (List.mem_filter.mpr ⟨member, reply⟩)
  omega

/-- A caller gets a reply from the response in hand, if its request is in flight and it has
not gone. -/
theorem learns_of_takeResponse_iff {id : Nat} {outcome : Outcome}
    (h : m.takeResponse = some next) (reply : outcome.isReply = true) :
    Learns m next id outcome ↔ ∃ request patience response rest,
      m.writer = .waiting request patience ∧ request.id = id ∧ id ∉ m.abandoned ∧
      m.responses = response :: rest ∧ match? request.frame response = some outcome := by
  have unheard (same : next.outcomes = m.outcomes) : ¬ Learns m next id outcome := by
    refine not_learns_reply (Nat.le_of_eq ?_) reply
    rw [replies, replies, same]
  obtain ⟨response, rest, hresponses, ⟨hwriter, rfl⟩ | ⟨request, patience, hwriter,
    ⟨hmatch, rfl⟩ | ⟨given, hmatch, rfl⟩⟩⟩ := takeResponse_cases h
  · refine ⟨fun learns => absurd learns (unheard rfl), ?_⟩
    rintro ⟨request, patience, response, rest, hwaiting, -⟩
    simp [hwriter] at hwaiting
  · refine ⟨fun learns => absurd learns (unheard rfl), ?_⟩
    rintro ⟨request', patience', response', rest', hwaiting, -, -, hresponses', hgiven⟩
    obtain ⟨rfl, -⟩ := WriterState.waiting.inj (hwriter.symm.trans hwaiting)
    obtain ⟨rfl, -⟩ := List.cons.inj (hresponses.symm.trans hresponses')
    simp [hmatch] at hgiven
  · by_cases gone : request.id ∈ m.abandoned
    · have same : ({ m with responses := rest, writer := .idle }.conclude request given).outcomes =
          m.outcomes := by
        rw [conclude, if_pos gone]
      refine ⟨fun learns => absurd learns (unheard same), ?_⟩
      rintro ⟨request', patience', -, -, hwaiting, rfl, here, -⟩
      obtain ⟨rfl, -⟩ := WriterState.waiting.inj (hwriter.symm.trans hwaiting)
      exact absurd gone here
    · have told : ({ m with responses := rest, writer := .idle }.conclude request given).outcomes =
          m.outcomes ++ [(request.id, given)] := by
        rw [conclude, if_neg gone]
        rfl
      constructor
      · rintro ⟨more, hmore, member⟩
        obtain rfl := List.append_cancel_left (told.symm.trans hmore)
        obtain ⟨rfl, rfl⟩ := Prod.mk.inj (List.mem_singleton.mp member)
        exact ⟨request, patience, response, rest, hwriter, rfl, gone, hresponses, hmatch⟩
      · rintro ⟨request', patience', response', rest', hwaiting, rfl, -, hresponses', hgiven⟩
        obtain ⟨rfl, -⟩ := WriterState.waiting.inj (hwriter.symm.trans hwaiting)
        obtain ⟨rfl, -⟩ := List.cons.inj (hresponses.symm.trans hresponses')
        obtain rfl := Option.some.inj (hmatch.symm.trans hgiven)
        exact ⟨_, told, List.mem_singleton_self _⟩

end Multiplexer

/-! ### Replies and requests -/

namespace Exchange

open Multiplexer

variable {e next : Exchange} {event : Event} {id : Nat} {outcome : Outcome}

/-- Whether the outcome is what the response in hand means to the submission that the radio
has answered with it, and that is the submission `id`. -/
def Owns (e : Exchange) (id : Nat) (outcome : Outcome) : Prop :=
  ∃ position response s, e.answers[e.heard]? = some (position, response) ∧
    e.asked[position]? = some s ∧ s.id = id ∧ match? s.frame response = some outcome

/-- Whether the writer takes the answer to an earlier request for that to the request in
flight. -/
def Confuses (e : Exchange) (event : Event) : Prop :=
  event = .host .takeResponse ∧ ∃ request patience position response earlier,
    e.mux.writer = .waiting request patience ∧ request.id ∉ e.mux.abandoned ∧
    e.answers[e.heard]? = some (position, response) ∧ e.asked[position]? = some earlier ∧
    position + 1 < e.asked.length ∧
    (response.errorCode?.isSome = true ∨
      earlier.frame.subsystem = request.frame.subsystem ∧
        earlier.frame.command = request.frame.command)

/-- The request in flight has been written last. -/
theorem asked_of_waiting {request : Submission} {patience : Patience} (sound : e.Sound)
    (h : e.mux.writer = .waiting request patience) : e.asked.getLast? = some request := by
  obtain ⟨earlier, hasked⟩ := sound.flight
  rw [← hasked, flight, h, List.getLast?_concat]

/-- Somebody learns a reply only from the response in hand. -/
theorem takes_of_learns_reply (h : e.apply event = some next) (reply : outcome.isReply = true)
    (learns : Learns e.mux next.mux id outcome) :
    event = .host .takeResponse ∧ e.mux.takeResponse = some next.mux := by
  cases event with
  | host move =>
    obtain ⟨-, mux, hmove, rfl⟩ := host_cases h
    cases hears : move.hears with
    | true =>
      cases move with
      | takeResponse => exact ⟨rfl, hmove⟩
      | _ => simp [Move.hears] at hears
    | false => exact absurd learns (not_learns_reply (length_replies_apply hmove hears) reply)
  | answer position response =>
    obtain ⟨-, rfl⟩ := answer_cases h
    exact absurd learns (not_learns_reply (Nat.le_refl _) reply)
  | indicate f =>
    obtain ⟨-, -, rfl⟩ := indicate_cases h
    exact absurd learns (not_learns_reply (Nat.le_refl _) reply)
  | deliver count =>
    obtain rfl := deliver_eq h
    exact absurd learns (not_learns_reply (Nat.le_refl _) reply)

/-- The answer in hand, when the writer takes a response. -/
theorem answer_in_hand {mux : Multiplexer} {response : Frame} {rest : List Frame}
    (sound : e.Sound) (h : e.mux.takeResponse = some mux)
    (hresponses : e.mux.responses = response :: rest) :
    ∃ position s, e.answers[e.heard]? = some (position, response) ∧
      e.asked[position]? = some s ∧ response.Answers s.frame := by
  obtain ⟨wire, carried⟩ := sound.conserved (heard_lt_of_takeResponse sound h).1
  obtain ⟨position, hanswer⟩ := answer_of_response carried hresponses
  obtain ⟨s, hs, matched⟩ := sound.answered _ (List.mem_of_getElem? hanswer)
  exact ⟨position, s, hanswer, hs, matched⟩

/-- A response to a request of the same kind, or an error frame, is taken for the answer. -/
theorem match?_of_close {earlier request response : Frame} (matched : response.Answers earlier)
    (close : response.errorCode?.isSome = true ∨
      earlier.subsystem = request.subsystem ∧ earlier.command = request.command) :
    (match? request response).isSome = true := by
  rw [match?_isSome_iff]
  obtain error | ⟨subsystem, command⟩ := close
  · exact .inl error
  · obtain error | ⟨subsystem', command'⟩ := matched.2.2
    · exact .inl error
    · exact .inr ⟨subsystem'.trans subsystem, command'.trans command⟩

theorem close_of_match? {earlier request response : Frame} (matched : response.Answers earlier)
    (taken : (match? request response).isSome = true) :
    response.errorCode?.isSome = true ∨
      earlier.subsystem = request.subsystem ∧ earlier.command = request.command := by
  obtain error | ⟨subsystem, command⟩ := match?_isSome_iff.mp taken
  · exact .inl error
  · obtain error | ⟨subsystem', command'⟩ := matched.2.2
    · exact .inl error
    · exact .inr ⟨subsystem'.symm.trans subsystem, command'.symm.trans command⟩

/-- Only the last of what has been written has the id of the last. -/
theorem position_of_id {asked : List Submission} {position : Nat} {s last : Submission}
    (distinct : (asked.map (·.id)).Nodup) (hs : asked[position]? = some s)
    (hlast : asked.getLast? = some last) (same : s.id = last.id) :
    position + 1 = asked.length := by
  have inside := (List.getElem?_eq_some_iff.mp hs).1
  rw [List.getLast?_eq_getElem?] at hlast
  have equal : (asked.map (·.id))[position]? = (asked.map (·.id))[asked.length - 1]? := by
    rw [List.getElem?_map, List.getElem?_map, hs, hlast]
    exact congrArg some same
  have := (List.getElem?_inj (by rwa [List.length_map]) distinct).mp equal
  omega

/-- Each caller gets the reply to its own request, except where the writer confuses two
requests. -/
theorem reply_own_iff {events : List Event} (numbered : Numbered events)
    (hrun : initial.run events = some e) (h : e.apply event = some next) :
    (∀ id outcome, Learns e.mux next.mux id outcome → outcome.isReply = true →
      e.Owns id outcome) ↔ ¬ e.Confuses event := by
  have sound := sound_run sound_initial hrun
  constructor
  · rintro own ⟨rfl, request, patience, position, response, earlier, hwriter, here, hanswer,
      hearlier, before, close⟩
    obtain ⟨-, mux, htake, rfl⟩ := host_cases h
    obtain ⟨head, rest, hresponses, -⟩ := takeResponse_cases htake
    obtain ⟨position', s, hhand, hs, matched⟩ := answer_in_hand sound htake hresponses
    obtain ⟨rfl, rfl⟩ := Prod.mk.inj (Option.some.inj (hanswer.symm.trans hhand))
    obtain rfl := Option.some.inj (hearlier.symm.trans hs)
    obtain ⟨outcome, hmatch⟩ := Option.isSome_iff_exists.mp (match?_of_close matched close)
    have reply := isReply_of_match? hmatch
    have learns := (learns_of_takeResponse_iff htake reply).mpr
      ⟨request, patience, response, rest, hwriter, rfl, here, hresponses, hmatch⟩
    obtain ⟨position', response', s, hhand', hs', same, -⟩ := own request.id outcome learns reply
    obtain ⟨rfl, rfl⟩ := Prod.mk.inj (Option.some.inj (hanswer.symm.trans hhand'))
    obtain rfl := Option.some.inj (hearlier.symm.trans hs')
    have last := position_of_id (nodup_asked numbered hrun) hearlier
      (asked_of_waiting sound hwriter) same
    omega
  · intro clear id outcome learns reply
    obtain ⟨rfl, htake⟩ := takes_of_learns_reply h reply learns
    obtain ⟨request, patience, response, rest, hwriter, rfl, here, hresponses, hmatch⟩ :=
      (learns_of_takeResponse_iff htake reply).mp learns
    obtain ⟨position, s, hanswer, hs, matched⟩ := answer_in_hand sound htake hresponses
    have inside := (List.getElem?_eq_some_iff.mp hs).1
    have close := close_of_match? matched (by rw [hmatch]; rfl)
    have last : ¬ position + 1 < e.asked.length := fun before =>
      clear ⟨rfl, request, patience, position, response, s, hwriter, here, hanswer, hs, before,
        close⟩
    replace last : position + 1 = e.asked.length := by omega
    have own : s = request := by
      have hlast := asked_of_waiting sound hwriter
      rw [List.getLast?_eq_getElem?, ← last, Nat.add_sub_cancel, hs] at hlast
      exact Option.some.inj hlast
    rw [own] at hs
    exact ⟨position, response, request, hanswer, hs, rfl, hmatch⟩

/-- A ping whose caller waits until the deadline. -/
def ping (id deadline : Nat) : Submission :=
  let kind : Radio.RequestKind := .sysPing
  ⟨id, kind.frame [], some ⟨kind.name, 5000, deadline⟩⟩

/-- The answer of the radio to a ping. -/
def pong : Frame := ⟨.syncResponse, .sys, 0x01, [0x79, 0x01]⟩

/-- The state after events that are all possible. -/
def after (events : List Event) : Exchange := (initial.run events).getD initial

/-- A ping is written and its answer arrives. -/
def promptAnswer : List Event :=
  [.host (.submit (ping 1 5000)), .host (.takeSubmission 0), .answer 0 pong, .deliver 7,
   .host .receive, .host .route]

theorem reply_own_of_prompt : Numbered promptAnswer ∧ ∃ e next,
    initial.run promptAnswer = some e ∧ e.apply (.host .takeResponse) = some next ∧
    Learns e.mux next.mux 1 (.answered pong) ∧ e.Owns 1 (.answered pong) := by
  have numbered : Numbered promptAnswer := by
    simp [Numbered, promptAnswer, Event.submissions, Move.submissions]
  have possible : initial.run promptAnswer = some (after promptAnswer) := rfl
  have takes : (after promptAnswer).apply (.host .takeResponse) =
      some (after (promptAnswer ++ [.host .takeResponse])) := rfl
  have learns : Learns (after promptAnswer).mux
      (after (promptAnswer ++ [.host .takeResponse])).mux 1 (.answered pong) :=
    ⟨[(1, .answered pong)], rfl, List.mem_singleton_self _⟩
  refine ⟨numbered, _, _, possible, takes, learns, ?_⟩
  refine (reply_own_iff numbered possible takes).mpr ?_ 1 (.answered pong) learns rfl
  rintro ⟨-, request, patience, position, response, earlier, -, -, -, -, before, -⟩
  have alone : position + 1 < 1 := before
  omega

/-- A ping is not answered in time, a second one is written, and then the first is answered. -/
def lateAnswer : List Event :=
  [.host (.submit (ping 1 5000)), .host (.takeSubmission 0), .host (.withdraw 5000),
   .host (.submit (ping 2 10000)), .host (.takeSubmission 5000), .answer 0 pong, .deliver 7,
   .host .receive, .host .route]

/-- The caller of the second ping gets the late answer to the first. -/
theorem reply_not_own_of_late : ∃ e next,
    initial.run lateAnswer = some e ∧ e.apply (.host .takeResponse) = some next ∧
    Learns e.mux next.mux 2 (.answered pong) ∧ ¬ e.Owns 2 (.answered pong) := by
  refine ⟨after lateAnswer, after (lateAnswer ++ [.host .takeResponse]), rfl, rfl,
    ⟨[(2, .answered pong)], rfl, List.mem_singleton_self _⟩, ?_⟩
  rintro ⟨position, response, s, hanswer, hs, same, -⟩
  obtain ⟨rfl, -⟩ := Prod.mk.inj (Option.some.inj hanswer)
  obtain rfl := Option.some.inj hs
  simp [ping] at same

end Exchange

end Zigbee.Host
