import Mathlib.Logic.Function.Basic
import Zigbee.Host.Schedule
import Zigbee.Proofs.Program.Conversation

/-!
# The host carries programs out as conversations

A `Path` is a conversation that may stop halfway: from one program to what is left of it, in
surroundings that may change from effect to effect. A path to the end is a conversation
(`Path.conversation`), so it is as `Says` describes it (`Call.Says.of_path`).

The host runs a program as far as it can (`follows_advance`): it goes along a path on which
nothing is submitted, and where it stops it has submitted the next frame of the program or waits
for its next indication. When the call gets what it has waited for, the path goes on from there
(`follows_resume_response`, `follows_resume_acceptance`, `follows_takeIndicationOfCall`). So
whatever the radio does and whichever tasks take turns, what the host submits for a call and what
the call returns are as in the conversations of its program.
-/

namespace Zigbee.Host

open Radio Serial

variable {α : Type}

/-! ### Paths -/

/-- What is heard on the way from a program to what is left of it. -/
inductive Path : Program α → List Turn → Program α → Prop where
  | here {p : Program α} : Path p [] p
  | step {effect : Effect} {next : effect.Answer → Program α} {turns : List Turn} {q : Program α}
      (w : Surroundings Unit) (rest : Path (next (w.perform () effect).result) turns q) :
      Path (.perform effect next) ((w.perform () effect).turns ++ turns) q

/-- Surroundings that are made up for one effect after the other. -/
def unrolled : Surroundings (List (Surroundings Unit)) where
  outcome
    | [], _ => (.accepted, [])
    | w :: rest, f => ((w.outcome () f).1, rest)
  answer
    | [], effect => (quiet effect, [])
    | w :: rest, effect => ((w.answer () effect).1, rest)

theorem perform_unrolled (w : Surroundings Unit) (rest : List (Surroundings Unit))
    (effect : Effect) : ∃ script, unrolled.perform script effect =
      ⟨(w.perform () effect).turns, (w.perform () effect).result, rest⟩ := by
  cases effect with
  | request kind fields =>
    cases written : kind.layout.write fields with
    | error e => exact ⟨rest, by simp only [Surroundings.perform, written]⟩
    | ok payload =>
      refine ⟨w :: rest, ?_⟩
      simp only [Surroundings.perform, written]
      rfl
  | order kind fields =>
    cases written : kind.layout.write fields with
    | error e => exact ⟨rest, by simp only [Surroundings.perform, written]⟩
    | ok payload =>
      refine ⟨w :: rest, ?_⟩
      simp only [Surroundings.perform, written]
      rfl
  | _ => exact ⟨w :: rest, rfl⟩

namespace Path

variable {p q r : Program α} {turns more : List Turn}

theorem trans (first : Path p turns q) (behind : Path q more r) : Path p (turns ++ more) r := by
  induction first with
  | here => exact behind
  | step w rest ih =>
    rw [List.append_assoc]
    exact .step w (ih behind)

theorem one {effect : Effect} {next : effect.Answer → Program α} (w : Surroundings Unit) :
    Path (.perform effect next) (w.perform () effect).turns
      (next (w.perform () effect).result) := by
  have path : Path (.perform effect next) ((w.perform () effect).turns ++ []) _ := .step w .here
  rwa [List.append_nil] at path

/-- A path to the end is a conversation. -/
theorem conversation {result : α} (path : Path p turns (.done result)) :
    ∃ script, p.converse unrolled script = ⟨turns, result, []⟩ := by
  generalize ending : Program.done result = q at path
  induction path with
  | here =>
    subst ending
    exact ⟨[], rfl⟩
  | @step effect next turns q w rest ih =>
    obtain ⟨script, heard⟩ := ih ending
    obtain ⟨first, performed⟩ := perform_unrolled w script effect
    refine ⟨first, ?_⟩
    rw [Program.converse, performed]
    simp only [heard]

/-- An effect that is not heard can be answered in any way. -/
theorem unheard {effect : Effect} {next : effect.Answer → Program α} (answer : effect.Answer)
    (silent : ∀ w : Surroundings Unit, w.perform () effect = ⟨[], (w.answer () effect).1, ()⟩) :
    Path (.perform effect next) [] (next answer) := by
  -- There is no test whether two effects are the same, so the answer is changed classically.
  classical
  let w : Surroundings Unit :=
    ⟨fun _ _ => (.accepted, ()), fun _ e => (Function.update quiet effect answer e, ())⟩
  have given : (w.perform () effect).result = answer := by
    rw [silent w]
    exact Function.update_self effect answer quiet
  have path : Path (.perform effect next) _ _ := .one w
  rw [given, silent w] at path
  exact path

theorem request {kind : RequestKind} {fields : kind.layout.Carrier} {payload : List UInt8}
    {next : Except Failure kind.answer.Carrier → Program α}
    (written : kind.layout.write fields = .ok payload) (o : Outcome) :
    Path (.perform (.request kind fields) next) [.sent (kind.frame payload) o]
      (next (o.answer kind)) := by
  let w : Surroundings Unit := ⟨fun _ _ => (o, ()), fun _ effect => (quiet effect, ())⟩
  have path : Path (.perform (.request kind fields) next) _ _ := .one w
  simp only [Surroundings.perform, written] at path
  exact path

theorem unwritten_request {kind : RequestKind} {fields : kind.layout.Carrier} {e : Wire.CodecError}
    {next : Except Failure kind.answer.Carrier → Program α}
    (unwritten : kind.layout.write fields = .error e) :
    Path (.perform (.request kind fields) next) [] (next (.error (.codec e))) := by
  let w : Surroundings Unit := ⟨fun _ _ => (.accepted, ()), fun _ effect => (quiet effect, ())⟩
  have path : Path (.perform (.request kind fields) next) _ _ := .one w
  simp only [Surroundings.perform, unwritten] at path
  exact path

theorem order {kind : ResetKind} {fields : kind.layout.Carrier} {payload : List UInt8}
    {next : Except Failure Unit → Program α} (written : kind.layout.write fields = .ok payload)
    (o : Outcome) :
    Path (.perform (.order kind fields) next) [.sent (kind.frame payload) o]
      (next o.acceptance) := by
  let w : Surroundings Unit := ⟨fun _ _ => (o, ()), fun _ effect => (quiet effect, ())⟩
  have path : Path (.perform (.order kind fields) next) _ _ := .one w
  simp only [Surroundings.perform, written] at path
  exact path

theorem unwritten_order {kind : ResetKind} {fields : kind.layout.Carrier} {e : Wire.CodecError}
    {next : Except Failure Unit → Program α} (unwritten : kind.layout.write fields = .error e) :
    Path (.perform (.order kind fields) next) [] (next (.error (.codec e))) := by
  let w : Surroundings Unit := ⟨fun _ _ => (.accepted, ()), fun _ effect => (quiet effect, ())⟩
  have path : Path (.perform (.order kind fields) next) _ _ := .one w
  simp only [Surroundings.perform, unwritten] at path
  exact path

theorem await {waiter milliseconds : Nat} {kind : IndicationKind}
    {next : Except Failure kind.layout.Carrier → Program α}
    (answer : Except Failure kind.layout.Carrier) :
    Path (.perform (.await waiter kind milliseconds) next) [.awaited kind answer.isOk]
      (next answer) := by
  classical
  let w : Surroundings Unit := ⟨fun _ _ => (.accepted, ()), fun _ e =>
    (Function.update quiet (.await waiter kind milliseconds) answer e, ())⟩
  have path : Path (.perform (.await waiter kind milliseconds) next) _ _ := .one w
  simp only [Surroundings.perform, Function.update_self, w] at path
  exact path

end Path

/-- What `Says` describes holds of every path to the end. -/
theorem Call.Says.of_path {R : List Turn → Except Failure α → Prop} {c : Call α}
    (tells : c.Says R) {turns : List Turn} {result : Except Failure α}
    (path : Path c.program turns (.done result)) : R turns result := by
  obtain ⟨script, heard⟩ := path.conversation
  have said := tells _ unrolled script
  rw [Call.converse, heard] at said
  exact said

/-! ### The host -/

namespace State

/-- How the host leaves a call that it has run as far as it can. -/
inductive Leaves (owner : Owner) (held : List Nat) (s : State) : Rest → State → Prop where
  | ended (result : Except Failure Reply) :
      Leaves owner held s (.done result) (s.complete owner result)
  /-- The frame of the request is submitted, and the call waits for the response. -/
  | response {kind : RequestKind} {fields : kind.layout.Carrier} {payload : List UInt8}
      {next : Except Failure kind.answer.Carrier → Rest}
      (written : kind.layout.write fields = .ok payload) :
      Leaves owner held s (.perform (.request kind fields) next)
        (let limit := s.setting.requestLimit
        let (ticket, s) := s.submit (kind.frame payload) (some ⟨kind.name, limit, s.clock + limit⟩)
        s.suspend owner held (.response ticket kind next))
  | acceptance {kind : ResetKind} {fields : kind.layout.Carrier} {payload : List UInt8}
      {next : Except Failure Unit → Rest} (written : kind.layout.write fields = .ok payload) :
      Leaves owner held s (.perform (.order kind fields) next)
        (let (ticket, s) := s.submit (kind.frame payload) none
        s.suspend owner held (.acceptance ticket next))
  | indication {waiter milliseconds : Nat} {kind : IndicationKind}
      {next : Except Failure kind.layout.Carrier → Rest} :
      Leaves owner held s (.perform (.await waiter kind milliseconds) next)
        (s.suspend owner held
          (.indication waiter kind milliseconds (s.clock + milliseconds) next))

/-- The host follows the program without submitting anything, and then leaves the call. -/
def Follows (owner : Owner) (s : State) (p : Rest) (t : State) : Prop :=
  ∃ turns q held middle, Path p turns q ∧ framesOf turns = [] ∧
    middle.mux = s.mux ∧ middle.tasks = s.tasks ∧ Leaves owner held middle q t

variable {owner : Owner} {held : List Nat} {s t : State} {p q : Rest} {turns : List Turn}

theorem Leaves.follows (leaves : Leaves owner held s p t) : Follows owner s p t :=
  ⟨[], p, held, s, .here, rfl, rfl, rfl, leaves⟩

theorem Follows.after {s' : State} (path : Path p turns q) (silent : framesOf turns = [])
    (rest : Follows owner s' q t) (mux : s'.mux = s.mux) (tasks : s'.tasks = s.tasks) :
    Follows owner s p t := by
  obtain ⟨more, r, held, middle, behind, quiet, sameMux, sameTasks, leaves⟩ := rest
  refine ⟨turns ++ more, r, held, middle, path.trans behind, ?_, sameMux.trans mux,
    sameTasks.trans tasks, leaves⟩
  rw [framesOf_append, silent, quiet]
  rfl

/-- The host runs a program along one of its paths. -/
theorem follows_advance (owner : Owner) (s : State) (held : List Nat) (p : Rest) :
    Follows owner s p (advance owner s held p) := by
  induction p generalizing s held with
  | done result => exact (@Leaves.ended owner held s result).follows
  | perform effect next ih =>
    cases effect with
    | request kind fields =>
      rw [advance]
      cases written : kind.layout.write fields with
      | error e => exact .after (.unwritten_request written) rfl (ih _ s held) rfl rfl
      | ok payload => exact (Leaves.response written).follows
    | order kind fields =>
      rw [advance]
      cases written : kind.layout.write fields with
      | error e => exact .after (.unwritten_order written) rfl (ih _ s held) rfl rfl
      | ok payload => exact (Leaves.acceptance written).follows
    | await waiter kind milliseconds =>
      rw [advance]
      split
      · exact .after (.await _) rfl (ih _ _ held) rfl rfl
      · exact .after (.await _) rfl (ih _ s held) rfl rfl
      · exact Leaves.indication.follows
    | _ =>
      rw [advance]
      exact .after (.unheard _ fun _ => rfl) rfl (ih _ _ _) rfl rfl

/-- The outcome of a request takes the path of the call further. -/
theorem follows_resume_response {task : Task} {ticket : Nat} {kind : RequestKind}
    {next : Except Failure kind.answer.Carrier → Rest}
    (waits : task.pending = .response ticket kind next) (outcome : Outcome) :
    Follows task.owner s (next (outcome.answer kind)) (s.resume task outcome) := by
  have resumed : s.resume task outcome =
      advance task.owner s task.held (next (outcome.answer kind)) := by
    cases outcome <;> simp only [State.resume, waits, Outcome.answer]
  rw [resumed]
  exact follows_advance _ _ _ _

theorem follows_resume_acceptance {task : Task} {ticket : Nat} {next : Except Failure Unit → Rest}
    (waits : task.pending = .acceptance ticket next) (outcome : Outcome) :
    Follows task.owner s (next outcome.acceptance) (s.resume task outcome) := by
  have resumed : s.resume task outcome =
      advance task.owner s task.held (next outcome.acceptance) := by
    cases outcome <;> simp only [State.resume, waits, Outcome.acceptance]
  rw [resumed]
  exact follows_advance _ _ _ _

/-- An indication that has come, or has been waited for in vain, takes the path further. -/
theorem follows_takeIndicationOfCall (taken : s.takeIndicationOfCall = some t) :
    ∃ task waiter kind milliseconds deadline next answer middle, s.dueTask = some task ∧
      task.pending = .indication waiter kind milliseconds deadline next ∧
      Follows task.owner middle (next answer) t ∧ middle.mux = s.mux := by
  unfold takeIndicationOfCall at taken
  split at taken
  · cases taken
  · rename_i task due
    split at taken
    · rename_i waits
      obtain rfl := Option.some.inj taken
      exact ⟨_, _, _, _, _, _, _, _, due, waits, follows_advance _ _ _ _, rfl⟩
    · cases taken

end State

end Zigbee.Host
