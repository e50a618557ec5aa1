import Zigbee.Proofs.Program.Conversation

/-!
# Which addresses a program adopts

To adopt a network address is an effect that nobody can hear. `Program.adopted` collects the
addresses that are adopted while a program runs. Most programs adopt nothing, whatever
surrounds them.
-/

namespace Zigbee.Host

open Radio Settings

variable {σ α β : Type}

instance : LawfulMonad Program := LawfulMonad.mk' Program
  (fun p => Program.bind_done p) (fun _ _ => rfl) (fun p f g => Program.bind_bind p f g)

/-- The address that an effect adopts. -/
def Effect.adopted : Effect → List String
  | .adoptAddress address => [address]
  | _ => []

namespace Program

/-- The addresses that are adopted in a run, in order. -/
def adopted (w : Surroundings σ) : Program α → σ → List String
  | .done _, _ => []
  | .perform effect next, s =>
    let first := w.perform s effect
    effect.adopted ++ (next first.result).adopted w first.state

theorem adopted_bind (w : Surroundings σ) (p : Program α) (f : α → Program β) (s : σ) :
    (p.bind f).adopted w s = p.adopted w s ++
      (f (p.converse w s).result).adopted w (p.converse w s).state := by
  induction p generalizing s with
  | done a => rfl
  | perform effect next ih => simp only [bind, adopted, converse, ih, List.append_assoc]

/-- Whatever surrounds the program, it adopts no address. -/
def AdoptsNothing (p : Program α) : Prop :=
  ∀ (σ : Type) (w : Surroundings σ) (s : σ), p.adopted w s = []

theorem AdoptsNothing.bind {p : Program α} {f : α → Program β} (first : p.AdoptsNothing)
    (rest : ∀ a, (f a).AdoptsNothing) : (p.bind f).AdoptsNothing := by
  intro σ w s
  rw [adopted_bind, first, rest, List.nil_append]

theorem adoptsNothing_done (a : α) : (done a).AdoptsNothing := fun _ _ _ => rfl

theorem adoptsNothing_ofEffect {effect : Effect} (none : effect.adopted = []) :
    (ofEffect effect).AdoptsNothing :=
  fun _ _ _ => (List.append_nil _).trans none

end Program

namespace Call

open Program

variable {w : Surroundings σ} {s : σ} {c : Call α} {f : α → Call β}

theorem adopted_bind_ok {a : α} (ok : (c.converse w s).result = .ok a) :
    (c >>= f).program.adopted w s =
      c.program.adopted w s ++ (f a).program.adopted w (c.converse w s).state := by
  refine (Program.adopted_bind w c.program _ s).trans ?_
  rw [converse] at ok
  simp only [ok]
  rfl

theorem adopted_bind_error {e : Failure} (error : (c.converse w s).result = .error e) :
    (c >>= f).program.adopted w s = c.program.adopted w s := by
  refine (Program.adopted_bind w c.program _ s).trans ?_
  rw [converse] at error
  simp only [error]
  exact List.append_nil _

theorem adoptsNothing_bind (first : c.program.AdoptsNothing)
    (rest : ∀ a, (f a).program.AdoptsNothing) : (c >>= f).program.AdoptsNothing := by
  refine AdoptsNothing.bind first ?_
  rintro (e | a)
  · exact adoptsNothing_done _
  · exact rest a

theorem adoptsNothing_ask {effect : Effect} (none : effect.adopted = []) :
    (ask effect).program.AdoptsNothing :=
  AdoptsNothing.bind (adoptsNothing_ofEffect none) fun _ => adoptsNothing_done _

theorem adoptsNothing_request (kind : RequestKind) (fields : kind.layout.Carrier) :
    (request kind fields).program.AdoptsNothing := adoptsNothing_ofEffect rfl

theorem adoptsNothing_check (result : Except Failure α) :
    (check result).program.AdoptsNothing := adoptsNothing_done _

theorem adoptsNothing_withWaiter {pattern : Pattern} {use : Nat → Call α}
    (uses : ∀ waiter, (use waiter).program.AdoptsNothing) :
    (withWaiter pattern use).program.AdoptsNothing := by
  refine adoptsNothing_bind (adoptsNothing_ask rfl) fun waiter => ?_
  refine adoptsNothing_bind ?_ fun result => ?_
  · exact AdoptsNothing.bind (uses waiter) fun _ => adoptsNothing_done _
  · exact adoptsNothing_bind (adoptsNothing_ask rfl) fun _ => adoptsNothing_check result

theorem adoptsNothing_retry {attempt : Call α} (attempts : attempt.program.AdoptsNothing)
    (retries : Nat) : (program (retry attempt retries)).AdoptsNothing := by
  induction retries with
  | zero => exact attempts
  | succ retries ih =>
    refine AdoptsNothing.bind attempts ?_
    rintro (e | a)
    · dsimp only
      split
      · exact ih
      · exact adoptsNothing_done _
    · exact adoptsNothing_done _

/-- Whatever surrounds the call, its conversation, the addresses that it adopts and its result are
as described. -/
def Runs (R : List Turn → List String → Except Failure α → Prop) (c : Call α) : Prop :=
  ∀ (σ : Type) (w : Surroundings σ) (s : σ),
    R (c.converse w s).turns (c.program.adopted w s) (c.converse w s).result

theorem Says.runs {R : List Turn → Except Failure α → Prop} (tells : c.Says R)
    (idle : c.program.AdoptsNothing) :
    c.Runs fun turns addresses r => addresses = [] ∧ R turns r :=
  fun σ w s => ⟨idle σ w s, tells σ w s⟩

theorem Runs.mono {R R' : List Turn → List String → Except Failure α → Prop} (runs : c.Runs R)
    (weaker : ∀ turns addresses r, R turns addresses r → R' turns addresses r) : c.Runs R' :=
  fun σ w s => weaker _ _ _ (runs σ w s)

/-- What is adopted later comes after what has been adopted. -/
theorem Runs.bind {R : List Turn → List String → Except Failure α → Prop}
    {S : List Turn → List String → Except Failure β → Prop} (first : c.Runs R)
    (error : ∀ turns addresses e, R turns addresses (.error e) → S turns addresses (.error e))
    (ok : ∀ turns addresses a, R turns addresses (.ok a) →
      (f a).Runs fun more later r => S (turns ++ more) (addresses ++ later) r) :
    (c >>= f).Runs S := by
  intro σ w s
  have run := first σ w s
  cases result : (c.converse w s).result with
  | error e =>
    rw [result] at run
    rw [converse_bind_error result, adopted_bind_error result]
    exact error _ _ e run
  | ok a =>
    rw [result] at run
    rw [converse_bind_ok result, adopted_bind_ok result]
    exact ok _ _ a run σ w _

theorem runs_adopt (address : String) : (ask (.adoptAddress address)).Runs
    fun turns addresses r => turns = [] ∧ addresses = [address] ∧ r = .ok () :=
  fun _ _ _ => ⟨rfl, rfl, rfl⟩

end Call

theorem adoptsNothing_sendAndWait (policy : RetryPolicy) (pattern : Pattern) {send : Call Unit}
    (sends : send.program.AdoptsNothing) :
    (sendAndWait policy pattern send).program.AdoptsNothing := by
  refine Call.adoptsNothing_retry (Call.adoptsNothing_withWaiter fun waiter => ?_) _
  exact Call.adoptsNothing_bind sends fun _ => Program.adoptsNothing_ofEffect rfl

end Zigbee.Host
