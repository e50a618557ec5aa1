import Zigbee.Failure

/-!
# Retrying

An attempt is made again as long as it fails for a reason that may pass and retries are
left. The last failure is the failure of the whole.
-/

namespace Zigbee.Host

/-- Make an attempt, and make it again up to `retries` times. -/
def retry {m : Type → Type} [Monad m] {α : Type} (attempt : ExceptT Failure m α) :
    (retries : Nat) → ExceptT Failure m α
  | 0 => attempt
  | retries + 1 => tryCatch attempt fun e =>
    if e.isRetryable then retry attempt retries else throw e

/-- Attempts whose outcomes are known beforehand; the last one repeats. The state counts
the attempts. -/
def scripted {α : Type} (outcomes : List (Except Failure α)) (last : Except Failure α) :
    ExceptT Failure (StateM Nat) α :=
  ExceptT.mk fun made => (outcomes.getD made last, made + 1)

/-- The result of retrying attempts with known outcomes, and how many were made. -/
def retryScripted {α : Type} (retries : Nat) (outcomes : List (Except Failure α))
    (last : Except Failure α) : Except Failure α × Nat :=
  (retry (scripted outcomes last) retries).run.run 0

end Zigbee.Host
