import ClusterClient.Settings
import ClusterClient.Wire.Operation

namespace ClusterClient.Optimistic

/-!
# Guarded updates

A read-modify-write of one value under a version precondition. Every round
reads the value with its version, computes the next value and writes it on
condition that the version is still the same. A conflict starts the next round
from a fresh read; after the last allowed round the update reports contention.

The update is written over any context in which reads, writes and pauses take
place, so that one definition serves a recorded script, a program of store
calls and a run alone.
-/

/-- A value together with the version that it was read at. -/
structure Versioned (Value : Type) where
  value : Value
  cas : Wire.Cas
  deriving Repr, DecidableEq

/-- A bounded read-modify-write. -/
structure Update where
  operation : String
  maxAttempts : Nat
  backoff : Backoff
  acceptsMissingPath : Bool
  deriving Repr, DecidableEq

namespace Update

/-- An update with a limit of at least one round and no delay. -/
def ofLimit (operation : String) (maxAttempts : Nat) : Update where
  operation := operation
  maxAttempts := max maxAttempts 1
  backoff := .none
  acceptsMissingPath := false

/-- An update with the limit and the delay of some settings. -/
def ofSettings (operation : String) (settings : Settings) : Update :=
  { ofLimit operation settings.retryLimit.toNat with
    backoff := settings.backoff }

/--
An update that ends as absent when the write finds that the path is missing.
-/
def acceptingMissingPath (update : Update) : Update :=
  { update with acceptsMissingPath := true }

/-- What a finished round means for the update. -/
inductive Verdict (Result : Type) where
  | finished (result : Except Error Result)
  | conflict
  deriving Repr

/-- Judge the outcome of a guarded write. -/
def judge
    {Value : Type}
    (update : Update)
    (current : Option Value) :
    Except Error Unit → Verdict (Option Value)
  | .ok () => .finished (.ok current)
  | .error (.casMismatch _) => .conflict
  | .error (.pathNotFound path) =>
      if update.acceptsMissingPath then
        .finished (.ok none)
      else
        .finished (.error (.pathNotFound path))
  | .error other => .finished (.error other)

/-- The error of an update that ran out of rounds. -/
def contention (update : Update) : Error :=
  .concurrentModification update.operation update.maxAttempts

section

variable {Context : Type → Type} [Monad Context] {Value Next : Type}

/--
Run up to `remaining` more rounds, the first of which is round `attempt`. There
is no pause after the last round.
-/
def rounds
    (update : Update)
    (readCurrent : Context (Except Error (Versioned (Option Value))))
    (computeNext : Option Value → Context Next)
    (writeIfUnchanged : Next → Wire.Cas → Context (Except Error Unit))
    (pause : Duration → Context Unit) :
    (attempt remaining : Nat) → Context (Except Error (Option Value))
  | _, 0 => pure (.error update.contention)
  | attempt, remaining + 1 => do
      match ← readCurrent with
      | .error error => pure (.error error)
      | .ok current =>
          let next ← computeNext current.value
          let written ← writeIfUnchanged next current.cas
          match update.judge current.value written with
          | .finished result => pure result
          | .conflict =>
              let delay := update.backoff.delay attempt
              if remaining ≠ 0 ∧ ¬ delay.isZero then
                pause delay
              rounds update readCurrent computeNext writeIfUnchanged pause
                (attempt + 1) remaining

/-- Run the update. The result is the value that the winning write replaced. -/
def run
    (update : Update)
    (readCurrent : Context (Except Error (Versioned (Option Value))))
    (computeNext : Option Value → Context Next)
    (writeIfUnchanged : Next → Wire.Cas → Context (Except Error Unit))
    (pause : Duration → Context Unit) :
    Context (Except Error (Option Value)) :=
  rounds update readCurrent computeNext writeIfUnchanged pause
    1 update.maxAttempts

end

end Update

/-- The name of an update that was given none. -/
def unnamedUpdate : String := "guarded update"

end ClusterClient.Optimistic
