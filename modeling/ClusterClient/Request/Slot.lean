import ClusterClient.Error

namespace ClusterClient.Request

/-!
# Outcomes and response slots

A response slot is a cell that is assigned once and read by any number of
waiters, each of which gets a copy. The producer holds the lock of the slot
while it stores the outcome and publishes that it did.
-/

/-- How a request ended. -/
inductive Outcome (Value : Type) where
  | succeeded (value : Value)
  | failed (error : Error)
  | cancelled (reason : Cancellation)
  deriving Repr, DecidableEq

/-- The result that a waiter gets from an outcome. -/
def Outcome.toResult {Value : Type} : Outcome Value → Except Error Value
  | .succeeded value => .ok value
  | .failed error => .error error
  | .cancelled reason => .error (.cancelled reason)

/-- What a waiter finds out. -/
inductive Waiting (Value : Type) where
  | answered (outcome : Outcome Value)
  | timedOut
  | blocked
  deriving Repr, DecidableEq

/-- A cell for one outcome, with its lock. -/
structure Slot (Value : Type) where
  outcome : Option (Outcome Value)
  locked : Bool
  deriving Repr, DecidableEq

namespace Slot

variable {Value World : Type}

/-- A slot without outcome. -/
def empty : Slot Value := ⟨none, false⟩

/-- Store an outcome, unless there is one already; say whether it was stored. -/
def store (outcome : Outcome Value) (slot : Slot Value) : Bool × Slot Value :=
  match slot.outcome with
  | some _ => (false, slot)
  | none => (true, { slot with outcome := some outcome })

/-- Store an outcome and, if it was stored, publish that. -/
def storeAndPublish
    (outcome : Outcome Value)
    (publish : World → World)
    (slot : Slot Value)
    (world : World) : Bool × Slot Value × World :=
  match slot.store outcome with
  | (true, filled) => (true, filled, publish world)
  | (false, kept) => (false, kept, world)

/-- Wait for the outcome of a slot that nobody else is filling. -/
def wait (slot : Slot Value) : Waiting Value :=
  match slot.outcome with
  | some outcome => .answered outcome
  | none => .blocked

/--
Wait for the outcome of a slot that nobody else is filling, up to a timeout. A
timeout beyond what the clock can hold never passes.
-/
def waitUpTo
    (slot : Slot Value)
    (now : Instant)
    (timeout : Duration) : Waiting Value :=
  match slot.outcome with
  | some outcome => .answered outcome
  | none => if (now.after? timeout).isSome then .timedOut else .blocked

end Slot

end ClusterClient.Request
