import ClusterClient.Program
import ClusterClient.Request.Slot

namespace ClusterClient.Request

/-!
# The life of a request

A request is completed once: by a response, by a failure or by a cancellation.
A completing call claims the request, records why it was cancelled, and then,
under the lock of the response slot, stores the outcome and publishes the final
phase. Each of these is one atomic step. A call that fails to claim the request
returns at once and changes nothing.

`machine` answers the atomic steps; `complete` and the observers are programs
over them. `finish` is a whole completion without anything in between.
-/

/-- The stages of a request; a claimed one has not yet published its outcome. -/
inductive Phase where
  | incomplete
  | completing
  | succeeded
  | failed
  | cancelled
  deriving Repr, DecidableEq

/-- What an observer sees of the stage of a request. -/
inductive Status where
  | incomplete
  | succeeded
  | failed
  | cancelled
  deriving Repr, DecidableEq

/-- The name of an observed stage. -/
def Status.name : Status → String
  | .incomplete => "Incomplete"
  | .succeeded => "Succeeded"
  | .failed => "Failed"
  | .cancelled => "Cancelled"

/-- A claimed request still looks incomplete. -/
def Phase.status : Phase → Status
  | .incomplete | .completing => .incomplete
  | .succeeded => .succeeded
  | .failed => .failed
  | .cancelled => .cancelled

/-- The final phase that goes with an outcome. -/
def Outcome.phase {Value : Type} : Outcome Value → Phase
  | .succeeded _ => .succeeded
  | .failed _ => .failed
  | .cancelled _ => .cancelled

/-- The reason that goes with an outcome. -/
def Outcome.reason? {Value : Type} :
    Outcome Value → Option Cancellation
  | .cancelled reason => some reason
  | _ => none

/-- What a request is about. -/
structure Context where
  id : UInt64
  operation : String
  target : Option String
  deriving Repr, DecidableEq

/-- The source of request ids: the next one to be given out. -/
structure Identities where
  next : UInt64
  deriving Repr, DecidableEq

/-- Ids start at one. -/
def Identities.initial : Identities := ⟨1⟩

/-- Give out an id to a new context. -/
def Identities.newContext
    (identities : Identities)
    (operation : String)
    (target : Option String) : Context × Identities :=
  (⟨identities.next, operation, target⟩, ⟨identities.next + 1⟩)

end Request

/-- A unit of work in flight. -/
structure Request (Value : Type) where
  timeout : Duration
  createdAt : Instant
  context : Request.Context
  phase : Request.Phase
  reason : Option Cancellation
  slot : Request.Slot Value
  deriving Repr, DecidableEq

namespace Request

variable {Value : Type}

/-- A new request; it needs a timeout. -/
def create
    (timeout : Duration)
    (createdAt : Instant)
    (context : Context) : Except ArgumentFault (Request Value) :=
  if timeout.isZero then
    .error .zeroTimeout
  else
    .ok {
      timeout := timeout
      createdAt := createdAt
      context := context
      phase := .incomplete
      reason := none
      slot := .empty
    }

/-- The observed stage of a request. -/
def status (request : Request Value) : Status :=
  request.phase.status

/-- The request has a published outcome. -/
def isCompleted (request : Request Value) : Bool :=
  request.status ≠ .incomplete

/-- The request was answered. -/
def hasSucceeded (request : Request Value) : Bool :=
  request.status = .succeeded

/-- The request failed. -/
def hasFailed (request : Request Value) : Bool :=
  request.status = .failed

/-- The request was cancelled. -/
def isCancelled (request : Request Value) : Bool :=
  request.status = .cancelled

/-- Why the request was cancelled, once it is seen to be cancelled. -/
def cancellation? (request : Request Value) :
    Option Cancellation :=
  if request.isCancelled then request.reason else none

/-- The instant at which the timeout of the request ends, if there is one. -/
def deadline? (request : Request Value) : Option Instant :=
  request.createdAt.after? request.timeout

/-- The deadline of the request lies at or before an instant. -/
def isExpired (request : Request Value) (now : Instant) : Bool :=
  match request.deadline? with
  | some deadline => deadline.nanoseconds ≤ now.nanoseconds
  | none => false

/-- The atomic steps of calls on one request. -/
inductive Call (Value : Type) where
  | claim
  | recordReason (reason : Cancellation)
  | lockSlot
  | storeOutcome (outcome : Outcome Value)
  | publish (phase : Phase)
  | unlockSlot
  | readPhase
  | readReason
  | readOutcome
  | awaitOutcome
  deriving Repr, DecidableEq

/-- What each atomic step returns. -/
def Call.Answer : Call Value → Type
  | .claim => Bool
  | .recordReason _ => Unit
  | .lockSlot => Unit
  | .storeOutcome _ => Bool
  | .publish _ => Unit
  | .unlockSlot => Unit
  | .readPhase => Phase
  | .readReason => Option Cancellation
  | .readOutcome => Option (Outcome Value)
  | .awaitOutcome => Outcome Value

/-- Programs on one request. -/
abbrev interface (Value : Type) : Interface := ⟨Call Value, Call.Answer⟩

/--
How a request answers an atomic step.

The claim succeeds on an incomplete request only. The reason is written once.
The lock refuses a second holder; a reader of the outcome needs the lock for
the moment of reading, and a waiter needs an outcome besides.
-/
def machine : Machine (interface Value) (Request Value) := fun call request =>
  match call with
  | .claim =>
      if request.phase = .incomplete then
        some (true, { request with phase := .completing })
      else
        some (false, request)
  | .recordReason reason =>
      some ((), { request with reason := some (request.reason.getD reason) })
  | .lockSlot =>
      if request.slot.locked then
        none
      else
        some ((), { request with slot := { request.slot with locked := true } })
  | .storeOutcome outcome =>
      let (stored, slot) := request.slot.store outcome
      some (stored, { request with slot := slot })
  | .publish phase => some ((), { request with phase := phase })
  | .unlockSlot =>
      some ((), { request with slot := { request.slot with locked := false } })
  | .readPhase => some (request.phase, request)
  | .readReason => some (request.reason, request)
  | .readOutcome =>
      if request.slot.locked then none else some (request.slot.outcome, request)
  | .awaitOutcome =>
      if request.slot.locked then
        none
      else
        match request.slot.outcome with
        | none => none
        | some outcome => some (outcome, request)

/-- Make one atomic step. -/
def perform (call : Call Value) :
    Program (interface Value) call.Answer :=
  @Program.perform (interface Value) call

/-- Record why a request is cancelled, if it is. -/
def recordReason? :
    Option Cancellation → Program (interface Value) Unit
  | none => .done ()
  | some reason => perform (.recordReason reason)

/--
Complete a request; the result says whether this call won.

The reason is recorded before the phase is published, so whoever sees a
cancelled request also sees why, and the phase is published while the slot is
locked, so a final phase always comes with its outcome.
-/
def complete (outcome : Outcome Value) : Program (interface Value) Bool := do
  let claimed : Bool ← perform .claim
  if claimed then
    recordReason? outcome.reason?
    perform .lockSlot
    let stored : Bool ← perform (.storeOutcome outcome)
    if stored then
      perform (.publish outcome.phase)
    perform .unlockSlot
    return true
  else
    return false

/-- Observe the stage of a request. -/
def observeStatus : Program (interface Value) Status := do
  let phase : Phase ← perform .readPhase
  return phase.status

/-- Observe why a request was cancelled. -/
def observeReason :
    Program (interface Value) (Option Cancellation) := do
  let phase : Phase ← perform .readPhase
  if phase.status = .cancelled then
    perform .readReason
  else
    return none

/-- Observe the outcome of a request. -/
def observeOutcome : Program (interface Value) (Option (Outcome Value)) :=
  perform .readOutcome

/-- Wait until a request has an outcome. -/
def await : Program (interface Value) (Except Error Value) := do
  let outcome : Outcome Value ← perform .awaitOutcome
  return outcome.toResult

/--
Complete a request with nothing in between. A request whose slot is held by
somebody else is left alone.
-/
def finish
    (outcome : Outcome Value)
    (request : Request Value) : Bool × Request Value :=
  match machine.run (complete outcome) request with
  | some answered => answered
  | none => (false, request)

/-- Nobody is in the middle of completing the request. -/
def IsSettled (request : Request Value) : Prop :=
  request.slot.locked = false ∧
    request.phase ≠ .completing ∧
    (request.phase = .incomplete →
      request.slot.outcome = none ∧ request.reason = none)

/-- Completing an incomplete request fills its slot and sets its phase. -/
theorem finish_of_incomplete
    {request : Request Value}
    (settled : request.IsSettled)
    (incomplete : request.phase = .incomplete)
    (outcome : Outcome Value) :
    finish outcome request =
      (true, { request with
        phase := outcome.phase
        reason := outcome.reason?
        slot := ⟨some outcome, false⟩ }) := by
  obtain ⟨timeout, createdAt, context, phase, reason, stored, locked⟩ :=
    request
  obtain ⟨unlocked, _, fresh⟩ := settled
  obtain ⟨noOutcome, noReason⟩ := fresh incomplete
  simp only at incomplete unlocked noOutcome noReason
  subst incomplete unlocked noOutcome noReason
  cases outcome <;> rfl

/-- Completing a completed request changes nothing. -/
theorem finish_of_not_incomplete
    {request : Request Value}
    (completed : request.phase ≠ .incomplete)
    (outcome : Outcome Value) :
    finish outcome request = (false, request) := by
  obtain ⟨timeout, createdAt, context, phase, reason, slot⟩ := request
  cases phase with
  | incomplete => exact absurd rfl completed
  | completing => rfl
  | succeeded => rfl
  | failed => rfl
  | cancelled => rfl

end Request

end ClusterClient
