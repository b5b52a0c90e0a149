import ClusterClient.Client.Correlation

namespace ClusterClient.Client

/-!
# Executing operations

An execution issues an operation and waits for its outcome. A request that
is not answered by its deadline is cancelled and leaves the table. When the
server reports a transient condition, an idempotent operation may be sent again
after a short pause, for as long as time remains.
-/

/-- The pause before an operation is sent again: five milliseconds. -/
def resendDelay : Duration := .ofMilliseconds 5

/-- Cancel a request that was not answered in time, and read its outcome. -/
def giveUp (request : Nat) : Attempt Wire.Response := do
  let won : Bool ← onTable (.complete request (.cancelled .timeout))
  if won then
    let _ : Unit ← onTable .dropCompleted
  let outcome : Request.Outcome Wire.Response ←
    perform (.awaitForever request)
  conclude outcome.toResult

/-- Wait for the outcome of an issued request, up to its deadline. -/
def awaitHandle (handle : Handle) : Attempt Wire.Response := do
  match handle.deadline? with
  | none =>
      let outcome : Request.Outcome Wire.Response ←
        perform (.awaitForever handle.request)
      conclude outcome.toResult
  | some deadline =>
      let now : Instant ← perform .readClock
      let answered : Option (Request.Outcome Wire.Response) ←
        perform (.awaitUntil handle.request (now.remainingUntil deadline))
      match answered with
      | some outcome => conclude outcome.toResult
      | none => giveUp handle.request

/-- What the outcome of one attempt means for an execution. -/
inductive Progress where
  | finished (result : Except Error Wire.Response)
  | sendAgain

/-- Judge the outcome of one attempt. -/
def judge
    (operation : Wire.Operation)
    (timeout : Duration)
    (policy : TransientPolicy)
    (result : Except Error Wire.Response) : Progress :=
  match result with
  | .error (.status status context) =>
      if status.isTemporary ∧ policy = .resend ∧
          operation.isIdempotent then
        .sendAgain
      else
        .finished (.error (.status status context))
  | .error (.cancelled .timeout) => .finished (.error (.timeout timeout))
  | other => .finished other

/-- The time that an execution has left; without a deadline, all of it. -/
def timeLeft
    (timeout : Duration) :
    (deadline : Option Instant) → Program interface Duration
  | none => return timeout
  | some deadline => do
      let now : Instant ← perform .readClock
      return now.remainingUntil deadline

/-- Make up to so many attempts. -/
def attempts
    (client : Client)
    (operation : Wire.Operation)
    (timeout : Duration)
    (policy : TransientPolicy)
    (deadline : Option Instant) : Nat → Attempt Wire.Response
  | 0 => do
      let impossible : Empty ← perform .never
      nomatch impossible
  | rounds + 1 => do
      let remaining : Duration ← timeLeft timeout deadline
      if remaining.isZero then
        conclude (.error (.timeout timeout))
      else
        let handle ← client.issue operation remaining
        let result ← ExceptT.lift (awaitHandle handle).run
        match judge operation timeout policy result with
        | .finished result => conclude result
        | .sendAgain =>
            let _ : Unit ← perform (.sleep (resendDelay.shorter remaining))
            attempts client operation timeout policy deadline rounds

/-- Issue an operation and wait for its outcome. -/
def executeWithin
    (client : Client)
    (operation : Wire.Operation)
    (timeout : Duration)
    (policy : TransientPolicy) : Attempt Wire.Response := do
  let now : Instant ← perform .readClock
  let rounds : Nat ← perform .allowance
  client.attempts operation timeout policy (now.after? timeout) rounds

/-- Execute an operation with the timeout and the policy of the client. -/
def execute
    (client : Client)
    (operation : Wire.Operation) : Attempt Wire.Response :=
  client.executeWithin operation client.settings.requestTimeout client.policy

end ClusterClient.Client
