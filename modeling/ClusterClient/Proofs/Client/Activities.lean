import ClusterClient.Client.Execution
import ClusterClient.Proofs.Client.Requests
import ClusterClient.Proofs.Trace

namespace ClusterClient.Client

/-!
# The activities of a client

Any number of threads may work on one client: they issue operations, hand
response frames to it, cancel what has expired, shut it down, wait for issued
requests, and complete requests themselves. Every atomic step of an activity is
a call; the connection and the clock may answer as they like.
-/

/-- The outcome of a request, if it has one. -/
def Traffic.outcome?
    (traffic : Traffic)
    (request : Nat) : Option (Request.Outcome Wire.Response) :=
  traffic.requests[request]?.bind fun request => request.slot.outcome

/--
The answers of a client's surroundings. The table has the one answer that it
gives; one who waits gets the outcome of the request, or nothing while time
runs out; the connection and the clock may answer anything.
-/
def semantics : Semantics interface Traffic :=
  fun call before answer after =>
    match call, answer with
    | .table call, answer => Traffic.machine call before = (answer, after)
    | .awaitUntil request _, answer =>
        after = before ∧
          ∀ outcome, answer = some outcome → before.outcome? request = answer
    | .awaitForever request, answer =>
        after = before ∧ before.outcome? request = some answer
    | .readClock, _ | .send _, _ | .sleep _, _ | .allowance, _ =>
        after = before
    | .never, impossible => nomatch impossible

/-- Issuing an operation, step by step, with what comes after it. -/
theorem issue_bind
    {Result : Type}
    (client : Client)
    (operation : Wire.Operation)
    (timeout : Duration)
    (continuation : Except Error Handle → Program interface Result) :
    let routed := operation.route client.settings.partitionCount
    Program.bind (client.issue operation timeout).run continuation =
      .step (.table (.newContext routed.name (some routed.key.id)))
        fun context =>
      .step .readClock fun now =>
      match Request.create timeout now context with
      | .error fault => continuation (.error (.invalidArgument fault))
      | .ok request =>
          .step (.table (.openRequest request)) fun (index : Nat) =>
          .step (.table .takeCorrelation) fun (correlation : UInt32) =>
          .step (.table (.register correlation ⟨routed, index⟩)) fun _ =>
          .step (.send (routed.encode correlation client.channel))
            fun (sent : Except Error Unit) =>
          match sent with
          | .ok () => continuation (.ok ⟨index, request.deadline?⟩)
          | .error error =>
              .step (.table (.takeEntry correlation)) fun _ =>
              .step (.table (.complete index (.failed error))) fun _ =>
              continuation (.error error) := by
  refine congrArg (Program.step _) (funext fun context => ?_)
  refine congrArg (Program.step _) (funext fun now => ?_)
  change
    Program.bind
      (Program.bind (accept (Request.create timeout now context)) _) _ = _
  cases Request.create timeout now context with
  | error fault => rfl
  | ok request =>
      refine congrArg (Program.step _) (funext fun index => ?_)
      refine congrArg (Program.step _) (funext fun correlation => ?_)
      refine congrArg (Program.step _) (funext fun _ => ?_)
      refine congrArg (Program.step _) (funext fun sent => ?_)
      cases sent <;> rfl

/-- What a thread may do on a client. -/
inductive Activity where
  | issue (operation : Wire.Operation) (timeout : Duration)
  | receive (frame : Bytes)
  | expire (now : Instant)
  | shutdown
  | await (handle : Handle)
  | complete (request : Nat) (outcome : Request.Outcome Wire.Response)

/-- What an activity returns. -/
inductive Ending where
  | issued (result : Except Error Handle)
  | received (result : Except Error Unit)
  | expired (count : Nat)
  | shutdown
  | awaited (result : Except Error Wire.Response)
  | completed (won : Bool)

namespace Activity

/-- The program of an activity. -/
def program (client : Client) : Activity → Program interface Ending
  | .issue operation timeout => do
      let result ← (client.issue operation timeout).run
      return .issued result
  | .receive frame => do
      let result ← withTable (client.receive frame)
      return .received result
  | .expire now => do
      let count ← withTable (Client.expire now)
      return .expired count
  | .shutdown => do
      withTable Client.shutdown
      return .shutdown
  | .await handle => do
      let result ← (awaitHandle handle).run
      return .awaited result
  | .complete request outcome => do
      let won : Bool ← onTable (.complete request outcome)
      return .completed won

/-- The activity issues an operation. -/
def issues : Activity → Bool
  | .issue .. => true
  | _ => false

/-- The program of issuing an operation, step by step. -/
theorem program_issue
    (client : Client)
    (operation : Wire.Operation)
    (timeout : Duration) :
    let routed := operation.route client.settings.partitionCount
    (issue operation timeout).program client =
      .step (.table (.newContext routed.name (some routed.key.id)))
        fun context =>
      .step .readClock fun now =>
      match Request.create timeout now context with
      | .error fault => .done (.issued (.error (.invalidArgument fault)))
      | .ok request =>
          .step (.table (.openRequest request)) fun (index : Nat) =>
          .step (.table .takeCorrelation) fun (correlation : UInt32) =>
          .step (.table (.register correlation ⟨routed, index⟩)) fun _ =>
          .step (.send (routed.encode correlation client.channel))
            fun (sent : Except Error Unit) =>
          match sent with
          | .ok () => .done (.issued (.ok ⟨index, request.deadline?⟩))
          | .error error =>
              .step (.table (.takeEntry correlation)) fun _ =>
              .step (.table (.complete index (.failed error))) fun _ =>
              .done (.issued (.error error)) :=
  issue_bind client operation timeout fun result => .done (Ending.issued result)

end Activity

end ClusterClient.Client
