import ClusterClient.Proofs.Client.Verdicts
import ClusterClient.Proofs.Server.Documents

namespace ClusterClient.Server

/-!
# A client and a server of documents

Every frame that the client sends reaches the server, which answers it at once.
The response is handed to the client before the connection returns from sending,
or some time later, while the client waits. So an execution ends with what its
operation was answered.
-/

/--
The requests of a client, the clock, the documents of the server, and the
response that is on its way, with the time until it arrives.
-/
structure Service where
  traffic : Client.Traffic
  clock : Instant
  memory : Document.Memory
  arriving : Option (Bytes × Duration)

/-- How long the response to a frame takes, unless it is there at once. -/
abbrev Latency := Bytes → Option Duration

namespace Service

/-- Let time pass. -/
def later (service : Service) (delay : Duration) : Service :=
  { service with clock := ⟨service.clock.nanoseconds + delay.nanoseconds⟩ }

/-- Hand a response to the client. -/
def deliver (client : Client) (frame : Bytes) (service : Service) : Service :=
  { service with
    traffic :=
      (TotalMachine.run Client.Traffic.machine (client.receive frame)
        service.traffic).2 }

/-- The connection takes a frame to the server. -/
def send
    (client : Client)
    (latency : Latency)
    (frame : Bytes)
    (service : Service) : Service :=
  match answerFrame client.channel service.memory frame with
  | (none, memory) => { service with memory := memory }
  | (some response, memory) =>
      let answered := { service with memory := memory }
      match latency frame with
      | none => answered.deliver client response
      | some delay => { answered with arriving := some (response, delay) }

/-- Wait for the response on its way, if it arrives before a limit. -/
def waitFor
    (client : Client)
    (isInTime : Duration → Bool)
    (service : Service) : Service :=
  match service.arriving with
  | some (response, delay) =>
      if isInTime delay then
        ({ service with arriving := none }.later delay).deliver client response
      else
        service
  | none => service

/-- The outcome of a request, if it has one. -/
def outcome?
    (service : Service)
    (request : Nat) : Option (Request.Outcome Wire.Response) :=
  service.traffic.requests[request]?.bind fun opened => opened.slot.outcome

/--
Answer a call of the client. Waiting for an outcome that nobody will bring is
refused, and so is an attempt beyond the first.
-/
def machine
    (client : Client)
    (latency : Latency) : Machine Client.interface Service :=
  fun call service =>
    match call with
    | .table call =>
        let (answer, traffic) := Client.Traffic.machine call service.traffic
        some (answer, { service with traffic := traffic })
    | .readClock => some (service.clock, service)
    | .send frame => some (.ok (), service.send client latency frame)
    | .awaitUntil request limit =>
        match service.outcome? request with
        | some outcome => some (some outcome, service)
        | none =>
            let waited :=
              service.waitFor client (·.nanoseconds < limit.nanoseconds)
            match waited.outcome? request with
            | some outcome => some (some outcome, waited)
            | none =>
                some
                  (none, { waited with clock := (service.later limit).clock })
    | .awaitForever request =>
        match service.outcome? request with
        | some outcome => some (outcome, service)
        | none =>
            let waited := service.waitFor client fun _ => true
            (waited.outcome? request).map fun outcome => (outcome, waited)
    | .sleep delay => some ((), service.later delay)
    | .allowance => some ((1 : Nat), service)
    | .never => none

/-! Issuing a request. -/

/-- The request that is opened for an operation. -/
def opened
    (service : Service)
    (operation : Wire.Operation)
    (timeout : Duration) : Request Wire.Response where
  timeout := timeout
  createdAt := service.clock
  context :=
    (service.traffic.identities.newContext operation.name
      (some operation.key.id)).1
  phase := .incomplete
  reason := none
  slot := .empty

/-- A request for an operation is opened and registered. -/
def register
    (service : Service)
    (operation : Wire.Operation)
    (timeout : Duration) : Service :=
  let traffic := service.traffic
  { service with
    traffic := {
      nextCorrelation := traffic.nextCorrelation + 1
      table :=
        KeyedList.insert traffic.nextCorrelation
          ⟨operation, traffic.requests.length⟩ traffic.table
      requests := traffic.requests ++ [service.opened operation timeout]
      identities :=
        (traffic.identities.newContext operation.name
          (some operation.key.id)).2
    } }

theorem run_issue
    (client : Client)
    (latency : Latency)
    (operation : Wire.Operation)
    {timeout : Duration}
    (lasting : timeout.isZero = false)
    (service : Service) :
    let routed := operation.route client.settings.partitionCount
    Machine.run (machine client latency) (client.issue operation timeout).run
        service =
      some
        (.ok ⟨service.traffic.requests.length, service.clock.after? timeout⟩,
          (service.register routed timeout).send client latency
            (routed.encode service.traffic.nextCorrelation
              client.channel)) := by
  obtain ⟨nanoseconds, below⟩ := timeout
  cases nanoseconds with
  | zero => cases lasting
  | succ nanoseconds => rfl

/-! Handing over the response. -/

/-- The response to the request of a registered operation completes it. -/
theorem outcome?_deliver
    {client : Client}
    {operation : Wire.Operation}
    {timeout : Duration}
    {service waiting : Service}
    {bytes : Bytes}
    {response : Wire.Response}
    (registered :
      waiting.traffic = (service.register operation timeout).traffic)
    (decoded :
      Wire.Response.decode operation bytes client.channel = .ok response)
    (correlated : response.correlation = service.traffic.nextCorrelation) :
    (waiting.deliver client bytes).outcome? service.traffic.requests.length =
      some
        (Client.outcomeOf (Client.verdict operation bytes client.channel)) := by
  obtain ⟨frame, body, parsed, -, -, rfl⟩ :=
    Wire.Response.decode_eq_ok_iff.mp decoded
  have number : frame.header.correlation = service.traffic.nextCorrelation :=
    correlated
  have headed := Wire.Frame.headed_of_parse parsed
  let index := service.traffic.requests.length
  have waits :
      KeyedList.find? frame.header.correlation waiting.traffic.table =
        some ⟨operation, index⟩ := by
    rw [registered, number]
    exact (KeyedList.find?_insert ..).trans (if_pos rfl)
  have opened :
      waiting.traffic.requests[index]? =
        some (service.opened operation timeout) := by
    rw [registered]
    exact List.getElem?_concat_length
  have settled : (service.opened operation timeout).IsSettled :=
    ⟨rfl, nofun, fun _ => ⟨rfl, rfl⟩⟩
  have received :
      TotalMachine.run Client.Traffic.machine (client.receive bytes)
          waiting.traffic =
        _ :=
    Client.run_receive headed waits opened settled rfl
  have inside : index < waiting.traffic.requests.length :=
    (List.getElem?_eq_some_iff.mp opened).1
  simp only [deliver, outcome?, received, Client.Traffic.settled]
  rw [List.getElem?_set_self inside]
  rfl

/-! Waiting for the response. -/

/--
Waiting for less than a limit brings an outcome: it is there already, or the
response that brings it is on its way.
-/
inductive Brings
    (client : Client)
    (limit : Duration)
    (request : Nat)
    (outcome : Request.Outcome Wire.Response)
    (service : Service) : Service → Prop
  | already
      (there : service.outcome? request = some outcome) :
      Brings client limit request outcome service service
  | later {waited : Service}
      (missing : service.outcome? request = none)
      (waits : ∀ isInTime : Duration → Bool,
        (∀ delay : Duration,
          delay.nanoseconds < limit.nanoseconds → isInTime delay) →
        service.waitFor client isInTime = waited)
      (brought : waited.outcome? request = some outcome) :
      Brings client limit request outcome service waited

section Waiting

variable {client : Client} {latency : Latency} {limit : Duration}
variable {request : Nat} {outcome : Request.Outcome Wire.Response}
variable {service waited : Service}

theorem Brings.awaitForever
    (brings : Brings client limit request outcome service waited) :
    machine client latency (.awaitForever request) service =
      some (outcome, waited) := by
  cases brings with
  | already there =>
      simp only [machine, there]
      rfl
  | later missing waits brought =>
      have comes := waits (fun _ => true) fun _ _ => rfl
      simp only [machine, missing, comes, brought]
      rfl

theorem Brings.awaitUntil
    (brings : Brings client limit request outcome service waited) :
    machine client latency (.awaitUntil request limit) service =
      some (some outcome, waited) := by
  cases brings with
  | already there =>
      simp only [machine, there]
      rfl
  | later missing waits brought =>
      have comes :=
        waits (·.nanoseconds < limit.nanoseconds) fun _ inTime =>
          decide_eq_true inTime
      simp only [machine, missing, comes, brought]
      rfl

/-- All the time of a request is left while no time has passed. -/
theorem remainingUntil_of_after?
    {now deadline : Instant}
    (ends : now.after? limit = some deadline) :
    now.remainingUntil deadline = limit := by
  unfold Instant.after? at ends
  dsimp only at ends
  split at ends
  · cases ends
    simp [Instant.remainingUntil, Duration.ofNanoseconds, limit.belowLimit]
  · cases ends

theorem run_awaitHandle
    (brings : Brings client limit request outcome service waited) :
    Machine.run (machine client latency)
        (Client.awaitHandle ⟨request, service.clock.after? limit⟩).run
        service =
      some (outcome.toResult, waited) := by
  cases ends : service.clock.after? limit with
  | none =>
      change
        Machine.run (machine client latency)
            (.step (.awaitForever request) fun outcome =>
              .done outcome.toResult)
            service =
          _
      rw [Machine.run, brings.awaitForever]
      rfl
  | some deadline =>
      change
        Machine.run (machine client latency)
            (.step
              (.awaitUntil request (service.clock.remainingUntil deadline)) _)
            service =
          _
      rw [remainingUntil_of_after? ends, Machine.run, brings.awaitUntil]
      rfl

end Waiting

/-! A whole execution. -/

/-- Nothing is on its way. -/
def IsQuiet (service : Service) : Prop :=
  service.arriving = none

/-- Responses arrive before the requests of a client time out. -/
structure IsPrompt (client : Client) (latency : Latency) : Prop where
  lasting : client.settings.requestTimeout.isZero = false
  inTime : ∀ frame delay, latency frame = some delay →
    delay.nanoseconds < client.settings.requestTimeout.nanoseconds

section Execution

variable {client : Client} {latency : Latency} {service : Service}
variable {operation : Wire.Operation}

/-- Sending a request takes no time. -/
theorem clock_send (frame : Bytes) :
    (service.send client latency frame).clock = service.clock := by
  unfold send
  split
  · rfl
  · dsimp only
    split <;> rfl

/-- The server carries out what was sent, and its answer reaches the client. -/
theorem exists_brings
    {timeout : Duration}
    (prompt : ∀ frame delay, latency frame = some delay →
      delay.nanoseconds < timeout.nanoseconds)
    (quiet : service.IsQuiet)
    (clear : operation.HasClearExpiry)
    (fits : (serve service.memory operation).1.Fits) :
    let correlation := service.traffic.nextCorrelation
    let answer := (serve service.memory operation).1
    let result := answer.result operation client.channel correlation
    ∃ waited,
      Brings client timeout service.traffic.requests.length
          (Client.outcomeOf result)
          ((service.register operation timeout).send client latency
            (operation.encode correlation client.channel))
          waited ∧
        waited.IsQuiet ∧
        waited.memory = (serve service.memory operation).2 := by
  intro correlation answer result
  let frame := operation.encode correlation client.channel
  let bytes := answer.frame operation.command correlation
  let answered : Service :=
    { service.register operation timeout with
      memory := (serve service.memory operation).2 }
  have answers := serve_answers service.memory operation
  have served :
      answerFrame client.channel (service.register operation timeout).memory
          frame =
        (some bytes, (serve service.memory operation).2) :=
    answerFrame_encode clear service.memory correlation client.channel
  have brought {waiting : Service}
      (registered :
        waiting.traffic = (service.register operation timeout).traffic) :
      (waiting.deliver client bytes).outcome?
          service.traffic.requests.length =
        some (Client.outcomeOf result) := by
    rw [outcome?_deliver registered
      (answers.decode_frame fits client.channel correlation) rfl,
      answers.verdict_frame fits]
  cases takes : latency frame with
  | none =>
      have sent :
          (service.register operation timeout).send client latency frame =
            answered.deliver client bytes := by
        simp only [send, served, takes]
        rfl
      rw [sent]
      exact ⟨_, .already (brought rfl), quiet, rfl⟩
  | some delay =>
      have sent :
          (service.register operation timeout).send client latency frame =
            { answered with arriving := some (bytes, delay) } := by
        simp only [send, served, takes]
        rfl
      have missing :
          ({ answered with arriving := some (bytes, delay) } :
              Service).outcome? service.traffic.requests.length =
            none := by
        simp only [outcome?, answered, register, List.getElem?_concat_length]
        rfl
      let arrived := { answered with arriving := none }.later delay
      rw [sent]
      refine
        ⟨arrived.deliver client bytes,
          .later missing (fun isInTime waits => ?_) (brought rfl), rfl, rfl⟩
      exact if_pos (waits delay (prompt frame delay takes))

/-- An answer that lasts ends its execution. -/
theorem judge_of_decides
    {response : Wire.Response}
    {result : Except Error Wire.Response}
    {partitionCount : UInt16}
    (decides :
      Client.Decides (operation.route partitionCount) response result)
    (lasting : response.status.isTemporary = false)
    (timeout : Duration)
    (policy : TransientPolicy) :
    Client.judge operation timeout policy result = .finished result := by
  cases decides with
  | answer | notFound | conflict | existing => rfl
  | path mutation _ _ _ =>
      have noRetry : operation.isIdempotent = false := by
        cases operation <;> first | rfl | cases mutation
      rw [Client.pathError_eq]
      split
      · rfl
      split
      · rfl
      split
      · rfl
      · simp [Client.judge, noRetry]
  | status => simp [Client.judge, lasting]

/-- A program goes on after what it began with has succeeded. -/
theorem run_attempt_bind
    {First Last : Type}
    {first : Client.Attempt First}
    {value : First}
    {middle : Service}
    (succeeds :
      Machine.run (machine client latency) first.run service =
        some (.ok value, middle))
    (next : First → Client.Attempt Last) :
    Machine.run (machine client latency) (first >>= next).run service =
      Machine.run (machine client latency) (next value).run middle := by
  change Machine.run (machine client latency) (Program.bind first.run _) _ = _
  rw [Machine.run_bind, succeeds]
  rfl

theorem run_lift
    {Result : Type}
    {program : Program Client.interface Result}
    {value : Result}
    {middle : Service}
    (ends :
      Machine.run (machine client latency) program service =
        some (value, middle)) :
    Machine.run (machine client latency)
        (ExceptT.lift program : Client.Attempt Result).run service =
      some (.ok value, middle) := by
  change Machine.run (machine client latency) (Program.bind program _) _ = _
  rw [Machine.run_bind, ends]
  rfl

theorem run_timeLeft (timeout : Duration) :
    Machine.run (machine client latency)
        (Client.timeLeft timeout (service.clock.after? timeout)) service =
      some (timeout, service) := by
  cases ends : service.clock.after? timeout with
  | none => rfl
  | some deadline =>
      rw [← remainingUntil_of_after? ends]
      rfl

/-- The first attempt ends an execution when its answer lasts. -/
theorem run_attempts
    {timeout : Duration}
    {policy : TransientPolicy}
    {outcome : Request.Outcome Wire.Response}
    {waited : Service}
    (lasting : timeout.isZero = false)
    (brings :
      let routed := operation.route client.settings.partitionCount
      Brings client timeout service.traffic.requests.length outcome
        ((service.register routed timeout).send client latency
          (routed.encode service.traffic.nextCorrelation client.channel))
        waited)
    (finishes :
      Client.judge operation timeout policy outcome.toResult =
        .finished outcome.toResult)
    (rounds : Nat) :
    Machine.run (machine client latency)
        (client.attempts operation timeout policy
          (service.clock.after? timeout) (rounds + 1)).run
        service =
      some (outcome.toResult, waited) := by
  have issues := run_issue client latency operation lasting service
  have waits : Machine.run (machine client latency) _ _ = _ :=
    run_awaitHandle brings
  rw [clock_send] at waits
  unfold Client.attempts
  refine (run_attempt_bind (run_lift (run_timeLeft timeout)) _).trans ?_
  rw [if_neg (by simp [lasting])]
  refine (run_attempt_bind issues _).trans ?_
  refine (run_attempt_bind (run_lift waits) _).trans ?_
  rw [finishes]
  rfl

/--
An execution ends with what the server answers, and the server has carried out
its operation once.
-/
theorem run_execute
    (prompt : IsPrompt client latency)
    (quiet : service.IsQuiet)
    (clear : operation.HasClearExpiry)
    (fits : (serve service.memory operation).1.Fits) :
    ∃ later : Service,
      Machine.run (machine client latency) (client.execute operation).run
          service =
        some
          ((serve service.memory operation).1.result
              (operation.route client.settings.partitionCount) client.channel
              service.traffic.nextCorrelation,
            later) ∧
        later.IsQuiet ∧
        later.memory = (serve service.memory operation).2 := by
  let routed := operation.route client.settings.partitionCount
  let timeout := client.settings.requestTimeout
  let answer := (serve service.memory operation).1
  let correlation := service.traffic.nextCorrelation
  have same : serve service.memory routed = serve service.memory operation :=
    serve_route service.memory operation _
  have clearRouted : routed.HasClearExpiry := by
    cases operation <;> exact clear
  obtain ⟨waited, brings, quietAfter, memory⟩ :=
    exists_brings prompt.inTime quiet clearRouted (same ▸ fits)
  rw [same] at brings memory
  have answers : answer.Answers routed := by
    have served := serve_answers service.memory routed
    rwa [same] at served
  have decoded := answers.decode_frame fits client.channel correlation
  have decides := Client.decides_of_decode decoded
  rw [answers.verdict_frame fits] at decides
  have finishes :=
    judge_of_decides decides answers.lasting timeout client.policy
  have ended (result : Except Error Wire.Response) :
      (Client.outcomeOf result).toResult = result := by
    cases result <;> rfl
  refine ⟨waited, ?_, quietAfter, memory⟩
  change
    Machine.run (machine client latency)
        (client.attempts operation timeout client.policy
          (service.clock.after? timeout) 1).run
        service =
      _
  rw [run_attempts prompt.lasting brings (by rwa [ended]), ended]

end Execution

end Service

end ClusterClient.Server
