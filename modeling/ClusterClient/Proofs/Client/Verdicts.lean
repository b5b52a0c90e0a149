import ClusterClient.Client.Correlation
import ClusterClient.Proofs.Client.Requests
import ClusterClient.Proofs.Wire.ResponseGrammar

namespace ClusterClient.Client

/-!
# What a received frame makes of its request

A frame that is received completes the request that waits for it. Which outcome
the request gets is decided by a table: whether the frame can be decoded, then
the status in its header, then whether the operation carries a version or has
paths. The rows of the table exclude each other, so no conflict is missed and
none is made up.
-/

/-! The body of a response to a mutation with a failed path. -/

/-- What is read as the failure of a path has a spec at its index. -/
theorem index_lt_of_readMutationFailure
    {specCount : Nat}
    {value : Bytes}
    {payload : Wire.Payload}
    (read : Wire.readMutationFailure specCount value = .ok payload) :
    ∃ index pathStatus,
      payload = .mutationFailed index pathStatus ∧
        index.toNat < specCount := by
  unfold Wire.readMutationFailure at read
  split at read
  · cases read
  dsimp only at read
  split at read
  · cases read
  · rename_i inside
    cases read
    exact ⟨_, _, rfl, Nat.lt_of_not_le inside⟩

/-- No counter is the failure of a path. -/
theorem readCounter_ne_mutationFailed
    {value : Bytes}
    {index : UInt8}
    {pathStatus : Wire.Status} :
    Wire.readCounter value ≠ .ok (.mutationFailed index pathStatus) := by
  intro read
  unfold Wire.readCounter at read
  split at read
  · cases read
  split at read <;> cases read

/-- A failed path is only read for a mutation, when some paths failed. -/
theorem failure_of_readBody
    {operation : Wire.Operation}
    {status : Wire.Status}
    {sections : Wire.Sections}
    {index : UInt8}
    {pathStatus : Wire.Status}
    (read :
      Wire.readBody operation status sections =
        .ok (.mutationFailed index pathStatus)) :
    status.isMultiPathFailure ∧
      ∃ key specs cas expiry,
        operation = .mutateIn key specs cas expiry ∧
          index.toNat < specs.specs.length := by
  cases operation with
  | insert | upsert | getMeta => cases read
  | get =>
      simp only [Wire.readBody] at read
      split at read <;> cases read
  | increment | decrement =>
      simp only [Wire.readBody] at read
      split at read
      · exact absurd read readCounter_ne_mutationFailed
      · cases read
  | lookupIn =>
      simp only [Wire.readBody] at read
      split at read
      · obtain ⟨fields, -, same⟩ := Wire.map_eq_ok_iff.mp read
        cases same
      · cases read
  | mutateIn key specs cas expiry =>
      simp only [Wire.readBody] at read
      split at read
      · obtain ⟨fields, -, same⟩ := Wire.map_eq_ok_iff.mp read
        cases same
      split at read
      · rename_i failure
        obtain ⟨_, _, same, inside⟩ := index_lt_of_readMutationFailure read
        cases same
        exact ⟨failure, key, specs, cas, expiry, rfl, inside⟩
      · cases read

/-- When some paths of a mutation failed, one of them is read. -/
theorem exists_failure_of_readBody
    {key : Wire.DocumentKey}
    {specs : Wire.MutationSpecs}
    {cas : Wire.Cas}
    {expiry : UInt32}
    {status : Wire.Status}
    {sections : Wire.Sections}
    {payload : Wire.Payload}
    (failure : status.isMultiPathFailure)
    (read :
      Wire.readBody (.mutateIn key specs cas expiry) status sections =
        .ok payload) :
    ∃ index pathStatus, payload = .mutationFailed index pathStatus := by
  have noSuccess := Wire.Status.not_isSuccess_of_isMultiPathFailure failure
  simp only [Wire.readBody] at read
  rw [if_neg noSuccess, if_pos failure] at read
  obtain ⟨index, pathStatus, same, -⟩ := index_lt_of_readMutationFailure read
  exact ⟨index, pathStatus, same⟩

/-! The rows of the table, from its conditions. -/

section Rows

variable {operation : Wire.Operation} {response : Wire.Response}

/-- Only a success and the results of a lookup answer their request. -/
theorem isAnswer_iff :
    isAnswer operation response ↔
      response.status.isSuccess ∨
        (∃ key specs, operation = .lookupIn key specs) ∧
          response.status.isMultiPathFailure := by
  have lookup :
      isLookup operation ↔ ∃ key specs, operation = .lookupIn key specs := by
    cases operation <;> simp [isLookup]
  rw [isAnswer, Bool.or_eq_true, Bool.and_eq_true, lookup]

theorem errorOfResponse_of_notFound
    (status : response.status = .notFound) :
    ¬ isAnswer operation response ∧
      errorOfResponse operation response =
        .documentNotFound operation.key.id := by
  constructor
  · simp [isAnswer, status, Wire.Status.isSuccess,
      Wire.Status.isMultiPathFailure]
  · simp only [errorOfResponse, status]

theorem errorOfResponse_of_alreadyExists
    (status : response.status = .alreadyExists) :
    ¬ isAnswer operation response ∧
      errorOfResponse operation response =
        if operation.cas ≠ Wire.anyVersion then
          .casMismatch operation.key.id
        else
          .documentExists operation.key.id := by
  constructor
  · simp [isAnswer, status, Wire.Status.isSuccess,
      Wire.Status.isMultiPathFailure]
  · simp only [errorOfResponse, status]

/-- Any other failure is that of a path, or that of the whole operation. -/
theorem errorOfResponse_of_other
    (notNotFound : response.status ≠ .notFound)
    (notExisting : response.status ≠ .alreadyExists) :
    errorOfResponse operation response =
      match response.body with
      | .mutationFailed index pathStatus =>
          pathError pathStatus (mutatedPath operation index.toNat)
            response.serverText
      | _ => .status response.status response.serverText := by
  unfold errorOfResponse
  split
  · exact absurd ‹_› notNotFound
  · exact absurd ‹_› notExisting
  · rfl

end Rows

/-! The table. -/

/-- What a decoded response makes of the request for an operation. -/
inductive Decides
    (operation : Wire.Operation)
    (response : Wire.Response) : Except Error Wire.Response → Prop
  | answer
      (answers : isAnswer operation response) :
      Decides operation response (.ok response)
  | notFound
      (status : response.status = .notFound) :
      Decides operation response
        (.error (.documentNotFound operation.key.id))
  | conflict
      (status : response.status = .alreadyExists)
      (guarded : operation.cas ≠ Wire.anyVersion) :
      Decides operation response (.error (.casMismatch operation.key.id))
  | existing
      (status : response.status = .alreadyExists)
      (unguarded : operation.cas = Wire.anyVersion) :
      Decides operation response (.error (.documentExists operation.key.id))
  | path
      {key : Wire.DocumentKey} {specs : Wire.MutationSpecs} {cas : Wire.Cas}
      {expiry : UInt32} {index : UInt8} {pathStatus : Wire.Status}
      {spec : Wire.MutationSpec}
      (mutation : operation = .mutateIn key specs cas expiry)
      (failure : response.status.isMultiPathFailure)
      (body : response.body = .mutationFailed index pathStatus)
      (found : specs.specs[index.toNat]? = some spec) :
      Decides operation response (.error (pathError pathStatus spec.path none))
  | status
      (noAnswer : ¬ isAnswer operation response)
      (notNotFound : response.status ≠ .notFound)
      (notExisting : response.status ≠ .alreadyExists)
      (noPath : ∀ key specs cas expiry,
        operation = .mutateIn key specs cas expiry →
        ¬ response.status.isMultiPathFailure) :
      Decides operation response
        (.error (.status response.status response.serverText))

/-- Every response that is decoded is decided by a row of the table. -/
theorem decides_of_decode
    {operation : Wire.Operation}
    {bytes : Bytes}
    {channel : Wire.Channel}
    {response : Wire.Response}
    (decoded : Wire.Response.decode operation bytes channel = .ok response) :
    Decides operation response (verdict operation bytes channel) := by
  rw [verdict, decoded]
  dsimp only
  split
  · rename_i answers
    exact .answer answers
  rename_i noAnswer
  by_cases notFound : response.status = .notFound
  · rw [(errorOfResponse_of_notFound notFound).2]
    exact .notFound notFound
  by_cases existing : response.status = .alreadyExists
  · rw [(errorOfResponse_of_alreadyExists existing).2]
    split
    · rename_i guarded
      exact .conflict existing guarded
    · rename_i unguarded
      exact .existing existing (Decidable.not_not.mp unguarded)
  rw [errorOfResponse_of_other notFound existing]
  obtain ⟨frame, body, -, -, read, rfl⟩ :=
    Wire.Response.decode_eq_ok_iff.mp decoded
  split
  · rename_i index pathStatus failed
    have failed : body = .mutationFailed index pathStatus := failed
    subst failed
    obtain ⟨failure, key, specs, cas, expiry, rfl, inside⟩ :=
      failure_of_readBody read
    have found := List.getElem?_eq_getElem inside
    have noText :
        Wire.serverText? frame.header.status frame.sections.value = none :=
      Wire.serverText?_eq_none (.inr failure)
    simp only [mutatedPath, found, Wire.Response.ofFrame, noText]
    exact .path rfl failure rfl found
  · rename_i noFailure
    refine .status noAnswer notFound existing ?_
    rintro key specs cas expiry rfl failure
    obtain ⟨index, pathStatus, failed⟩ :=
      exists_failure_of_readBody failure read
    exact noFailure index pathStatus failed

/-- A result as the outcome of a request. -/
def outcomeOf : Except Error Wire.Response → Request.Outcome Wire.Response
  | .ok response => .succeeded response
  | .error error => .failed error

/-- What the one who handed over a frame is told. -/
def reportOf : Except Error Wire.Response → Except Error Unit
  | .error (.protocol fault) => .error (.protocol fault)
  | _ => .ok ()

/-! Completing the request. -/

/-- What is told about a frame that answers an entry, or none. -/
def reportFor
    (client : Client)
    (bytes : Bytes) : Option Pending → Except Error Unit
  | none => .ok ()
  | some entry => reportOf (verdict entry.operation bytes client.channel)

namespace Traffic

/-- Take the entry under a number out of the table. -/
def take (number : UInt32) (traffic : Traffic) : Traffic :=
  { traffic with table := KeyedList.erase number traffic.table }

/-- Complete the request of the entry that a frame answers, if there is one. -/
def completeFor
    (client : Client)
    (bytes : Bytes)
    (traffic : Traffic) : Option Pending → Traffic
  | none => traffic
  | some entry =>
      let result := verdict entry.operation bytes client.channel
      (traffic.complete entry.request (outcomeOf result)).2

/-- Handle a frame with the number that its header carries. -/
def answer
    (client : Client)
    (bytes : Bytes)
    (number : UInt32)
    (traffic : Traffic) : Except Error Unit × Traffic :=
  let waiting? := KeyedList.find? number traffic.table
  (reportFor client bytes waiting?,
    (traffic.take number).completeFor client bytes waiting?)

/-- The traffic after an incomplete request has got its outcome. -/
def settled
    (traffic : Traffic)
    (correlation : UInt32)
    (index : Nat)
    (request : Request Wire.Response)
    (outcome : Request.Outcome Wire.Response) : Traffic :=
  { traffic with
    table := KeyedList.erase correlation traffic.table
    requests :=
      traffic.requests.set index
        { request with
          phase := outcome.phase
          reason := outcome.reason?
          slot := ⟨some outcome, false⟩ } }

end Traffic

theorem run_settle
    (client : Client)
    (entry : Pending)
    (bytes : Bytes)
    (traffic : Traffic) :
    let result := verdict entry.operation bytes client.channel
    Traffic.machine.run (client.settle entry bytes) traffic =
      (reportOf result,
        (traffic.complete entry.request (outcomeOf result)).2) := by
  unfold settle
  cases verdict entry.operation bytes client.channel with
  | ok response => rfl
  | error error => cases error <;> rfl

/-- A frame without a proper header is reported, and nothing is done. -/
theorem run_receive_of_fault
    {client : Client}
    {bytes : Bytes}
    {fault : Wire.ProtocolFault}
    (faulty : Wire.Header.parse bytes = .error fault)
    (traffic : Traffic) :
    Traffic.machine.run (client.receive bytes) traffic =
      (.error (.protocol fault), traffic) := by
  unfold receive
  rw [faulty]
  rfl

/-- Any other frame is handled with the number in its header. -/
theorem run_receive_of_header
    {client : Client}
    {bytes : Bytes}
    {header : Wire.Header}
    (headed : Wire.Header.parse bytes = .ok header)
    (traffic : Traffic) :
    Traffic.machine.run (client.receive bytes) traffic =
      traffic.answer client bytes header.correlation := by
  have taken :
      Traffic.machine (.takeEntry header.correlation) traffic =
        (KeyedList.find? header.correlation traffic.table,
          traffic.take header.correlation) := rfl
  unfold receive
  rw [headed]
  change Traffic.machine.run (.step (.takeEntry header.correlation) _) traffic = _
  rw [TotalMachine.run, taken, Traffic.answer]
  cases KeyedList.find? header.correlation traffic.table with
  | none => rfl
  | some entry => exact run_settle client entry bytes _

theorem run_receive
    {client : Client}
    {traffic : Traffic}
    {bytes : Bytes}
    {header : Wire.Header}
    {entry : Pending}
    {request : Request Wire.Response}
    (headed : Wire.Header.parse bytes = .ok header)
    (waiting :
      KeyedList.find? header.correlation traffic.table = some entry)
    (opened : traffic.requests[entry.request]? = some request)
    (settled : request.IsSettled)
    (incomplete : request.phase = .incomplete) :
    let result := verdict entry.operation bytes client.channel
    Traffic.machine.run (client.receive bytes) traffic =
      (reportOf result,
        traffic.settled header.correlation entry.request request
          (outcomeOf result)) := by
  intro result
  have completed :
      ((traffic.take header.correlation).complete entry.request
          (outcomeOf result)).2 =
        traffic.settled header.correlation entry.request request
          (outcomeOf result) := by
    rw [Traffic.complete, Traffic.take, opened]
    dsimp only
    rw [Request.finish_of_incomplete settled incomplete]
    rfl
  rw [run_receive_of_header headed, Traffic.answer, waiting, ← completed]
  rfl

/-! The table, read by its results. -/

/-- The table by the results that a response may have. -/
structure IsClassified
    (operation : Wire.Operation)
    (response : Wire.Response)
    (outcome : Request.Outcome Wire.Response) : Prop where
  succeeded : ∀ answer,
    outcome = .succeeded answer ↔
      answer = response ∧
        (response.status.isSuccess ∨
          (∃ key specs, operation = .lookupIn key specs) ∧
            response.status.isMultiPathFailure)
  documentNotFound : ∀ id,
    outcome = .failed (.documentNotFound id) ↔
      response.status = .notFound ∧ id = operation.key.id
  casMismatch : ∀ id,
    outcome = .failed (.casMismatch id) ↔
      response.status = .alreadyExists ∧ operation.cas ≠ Wire.anyVersion ∧
        id = operation.key.id
  documentExists : ∀ id,
    outcome = .failed (.documentExists id) ↔
      response.status = .alreadyExists ∧ operation.cas = Wire.anyVersion ∧
        id = operation.key.id
  path : ∀ key specs cas expiry,
    operation = .mutateIn key specs cas expiry →
    response.status.isMultiPathFailure →
    ∃ index pathStatus spec,
      response.body = .mutationFailed index pathStatus ∧
        specs.specs[index.toNat]? = some spec ∧
        outcome =
          .failed
            (if pathStatus = .subdocPathNotFound then
              .pathNotFound spec.path
            else if pathStatus = .subdocPathExists then
              .pathExists spec.path
            else if pathStatus = .subdocPathMismatch then
              .pathMismatch spec.path
            else
              .status pathStatus none)
  status :
    ¬ response.status.isSuccess →
    ¬ ((∃ key specs, operation = .lookupIn key specs) ∧
      response.status.isMultiPathFailure) →
    response.status ≠ .notFound →
    response.status ≠ .alreadyExists →
    ¬ ((∃ key specs cas expiry, operation = .mutateIn key specs cas expiry) ∧
      response.status.isMultiPathFailure) →
    outcome = .failed (.status response.status response.serverText)

/-- The error of a path is about the path, or has the status of the path. -/
theorem pathError_eq (status : Wire.Status) (path : String) :
    pathError status path none =
      if status = .subdocPathNotFound then
        .pathNotFound path
      else if status = .subdocPathExists then
        .pathExists path
      else if status = .subdocPathMismatch then
        .pathMismatch path
      else
        .status status none := by
  unfold pathError
  split
  · rfl
  · rfl
  · rfl
  · rename_i notMissing notExisting notMatching
    rw [if_neg notMissing, if_neg notExisting, if_neg notMatching]

@[simp] theorem outcomeOf_eq_succeeded_iff
    {result : Except Error Wire.Response}
    {response : Wire.Response} :
    outcomeOf result = .succeeded response ↔ result = .ok response := by
  cases result <;> simp [outcomeOf]

@[simp] theorem outcomeOf_eq_failed_iff
    {result : Except Error Wire.Response}
    {error : Error} :
    outcomeOf result = .failed error ↔ result = .error error := by
  cases result <;> simp [outcomeOf]

/--
What a result about the whole document says about the response. A response that
was decoded is no protocol fault.
-/
def Explains
    (operation : Wire.Operation)
    (response : Wire.Response) : Except Error Wire.Response → Prop
  | .ok value => value = response ∧ isAnswer operation response
  | .error (.documentNotFound id) =>
      response.status = .notFound ∧ id = operation.key.id
  | .error (.casMismatch id) =>
      response.status = .alreadyExists ∧ operation.cas ≠ Wire.anyVersion ∧
        id = operation.key.id
  | .error (.documentExists id) =>
      response.status = .alreadyExists ∧ operation.cas = Wire.anyVersion ∧
        id = operation.key.id
  | .error (.protocol _) => False
  | _ => True

/-- A result about the whole document has its own row of the table. -/
theorem Decides.explains
    {operation : Wire.Operation}
    {response : Wire.Response}
    {result : Except Error Wire.Response}
    (decides : Decides operation response result) :
    Explains operation response result := by
  cases decides with
  | answer answers => exact ⟨rfl, answers⟩
  | notFound status => exact ⟨status, rfl⟩
  | conflict status guarded => exact ⟨status, guarded, rfl⟩
  | existing status unguarded => exact ⟨status, unguarded, rfl⟩
  | path =>
      unfold pathError
      split <;> trivial
  | status => trivial

/-- A response that is decoded is classified by its status. -/
theorem isClassified_of_decode
    {operation : Wire.Operation}
    {bytes : Bytes}
    {channel : Wire.Channel}
    {response : Wire.Response}
    (decoded : Wire.Response.decode operation bytes channel = .ok response) :
    IsClassified operation response
      (outcomeOf (verdict operation bytes channel)) := by
  have decides := decides_of_decode decoded
  have answered (answers : isAnswer operation response) :
      verdict operation bytes channel = .ok response := by
    rw [verdict, decoded]
    exact if_pos answers
  have failed (noAnswer : ¬ isAnswer operation response) :
      verdict operation bytes channel =
        .error (errorOfResponse operation response) := by
    rw [verdict, decoded]
    exact if_neg noAnswer
  have existing (status : response.status = .alreadyExists) :
      verdict operation bytes channel =
        .error
          (if operation.cas ≠ Wire.anyVersion then
            .casMismatch operation.key.id
          else
            .documentExists operation.key.id) := by
    obtain ⟨noAnswer, isError⟩ := errorOfResponse_of_alreadyExists status
    rw [failed noAnswer, isError]
  constructor
  case succeeded =>
    intro answer
    rw [outcomeOf_eq_succeeded_iff, ← isAnswer_iff]
    constructor
    · intro result
      rw [result] at decides
      exact decides.explains
    · rintro ⟨rfl, answers⟩
      exact answered answers
  case documentNotFound =>
    intro id
    rw [outcomeOf_eq_failed_iff]
    constructor
    · intro result
      rw [result] at decides
      exact decides.explains
    · rintro ⟨status, rfl⟩
      obtain ⟨noAnswer, isError⟩ := errorOfResponse_of_notFound status
      rw [failed noAnswer, isError]
  case casMismatch =>
    intro id
    rw [outcomeOf_eq_failed_iff]
    constructor
    · intro result
      rw [result] at decides
      exact decides.explains
    · rintro ⟨status, guarded, rfl⟩
      rw [existing status, if_pos guarded]
  case documentExists =>
    intro id
    rw [outcomeOf_eq_failed_iff]
    constructor
    · intro result
      rw [result] at decides
      exact decides.explains
    · rintro ⟨status, unguarded, rfl⟩
      rw [existing status, if_neg (not_not_intro unguarded)]
  case path =>
    intro key specs cas expiry mutation failure
    generalize verdict operation bytes channel = result at decides
    cases decides with
    | answer answers =>
        rcases isAnswer_iff.mp answers with success | ⟨⟨_, _, lookup⟩, _⟩
        · have noSuccess :=
            Wire.Status.not_isSuccess_of_isMultiPathFailure failure
          exact absurd success noSuccess
        · rw [mutation] at lookup
          cases lookup
    | notFound status | conflict status _ | existing status _ =>
        rw [status] at failure
        cases failure
    | path same _ body found =>
        rw [mutation] at same
        cases same
        refine ⟨_, _, _, body, found, ?_⟩
        exact congrArg Request.Outcome.failed (pathError_eq ..)
    | status _ _ _ noPath => exact absurd failure (noPath _ _ _ _ mutation)
  case status =>
    intro noSuccess noLookup notNotFound notExisting noPath
    generalize verdict operation bytes channel = result at decides
    cases decides with
    | answer answers =>
        exact absurd (isAnswer_iff.mp answers) (not_or_intro noSuccess noLookup)
    | notFound status => exact absurd status notNotFound
    | conflict status _ | existing status _ => exact absurd status notExisting
    | path mutation failure =>
        exact absurd ⟨⟨_, _, _, _, mutation⟩, failure⟩ noPath
    | status => rfl

/-- Only a frame that cannot be decoded is a protocol fault. -/
theorem verdict_eq_protocol_iff
    {operation : Wire.Operation}
    {bytes : Bytes}
    {channel : Wire.Channel}
    {fault : Wire.ProtocolFault} :
    verdict operation bytes channel = .error (.protocol fault) ↔
      Wire.Response.decode operation bytes channel = .error fault := by
  constructor
  · intro isVerdict
    cases decoded : Wire.Response.decode operation bytes channel with
    | error found =>
        rw [verdict, decoded] at isVerdict
        cases isVerdict
        rfl
    | ok response =>
        have decides := decides_of_decode decoded
        rw [isVerdict] at decides
        exact decides.explains.elim
  · intro refused
    rw [verdict, refused]

theorem reportOf_eq_error_iff
    {result : Except Error Wire.Response}
    {fault : Wire.ProtocolFault} :
    reportOf result = .error (.protocol fault) ↔
      result = .error (.protocol fault) := by
  cases result with
  | ok response => exact iff_of_false nofun nofun
  | error error => cases error <;> simp [reportOf]

/-- What was decoded is not reported. -/
theorem reportOf_of_decode
    {operation : Wire.Operation}
    {bytes : Bytes}
    {channel : Wire.Channel}
    {response : Wire.Response}
    (decoded : Wire.Response.decode operation bytes channel = .ok response) :
    reportOf (verdict operation bytes channel) = .ok () := by
  cases report : reportOf (verdict operation bytes channel) with
  | ok _ => rfl
  | error error =>
      unfold reportOf at report
      split at report
      · rename_i isFault
        rw [verdict_eq_protocol_iff, decoded] at isFault
        cases isFault
      · cases report

/-- Only a document with another version than the expected is a conflict. -/
theorem exists_conflict_iff
    {operation : Wire.Operation}
    {bytes : Bytes}
    {channel : Wire.Channel} :
    (∃ id,
      outcomeOf (verdict operation bytes channel) =
        .failed (.casMismatch id)) ↔
      ∃ response,
        Wire.Response.decode operation bytes channel = .ok response ∧
          response.status = .alreadyExists ∧
          operation.cas ≠ Wire.anyVersion := by
  constructor
  · rintro ⟨id, conflict⟩
    cases decoded : Wire.Response.decode operation bytes channel with
    | error fault =>
        rw [verdict_eq_protocol_iff.mpr decoded] at conflict
        cases conflict
    | ok response =>
        obtain ⟨status, guarded, -⟩ :=
          ((isClassified_of_decode decoded).casMismatch id).mp conflict
        exact ⟨response, rfl, status, guarded⟩
  · rintro ⟨response, decoded, status, guarded⟩
    exact
      ⟨operation.key.id,
        ((isClassified_of_decode decoded).casMismatch _).mpr
          ⟨status, guarded, rfl⟩⟩

end ClusterClient.Client
