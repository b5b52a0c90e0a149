import ClusterClient.Client.RemoteStore
import ClusterClient.Proofs.Client.Activities
import ClusterClient.Proofs.Client.Attempts
import ClusterClient.Proofs.Client.Verdicts
import ClusterClient.Proofs.Optimistic.Rounds

namespace ClusterClient.Client

/-!
# Guarded writes over the wire

A guarded write of a field is one mutation that carries the version of the
write. It is not idempotent, so it is issued once and waits for one outcome. The
write is a conflict exactly when this outcome is one, and so exactly when the
server answered that the document has another version.
-/

/-! What a program on a client has sent and what it has waited for. -/

/-- The outcome that a call has waited for. -/
def awaitedOf? : Exchange interface → Option (Request.Outcome Wire.Response)
  | ⟨.awaitForever _, outcome⟩ => some outcome
  | ⟨.awaitUntil _ _, answer⟩ => answer
  | _ => none

/-- The error with which the connection has refused a frame. -/
def refusalOf? : Exchange interface → Option Error
  | ⟨.send _, .error error⟩ => some error
  | _ => none

/-- The operation that a call has registered. -/
def registeredOf? : Exchange interface → Option Wire.Operation
  | ⟨.table (.register _ entry), _⟩ => some entry.operation
  | _ => none

/-- The outcomes that have been waited for. -/
def awaited (exchanges : List (Exchange interface)) :
    List (Request.Outcome Wire.Response) :=
  exchanges.filterMap awaitedOf?

/-- The errors with which frames have been refused. -/
def refusals (exchanges : List (Exchange interface)) : List Error :=
  exchanges.filterMap refusalOf?

/-- The operations that have been registered. -/
def registered (exchanges : List (Exchange interface)) : List Wire.Operation :=
  exchanges.filterMap registeredOf?

@[simp] theorem awaited_append (first second : List (Exchange interface)) :
    awaited (first ++ second) = awaited first ++ awaited second :=
  List.filterMap_append ..

@[simp] theorem refusals_append (first second : List (Exchange interface)) :
    refusals (first ++ second) = refusals first ++ refusals second :=
  List.filterMap_append ..

@[simp] theorem registered_append (first second : List (Exchange interface)) :
    registered (first ++ second) = registered first ++ registered second :=
  List.filterMap_append ..

section Waiting

variable {exchanges : List (Exchange interface)}
variable {result : Except Error Wire.Response}

/-- Waiting without a limit gets one outcome, and returns it. -/
theorem awaited_awaitForever
    {request : Nat}
    (follows :
      Follows
        (do
          let outcome ← perform (.awaitForever request)
          conclude (Request.Outcome.toResult outcome) :
          Attempt Wire.Response).run
        exchanges (.done result)) :
    ∃ outcome,
      awaited exchanges = [outcome] ∧
        registered exchanges = [] ∧
        result = outcome.toResult := by
  obtain ⟨outcome, _, rfl, ended⟩ := Follows.of_step_done follows
  obtain ⟨rfl, same⟩ := ended.of_done
  cases same
  exact ⟨outcome, rfl, rfl, rfl⟩

/-- Giving up a request waits for its outcome, whoever completed it. -/
theorem awaited_giveUp
    {request : Nat}
    (follows : Follows (giveUp request).run exchanges (.done result)) :
    ∃ outcome,
      awaited exchanges = [outcome] ∧
        registered exchanges = [] ∧
        result = outcome.toResult := by
  obtain ⟨won, _, rfl, dropping⟩ := Follows.of_step_done follows
  cases won with
  | true =>
      obtain ⟨_, _, rfl, waiting⟩ := Follows.of_step_done dropping
      obtain ⟨outcome, waited, nothing, same⟩ := awaited_awaitForever waiting
      exact ⟨outcome, waited, nothing, same⟩
  | false =>
      obtain ⟨outcome, waited, nothing, same⟩ := awaited_awaitForever dropping
      exact ⟨outcome, waited, nothing, same⟩

/-- Waiting for a handle gets one outcome, and returns it. -/
theorem awaited_awaitHandle
    {handle : Handle}
    (follows : Follows (awaitHandle handle).run exchanges (.done result)) :
    ∃ outcome,
      awaited exchanges = [outcome] ∧
        registered exchanges = [] ∧
        result = outcome.toResult := by
  unfold awaitHandle at follows
  split at follows
  · exact awaited_awaitForever follows
  · obtain ⟨now, _, rfl, waiting⟩ := Follows.of_step_done follows
    obtain ⟨answer, _, rfl, ended⟩ := Follows.of_step_done waiting
    cases answer with
    | some outcome =>
        obtain ⟨rfl, same⟩ := ended.of_done
        cases same
        exact ⟨outcome, rfl, rfl, rfl⟩
    | none =>
        obtain ⟨outcome, waited, nothing, same⟩ := awaited_giveUp ended
        exact ⟨outcome, waited, nothing, same⟩

end Waiting

/-- An issue waits for nothing, and fails as its frame was refused. -/
theorem awaited_issue
    {client : Client}
    {operation : Wire.Operation}
    {timeout : Duration}
    {exchanges : List (Exchange interface)}
    {result : Except Error Handle}
    (follows :
      Follows (client.issue operation timeout).run exchanges (.done result)) :
    awaited exchanges = [] ∧
      (∀ routed ∈ registered exchanges, routed.cas = operation.cas) ∧
      ∀ error,
        result = .error error →
        (∃ fault, error = .invalidArgument fault) ∨
          error ∈ refusals exchanges := by
  have issued :
      Follows ((Activity.issue operation timeout).program client)
        (exchanges ++ []) (.done (.issued result)) :=
    follows.bind (.start _)
  have version :
      (operation.route client.settings.partitionCount).cas = operation.cas := by
    cases operation <;> rfl
  rw [List.append_nil, Activity.program_issue] at issued
  obtain ⟨context, _, rfl, afterContext⟩ := issued.of_step_done
  obtain ⟨now, _, rfl, afterClock⟩ := afterContext.of_step_done
  split at afterClock
  · obtain ⟨rfl, same⟩ := afterClock.of_done
    cases same
    refine ⟨rfl, nofun, ?_⟩
    rintro error ⟨⟩
    exact .inl ⟨_, rfl⟩
  · obtain ⟨index, _, rfl, afterOpening⟩ := afterClock.of_step_done
    obtain ⟨number, _, rfl, afterNumber⟩ := afterOpening.of_step_done
    obtain ⟨_, _, rfl, afterRegistering⟩ := afterNumber.of_step_done
    obtain ⟨sent, _, rfl, afterSending⟩ := afterRegistering.of_step_done
    cases sent with
    | ok _ =>
        obtain ⟨rfl, same⟩ := afterSending.of_done
        cases same
        exact ⟨rfl, List.forall_mem_singleton.mpr version, nofun⟩
    | error error =>
        obtain ⟨taken, _, rfl, afterTaking⟩ := afterSending.of_step_done
        obtain ⟨won, _, rfl, afterCompleting⟩ := afterTaking.of_step_done
        obtain ⟨rfl, same⟩ := afterCompleting.of_done
        cases same
        refine ⟨rfl, List.forall_mem_singleton.mpr version, ?_⟩
        rintro error ⟨⟩
        exact .inr (List.mem_singleton.mpr rfl)

/-! Executions that are not repeated. -/

/--
What an execution that is issued once has done: what it has registered carries
its version, and it ends in a conflict just when that is the one outcome that it
has waited for.
-/
structure IsIssuedOnce
    {Result : Type}
    (cas : Wire.Cas)
    (exchanges : List (Exchange interface))
    (result : Except Error Result) : Prop where
  version : ∀ operation ∈ registered exchanges, operation.cas = cas
  conflict : ∀ id,
    (.casMismatch id ∉ refusals exchanges) →
    (result = .error (.casMismatch id) ↔
      awaited exchanges = [.failed (.casMismatch id)])

/-- Without an outcome there is no conflict. -/
theorem isIssuedOnce_of_none
    {Result : Type}
    {cas : Wire.Cas}
    {exchanges : List (Exchange interface)}
    {result : Except Error Result}
    (version : ∀ operation ∈ registered exchanges, operation.cas = cas)
    (nothing : awaited exchanges = [])
    (noConflict : ∀ id,
      .casMismatch id ∉ refusals exchanges →
      result ≠ .error (.casMismatch id)) :
    IsIssuedOnce cas exchanges result where
  version := version
  conflict id unrefused := by
    rw [nothing]
    exact iff_of_false (noConflict id unrefused) nofun

/-- Reading the clock is neither waiting nor registering. -/
theorem awaited_timeLeft
    {timeout remaining : Duration}
    {deadline : Option Instant}
    {exchanges : List (Exchange interface)}
    (follows :
      Follows (timeLeft timeout deadline) exchanges (.done remaining)) :
    awaited exchanges = [] ∧ registered exchanges = [] := by
  cases deadline with
  | none =>
      obtain ⟨rfl, -⟩ := Follows.of_done follows
      exact ⟨rfl, rfl⟩
  | some deadline =>
      obtain ⟨now, _, rfl, ended⟩ := Follows.of_step_done follows
      obtain ⟨rfl, -⟩ := ended.of_done
      exact ⟨rfl, rfl⟩

/-- An operation that is not idempotent is not sent again. -/
theorem judge_of_once
    {operation : Wire.Operation}
    (once : operation.isIdempotent = false)
    (timeout : Duration)
    (policy : TransientPolicy)
    (result : Except Error Wire.Response) :
    ∃ judged,
      judge operation timeout policy result = .finished judged ∧
        ∀ id,
          judged = .error (.casMismatch id) ↔
            result = .error (.casMismatch id) := by
  unfold judge
  split
  · rw [once, if_neg (fun again => Bool.false_ne_true again.2.2)]
    exact ⟨_, rfl, fun _ => Iff.rfl⟩
  · exact ⟨_, rfl, fun _ => iff_of_false nofun nofun⟩
  · exact ⟨_, rfl, fun _ => Iff.rfl⟩

theorem toResult_eq_conflict_iff
    {outcome : Request.Outcome Wire.Response}
    {id : String} :
    outcome.toResult = .error (.casMismatch id) ↔
      outcome = .failed (.casMismatch id) := by
  cases outcome <;> simp [Request.Outcome.toResult]

/-- What is quiet in front does not matter. -/
theorem IsIssuedOnce.behind
    {Result : Type}
    {cas : Wire.Cas}
    {first second : List (Exchange interface)}
    {result : Except Error Result}
    (issued : IsIssuedOnce cas second result)
    (nothing : awaited first = [] ∧ registered first = []) :
    IsIssuedOnce cas (first ++ second) result where
  version := by
    rw [registered_append, nothing.2]
    exact issued.version
  conflict id unrefused := by
    rw [refusals_append, List.mem_append, not_or] at unrefused
    rw [awaited_append, nothing.1]
    exact issued.conflict id unrefused.2

section Executions

variable {client : Client} {operation : Wire.Operation} {timeout : Duration}
variable {policy : TransientPolicy} {exchanges : List (Exchange interface)}
variable {result : Except Error Wire.Response}

/-- One attempt issues its operation and waits for the outcome. -/
theorem isIssuedOnce_attempt
    {remaining : Duration}
    {again : Attempt Wire.Response}
    (once : operation.isIdempotent = false)
    (follows :
      Follows
        (ExceptT.run do
          let handle ← client.issue operation remaining
          let result ← ExceptT.lift (awaitHandle handle).run
          match judge operation timeout policy result with
          | .finished result => conclude result
          | .sendAgain => again)
        exchanges (.done result)) :
    IsIssuedOnce operation.cas exchanges result := by
  rcases follows_attempt follows with
    ⟨error, issuing, rfl⟩ | ⟨first, second, handle, rfl, issuing, waiting⟩
  · obtain ⟨nothing, version, reasons⟩ := awaited_issue issuing
    refine isIssuedOnce_of_none version nothing ?_
    rintro id unrefused ⟨⟩
    rcases reasons _ rfl with ⟨fault, invalid⟩ | refused
    · cases invalid
    · exact unrefused refused
  obtain ⟨nothing, version, -⟩ := awaited_issue issuing
  rcases follows_attempt waiting with
    ⟨error, awaiting, -⟩ | ⟨third, fourth, answer, rfl, awaiting, judging⟩
  · obtain ⟨_, impossible, -⟩ := follows_lift awaiting
    cases impossible
  obtain ⟨_, same, awaiting⟩ := follows_lift awaiting
  cases same
  obtain ⟨outcome, waited, unregistered, rfl⟩ := awaited_awaitHandle awaiting
  obtain ⟨judged, finished, conflict⟩ :=
    judge_of_once once timeout policy outcome.toResult
  rw [finished] at judging
  obtain ⟨rfl, same⟩ := Follows.of_done judging
  cases same
  rw [List.append_nil]
  constructor
  · rwa [registered_append, unregistered, List.append_nil]
  · intro id _
    rw [conflict, toResult_eq_conflict_iff, awaited_append, nothing, waited]
    exact List.singleton_inj.symm

theorem isIssuedOnce_attempts
    {deadline : Option Instant}
    {rounds : Nat}
    (once : operation.isIdempotent = false)
    (follows :
      Follows (client.attempts operation timeout policy deadline rounds).run
        exchanges (.done result)) :
    IsIssuedOnce operation.cas exchanges result := by
  cases rounds with
  | zero =>
      obtain ⟨impossible, _⟩ := Follows.of_step_done follows
      exact nomatch impossible
  | succ rounds =>
      rcases follows_attempt follows with
        ⟨error, timing, -⟩ | ⟨first, second, remaining, rfl, timing, going⟩
      · obtain ⟨_, impossible, -⟩ := follows_lift timing
        cases impossible
      obtain ⟨_, -, timed⟩ := follows_lift timing
      apply IsIssuedOnce.behind _ (awaited_timeLeft timed)
      split at going
      · obtain ⟨rfl, same⟩ := Follows.of_done going
        cases same
        exact isIssuedOnce_of_none nofun rfl fun _ _ => nofun
      · exact isIssuedOnce_attempt once going

theorem isIssuedOnce_execute
    (once : operation.isIdempotent = false)
    (follows :
      Follows (client.execute operation).run exchanges (.done result)) :
    IsIssuedOnce operation.cas exchanges result := by
  obtain ⟨now, _, rfl, following⟩ := Follows.of_step_done follows
  obtain ⟨rounds, rest, rfl, going⟩ := following.of_step_done
  have issued := isIssuedOnce_attempts once going
  change IsIssuedOnce _ ([_, _] ++ rest) result
  exact issued.behind ⟨rfl, rfl⟩

end Executions

/-! Guarded writes. -/

section Writes

variable {Argument Result Later : Type}
variable {exchanges : List (Exchange interface)}

/-- A check makes no call, and fails only because an argument is invalid. -/
def IsCheck (attempt : Attempt Argument) : Prop :=
  ∀ exchanges result,
    Follows attempt.run exchanges (.done result) →
    exchanges = [] ∧
      ∀ error,
        result = .error error → ∃ fault, error = .invalidArgument fault

theorem isCheck_accept (checked : Except ArgumentFault Argument) :
    IsCheck (accept checked) := by
  intro exchanges result follows
  cases checked with
  | error fault =>
      obtain ⟨rfl, same⟩ := Follows.of_done follows
      cases same
      refine ⟨rfl, ?_⟩
      rintro error ⟨⟩
      exact ⟨fault, rfl⟩
  | ok argument =>
      obtain ⟨rfl, same⟩ := Follows.of_done follows
      cases same
      exact ⟨rfl, nofun⟩

theorem isCheck_documentKey (client : Client) (id : String) :
    IsCheck (client.documentKey id) := by
  intro exchanges result follows
  obtain ⟨before, accepting, rfl⟩ := follows_map follows
  obtain ⟨rfl, invalid⟩ := isCheck_accept _ _ _ accepting
  refine ⟨rfl, ?_⟩
  intro error failed
  cases before with
  | error _ =>
      cases failed
      exact invalid error rfl
  | ok _ => cases failed

/-- Changing a result does not change whether it is a conflict. -/
theorem IsIssuedOnce.map
    {cas : Wire.Cas}
    {result : Except Error Result}
    (issued : IsIssuedOnce cas exchanges result)
    (change : Result → Later) :
    IsIssuedOnce cas exchanges (result.map change) where
  version := issued.version
  conflict id unrefused := by
    rw [← issued.conflict id unrefused]
    cases result <;> simp [Except.map]

/-- What follows a check is all that is done. -/
theorem isIssuedOnce_of_check
    {check : Attempt Argument}
    {cas : Wire.Cas}
    {continuation : Argument → Attempt Result}
    {result : Except Error Result}
    (isCheck : IsCheck check)
    (follows :
      Follows (check >>= continuation).run exchanges (.done result))
    (goesOn : ∀ argument,
      Follows (continuation argument).run exchanges (.done result) →
      IsIssuedOnce cas exchanges result) :
    IsIssuedOnce cas exchanges result := by
  rcases follows_attempt follows with
    ⟨error, checking, rfl⟩ | ⟨first, second, argument, rfl, checking, going⟩
  · obtain ⟨rfl, invalid⟩ := isCheck _ _ checking
    refine isIssuedOnce_of_none nofun rfl ?_
    rintro id - ⟨⟩
    obtain ⟨fault, impossible⟩ := invalid _ rfl
    cases impossible
  · obtain ⟨rfl, -⟩ := isCheck _ _ checking
    exact goesOn argument going

theorem isIssuedOnce_mutateIn
    {client : Client}
    {id : String}
    {specs : List Wire.MutationSpec}
    {cas : Wire.Cas}
    {result : Except Error MutationReceipt}
    (follows :
      Follows (client.mutateIn id specs cas).run exchanges (.done result)) :
    IsIssuedOnce cas exchanges result := by
  apply isIssuedOnce_of_check (isCheck_documentKey client id) follows
  intro key checking
  apply isIssuedOnce_of_check (isCheck_accept _) checking
  intro specs executing
  obtain ⟨response, execution, rfl⟩ := follows_map executing
  exact (isIssuedOnce_execute rfl execution).map _

end Writes

/-- The version that a field write is guarded by. -/
def versionOf? : Document.StoreCall → Option Wire.Cas
  | .upsertField _ _ _ cas | .removeField _ _ cas => some cas
  | _ => none

/-- A field write is a mutation that is issued once. -/
theorem isIssuedOnce_answerStore
    {client : Client}
    {call : Document.StoreCall}
    {cas : Wire.Cas}
    {exchanges : List (Exchange interface)}
    {result : call.Answer}
    (isWrite : versionOf? call = some cas)
    (follows :
      Follows (client.answerStore call).run exchanges (.done result)) :
    IsIssuedOnce cas exchanges result := by
  cases call with
  | upsertField | removeField =>
      cases isWrite
      obtain ⟨receipt, mutating, rfl⟩ := follows_map follows
      exact (isIssuedOnce_mutateIn mutating).map _
  | _ => cases isWrite

/-- The round of a guarded write ends in a conflict with its one outcome. -/
theorem judge_answerStore
    {Value : Type}
    {client : Client}
    {call : Document.StoreCall}
    {cas : Wire.Cas}
    {exchanges : List (Exchange interface)}
    {result : call.Answer}
    (isWrite : versionOf? call = some cas)
    (follows :
      Follows (client.answerStore call).run exchanges (.done result))
    (unrefused : ∀ id, .casMismatch id ∉ refusals exchanges)
    (update : Optimistic.Update)
    (current : Option Value) :
    update.judge current (result.map fun _ => ()) = .conflict ↔
      ∃ id, awaited exchanges = [.failed (.casMismatch id)] := by
  have issued := isIssuedOnce_answerStore isWrite follows
  rw [Optimistic.Update.judge_eq_conflict_iff]
  apply exists_congr
  intro id
  rw [← issued.conflict id (unrefused id)]
  cases result <;> simp [Except.map]

/--
A response never misses a conflict and never makes one up. A frame whose header
carries the number of an incomplete request, with nobody in the middle of
completing it, completes this request. If the frame cannot be decoded, the
request fails with the protocol fault, and so does the one who handed over the
frame. Otherwise the status in the header decides: a success, or failed paths of
a lookup, answer the request; the document is not found, or has another version
than the operation carries, or exists although the operation carries none; a
failed path of a mutation is named by the spec at the reported index; and any
other status is handed on with the text of the server.

So a guarded write of a field over the wire, which waits for at most one
outcome, starts another round exactly when this outcome is a conflict. When the
outcome comes from a frame, it does so exactly when the server answered that the
document exists and the write carries a version. The connection is taken not to
refuse frames with conflicts of its own.
-/
theorem conflicts_are_exact :
    (∀ (client : Client) (traffic : Traffic) (bytes : Bytes)
        (header : Wire.Header) (entry : Pending)
        (request : Request Wire.Response),
      Wire.Header.parse bytes = .ok header →
      KeyedList.find? header.correlation traffic.table = some entry →
      traffic.requests[entry.request]? = some request →
      request.IsSettled →
      request.phase = .incomplete →
      ∃ outcome report,
        Traffic.machine.run (client.receive bytes) traffic =
            (report,
              traffic.settled header.correlation entry.request request
                outcome) ∧
          outcome = outcomeOf (verdict entry.operation bytes client.channel) ∧
          (∀ fault,
            (outcome = .failed (.protocol fault) ↔
                Wire.Response.decode entry.operation bytes client.channel =
                  .error fault) ∧
              (report = .error (.protocol fault) ↔
                Wire.Response.decode entry.operation bytes client.channel =
                  .error fault)) ∧
          ∀ response,
            Wire.Response.decode entry.operation bytes client.channel =
              .ok response →
            report = .ok () ∧
              response.status = header.status ∧
              IsClassified entry.operation response outcome) ∧
      ∀ (client : Client) (call : Document.StoreCall) (cas : Wire.Cas)
          (exchanges : List (Exchange interface)) (result : call.Answer)
          (update : Optimistic.Update) (current : Option Json),
        versionOf? call = some cas →
        Follows (client.answerStore call).run exchanges (.done result) →
        (∀ id, .casMismatch id ∉ refusals exchanges) →
        (update.judge current (result.map fun _ => ()) = .conflict ↔
            ∃ id, awaited exchanges = [.failed (.casMismatch id)]) ∧
          ∀ operation bytes,
            operation ∈ registered exchanges →
            awaited exchanges =
              [outcomeOf (verdict operation bytes client.channel)] →
            (update.judge current (result.map fun _ => ()) = .conflict ↔
              ∃ response,
                Wire.Response.decode operation bytes client.channel =
                    .ok response ∧
                  response.status = .alreadyExists ∧
                  cas ≠ Wire.anyVersion) := by
  constructor
  · intro client traffic bytes header entry request headed waiting opened
      settled incomplete
    refine
      ⟨_, _, run_receive headed waiting opened settled incomplete, rfl, ?_, ?_⟩
    · intro fault
      rw [outcomeOf_eq_failed_iff, reportOf_eq_error_iff]
      exact ⟨verdict_eq_protocol_iff, verdict_eq_protocol_iff⟩
    · intro response decoded
      refine
        ⟨reportOf_of_decode decoded, ?_, isClassified_of_decode decoded⟩
      rw [Wire.Response.status_of_decode decoded,
        Wire.Header.eq_ofBytes_of_parse headed]
  · intro client call cas exchanges result update current isWrite follows
      unrefused
    have judged :=
      judge_answerStore isWrite follows unrefused update current
    refine ⟨judged, ?_⟩
    intro operation bytes isRegistered waited
    have version :=
      (isIssuedOnce_answerStore isWrite follows).version operation isRegistered
    rw [judged, waited, ← version, ← exists_conflict_iff]
    simp only [List.singleton_inj]

/--
The removal of a field at version 5, of a document that another writer has
changed: the server answers that the document exists, and the removal starts
another round.
-/
theorem conflicts_are_exact_removal :
    let client : Client :=
      ofSettings (.ofBucket "default")
        ⟨1, .none, ⟨1, by decide⟩, 0, "default"⟩
    let key : Wire.DocumentKey := ⟨"doc", .default, 0, by decide, by decide⟩
    let specs : Wire.MutationSpecs :=
      ⟨[.remove "a"], ⟨by decide, by decide⟩,
        List.forall_mem_singleton.mpr ⟨by decide, by decide, by decide⟩,
        by decide⟩
    let removal : Wire.Operation := .mutateIn key specs 5 0
    let context : Request.Context := ⟨1, "mutate_in", some "doc"⟩
    let request : Request Wire.Response :=
      ⟨client.settings.requestTimeout, ⟨0⟩, context, .incomplete, none, .empty⟩
    let traffic : Traffic := ⟨2, [(1, ⟨removal, 0⟩)], [request], ⟨2⟩⟩
    let outcome : Request.Outcome Wire.Response := .failed (.casMismatch "doc")
    let frame : Bytes :=
      [0x81, 0xd1, 0, 0, 0, 0, 0, 2, 0, 0, 0, 0, 0, 0, 0, 1, 0, 0, 0, 0, 0, 0,
        0, 0]
    let start : Instant := ⟨0⟩
    let exchanges : List (Exchange interface) :=
      [⟨.readClock, start⟩, ⟨.allowance, (1 : Nat)⟩, ⟨.readClock, start⟩,
        ⟨.table (.newContext "mutate_in" (some "doc")), context⟩,
        ⟨.readClock, start⟩, ⟨.table (.openRequest request), (0 : Nat)⟩,
        ⟨.table .takeCorrelation, (1 : UInt32)⟩,
        ⟨.table (.register 1 ⟨removal, 0⟩), ()⟩,
        ⟨.send (removal.encode 1 client.channel), (.ok () : Except Error Unit)⟩,
        ⟨.readClock, start⟩,
        ⟨.awaitUntil 0 client.settings.requestTimeout, some outcome⟩]
    Traffic.machine.run (client.receive frame) traffic =
        (.ok (), traffic.settled 1 0 request outcome) ∧
      Follows (client.answerStore (.removeField "doc" "a" 5)).run exchanges
        (.done (.error (.casMismatch "doc"))) ∧
      ∃ response,
        Wire.Response.decode removal frame client.channel = .ok response ∧
          response.status = .alreadyExists := by
  intro client key specs removal context request traffic outcome frame start
    exchanges
  obtain ⟨received, writes⟩ := conflicts_are_exact
  have decoded :
      Wire.Response.decode removal frame client.channel =
        .ok ⟨1, .alreadyExists, 0, .empty, none, none⟩ := by
    decide
  have follows :
      Follows (client.answerStore (.removeField "doc" "a" 5)).run exchanges
        (.done (.error (.casMismatch "doc"))) :=
    .next (.next (.next (.next (.next (.next (.next (.next (.next (.next (.next
      (.start _)))))))))))
  have incomplete : request.IsSettled := ⟨rfl, nofun, fun _ => ⟨rfl, rfl⟩⟩
  obtain ⟨found, report, ran, isVerdict, -, classified⟩ :=
    received client traffic frame (Wire.Header.ofBytes frame) ⟨removal, 0⟩
      request (by decide) (by decide) rfl incomplete rfl
  obtain ⟨reported, -, table⟩ := classified _ decoded
  have conflict : found = outcome :=
    (table.casMismatch "doc").mpr ⟨rfl, by decide, rfl⟩
  rw [conflict, reported] at ran
  rw [conflict] at isVerdict
  refine ⟨ran, follows, ?_⟩
  have judged :=
    (writes client _ 5 exchanges _ (.ofLimit "remove" 3) none rfl follows
      (fun _ => nofun)).2 removal frame (List.mem_singleton.mpr rfl)
      (congrArg (fun outcome => [outcome]) isVerdict)
  obtain ⟨response, answers, status, -⟩ := judged.mp rfl
  exact ⟨response, answers, status⟩

end ClusterClient.Client
