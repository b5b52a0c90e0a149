import ClusterClient.Client.Documents
import ClusterClient.Proofs.Client.Activities
import ClusterClient.Proofs.Client.Verdicts

namespace ClusterClient.Client

/-!
# What the body of an answer holds

Which body a response is read with depends on the operation and on the status,
and so does whether the response answers its request. The two agree: a response
that answers its request has the body that the typed operation takes its result
from. So no typed operation ever takes a default instead.
-/

/-- The body that an answer to an operation has, read from a frame. -/
inductive AnswerBody
    (bytes : Bytes) : Wire.Operation → Wire.Payload → Prop where
  | content (key : Wire.DocumentKey) (flags : UInt32) :
      AnswerBody bytes (.get key) (.content flags (Wire.valueSection bytes))
  | inserted
      (key : Wire.DocumentKey)
      (content : Wire.Content)
      (expiry : UInt32) :
      AnswerBody bytes (.insert key content expiry) .empty
  | upserted
      (key : Wire.DocumentKey)
      (content : Wire.Content)
      (expiry : UInt32)
      (cas : Wire.Cas) :
      AnswerBody bytes (.upsert key content expiry cas) .empty
  | incremented
      (key : Wire.DocumentKey)
      (change : Wire.CounterChange)
      (value : UInt64) :
      AnswerBody bytes (.increment key change) (.counter value)
  | decremented
      (key : Wire.DocumentKey)
      (change : Wire.CounterChange)
      (value : UInt64) :
      AnswerBody bytes (.decrement key change) (.counter value)
  | metadata (key : Wire.DocumentKey) (deleted : Bool) :
      AnswerBody bytes (.getMeta key) (.metadata deleted)
  | lookup
      (key : Wire.DocumentKey)
      {specs : Wire.LookupSpecs}
      {fields : List Wire.LookupField}
      (count : fields.length = specs.specs.length)
      (inOrder :
        (fields.map Wire.LookupField.bytes).flatten = Wire.valueSection bytes) :
      AnswerBody bytes (.lookupIn key specs) (.lookup fields)
  | mutation
      (key : Wire.DocumentKey)
      (specs : Wire.MutationSpecs)
      (cas : Wire.Cas)
      (expiry : UInt32)
      {fields : List Wire.MutationField}
      (inOrder :
        (fields.map Wire.MutationField.bytes).flatten =
          Wire.valueSection bytes) :
      AnswerBody bytes (.mutateIn key specs cas expiry) (.mutation fields)

section Frames

variable {operation : Wire.Operation} {bytes : Bytes} {channel : Wire.Channel}
variable {response : Wire.Response}

/-- A request succeeds with a response that is decoded and answers it. -/
theorem verdict_eq_ok_iff :
    verdict operation bytes channel = .ok response ↔
      Wire.Response.decode operation bytes channel = .ok response ∧
        isAnswer operation response := by
  unfold verdict
  cases Wire.Response.decode operation bytes channel with
  | error fault => simp
  | ok decoded =>
      dsimp only
      split
      · rename_i answers
        constructor
        · rintro ⟨⟩
          exact ⟨rfl, answers⟩
        · rintro ⟨⟨⟩, -⟩
          rfl
      · rename_i noAnswer
        refine iff_of_false nofun ?_
        rintro ⟨⟨⟩, answers⟩
        exact noAnswer answers

/-- A counter is read as a counter. -/
theorem exists_counter_of_readCounter
    {value : Bytes}
    {payload : Wire.Payload}
    (read : Wire.readCounter value = .ok payload) :
    ∃ counter, payload = .counter counter := by
  unfold Wire.readCounter at read
  split at read
  · cases read
    exact ⟨_, rfl⟩
  split at read
  · cases read
  · cases read
    exact ⟨_, rfl⟩

/-- A response that answers its request has the body that belongs to it. -/
theorem answerBody_of_verdict
    (answers : verdict operation bytes channel = .ok response) :
    AnswerBody bytes operation response.body := by
  obtain ⟨decoded, isAnswer⟩ := verdict_eq_ok_iff.mp answers
  obtain ⟨frame, body, parsed, -, read, rfl⟩ :=
    Wire.Response.decode_eq_ok_iff.mp decoded
  change AnswerBody bytes operation body
  have success (noLookup : isLookup operation = false) :
      frame.header.status.isSuccess := by
    rcases isAnswer_iff.mp isAnswer with success | ⟨⟨key, specs, rfl⟩, -⟩
    · exact success
    · cases noLookup
  cases operation with
  | get key =>
      rw [Wire.readBody, if_pos (success rfl)] at read
      cases read
      rw [Wire.Frame.value_of_parse parsed]
      exact .content key _
  | insert key content expiry =>
      cases read
      exact .inserted key content expiry
  | upsert key content expiry cas =>
      cases read
      exact .upserted key content expiry cas
  | increment key change =>
      rw [Wire.readBody, if_pos (success rfl)] at read
      obtain ⟨counter, rfl⟩ := exists_counter_of_readCounter read
      exact .incremented key change counter
  | decrement key change =>
      rw [Wire.readBody, if_pos (success rfl)] at read
      obtain ⟨counter, rfl⟩ := exists_counter_of_readCounter read
      exact .decremented key change counter
  | getMeta key =>
      cases read
      exact .metadata key _
  | lookupIn key specs =>
      have hasResults :
          frame.header.status.isSuccess ∨
            frame.header.status.isMultiPathFailure :=
        (isAnswer_iff.mp isAnswer).imp_right And.right
      obtain ⟨fields, isLookup, inOrder⟩ :=
        Wire.exists_lookup_of_decode decoded hasResults
      have isBody : body = .lookup fields := isLookup
      subst isBody
      refine .lookup key ?_ inOrder
      rw [Wire.readBody, if_pos ((Bool.or_eq_true ..).mpr hasResults)] at read
      obtain ⟨_, results, same⟩ := Wire.map_eq_ok_iff.mp read
      cases same
      exact (Wire.readLookupBody_eq_ok_iff.mp results).2
  | mutateIn key specs cas expiry =>
      obtain ⟨fields, isMutation, inOrder⟩ :=
        Wire.exists_mutation_of_decode decoded (success rfl)
      have isBody : body = .mutation fields := isMutation
      subst isBody
      exact .mutation key specs cas expiry inOrder

/-- A failure of a path is about the path of a spec of the mutation. -/
theorem verdict_of_mutationFailed
    {key : Wire.DocumentKey}
    {specs : Wire.MutationSpecs}
    {cas : Wire.Cas}
    {expiry : UInt32}
    {index : UInt8}
    {status : Wire.Status}
    (decoded :
      Wire.Response.decode (.mutateIn key specs cas expiry) bytes channel =
        .ok response)
    (failed : response.body = .mutationFailed index status) :
    ∃ spec,
      specs.specs[index.toNat]? = some spec ∧
        verdict (.mutateIn key specs cas expiry) bytes channel =
          .error (pathError status spec.path none) := by
  have classified := isClassified_of_decode decoded
  obtain ⟨frame, body, parsed, -, read, rfl⟩ :=
    Wire.Response.decode_eq_ok_iff.mp decoded
  have isBody : body = .mutationFailed index status := failed
  subst isBody
  obtain ⟨failure, -⟩ := failure_of_readBody read
  obtain ⟨_, _, spec, body, found, isFailure⟩ :=
    classified.path key specs cas expiry rfl failure
  cases body
  rw [← pathError_eq, outcomeOf_eq_failed_iff] at isFailure
  exact ⟨spec, found, isFailure⟩

end Frames

section Receiving

variable {client : Client} {traffic : Traffic} {bytes : Bytes}
variable {request : Nat} {response : Wire.Response}

/-- After a completion, a request has the outcome that it had or the new one. -/
theorem outcome_finish
    (completed : Request Wire.Response)
    (outcome : Request.Outcome Wire.Response) :
    (completed.finish outcome).2.slot.outcome = completed.slot.outcome ∨
      (completed.finish outcome).2.slot.outcome = some outcome := by
  obtain ⟨timeout, createdAt, context, phase, reason, ⟨stored, locked⟩⟩ :=
    completed
  cases phase with
  | completing | succeeded | failed | cancelled => exact .inl rfl
  | incomplete =>
      cases locked with
      | true => cases outcome <;> exact .inl rfl
      | false =>
          cases stored with
          | some earlier => cases outcome <;> exact .inl rfl
          | none => cases outcome <;> exact .inr rfl

/-- To complete a request gives its outcome to this request only, if at all. -/
theorem outcome?_complete
    {index : Nat}
    {outcome : Request.Outcome Wire.Response}
    {found : Request.Outcome Wire.Response}
    (after : (traffic.complete index outcome).2.outcome? request = some found) :
    traffic.outcome? request = some found ∨
      (index = request ∧ found = outcome) := by
  unfold Traffic.outcome? at after ⊢
  rw [Traffic.getElem?_complete] at after
  split at after
  · rename_i same
    subst same
    cases opened : traffic.requests[request]? with
    | none =>
        rw [opened] at after
        cases after
    | some completed =>
        rw [opened] at after
        rcases outcome_finish completed outcome with unchanged | isNew
        · exact .inl (unchanged.symm.trans after)
        · exact .inr ⟨rfl, Option.some.inj (after.symm.trans isNew)⟩
  · exact .inl after

/-- A request that was just opened has no outcome. -/
theorem outcome?_openRequest
    {opened : Request Wire.Response}
    (settled : opened.IsSettled)
    (isNew : ¬ opened.isCompleted)
    {found : Request.Outcome Wire.Response}
    (after :
      (Traffic.machine (.openRequest opened) traffic).2.outcome? request =
        some found) :
    traffic.outcome? request = some found := by
  obtain ⟨holder, isHolder, inSlot⟩ := Option.bind_eq_some_iff.mp after
  rcases Traffic.old_or_new_of_openRequest isHolder with isOld | ⟨-, rfl⟩
  · exact Option.bind_eq_some_iff.mpr ⟨holder, isOld, inSlot⟩
  · have incomplete : holder.phase = .incomplete := by
      by_contra completed
      exact isNew (settled.isCompleted_iff.mpr completed)
    rw [(settled.2.2 incomplete).1] at inSlot
    cases inSlot

/--
A frame that makes a request succeed has the number of its entry and is an
answer to the operation that waits there.
-/
theorem answers_of_receive
    (unanswered : traffic.outcome? request ≠ some (.succeeded response))
    (answered :
      (Traffic.machine.run (client.receive bytes) traffic).2.outcome? request =
        some (.succeeded response)) :
    ∃ header entry,
      Wire.Header.parse bytes = .ok header ∧
        KeyedList.find? header.correlation traffic.table = some entry ∧
        entry.request = request ∧
        verdict entry.operation bytes client.channel = .ok response := by
  cases headed : Wire.Header.parse bytes with
  | error fault =>
      rw [run_receive_of_fault headed] at answered
      exact absurd answered unanswered
  | ok header =>
      rw [run_receive_of_header headed, Traffic.answer] at answered
      cases waiting : KeyedList.find? header.correlation traffic.table with
      | none =>
          rw [waiting] at answered
          exact absurd answered unanswered
      | some entry =>
          rw [waiting] at answered
          rcases outcome?_complete answered with before | ⟨isRequest, isOutcome⟩
          · exact absurd before unanswered
          · exact
              ⟨header, entry, rfl, waiting, isRequest,
                outcomeOf_eq_succeeded_iff.mp isOutcome.symm⟩

end Receiving

end ClusterClient.Client
