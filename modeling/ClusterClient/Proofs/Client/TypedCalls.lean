import ClusterClient.Proofs.Client.Successes
import ClusterClient.Proofs.Server.StoreCalls

namespace ClusterClient.Client

open Server

/-!
# Typed operations take what is there

A typed operation reads its result from the body of the response, with a default
for a body of another kind, and a lookup of one path with an error for a body
without results. The execution returns only responses that answer the operation,
so the bodies are of the right kind, and none of the defaults is ever taken.
-/

/-! Typed operations as executions, and what they read from the response. -/

/-- A typed operation of a client, with its arguments. -/
inductive TypedCall where
  | get (id : String)
  | insert (id : String) (content : Bytes)
  | upsert (id : String) (content : Bytes) (cas : Wire.Cas)
  | increment (id : String) (counter : Wire.CounterChange)
  | decrement (id : String) (counter : Wire.CounterChange)
  | getMeta (id : String)
  | lookupIn (id : String) (specs : List Wire.LookupSpec)
  | lookupOne (id : String) (spec : Wire.LookupSpec)
  | mutateIn (id : String) (specs : List Wire.MutationSpec) (cas : Wire.Cas)

namespace TypedCall

/-- What a typed operation returns. -/
@[reducible] def Success : TypedCall → Type
  | .get _ => Optimistic.Versioned Bytes
  | .insert .. | .upsert .. | .mutateIn .. => MutationReceipt
  | .increment .. | .decrement .. => CounterReceipt
  | .getMeta _ => MetadataResult
  | .lookupIn .. => LookupResult
  | .lookupOne .. => Optimistic.Versioned (Option Wire.LookupField)

/-- The program of a typed operation. -/
def program (client : Client) : (call : TypedCall) → Attempt call.Success
  | .get id => client.get id
  | .insert id content => client.insert id content
  | .upsert id content cas => client.upsert id content cas
  | .increment id counter => client.increment id counter
  | .decrement id counter => client.decrement id counter
  | .getMeta id => client.getMeta id
  | .lookupIn id specs => client.lookupIn id specs
  | .lookupOne id spec => client.lookupOne id spec
  | .mutateIn id specs cas => client.mutateIn id specs cas

/-- The operation that a typed operation executes, if it is valid. -/
def operation
    (client : Client) : TypedCall → Except ArgumentFault Wire.Operation
  | .get id => do
      let key ← keyOf client id
      return .get key
  | .insert id content => do
      let key ← keyOf client id
      let content ← Wire.Content.ofBytes content
      return .insert key content 0
  | .upsert id content cas => do
      let key ← keyOf client id
      let content ← Wire.Content.ofBytes content
      return .upsert key content 0 cas
  | .increment id counter => do
      let key ← keyOf client id
      return .increment key counter
  | .decrement id counter => do
      let key ← keyOf client id
      return .decrement key counter
  | .getMeta id => do
      let key ← keyOf client id
      return .getMeta key
  | .lookupIn id specs => do
      let key ← keyOf client id
      let specs ← Wire.LookupSpecs.ofList specs
      return .lookupIn key specs
  | .lookupOne id spec => lookupOf client id spec
  | .mutateIn id specs cas => do
      let key ← keyOf client id
      let specs ← Wire.MutationSpecs.ofList specs
      return .mutateIn key specs cas 0

/-- What a typed operation takes from a response, defaults included. -/
def read
    (call : TypedCall)
    (response : Wire.Response) : Except Error call.Success :=
  match call with
  | .get _ => .ok ⟨response.content?.getD [], response.cas⟩
  | .insert .. | .upsert .. | .mutateIn .. => .ok (.ofResponse response)
  | .increment .. | .decrement .. => .ok (.ofResponse response)
  | .getMeta _ => .ok ⟨response.cas, response.deleted⟩
  | .lookupIn .. => .ok ⟨response.cas, response.lookupFields⟩
  | .lookupOne _ spec => readField spec.path response

/-- A typed operation is an execution, unless its arguments are refused. -/
theorem program_performs (client : Client) (call : TypedCall) :
    Performs client (call.program client) (call.operation client)
      call.read := by
  cases call with
  | get id => exact get_performs client id
  | insert id content => exact insert_performs client id content
  | upsert id content cas => exact upsert_performs client id content cas
  | increment id counter =>
      exact .documentKey (fun key => .execute _ fun _ => rfl) id
  | decrement id counter =>
      exact .documentKey (fun key => .execute _ fun _ => rfl) id
  | getMeta id => exact .documentKey (fun key => .execute _ fun _ => rfl) id
  | lookupIn id specs =>
      exact
        .documentKey
          (fun key => .accept (fun specs => .execute _ fun _ => rfl) _) id
  | lookupOne id spec => exact lookupOne_performs client id spec
  | mutateIn id specs cas =>
      exact
        .documentKey
          (fun key => .accept (fun specs => .execute _ fun _ => rfl) _) id

/--
What a typed operation takes from a response: everything that it returns stands
in the body of the response or beside it.
-/
inductive Reads
    (response : Wire.Response) :
    (call : TypedCall) → Except Error call.Success → Prop where
  | document
      (id : String)
      {flags : UInt32}
      {content : Bytes}
      (isContent : response.body = .content flags content) :
      Reads response (.get id) (.ok ⟨content, response.cas⟩)
  | inserted (id : String) (content : Bytes) :
      Reads response (.insert id content)
        (.ok ⟨response.cas, response.mutationToken⟩)
  | upserted (id : String) (content : Bytes) (cas : Wire.Cas) :
      Reads response (.upsert id content cas)
        (.ok ⟨response.cas, response.mutationToken⟩)
  | incremented
      (id : String)
      (counter : Wire.CounterChange)
      {value : UInt64}
      (isCounter : response.body = .counter value) :
      Reads response (.increment id counter)
        (.ok ⟨value, response.cas, response.mutationToken⟩)
  | decremented
      (id : String)
      (counter : Wire.CounterChange)
      {value : UInt64}
      (isCounter : response.body = .counter value) :
      Reads response (.decrement id counter)
        (.ok ⟨value, response.cas, response.mutationToken⟩)
  | metadata
      (id : String)
      {deleted : Bool}
      (isMetadata : response.body = .metadata deleted) :
      Reads response (.getMeta id) (.ok ⟨response.cas, deleted⟩)
  | fields
      (id : String)
      {specs : List Wire.LookupSpec}
      {fields : List Wire.LookupField}
      (isLookup : response.body = .lookup fields)
      (count : fields.length = specs.length) :
      Reads response (.lookupIn id specs) (.ok ⟨response.cas, fields⟩)
  | found
      (id : String)
      (spec : Wire.LookupSpec)
      {field : Wire.LookupField}
      (isLookup : response.body = .lookup [field])
      (isThere : field.status = .success) :
      Reads response (.lookupOne id spec) (.ok ⟨some field, response.cas⟩)
  | absent
      (id : String)
      (spec : Wire.LookupSpec)
      {field : Wire.LookupField}
      (isLookup : response.body = .lookup [field])
      (isAbsent : field.status = .subdocPathNotFound) :
      Reads response (.lookupOne id spec) (.ok ⟨none, response.cas⟩)
  | failed
      (id : String)
      (spec : Wire.LookupSpec)
      {field : Wire.LookupField}
      (isLookup : response.body = .lookup [field])
      (notThere : field.status ≠ .success)
      (notAbsent : field.status ≠ .subdocPathNotFound) :
      Reads response (.lookupOne id spec)
        (.error (pathError field.status spec.path none))
  | mutated
      (id : String)
      (specs : List Wire.MutationSpec)
      (cas : Wire.Cas) :
      Reads response (.mutateIn id specs cas)
        (.ok ⟨response.cas, response.mutationToken⟩)

/-- The only result of a lookup of one path is found, absent or failed. -/
theorem reads_field
    {response : Wire.Response}
    (id : String)
    (spec : Wire.LookupSpec)
    {field : Wire.LookupField}
    (isLookup : response.body = .lookup [field]) :
    Reads response (.lookupOne id spec) (readField spec.path response) := by
  have results : response.lookupFields = [field] := by
    rw [Wire.Response.lookupFields, isLookup]
  rw [readField, results, onlyField]
  split
  · exact .found id spec isLookup ‹_›
  · exact .absent id spec isLookup ‹_›
  · exact .failed id spec isLookup ‹_› ‹_›

/-- An argument that was gone on with has passed its check. -/
theorem exists_checked
    {Argument : Type}
    {checked : Except ArgumentFault Argument}
    {next : Argument → Except ArgumentFault Wire.Operation}
    {operation : Wire.Operation}
    (made : checked.bind next = .ok operation) :
    ∃ argument, checked = .ok argument ∧ next argument = .ok operation := by
  cases checked with
  | error fault => cases made
  | ok argument => exact ⟨argument, rfl, made⟩

/-- A response that answers a typed operation is read without a default. -/
theorem reads_of_answerBody
    {client : Client}
    {call : TypedCall}
    {operation : Wire.Operation}
    {partitionCount : UInt16}
    {bytes : Bytes}
    {response : Wire.Response}
    (valid : call.operation client = .ok operation)
    (answers :
      AnswerBody bytes (operation.route partitionCount) response.body) :
    Reads response call (call.read response) := by
  generalize isBody : response.body = body at answers
  cases call with
  | get id =>
      obtain ⟨key, -, made⟩ := exists_checked valid
      cases made
      cases answers with
      | content _ flags =>
          rw [read, Wire.Response.content?, isBody]
          exact .document id isBody
  | insert id content => exact .inserted id content
  | upsert id content cas => exact .upserted id content cas
  | increment id counter =>
      obtain ⟨key, -, made⟩ := exists_checked valid
      cases made
      cases answers with
      | incremented _ _ value =>
          rw [read, CounterReceipt.ofResponse, Wire.Response.counter?, isBody]
          exact .incremented id counter isBody
  | decrement id counter =>
      obtain ⟨key, -, made⟩ := exists_checked valid
      cases made
      cases answers with
      | decremented _ _ value =>
          rw [read, CounterReceipt.ofResponse, Wire.Response.counter?, isBody]
          exact .decremented id counter isBody
  | getMeta id =>
      obtain ⟨key, -, made⟩ := exists_checked valid
      cases made
      cases answers with
      | metadata _ deleted =>
          rw [read, Wire.Response.deleted, isBody]
          exact .metadata id isBody
  | lookupIn id specs =>
      obtain ⟨key, -, checking⟩ := exists_checked valid
      obtain ⟨checked, accepted, made⟩ := exists_checked checking
      cases made
      cases answers with
      | lookup _ count =>
          rw [Wire.LookupSpecs.specs_of_ofList accepted] at count
          rw [read, Wire.Response.lookupFields, isBody]
          exact .fields id isBody count
  | lookupOne id spec =>
      obtain ⟨key, -, checking⟩ := exists_checked valid
      obtain ⟨checked, accepted, made⟩ := exists_checked checking
      cases made
      cases answers with
      | lookup _ count =>
          rw [Wire.LookupSpecs.specs_of_ofList accepted] at count
          obtain ⟨field, rfl⟩ := List.length_eq_one_iff.mp count
          exact reads_field id spec isBody
  | mutateIn id specs cas => exact .mutated id specs cas

end TypedCall

/-! Typed operations beside other work. -/

/-- A typed operation with valid arguments, and what it executes. -/
structure ValidCall (client : Client) where
  call : TypedCall
  operation : Wire.Operation
  accepted : call.operation client = .ok operation

/-- What a thread may do on a client: a work, or a typed operation. -/
inductive Task (client : Client) where
  | plain (work : Work)
  | typed (valid : ValidCall client)

/-- What a task returns. -/
inductive TaskEnding where
  | plain (ending : Ending)
  | typed (call : TypedCall) (result : Except Error call.Success)

namespace Task

variable {client : Client}

/-- The program of a task. -/
def program : Task client → Program interface TaskEnding
  | .plain work => do
      let ending ← work.program client
      return .plain ending
  | .typed valid => do
      let result ← (valid.call.program client).run
      return .typed valid.call result

/-- The work that a task comes down to. -/
def work : Task client → Work
  | .plain work => work
  | .typed valid =>
      .execution valid.operation client.settings.requestTimeout client.policy

/-- What a task makes of the ending of its work. -/
def conclusion : Task client → Ending → TaskEnding
  | .typed valid, .awaited result =>
      .typed valid.call (result.bind valid.call.read)
  | _, ending => .plain ending

/-- A task does its work, and then makes something of the ending. -/
theorem program_eq (task : Task client) :
    task.program =
      (task.work.program client).bind fun ending =>
        .done (task.conclusion ending) := by
  cases task with
  | plain work => rfl
  | typed valid =>
      have performs := valid.call.program_performs client
      rw [valid.accepted] at performs
      have executes :
          (valid.call.program client).run =
            Program.bind (client.execute valid.operation).run fun executed =>
              .done (executed.bind valid.call.read) := performs
      change
        Program.bind (valid.call.program client).run _ =
          Program.bind (Program.bind (client.execute valid.operation).run _) _
      rw [executes, Program.bind_assoc, Program.bind_assoc]
      rfl

/-- Only a work that is an activity comes down to one. -/
theorem eq_plain_of_work
    {task : Task client}
    {activity : Activity}
    (does : task.work = .single activity) :
    task = .plain (.single activity) := by
  cases task with
  | plain work => exact congrArg Task.plain does
  | typed valid => cases does

end Task

/-- Runs of tasks on one client. -/
abbrev TaskRun
    {Thread : Type}
    [DecidableEq Thread]
    {client : Client}
    (tasks : Thread → Task client) :=
  @Run interface Thread Traffic TaskEnding _ semantics (fun _ _ => False)
    (fun thread => (tasks thread).program) .empty

namespace TaskRun

variable {Thread : Type} [DecidableEq Thread] {client : Client}
variable {tasks : Thread → Task client} {history : ClientHistory Thread}
variable {current : Thread → Program interface TaskEnding} {final : Traffic}

/-- A run of tasks is a run of their works. -/
theorem exists_run (run : TaskRun tasks history current final) :
    ∃ working,
      ClientRun (fun thread => (tasks thread).work.program client) .empty
          history working final ∧
        ∀ thread,
          current thread =
            (working thread).bind fun ending =>
              .done ((tasks thread).conclusion ending) := by
  unfold TaskRun at run
  simp only [Task.program_eq] at run
  exact run.of_map

/-- A typed operation that has returned has read what its execution returned. -/
theorem exists_executed
    (run : TaskRun tasks history current final)
    {thread : Thread}
    {valid : ValidCall client}
    {result : Except Error valid.call.Success}
    (isTyped : tasks thread = .typed valid)
    (returned : current thread = .done (.typed valid.call result)) :
    ∃ executed working,
      result = executed.bind valid.call.read ∧
        ClientRun (fun thread => (tasks thread).work.program client) .empty
          history working final ∧
        working thread = .done (.awaited executed) := by
  obtain ⟨working, works, same⟩ := run.exists_run
  obtain ⟨ending, ended, concludes⟩ :=
    eq_done_of_map ((same thread).symm.trans returned)
  have follows := works.follows thread
  rw [isTyped, ended] at follows
  obtain ⟨executed, rfl⟩ := Work.awaited_of_execution follows
  rw [isTyped] at concludes
  cases concludes
  exact ⟨executed, working, rfl, works, ended⟩

end TaskRun

/--
Typed results never fall back to a default. A frame that makes a request succeed
has the body that belongs to the operation of the request, with as many results
of a lookup as it has paths. A failure of a path in a mutation is an error about
the path of a spec of the mutation. So whatever tasks run on a client, a typed
operation fails as its execution does, or it takes its result from the answer
that somebody has received under the number of one of its requests, and finds
in the body all that it returns.
-/
theorem typed_results_take_no_default (client : Client) :
    (∀ (traffic : Traffic) frame request response,
      traffic.outcome? request ≠ some (.succeeded response) →
      (Traffic.machine.run (client.receive frame) traffic).2.outcome? request =
        some (.succeeded response) →
      ∃ header entry,
        Wire.Header.parse frame = .ok header ∧
          KeyedList.find? header.correlation traffic.table = some entry ∧
          entry.request = request ∧
          AnswerBody frame entry.operation response.body) ∧
    (∀ key specs cas expiry frame response index status,
      Wire.Response.decode (.mutateIn key specs cas expiry) frame
        client.channel = .ok response →
      response.body = .mutationFailed index status →
      ∃ spec,
        specs.specs[index.toNat]? = some spec ∧
          verdict (.mutateIn key specs cas expiry) frame client.channel =
            .error (pathError status spec.path none)) ∧
    ∀ {Thread : Type} [DecidableEq Thread] (tasks : Thread → Task client)
      history current final,
      TaskRun tasks history current final →
      (∀ thread request response,
        tasks thread ≠
          .plain (.single (.complete request (.succeeded response)))) →
      ∀ thread (valid : ValidCall client) result,
        tasks thread = .typed valid →
        current thread = .done (.typed valid.call result) →
        let routed := valid.operation.route client.settings.partitionCount
        (∃ error,
          result = .error error ∧
            Follows (client.execute valid.operation).run
              (exchangesBy thread history) (.done (.error error))) ∨
          ∃ receiver frame header request response,
            tasks receiver = .plain (.single (.receive frame)) ∧
              Wire.Header.parse frame = .ok header ∧
              ⟨.table (.register header.correlation ⟨routed, request⟩), ()⟩ ∈
                exchangesBy thread history ∧
              verdict routed frame client.channel = .ok response ∧
              AnswerBody frame routed response.body ∧
              valid.call.Reads response result := by
  refine ⟨?_, ?_, ?_⟩
  · intro traffic frame request response unanswered answered
    obtain ⟨header, entry, parsed, waiting, isEntry, answers⟩ :=
      answers_of_receive unanswered answered
    exact
      ⟨header, entry, parsed, waiting, isEntry, answerBody_of_verdict answers⟩
  · intro key specs cas expiry frame response index status decoded failed
    exact verdict_of_mutationFailed decoded failed
  · intro Thread _ tasks history current final run notByHand thread valid result
      isTyped returned routed
    obtain ⟨executed, working, rfl, works, ended⟩ :=
      TaskRun.exists_executed run isTyped returned
    cases executed with
    | error error =>
        have follows := works.follows thread
        rw [isTyped, ended] at follows
        exact .inl ⟨error, rfl, Work.follows_of_execution follows⟩
    | ok response =>
        have notByHandHere : ∀ thread request response,
            (tasks thread).work ≠
              .single (.complete request (.succeeded response)) :=
          fun other request response byHand =>
            notByHand other request response (Task.eq_plain_of_work byHand)
        obtain ⟨receiver, frame, header, request, receives, parsed, registered,
          answers⟩ :=
          ClientRun.exists_frame_of_execution works notByHandHere
            (congrArg Task.work isTyped) ended
        have body := answerBody_of_verdict answers
        exact
          .inr
            ⟨receiver, frame, header, request, response,
              Task.eq_plain_of_work receives, parsed, registered, answers, body,
              TypedCall.reads_of_answerBody valid.accepted body⟩

/-- Two threads: one reads a document, one hands its response to the client. -/
inductive Visitor where
  | reader
  | receiver
  deriving DecidableEq

/-- The response to the read: a document of two bytes at version seven. -/
def visitFrame : Bytes :=
  [0x81, 0, 0, 0, 4, 0, 0, 0, 0, 0, 0, 6, 0, 0, 0, 1, 0, 0, 0, 0, 0, 0, 0, 7,
    0, 0, 0, 0, 0x7b, 0x7d]

/-- The read of the document. -/
def visit : ValidCall ClientRun.closingClient where
  call := .get "visit"
  operation := .get ⟨"visit", .default, 0, by decide, by decide⟩
  accepted := rfl

/-- What the two threads do. -/
def visiting : Visitor → Task ClientRun.closingClient
  | .reader => .typed visit
  | .receiver => .plain (.single (.receive visitFrame))

/-- The response arrives while the reader waits. -/
def visited : Replay interface Visitor Traffic TaskEnding :=
  ClientRun.oneRoundAnswer.replay
    (List.replicate 9 .reader ++ [.receiver, .receiver, .reader, .reader])
    (fun visitor => (visiting visitor).program) .empty

/-- The reader returns the document that stands in the body of the response. -/
theorem typed_results_take_no_default_visit :
    visited.programs .reader =
        .done (.typed (.get "visit") (.ok ⟨[0x7b, 0x7d], 7⟩)) ∧
      ∃ response,
        TypedCall.Reads response (.get "visit") (.ok ⟨[0x7b, 0x7d], 7⟩) := by
  have run :
      TaskRun visiting visited.history visited.programs visited.state :=
    (Run.replay ClientRun.oneRoundAnswer _ _ _).mono
      ClientRun.semantics_of_oneRoundAnswer
  have returned :
      visited.programs .reader =
        .done (.typed (.get "visit") (.ok ⟨[0x7b, 0x7d], 7⟩)) := rfl
  have notByHand : ∀ visitor request response,
      visiting visitor ≠
        .plain (.single (.complete request (.succeeded response))) := by
    intro visitor request response byHand
    cases visitor <;> cases byHand
  have takesNoDefault :=
    (typed_results_take_no_default ClientRun.closingClient).2.2 visiting _ _ _
      run notByHand .reader visit _ rfl returned
  refine ⟨returned, ?_⟩
  rcases takesNoDefault with
    ⟨error, failed, -⟩ | ⟨_, _, _, _, response, -, -, -, -, -, reads⟩
  · cases failed
  · exact ⟨response, reads⟩

end ClusterClient.Client
