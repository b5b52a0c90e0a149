import ClusterClient.Proofs.Document.Versions
import ClusterClient.Proofs.Json.Texts
import ClusterClient.Proofs.Wire.Replies
import ClusterClient.Proofs.Wire.RequestReader

namespace ClusterClient.Server

/-!
# A server of documents

A server holds documents and gives out versions the way a memory store does. It
reads a request from its frame, carries it out and answers with one response
frame. A lookup is answered path by path. The paths of a mutation are changed in
their order, and the first one that fails is named and leaves the document as it
was.

Counters and metadata are not served here.
-/

/-- What a server has to say about a request. -/
structure Answer where
  status : Wire.Status
  cas : Wire.Cas
  reply : Wire.Reply
  deriving Repr, DecidableEq

/-- Refuse a request as a whole. -/
def refusal (status : Wire.Status) : Answer :=
  ⟨status, 0, .refused ""⟩

/-- The value that some bytes are the JSON text of. -/
def readJson? (bytes : Bytes) : Option Json :=
  (Text.decode? bytes).bind Json.parse?

/-! Documents as a whole. -/

/-- The identity of the partition in every mutation token. -/
def partitionUuid : UInt64 := 0xbeef

/-- Put a document in place and report the version that it got. -/
def store
    (memory : Document.Memory)
    (id : String)
    (content : Json)
    (report : Option Wire.TokenWords → Wire.Reply) :
    Answer × Document.Memory :=
  (⟨.success, memory.nextCas, report (some ⟨partitionUuid, memory.nextCas⟩)⟩,
    memory.revise id content)

/-- Put a document in place that came as a JSON text. -/
def storeText
    (memory : Document.Memory)
    (id : String)
    (text : Bytes) : Answer × Document.Memory :=
  match readJson? text with
  | some content => store memory id content .stored
  | none => (refusal .invalidArgs, memory)

/-- A version precondition does not accept a version. -/
def isStale (expected current : Wire.Cas) : Bool :=
  expected ≠ Wire.anyVersion ∧ expected ≠ current

/-- Answer a request for a whole document. -/
def getDocument (memory : Document.Memory) (id : String) : Answer :=
  match memory.find? id with
  | none => refusal .notFound
  | some document =>
      ⟨.success, document.cas,
        .document Wire.jsonDocumentFlags (Client.encodeJson document.content)⟩

/-- Create a document that is not there yet. -/
def insertDocument
    (memory : Document.Memory)
    (id : String)
    (text : Bytes) : Answer × Document.Memory :=
  if memory.contains id then
    (refusal .alreadyExists, memory)
  else
    storeText memory id text

/-- Create or replace a document under a version precondition. -/
def upsertDocument
    (memory : Document.Memory)
    (id : String)
    (text : Bytes)
    (cas : Wire.Cas) : Answer × Document.Memory :=
  match memory.find? id with
  | none =>
      if cas ≠ Wire.anyVersion then
        (refusal .notFound, memory)
      else
        storeText memory id text
  | some document =>
      if isStale cas document.cas then
        (refusal .alreadyExists, memory)
      else
        storeText memory id text

/-! Paths of a document. -/

/-- The number of children of an array or an object. -/
def childCount? : Json → Option Nat
  | .array items => some items.length
  | .object fields => some fields.length
  | _ => none

/-- The result of a lookup that counts. -/
def countResult (count : Nat) : Wire.LookupField :=
  ⟨.success, Text.encode (toString count)⟩

/-- The result of a lookup at a path where there is a value. -/
def foundResult (kind : Wire.LookupKind) (value : Json) : Wire.LookupField :=
  match kind with
  | .get => ⟨.success, Client.encodeJson value⟩
  | .exists => ⟨.success, []⟩
  | .count =>
      match childCount? value with
      | some count => countResult count
      | none => ⟨.subdocPathMismatch, []⟩

/-- Look up one path; a count of the root counts the fields. -/
def lookUp
    (fields : Json.Fields)
    (spec : Wire.LookupSpec) : Wire.LookupField :=
  if spec.kind = .count ∧ spec.path = "" then
    countResult fields.length
  else
    match Document.keyOfPath spec.path with
    | .error _ => ⟨.subdocPathInvalid, []⟩
    | .ok key =>
        match KeyedList.find? key fields with
        | some value => foundResult spec.kind value
        | none => ⟨.subdocPathNotFound, []⟩

/-- The status over the results of all paths. -/
def lookupStatus (results : List Wire.LookupField) : Wire.Status :=
  if results.all fun result => result.status = .success then
    .success
  else
    .subdocMultiPathFailure

/-- Look up paths of a document. -/
def lookUpAll
    (memory : Document.Memory)
    (id : String)
    (specs : List Wire.LookupSpec) : Answer :=
  match memory.find? id with
  | none => refusal .notFound
  | some document =>
      match document.content with
      | .object fields =>
          let results := specs.map (lookUp fields)
          ⟨lookupStatus results, document.cas, .lookedUp results⟩
      | _ => refusal .subdocDocNotJson

/-- Change one path. -/
def change
    (fields : Json.Fields)
    (spec : Wire.MutationSpec) : Except Wire.Status Json.Fields :=
  match Document.keyOfPath spec.path with
  | .error _ => .error .subdocPathInvalid
  | .ok key =>
      match spec.kind with
      | .upsert =>
          match readJson? spec.value with
          | some value => .ok (KeyedList.insert key value fields)
          | none => .error .subdocValueCantInsert
      | .remove =>
          if KeyedList.contains key fields then
            .ok (KeyedList.erase key fields)
          else
            .error .subdocPathNotFound

/-- Change paths in their order; `index` is that of the first one. -/
def changeAll
    (index : Nat)
    (fields : Json.Fields) :
    List Wire.MutationSpec → Except (Nat × Wire.Status) Json.Fields
  | [] => .ok fields
  | spec :: rest =>
      match change fields spec with
      | .error status => .error (index, status)
      | .ok changed => changeAll (index + 1) changed rest

/-- Change paths of a document under a version precondition. -/
def mutate
    (memory : Document.Memory)
    (id : String)
    (specs : List Wire.MutationSpec)
    (cas : Wire.Cas) : Answer × Document.Memory :=
  match memory.find? id with
  | none => (refusal .notFound, memory)
  | some document =>
      if isStale cas document.cas then
        (refusal .alreadyExists, memory)
      else
        match document.content with
        | .object fields =>
            match changeAll 0 fields specs with
            | .ok changed => store memory id (.object changed) (.mutated [])
            | .error (index, status) =>
                (⟨.subdocMultiPathFailure, 0,
                    .pathFailed (UInt8.ofNat index) status⟩,
                  memory)
        | _ => (refusal .subdocDocNotJson, memory)

/-! Requests. -/

/-- Carry out an operation. -/
def serve
    (memory : Document.Memory)
    (operation : Wire.Operation) : Answer × Document.Memory :=
  match operation with
  | .get key => (getDocument memory key.id, memory)
  | .insert key content _ => insertDocument memory key.id content.bytes
  | .upsert key content _ cas =>
      upsertDocument memory key.id content.bytes cas
  | .lookupIn key specs => (lookUpAll memory key.id specs.specs, memory)
  | .mutateIn key specs cas _ => mutate memory key.id specs.specs cas
  | .increment .. | .decrement .. | .getMeta _ =>
      (refusal .unknownCommand, memory)

/-- The response frame of an answer. -/
def Answer.frame
    (answer : Answer)
    (command : Wire.Command)
    (correlation : UInt32) : Bytes :=
  Wire.responseFrame command.byte Wire.rawDatatype answer.status correlation
    answer.cas (answer.reply.sections [])

/-- Answer a request frame; what is no request is left alone. -/
def answerFrame
    (channel : Wire.Channel)
    (memory : Document.Memory)
    (frame : Bytes) : Option Bytes × Document.Memory :=
  match Wire.readRequest? channel frame with
  | none => (none, memory)
  | some (correlation, operation) =>
      let (answer, later) := serve memory operation
      (some (answer.frame operation.command correlation), later)

/-! What is answered. -/

/-- What an answer to an operation respects. -/
structure Answer.Answers
    (answer : Answer)
    (operation : Wire.Operation) : Prop where
  isReply : Wire.IsReply answer.status operation answer.reply
  proper : answer.status.IsProper
  lasting : answer.status.isTemporary = false

theorem refusal_answers
    (status : Wire.Status)
    (refuses : status.isRefusal)
    (proper : status.IsProper)
    (lasting : status.isTemporary = false)
    (operation : Wire.Operation) : (refusal status).Answers operation where
  isReply :=
    .refused (Wire.Status.isRefusal_iff.mp refuses).1 (fun _ => refuses)
      (absurd rfl)
  proper := proper
  lasting := lasting

theorem notFound_answers (operation : Wire.Operation) :
    (refusal .notFound).Answers operation :=
  refusal_answers .notFound rfl rfl rfl operation

theorem alreadyExists_answers (operation : Wire.Operation) :
    (refusal .alreadyExists).Answers operation :=
  refusal_answers .alreadyExists rfl rfl rfl operation

theorem storeText_answers
    {operation : Wire.Operation}
    (stores : ∀ token, Wire.IsReply .success operation (.stored token))
    (memory : Document.Memory)
    (id : String)
    (text : Bytes) : (storeText memory id text).1.Answers operation := by
  unfold storeText
  split
  · exact ⟨stores _, rfl, rfl⟩
  · exact refusal_answers .invalidArgs rfl rfl rfl operation

/-- The result of a path has a status of its own. -/
theorem isProper_lookUp (fields : Json.Fields) (spec : Wire.LookupSpec) :
    (lookUp fields spec).status.IsProper := by
  unfold lookUp
  split
  · rfl
  split
  · rfl
  split
  · unfold foundResult
    split
    · rfl
    · rfl
    · split <;> rfl
  · rfl

/-- An array or an object has no more children than the document has bytes. -/
theorem childCount?_lt
    {value : Json}
    {count : Nat}
    (counted : childCount? value = some count) :
    count < (Client.encodeJson value).length := by
  cases value with
  | array items =>
      cases counted
      exact Client.length_items_lt items
  | object fields =>
      cases counted
      exact Client.length_fields_lt fields
  | null | boolean | whole | real | text => cases counted

/-- What is looked up in a document within the value limit is within it. -/
theorem length_lookUp_le
    {fields : Json.Fields}
    (fits : (Client.encodeJson (.object fields)).length ≤ maxValueLength)
    (spec : Wire.LookupSpec) :
    (lookUp fields spec).value.length ≤ maxValueLength := by
  have limit : maxValueLength ≤ Client.largestCount := by
    decide
  have counted {count : Nat} (inRange : count ≤ maxValueLength) :
      (countResult count).value.length ≤ maxValueLength :=
    Nat.le_trans
      (Client.length_encode_toString_le (Nat.le_trans inRange limit))
      (by decide)
  unfold lookUp
  split
  · exact counted (by have := Client.length_fields_lt fields; omega)
  split
  · exact Nat.zero_le _
  split
  · rename_i key _ value found
    have shorter := Client.length_encodeJson_lt_of_find? found
    unfold foundResult
    split
    · change (Client.encodeJson value).length ≤ maxValueLength
      omega
    · exact Nat.zero_le _
    · split
      · rename_i count children
        have fewer := childCount?_lt children
        exact counted (by omega)
      · exact Nat.zero_le _
  · exact Nat.zero_le _

theorem isProper_of_change
    {fields : Json.Fields}
    {spec : Wire.MutationSpec}
    {status : Wire.Status}
    (failed : change fields spec = .error status) : status.IsProper := by
  unfold change at failed
  split at failed
  · cases failed
    rfl
  split at failed
  · split at failed
    · cases failed
    · cases failed
      rfl
  · split at failed
    · cases failed
    · cases failed
      rfl

/-- The path that fails is one of those that are changed. -/
theorem bounds_of_changeAll
    {specs : List Wire.MutationSpec}
    {index failing : Nat}
    {fields : Json.Fields}
    {status : Wire.Status}
    (failed : changeAll index fields specs = .error (failing, status)) :
    failing < index + specs.length ∧ status.IsProper := by
  induction specs generalizing index fields with
  | nil => cases failed
  | cons spec rest inductionHypothesis =>
      unfold changeAll at failed
      split at failed
      · rename_i refused
        cases failed
        exact ⟨Nat.lt_add_of_pos_right (Nat.succ_pos _),
          isProper_of_change refused⟩
      · obtain ⟨inside, proper⟩ := inductionHypothesis failed
        rw [List.length_cons]
        exact ⟨by omega, proper⟩

/-- Every operation is answered with something that it can be answered with. -/
theorem serve_answers (memory : Document.Memory) (operation : Wire.Operation) :
    (serve memory operation).1.Answers operation := by
  cases operation with
  | get key =>
      simp only [serve, getDocument]
      split
      · exact notFound_answers _
      · exact ⟨.document rfl, rfl, rfl⟩
  | insert key content expiry =>
      simp only [serve, insertDocument]
      split
      · exact alreadyExists_answers _
      · exact storeText_answers (fun _ => .inserted rfl) ..
  | upsert key content expiry cas =>
      have stores :=
        storeText_answers fun token =>
          (.upserted rfl :
            Wire.IsReply .success (.upsert key content expiry cas)
              (.stored token))
      simp only [serve, upsertDocument]
      split
      · split
        · exact notFound_answers _
        · exact stores ..
      · split
        · exact alreadyExists_answers _
        · exact stores ..
  | increment | decrement | getMeta =>
      exact refusal_answers .unknownCommand rfl rfl rfl _
  | lookupIn key specs =>
      simp only [serve, lookUpAll]
      split
      · exact notFound_answers _
      split
      · rename_i fields _
        have proper : ∀ result ∈ specs.specs.map (lookUp fields),
            result.status.IsProper := by
          simpa using fun spec _ => isProper_lookUp fields spec
        have length :
            (specs.specs.map (lookUp fields)).length = specs.specs.length :=
          List.length_map _
        unfold lookupStatus
        split
        · exact ⟨.lookedUp (.inl rfl) length proper, rfl, rfl⟩
        · exact ⟨.lookedUp (.inr rfl) length proper, rfl, rfl⟩
      · exact refusal_answers .subdocDocNotJson rfl rfl rfl _
  | mutateIn key specs cas expiry =>
      simp only [serve, mutate]
      split
      · exact notFound_answers _
      split
      · exact alreadyExists_answers _
      split
      · split
        · exact ⟨.mutated rfl (by simp) (by simp), rfl, rfl⟩
        · rename_i index status failed
          obtain ⟨inside, proper⟩ := bounds_of_changeAll failed
          have few : specs.specs.length ≤ maxSpecs := specs.count.2
          have small : index < 2 ^ 8 := by
            simp only [maxSpecs] at few
            omega
          have inRange : (UInt8.ofNat index).toNat < specs.specs.length := by
            rw [UInt8.toNat_ofNat_of_lt' small]
            omega
          exact ⟨.pathFailed rfl inRange proper, rfl, rfl⟩
      · exact refusal_answers .subdocDocNotJson rfl rfl rfl _

/-- The partition of a document does not matter to the server. -/
theorem serve_route
    (memory : Document.Memory)
    (operation : Wire.Operation)
    (partitionCount : UInt16) :
    serve memory (operation.route partitionCount) = serve memory operation := by
  cases operation <;> rfl

theorem id_asSent (key : Wire.DocumentKey) (channel : Wire.Channel) :
    (key.asSent channel).id = key.id := by
  unfold Wire.DocumentKey.asSent
  split <;> rfl

/-- What is not sent does not matter to the server. -/
theorem serve_asSent
    (memory : Document.Memory)
    (operation : Wire.Operation)
    (channel : Wire.Channel) :
    serve memory (operation.asSent channel) = serve memory operation := by
  cases operation <;>
    simp only [Wire.Operation.asSent, Wire.Operation.withKey,
      Wire.Operation.key, serve, id_asSent]

theorem command_asSent (operation : Wire.Operation) (channel : Wire.Channel) :
    (operation.asSent channel).command = operation.command := by
  cases operation <;> rfl

/-- The frame of an operation is answered as the operation is served. -/
theorem answerFrame_encode
    {operation : Wire.Operation}
    (clear : operation.HasClearExpiry)
    (memory : Document.Memory)
    (correlation : UInt32)
    (channel : Wire.Channel) :
    answerFrame channel memory (operation.encode correlation channel) =
      (some ((serve memory operation).1.frame operation.command correlation),
        (serve memory operation).2) := by
  rw [answerFrame, Wire.Operation.readRequest?_encode clear]
  simp only [serve_asSent, command_asSent]

/-! What the client makes of an answer. -/

namespace Answer

/-- What is decoded from the frame of an answer. -/
def response
    (answer : Answer)
    (operation : Wire.Operation)
    (channel : Wire.Channel)
    (correlation : UInt32) : Wire.Response where
  correlation := correlation
  status := answer.status
  cas := answer.cas
  body := answer.reply.payload operation
  mutationToken :=
    if channel.hasMutationTokens then
      answer.reply.token.map fun words =>
        ⟨operation.key.partition, words.partitionUuid, words.sequenceNumber,
          channel.bucket⟩
    else
      none
  serverText := if answer.reply.text = "" then none else some answer.reply.text

/-- The result that an answer gives to its operation. -/
def result
    (answer : Answer)
    (operation : Wire.Operation)
    (channel : Wire.Channel)
    (correlation : UInt32) : Except Error Wire.Response :=
  let response := answer.response operation channel correlation
  if Client.isAnswer operation response then
    .ok response
  else
    .error (Client.errorOfResponse operation response)

/-- The body of the frame of an answer is not too large. -/
def Fits (answer : Answer) : Prop :=
  (answer.reply.sections []).length ≤ Wire.maxBodySize

theorem Answers.decode_frame
    {answer : Answer}
    {operation : Wire.Operation}
    (answers : answer.Answers operation)
    (fits : answer.Fits)
    (channel : Wire.Channel)
    (correlation : UInt32) :
    Wire.Response.decode operation
        (answer.frame operation.command correlation) channel =
      .ok (answer.response operation channel correlation) :=
  Wire.decode_responseFrame answers.isReply answers.proper rfl (Nat.zero_le _)
    fits channel correlation answer.cas

theorem Answers.verdict_frame
    {answer : Answer}
    {operation : Wire.Operation}
    (answers : answer.Answers operation)
    (fits : answer.Fits)
    (channel : Wire.Channel)
    (correlation : UInt32) :
    Client.verdict operation (answer.frame operation.command correlation)
        channel =
      answer.result operation channel correlation := by
  rw [Client.verdict, answers.decode_frame fits]
  rfl

end Answer

end ClusterClient.Server
