import ClusterClient.Proofs.Document.FieldPath
import ClusterClient.Proofs.Server.Exchange

namespace ClusterClient.Server

/-!
# Store calls as operations

A client answers a call of a document store with one operation: it checks the
arguments, executes the operation and reads the result out of the response.
-/

open Client Document

/-! The operation of a call. -/

/-- Read a JSON value, or say why it is none. -/
def readJson (bytes : Bytes) : Except Error Json :=
  match readJson? bytes with
  | some value => .ok value
  | none => .error (.serialization .malformedJson)

theorem decodeJson_eq (bytes : Bytes) :
    decodeJson bytes = conclude (readJson bytes) := by
  unfold decodeJson readJson readJson?
  cases (Text.decode? bytes).bind Json.parse? <;> rfl

/-- The key of a document id in the collection of a client. -/
def keyOf
    (client : Client)
    (id : String) : Except ArgumentFault Wire.DocumentKey := do
  let key ← Wire.DocumentKey.ofId id
  return key.inCollection client.collection

/-- The lookup of one path. -/
def lookupOf
    (client : Client)
    (id : String)
    (spec : Wire.LookupSpec) : Except ArgumentFault Wire.Operation := do
  let key ← keyOf client id
  let specs ← Wire.LookupSpecs.ofList [spec]
  return .lookupIn key specs

/-- The mutation of one path. -/
def mutationOf
    (client : Client)
    (id : String)
    (spec : Wire.MutationSpec)
    (cas : Wire.Cas) : Except ArgumentFault Wire.Operation := do
  let key ← keyOf client id
  let specs ← Wire.MutationSpecs.ofList [spec]
  return .mutateIn key specs cas 0

/-- The operation that a client executes for a store call. -/
def operationOf
    (client : Client)
    (call : StoreCall) : Except ArgumentFault Wire.Operation :=
  match call with
  | .insert id content => do
      let key ← keyOf client id
      let content ← Wire.Content.ofBytes (encodeJson content)
      return .insert key content 0
  | .upsert id content => do
      let key ← keyOf client id
      let content ← Wire.Content.ofBytes (encodeJson content)
      return .upsert key content 0 Wire.anyVersion
  | .get id => do
      let key ← keyOf client id
      return .get key
  | .lookupField id path => lookupOf client id ⟨.get, path⟩
  | .fieldExists id path => lookupOf client id ⟨.exists, path⟩
  | .fieldCount id path => lookupOf client id ⟨.count, path⟩
  | .upsertField id path value cas =>
      mutationOf client id (.upsert path (encodeJson value)) cas
  | .removeField id path cas => mutationOf client id (.remove path) cas

/-- The JSON value of a field, if there is one. -/
def readFound :
    Option Wire.LookupField → Except Error (Option Json)
  | none => .ok none
  | some field => (readJson field.value).map some

theorem decodeFound_eq (field : Option Wire.LookupField) :
    decodeFound field = conclude (readFound field) := by
  cases field with
  | none => rfl
  | some field =>
      simp only [decodeFound, decodeJson_eq, readFound]
      cases readJson field.value <;> rfl

/-- The field that a response to the lookup of one path holds. -/
def readField
    (path : String)
    (response : Wire.Response) :
    Except Error (Optimistic.Versioned (Option Wire.LookupField)) := do
  let field ← onlyField response.lookupFields path
  return ⟨field, response.cas⟩

/-- What a store call reads out of its response. -/
def readResponse
    (call : StoreCall)
    (response : Wire.Response) : Except Error call.Success :=
  match call with
  | .insert .. | .upsert .. | .upsertField .. | .removeField .. =>
      .ok response.cas
  | .get _ => do
      let content ← readJson (response.content?.getD [])
      return (⟨content, response.cas⟩ : Optimistic.Versioned Json)
  | .lookupField _ path => do
      let found ← readField path response
      let value ← readFound found.value
      return (⟨value, found.cas⟩ : Optimistic.Versioned (Option Json))
  | .fieldExists _ path => do
      let found ← readField path response
      return found.value.isSome
  | .fieldCount _ path => do
      let found ← readField path response
      countOf path found.value

/-! The execution of a call. -/

/--
An attempt executes one operation and reads its result out of the response, or
refuses an argument and executes nothing.
-/
def Performs
    {Result : Type}
    (client : Client)
    (attempt : Attempt Result)
    (checked : Except ArgumentFault Wire.Operation)
    (read : Wire.Response → Except Error Result) : Prop :=
  match checked with
  | .error fault => attempt.run = .done (.error (.invalidArgument fault))
  | .ok operation =>
      attempt.run =
        (client.execute operation).run.bind fun executed =>
          .done (executed.bind read)

namespace Performs

variable {client : Client} {Result Later Argument : Type}

/-- An argument is checked first. -/
theorem accept
    {next : Argument → Attempt Result}
    {checkedNext : Argument → Except ArgumentFault Wire.Operation}
    {read : Wire.Response → Except Error Result}
    (performs : ∀ argument,
      Performs client (next argument) (checkedNext argument) read)
    (checked : Except ArgumentFault Argument) :
    Performs client (Client.accept checked >>= next)
      (checked.bind checkedNext) read := by
  cases checked with
  | error fault => rfl
  | ok argument => exact performs argument

theorem documentKey
    {next : Wire.DocumentKey → Attempt Result}
    {checkedNext : Wire.DocumentKey → Except ArgumentFault Wire.Operation}
    {read : Wire.Response → Except Error Result}
    (performs : ∀ key, Performs client (next key) (checkedNext key) read)
    (id : String) :
    Performs client (client.documentKey id >>= next)
      ((keyOf client id).bind checkedNext) read := by
  unfold Client.documentKey keyOf
  cases Wire.DocumentKey.ofId id with
  | error fault => rfl
  | ok key => exact performs (key.inCollection client.collection)

/-- Then the operation is executed. -/
theorem execute
    {next : Wire.Response → Attempt Result}
    {read : Wire.Response → Except Error Result}
    (operation : Wire.Operation)
    (concludes : ∀ response, (next response).run = .done (read response)) :
    Performs client (client.execute operation >>= next) (.ok operation)
      read := by
  change Program.bind (client.execute operation).run _ = _
  congr 1
  funext executed
  cases executed with
  | error error => rfl
  | ok response => exact concludes response

/-- Reading may go on with what was read. -/
theorem bind
    {attempt : Attempt Result}
    {checked : Except ArgumentFault Wire.Operation}
    {next : Result → Attempt Later}
    {read : Wire.Response → Except Error Result}
    {whole : Wire.Response → Except Error Later}
    (performs : Performs client attempt checked read)
    (readNext : Result → Except Error Later)
    (concludes : ∀ result, (next result).run = .done (readNext result))
    (reads : ∀ response, (read response).bind readNext = whole response) :
    Performs client (attempt >>= next) checked whole := by
  cases checked with
  | error fault =>
      change attempt.run = _ at performs
      change Program.bind attempt.run _ = _
      rw [performs]
      rfl
  | ok operation =>
      change attempt.run = _ at performs
      change Program.bind attempt.run _ = _
      rw [performs, Program.bind_assoc]
      congr 1
      funext executed
      cases executed with
      | error error => rfl
      | ok response =>
          change Program.bind (.done (read response)) _ = .done (whole response)
          rw [← reads]
          cases read response with
          | error error => rfl
          | ok result => exact concludes result

end Performs

/-! The calls of a store. -/

section Calls

variable (client : Client) (id : String)

theorem insert_performs (bytes : Bytes) :
    Performs client (client.insert id bytes)
      (do
        let key ← keyOf client id
        let content ← Wire.Content.ofBytes bytes
        return .insert key content 0)
      fun response => .ok (.ofResponse response) :=
  .documentKey
    (fun key =>
      .accept
        (fun content => .execute (.insert key content 0) fun _ => rfl) _)
    id

theorem upsert_performs (bytes : Bytes) (cas : Wire.Cas) :
    Performs client (client.upsert id bytes cas)
      (do
        let key ← keyOf client id
        let content ← Wire.Content.ofBytes bytes
        return .upsert key content 0 cas)
      fun response => .ok (.ofResponse response) :=
  .documentKey
    (fun key =>
      .accept
        (fun content => .execute (.upsert key content 0 cas) fun _ => rfl) _)
    id

theorem get_performs :
    Performs client (client.get id)
      (do
        let key ← keyOf client id
        return .get key)
      fun response => .ok ⟨response.content?.getD [], response.cas⟩ :=
  .documentKey (fun key => .execute (.get key) fun _ => rfl) id

theorem mutateIn_performs (spec : Wire.MutationSpec) (cas : Wire.Cas) :
    Performs client (client.mutateIn id [spec] cas)
      (mutationOf client id spec cas)
      fun response => .ok (.ofResponse response) :=
  .documentKey
    (fun key =>
      .accept
        (fun specs => .execute (.mutateIn key specs cas 0) fun _ => rfl) _)
    id

theorem lookupOne_performs (spec : Wire.LookupSpec) :
    Performs client (client.lookupOne id spec) (lookupOf client id spec)
      (readField spec.path) := by
  have found :
      Performs client (client.lookupIn id [spec]) (lookupOf client id spec)
        fun response => .ok ⟨response.cas, response.lookupFields⟩ :=
    .documentKey
      (fun key =>
        .accept (fun specs => .execute (.lookupIn key specs) fun _ => rfl) _)
      id
  refine
    found.bind
      (fun found => do
        let field ← onlyField found.fields spec.path
        return ⟨field, found.cas⟩)
      (fun found => ?_) fun _ => rfl
  cases onlyField found.fields spec.path <;> rfl

/-- A client answers a store call with its operation. -/
theorem answerStore_performs (call : StoreCall) :
    Performs client (client.answerStore call) (operationOf client call)
      (readResponse call) := by
  cases call with
  | insert id content =>
      exact
        (insert_performs client id _).bind (.ok ∘ MutationReceipt.cas)
          (fun _ => rfl) fun _ => rfl
  | upsert id content =>
      exact
        (upsert_performs client id _ _).bind (.ok ∘ MutationReceipt.cas)
          (fun _ => rfl) fun _ => rfl
  | get id =>
      refine
        (get_performs client id).bind
          (fun document => do
            let content ← readJson document.value
            return ⟨content, document.cas⟩)
          (fun document => ?_) fun _ => rfl
      simp only [decodeJson_eq]
      cases readJson document.value <;> rfl
  | lookupField id path =>
      refine
        (lookupOne_performs client id ⟨.get, path⟩).bind
          (fun found => do
            let value ← readFound found.value
            return ⟨value, found.cas⟩)
          (fun found => ?_) fun _ => rfl
      simp only [decodeFound_eq]
      cases readFound found.value <;> rfl
  | fieldExists id path =>
      exact
        (lookupOne_performs client id ⟨.exists, path⟩).bind
          (fun found => .ok found.value.isSome) (fun _ => rfl) fun _ => rfl
  | fieldCount id path =>
      exact
        (lookupOne_performs client id ⟨.count, path⟩).bind
          (fun found => countOf path found.value) (fun _ => rfl) fun _ => rfl
  | upsertField id path value cas =>
      exact
        (mutateIn_performs client id _ cas).bind (.ok ∘ MutationReceipt.cas)
          (fun _ => rfl) fun _ => rfl
  | removeField id path cas =>
      exact
        (mutateIn_performs client id _ cas).bind (.ok ∘ MutationReceipt.cas)
          (fun _ => rfl) fun _ => rfl

end Calls

end ClusterClient.Server
