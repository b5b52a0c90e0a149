import ClusterClient.Client.Documents
import ClusterClient.Document.Access
import ClusterClient.Json.Parser
import ClusterClient.Json.Printer

namespace ClusterClient.Client

/-!
# A client as a document store

Documents travel as compact JSON. A field read is a lookup with one path, and a
field write is a mutation with one path under the caller's version.
-/

/-- The bytes of a JSON value. -/
def encodeJson (value : Json) : Bytes :=
  Text.encode value.render

/-- Read a JSON value. -/
def decodeJson (bytes : Bytes) : Attempt Json :=
  match (Text.decode? bytes).bind Json.parse? with
  | some value => conclude (.ok value)
  | none => conclude (.error (.serialization .malformedJson))

/-- The only field of a lookup with one path; nothing if the path is absent. -/
def onlyField
    (fields : List Wire.LookupField)
    (path : String) : Except Error (Option Wire.LookupField) :=
  match fields with
  | [] => .error (.protocol .noLookupResults)
  | field :: _ =>
      match field.status with
      | .success => .ok (some field)
      | .subdocPathNotFound => .ok none
      | status => .error (pathError status path none)

/-- Look up one path. -/
def lookupOne
    (client : Client)
    (id : String)
    (spec : Wire.LookupSpec) :
    Attempt (Optimistic.Versioned (Option Wire.LookupField)) := do
  let found ← client.lookupIn id [spec]
  let field ← conclude (onlyField found.fields spec.path)
  return ⟨field, found.cas⟩

/-- The largest count of a field. -/
def largestCount : Nat := 0xffffffffffffffff

/-- The number that a field holds as a decimal text. -/
def readCount? (bytes : Bytes) : Option Nat :=
  match Text.decode? bytes with
  | none => none
  | some text =>
      (Text.readUnsigned largestCount (Text.trimBlank text.toList)).toOption

/-- The number of children that a lookup of one path reports. -/
def countOf
    (path : String) :
    Option Wire.LookupField → Except Error Nat
  | none => .error (.pathNotFound path)
  | some field =>
      match readCount? field.value with
      | some count => .ok count
      | none => .error (.protocol (.countNotNumber path))

/-- Read the JSON value of a field, if there is one. -/
def decodeFound : Option Wire.LookupField → Attempt (Option Json)
  | none => conclude (.ok none)
  | some field => do
      let value ← decodeJson field.value
      return some value

/-- Answer one call of a document store. -/
def answerStore
    (client : Client)
    (call : Document.StoreCall) : Attempt call.Success :=
  match call with
  | .insert id content => do
      let written ← client.insert id (encodeJson content)
      return written.cas
  | .upsert id content => do
      let written ← client.upsert id (encodeJson content) Wire.anyVersion
      return written.cas
  | .get id => do
      let document ← client.get id
      let content ← decodeJson document.value
      return (⟨content, document.cas⟩ : Optimistic.Versioned Json)
  | .lookupField id path => do
      let found ← client.lookupOne id ⟨.get, path⟩
      let value ← decodeFound found.value
      return (⟨value, found.cas⟩ : Optimistic.Versioned (Option Json))
  | .fieldExists id path => do
      let found ← client.lookupOne id ⟨.exists, path⟩
      return found.value.isSome
  | .fieldCount id path => do
      let found ← client.lookupOne id ⟨.count, path⟩
      conclude (countOf path found.value)
  | .upsertField id path value cas => do
      let written ←
        client.mutateIn id [.upsert path (encodeJson value)] cas
      return written.cas
  | .removeField id path cas => do
      let written ← client.mutateIn id [.remove path] cas
      return written.cas

/-- Take one step of code that works on documents. -/
def answerStep
    (client : Client)
    (step : Document.Step) : Program interface step.Answer :=
  match step with
  | .store call => (client.answerStore call).run
  | .pause delay => perform (.sleep delay)

/-- Run code that works on documents against a client. -/
def runAction
    {Result : Type}
    (client : Client)
    (action : Document.Action Result) : Attempt Result :=
  ExceptT.mk (Program.interpret client.answerStep action.run)

end ClusterClient.Client
