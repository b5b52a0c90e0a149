import ClusterClient.Client.Execution
import ClusterClient.Optimistic.Update

namespace ClusterClient.Client

/-!
# Typed operations

Each typed operation checks its arguments, executes one operation in the
collection of the client and takes what it needs from the response.
-/

/-- The result of a mutation. -/
structure MutationReceipt where
  cas : Wire.Cas
  mutationToken : Option Wire.MutationToken
  deriving Repr, DecidableEq

/-- The result of a counter change. -/
structure CounterReceipt where
  content : UInt64
  cas : Wire.Cas
  mutationToken : Option Wire.MutationToken
  deriving Repr, DecidableEq

/-- The result of a metadata probe. -/
structure MetadataResult where
  cas : Wire.Cas
  deleted : Bool
  deriving Repr, DecidableEq

/-- The results of a lookup, with the version of the document. -/
structure LookupResult where
  cas : Wire.Cas
  fields : List Wire.LookupField
  deriving Repr, DecidableEq

/-- What a mutation takes from its response. -/
def MutationReceipt.ofResponse (response : Wire.Response) : MutationReceipt :=
  ⟨response.cas, response.mutationToken⟩

/-- What a counter change takes from its response. -/
def CounterReceipt.ofResponse (response : Wire.Response) : CounterReceipt :=
  ⟨response.counter?.getD 0, response.cas, response.mutationToken⟩

/-- The key of a document id in the collection of the client. -/
def documentKey (client : Client) (id : String) : Attempt Wire.DocumentKey := do
  let key ← accept (Wire.DocumentKey.ofId id)
  return key.inCollection client.collection

/-- Read a whole document. -/
def get
    (client : Client)
    (id : String) : Attempt (Optimistic.Versioned Bytes) := do
  let key ← client.documentKey id
  let response ← client.execute (.get key)
  return ⟨response.content?.getD [], response.cas⟩

/-- Create a document. -/
def insert
    (client : Client)
    (id : String)
    (content : Bytes) : Attempt MutationReceipt := do
  let key ← client.documentKey id
  let content ← accept (Wire.Content.ofBytes content)
  let response ← client.execute (.insert key content 0)
  return .ofResponse response

/-- Create or replace a document, if it is still at a version. -/
def upsert
    (client : Client)
    (id : String)
    (content : Bytes)
    (cas : Wire.Cas) : Attempt MutationReceipt := do
  let key ← client.documentKey id
  let content ← accept (Wire.Content.ofBytes content)
  let response ← client.execute (.upsert key content 0 cas)
  return .ofResponse response

/-- Add to a counter. -/
def increment
    (client : Client)
    (id : String)
    (counter : Wire.CounterChange) : Attempt CounterReceipt := do
  let key ← client.documentKey id
  let response ← client.execute (.increment key counter)
  return .ofResponse response

/-- Subtract from a counter. -/
def decrement
    (client : Client)
    (id : String)
    (counter : Wire.CounterChange) : Attempt CounterReceipt := do
  let key ← client.documentKey id
  let response ← client.execute (.decrement key counter)
  return .ofResponse response

/-- Probe the metadata of a document. -/
def getMeta
    (client : Client)
    (id : String) : Attempt MetadataResult := do
  let key ← client.documentKey id
  let response ← client.execute (.getMeta key)
  return ⟨response.cas, response.deleted⟩

/-- There is a live document; a deleted one counts as absent. -/
def exists?
    (client : Client)
    (id : String) : Attempt Bool :=
  ExceptT.mk do
    match ← (client.getMeta id).run with
    | .ok metadata => return .ok !metadata.deleted
    | .error (.documentNotFound _) => return .ok false
    | .error error => return .error error

/-- Look up paths of a document. -/
def lookupIn
    (client : Client)
    (id : String)
    (specs : List Wire.LookupSpec) : Attempt LookupResult := do
  let key ← client.documentKey id
  let specs ← accept (Wire.LookupSpecs.ofList specs)
  let response ← client.execute (.lookupIn key specs)
  return ⟨response.cas, response.lookupFields⟩

/-- Change paths of a document, if it is still at a version. -/
def mutateIn
    (client : Client)
    (id : String)
    (specs : List Wire.MutationSpec)
    (cas : Wire.Cas) : Attempt MutationReceipt := do
  let key ← client.documentKey id
  let specs ← accept (Wire.MutationSpecs.ofList specs)
  let response ← client.execute (.mutateIn key specs cas 0)
  return .ofResponse response

end ClusterClient.Client
