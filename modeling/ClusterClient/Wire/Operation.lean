import ClusterClient.Wire.CounterChange
import ClusterClient.Wire.DocumentKey
import ClusterClient.Wire.PathSpec

namespace ClusterClient.Wire

/-!
# Operations

An operation says what a request asks the server to do. Its parts carry the
limits that they must respect, and their constructors check those limits, so
that every operation can be encoded.
-/

/-- A document body within the value limit. -/
structure Content where
  bytes : Bytes
  length_le : bytes.length ≤ maxValueLength
  deriving Repr, DecidableEq

/-- Check a document body against the value limit. -/
def Content.ofBytes (bytes : Bytes) : Except ArgumentFault Content :=
  if fits : bytes.length ≤ maxValueLength then
    .ok ⟨bytes, fits⟩
  else
    .error (.valueTooLong bytes.length)

/-- What a request asks the server to do. -/
inductive Operation where
  | get (key : DocumentKey)
  | insert (key : DocumentKey) (content : Content) (expiry : UInt32)
  | upsert
      (key : DocumentKey)
      (content : Content)
      (expiry : UInt32)
      (cas : Cas)
  | increment (key : DocumentKey) (counter : CounterChange)
  | decrement (key : DocumentKey) (counter : CounterChange)
  | getMeta (key : DocumentKey)
  | lookupIn (key : DocumentKey) (specs : LookupSpecs)
  | mutateIn
      (key : DocumentKey)
      (specs : MutationSpecs)
      (cas : Cas)
      (expiry : UInt32)
  deriving Repr, DecidableEq

namespace Operation

/-- The name of an operation. -/
def name : Operation → String
  | .get .. => "get"
  | .insert .. => "insert"
  | .upsert .. => "upsert"
  | .increment .. => "increment"
  | .decrement .. => "decrement"
  | .getMeta .. => "get_meta"
  | .lookupIn .. => "lookup_in"
  | .mutateIn .. => "mutate_in"

/-- The command byte of an operation. -/
def command : Operation → Command
  | .get .. => .get
  | .insert .. => .insert
  | .upsert .. => .upsert
  | .increment .. => .increment
  | .decrement .. => .decrement
  | .getMeta .. => .getMeta
  | .lookupIn .. => .subdocMultiLookup
  | .mutateIn .. => .subdocMultiMutation

/-- The document that an operation is about. -/
def key : Operation → DocumentKey
  | .get key => key
  | .insert key .. => key
  | .upsert key .. => key
  | .increment key _ => key
  | .decrement key _ => key
  | .getMeta key => key
  | .lookupIn key _ => key
  | .mutateIn key .. => key

/-- The same operation on another document key. -/
def withKey (key : DocumentKey) : Operation → Operation
  | .get _ => .get key
  | .insert _ content expiry => .insert key content expiry
  | .upsert _ content expiry cas => .upsert key content expiry cas
  | .increment _ counter => .increment key counter
  | .decrement _ counter => .decrement key counter
  | .getMeta _ => .getMeta key
  | .lookupIn _ specs => .lookupIn key specs
  | .mutateIn _ specs cas expiry => .mutateIn key specs cas expiry

/-- The version precondition of an operation. -/
def cas : Operation → Cas
  | .upsert _ _ _ cas => cas
  | .mutateIn _ _ cas _ => cas
  | _ => anyVersion

/-- Sending the operation twice has the effect of sending it once. -/
def isIdempotent : Operation → Bool
  | .get .. | .getMeta .. | .lookupIn .. => true
  | _ => false

/-- The operation changes the document. -/
def isMutation : Operation → Bool
  | .insert .. | .upsert .. | .increment .. | .decrement .. | .mutateIn .. =>
      true
  | _ => false

/-- The same operation on the partition that its document id selects. -/
def route (operation : Operation) (partitionCount : UInt16) : Operation :=
  operation.withKey (operation.key.route partitionCount)

end Operation

end ClusterClient.Wire
