import ClusterClient.Wire.Frame
import ClusterClient.Wire.Operation
import ClusterClient.Wire.PathResult

namespace ClusterClient.Wire

/-!
# Responses

A response frame answers the request whose operation it repeats. What its body
holds depends on the operation and on the status: a document, a counter, the
deletion mark, one result for each path, or the index of the path that failed.
-/

/-- Proof of a mutation: partition, its identity and the position in it. -/
structure MutationToken where
  partition : UInt16
  partitionUuid : UInt64
  sequenceNumber : UInt64
  bucket : String
  deriving Repr, DecidableEq

/-- What the body of a response says. -/
inductive Payload where
  | empty
  | content (flags : UInt32) (content : Bytes)
  | counter (value : UInt64)
  | metadata (deleted : Bool)
  | lookup (fields : List LookupField)
  | mutation (fields : List MutationField)
  | mutationFailed (index : UInt8) (status : Status)
  deriving Repr, DecidableEq

/-- A decoded response. -/
structure Response where
  correlation : UInt32
  status : Status
  cas : Cas
  body : Payload
  mutationToken : Option MutationToken
  serverText : Option String
  deriving Repr, DecidableEq

namespace Response

/-- The operation took effect. -/
def isSuccess (response : Response) : Bool :=
  response.status.isSuccess

/-- The counter value of a response. -/
def counter? (response : Response) : Option UInt64 :=
  match response.body with
  | .counter value => some value
  | _ => none

/-- The response says that the document is deleted. -/
def deleted (response : Response) : Bool :=
  match response.body with
  | .metadata deleted => deleted
  | _ => false

/-- The document of a response. -/
def content? (response : Response) : Option Bytes :=
  match response.body with
  | .content _ content => some content
  | _ => none

/-- The lookup results of a response. -/
def lookupFields (response : Response) : List LookupField :=
  match response.body with
  | .lookup fields => fields
  | _ => []

end Response

/-- Read the index and the status of the path that failed. -/
def readMutationFailure
    (specCount : Nat)
    (value : Bytes) : Except ProtocolFault Payload :=
  if value.length < 3 then
    .error (.multiPathFailureTruncated value.length)
  else
    let index := UInt8.ofNat (numberAt value 0 1)
    if specCount ≤ index.toNat then
      .error (.failingIndexOutOfRange index.toNat specCount)
    else
      .ok
        (.mutationFailed index
          (Status.ofCode (UInt16.ofNat (numberAt value 1 2))))

/-- Read the value of a counter; an absent one counts as zero. -/
def readCounter (value : Bytes) : Except ProtocolFault Payload :=
  if value.isEmpty then
    .ok (.counter 0)
  else if value.length < 8 then
    .error (.counterTruncated value.length)
  else
    .ok (.counter (UInt64.ofNat (numberAt value 0 8)))

/-- The leading word of some extras, if they are long enough. -/
def leadingWord? (extras : Bytes) : Option UInt32 :=
  if extras.length < 4 then
    none
  else
    some (UInt32.ofNat (numberAt extras 0 4))

/-- Read the body of a response to an operation. -/
def readBody
    (operation : Operation)
    (status : Status)
    (sections : Sections) : Except ProtocolFault Payload :=
  match operation with
  | .get _ =>
      if status.isSuccess then
        .ok
          (.content ((leadingWord? sections.extras).getD 0) sections.value)
      else
        .ok .empty
  | .insert .. => .ok .empty
  | .upsert .. => .ok .empty
  | .increment .. | .decrement .. =>
      if status.isSuccess then
        readCounter sections.value
      else
        .ok (.counter 0)
  | .getMeta _ =>
      .ok (.metadata ((leadingWord? sections.extras).getD 0 != 0))
  | .lookupIn _ specs =>
      if status.isSuccess || status.isMultiPathFailure then
        (readLookupBody specs.specs.length sections.value).map .lookup
      else
        .ok .empty
  | .mutateIn _ specs _ _ =>
      if status.isSuccess then
        (readMutationFields specs.specs.length sections.value).map .mutation
      else if status.isMultiPathFailure then
        readMutationFailure specs.specs.length sections.value
      else
        .ok .empty

/-- The text that a server sends with a failure of the whole operation. -/
def serverText? (status : Status) (value : Bytes) : Option String :=
  if status.isSuccess || status.isMultiPathFailure || value.isEmpty then
    none
  else
    some (Text.decodeLossy value)

/-- The length of the extras that hold a mutation token. -/
def mutationTokenLength : Nat := 16

/-- The token of a successful mutation on a channel that sends tokens. -/
def mutationToken?
    (operation : Operation)
    (status : Status)
    (extras : Bytes)
    (channel : Channel) : Option MutationToken :=
  if operation.isMutation && status.isSuccess &&
      channel.hasMutationTokens &&
      decide (mutationTokenLength ≤ extras.length) then
    some {
      partition := operation.key.partition
      partitionUuid := UInt64.ofNat (numberAt extras 0 8)
      sequenceNumber := UInt64.ofNat (numberAt extras 8 8)
      bucket := channel.bucket
    }
  else
    none

/-- Read the response to an operation from the start of some bytes. -/
def Response.decode
    (operation : Operation)
    (bytes : Bytes)
    (channel : Channel) : Except ProtocolFault Response :=
  match Frame.parse bytes with
  | .error fault => .error fault
  | .ok frame =>
      let header := frame.header
      if ¬ header.isResponse then
        .error (.notResponse header.magic)
      else if header.command ≠ operation.command.byte then
        .error
          (.wrongCommand header.command operation.name operation.command.byte)
      else if header.datatype &&& snappyDatatype ≠ 0 then
        .error .compressed
      else
        match readBody operation header.status frame.sections with
        | .error fault => .error fault
        | .ok body =>
            .ok {
              correlation := header.correlation
              status := header.status
              cas := header.cas
              body := body
              mutationToken :=
                mutationToken? operation header.status
                  frame.sections.extras channel
              serverText :=
                serverText? header.status frame.sections.value
            }

end ClusterClient.Wire
