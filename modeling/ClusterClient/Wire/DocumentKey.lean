import ClusterClient.ArgumentFault
import ClusterClient.Wire.Channel

namespace ClusterClient.Wire

/-!
# Documents, their versions and their partitions

A document key is an id within the key limit, in a collection, on a partition.
Routing puts it on the partition that the bytes of its id select.
-/

/-- The version of a document; zero stands for no version. -/
abbrev Cas := UInt64

/-- The precondition that accepts every version. -/
def anyVersion : Cas := 0

/-- A document id with the collection and the partition that it belongs to. -/
structure DocumentKey where
  id : String
  collection : Collection
  partition : UInt16
  id_nonempty : id ≠ ""
  id_length : id.utf8ByteSize ≤ maxKeyLength
  deriving Repr, DecidableEq

namespace DocumentKey

/-- The key of an id in the default collection, not yet routed. -/
def ofId (id : String) : Except ArgumentFault DocumentKey :=
  if empty : id = "" then
    .error .emptyDocumentId
  else if fits : id.utf8ByteSize ≤ maxKeyLength then
    .ok {
      id := id
      collection := .default
      partition := 0
      id_nonempty := empty
      id_length := fits
    }
  else
    .error (.documentIdTooLong id.utf8ByteSize)

/-- The same id in another collection. -/
def inCollection
    (key : DocumentKey)
    (collection : Collection) : DocumentKey :=
  { key with collection := collection }

/-- The same id on another partition. -/
def onPartition (key : DocumentKey) (partition : UInt16) : DocumentKey :=
  { key with partition := partition }

/-- The same id on the partition that its bytes select. -/
def route (key : DocumentKey) (partitionCount : UInt16) : DocumentKey :=
  key.onPartition (partitionOfKey (Text.encode key.id) partitionCount)

end DocumentKey

end ClusterClient.Wire
