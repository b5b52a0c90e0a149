import ClusterClient.Bytes
import ClusterClient.Wire.ProtocolFault
import ClusterClient.Wire.Status

namespace ClusterClient.Wire

/-!
# Results of multi-path operations

The body of a multi-path response is a list of records, one for each path that
has a result. A record is a fixed head, which declares the length of a value,
followed by that value. A list of records ends where the body ends.
-/

/-- The result of one path of a lookup. -/
structure LookupField where
  status : Status
  value : Bytes
  deriving Repr, DecidableEq

/-- The result of one path of a mutation. -/
structure MutationField where
  index : UInt8
  status : Status
  value : Bytes
  deriving Repr, DecidableEq

/-- The length of the head of a lookup record. -/
def lookupHeadLength : Nat := 6

/-- The length of the head of a mutation record. -/
def mutationHeadLength : Nat := 7

/--
Read lookup records to the end of a value; `index` counts the records before.
-/
def readLookupFields
    (index : Nat)
    (value : Bytes) : Except ProtocolFault (List LookupField) :=
  if value.isEmpty then
    .ok []
  else if isShorterThan lookupHeadLength value then
    .error (.lookupHeaderTruncated index)
  else
    let declared := numberAt value 2 4
    let rest := value.drop lookupHeadLength
    if isShorterThan declared rest then
      .error (.lookupValueTruncated index declared rest.length)
    else
      match readLookupFields (index + 1) (rest.drop declared) with
      | .error fault => .error fault
      | .ok fields =>
          .ok
            (⟨Status.ofCode (UInt16.ofNat (numberAt value 0 2)),
              rest.take declared⟩ :: fields)
  termination_by value.length
  decreasing_by
    simp only [rest, isShorterThan_iff, List.length_drop,
      lookupHeadLength] at *
    omega

/-- Read exactly the expected number of lookup records. -/
def readLookupBody
    (expected : Nat)
    (value : Bytes) : Except ProtocolFault (List LookupField) :=
  match readLookupFields 0 value with
  | .error fault => .error fault
  | .ok fields =>
      if fields.length = expected then
        .ok fields
      else
        .error (.lookupCount expected fields.length)

/--
Read mutation records to the end of a value. The index of a record is checked
before the extent of its value.
-/
def readMutationFields
    (specCount : Nat)
    (value : Bytes) : Except ProtocolFault (List MutationField) :=
  if value.isEmpty then
    .ok []
  else if isShorterThan mutationHeadLength value then
    .error .mutationHeaderTruncated
  else
    let index := UInt8.ofNat (numberAt value 0 1)
    let declared := numberAt value 3 4
    let rest := value.drop mutationHeadLength
    if specCount ≤ index.toNat then
      .error (.mutationIndexOutOfRange index.toNat specCount)
    else if isShorterThan declared rest then
      .error (.mutationValueTruncated index.toNat declared rest.length)
    else
      match readMutationFields specCount (rest.drop declared) with
      | .error fault => .error fault
      | .ok fields =>
          .ok
            (⟨index, Status.ofCode (UInt16.ofNat (numberAt value 1 2)),
              rest.take declared⟩ :: fields)
  termination_by value.length
  decreasing_by
    simp only [rest, isShorterThan_iff, List.length_drop,
      mutationHeadLength] at *
    omega

end ClusterClient.Wire
