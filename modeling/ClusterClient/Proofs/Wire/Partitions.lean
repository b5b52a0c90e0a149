import ClusterClient.Proofs.Wire.RequestFrames
import ClusterClient.Proofs.Wire.ResponseGrammar

namespace ClusterClient.Wire

/-!
# Partitions of document ids

The partition of a document is taken from the CRC-32 of its id with word
operations. `partitionSlot` is the same number without any words, so nothing is
cut off on the way. Routing an operation puts this number into the key, its
frame carries it in the slot of the header, and a mutation token takes it from
the key of the operation that it was decoded for.
-/

/--
The slot of a document id among so many partitions: fifteen bits from the upper
half of the CRC-32 of its bytes, reduced to the number of partitions. Without
partitions it is zero.
-/
def partitionSlot (id : String) (partitionCount : Nat) : Nat :=
  if partitionCount = 0 then
    0
  else
    ((crc32 (Text.encode id)).toNat >>> 16 &&& 0x7fff) % partitionCount

theorem partitionSlot_lt
    {partitionCount : Nat}
    (positive : 0 < partitionCount)
    (id : String) : partitionSlot id partitionCount < partitionCount := by
  rw [partitionSlot, if_neg (Nat.ne_of_gt positive)]
  exact Nat.mod_lt _ positive

/-- No step on the way from the CRC-32 to the partition cuts anything off. -/
theorem toNat_partitionOfKey (id : String) (partitionCount : UInt16) :
    (partitionOfKey (Text.encode id) partitionCount).toNat =
      partitionSlot id partitionCount.toNat := by
  unfold partitionOfKey partitionSlot
  by_cases none : partitionCount = 0
  · rw [if_pos none, none]
    rfl
  · have positive : partitionCount.toNat ≠ 0 := fun zero =>
      none (UInt16.toNat_inj.mp zero)
    have fits : ∀ hashed : Nat,
        hashed % partitionCount.toNat < UInt16.size := fun hashed =>
      Nat.lt_trans (Nat.mod_lt _ (Nat.pos_of_ne_zero positive))
        partitionCount.toNat_lt_size
    rw [if_neg none, if_neg positive]
    dsimp only
    rw [UInt16.toNat_ofNat_of_lt' (fits _), UInt32.toNat_and,
      UInt32.toNat_shiftRight]
    rfl

/-- The check value of CRC-32. -/
example : crc32 (Text.encode "123456789") = 0xcbf43926 := by cbv

namespace Operation

/-- Routing forgets the partition that the caller has chosen. -/
theorem partition_route (operation : Operation) (partitionCount : UInt16) :
    (operation.route partitionCount).key.partition.toNat =
      partitionSlot operation.key.id partitionCount.toNat := by
  rw [← toNat_partitionOfKey]
  cases operation <;> rfl

end Operation

/-- A token reports the partition of the operation that it was decoded for. -/
theorem partition_of_mutationToken
    {operation : Operation}
    {bytes : Bytes}
    {channel : Channel}
    {response : Response}
    {token : MutationToken}
    (decoded : Response.decode operation bytes channel = .ok response)
    (present : response.mutationToken = some token) :
    token.partition = operation.key.partition := by
  obtain ⟨frame, body, -, -, -, rfl⟩ := Response.decode_eq_ok_iff.mp decoded
  change
    mutationToken? operation frame.header.status frame.sections.extras channel =
      some token
    at present
  unfold mutationToken? at present
  split at present
  · cases present
    rfl
  · cases present

/-- The frame has a partition in its slot. -/
def CarriesPartition (frame : Bytes) (partition : Nat) : Prop :=
  ∃ parsed,
    Frame.parse frame = .ok parsed ∧
      parsed.header.magic = requestMagic ∧
      parsed.header.partitionOrStatus.toNat = partition

theorem carriesPartition_encode
    (operation : Operation)
    (number : UInt32)
    (channel : Channel) :
    CarriesPartition (operation.encode number channel)
      operation.key.partition.toNat :=
  ⟨_, operation.parse_encode number channel, rfl, rfl⟩

end ClusterClient.Wire
