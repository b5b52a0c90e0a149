import ClusterClient.ArgumentFault
import ClusterClient.Bytes

namespace ClusterClient.Wire

/-!
# Changes to counters

A counter is changed by a delta. If it does not exist it is created with an
initial value and an expiry, or not at all. Delta and initial value are given
as signed words and must not be negative.
-/

/-- One more than the largest delta or initial value of a counter. -/
def counterLimit : Nat := 0x8000000000000000

/-- A change to a counter, and the value that it is created with. -/
structure CounterChange where
  delta : UInt64
  initial : Option UInt64
  expiry : UInt32
  delta_small : delta.toNat < counterLimit
  initial_small : ∀ value, initial = some value → value.toNat < counterLimit
  deriving Repr, DecidableEq

namespace CounterChange

/-- A counter change from signed words; negative ones are rejected. -/
def ofSigned
    (delta : Int64)
    (initial : Option Int64)
    (expiry : UInt32) : Except ArgumentFault CounterChange :=
  if deltaSmall : delta.toUInt64.toNat < counterLimit then
    match initial with
    | none =>
        .ok {
          delta := delta.toUInt64
          initial := none
          expiry := expiry
          delta_small := deltaSmall
          initial_small := by simp
        }
    | some value =>
        if valueSmall : value.toUInt64.toNat < counterLimit then
          .ok {
            delta := delta.toUInt64
            initial := some value.toUInt64
            expiry := expiry
            delta_small := deltaSmall
            initial_small := by simpa using valueSmall
          }
        else
          .error .negativeInitial
  else
    .error .negativeDelta

end CounterChange

end ClusterClient.Wire
