import ClusterClient.Wire.Operation

namespace ClusterClient.Wire

/-!
# Constructors accept whatever respects the limits

A constructor refuses only what exceeds a limit. So the parts of an operation
are accepted when they are built once more from their bytes, ids, words and
specs.
-/

theorem Content.ofBytes_bytes (content : Content) :
    ofBytes content.bytes = .ok content := by
  rw [ofBytes, dif_pos content.length_le]

theorem DocumentKey.ofId_id (key : DocumentKey) :
    ofId key.id = .ok ((key.inCollection .default).onPartition 0) := by
  rw [ofId, dif_neg key.id_nonempty, dif_pos key.id_length]
  rfl

theorem CounterChange.ofSigned_toInt64 (counter : CounterChange) :
    ofSigned counter.delta.toInt64 (counter.initial.map UInt64.toInt64)
        counter.expiry =
      .ok counter := by
  obtain ⟨delta, initial, expiry, deltaSmall, initialSmall⟩ := counter
  have small : delta.toInt64.toUInt64.toNat < counterLimit := deltaSmall
  rw [ofSigned, dif_pos small]
  cases initial with
  | none => rfl
  | some value =>
      have valueSmall : value.toInt64.toUInt64.toNat < counterLimit :=
        initialSmall value rfl
      dsimp only [Option.map_some]
      rw [dif_pos valueSmall]
      rfl

/-- Elements that are acceptable one by one are accepted together. -/
theorem checkAll_eq_ok
    {Element : Type}
    {Acceptable : Element → Prop}
    {check : (element : Element) →
      Except ArgumentFault (PLift (Acceptable element))}
    (accepts : ∀ element (acceptable : Acceptable element),
      check element = .ok ⟨acceptable⟩)
    {elements : List Element}
    (acceptable : ∀ element, element ∈ elements → Acceptable element) :
    checkAll check elements = .ok ⟨acceptable⟩ := by
  induction elements with
  | nil => rfl
  | cons element rest inductionHypothesis =>
      have first := accepts element (acceptable element (.head _))
      have others :=
        inductionHypothesis fun other member =>
          acceptable other (.tail _ member)
      -- One step of the computation, up to the check of the first element.
      conv =>
        lhs
        whnf
      rw [first, others]

theorem checkNumberOfSpecs_eq_ok
    {count : Nat}
    (within : SpecCount count) :
    checkNumberOfSpecs count = .ok ⟨within⟩ := by
  rw [checkNumberOfSpecs, dif_pos within.1, dif_pos within.2]

theorem LookupSpec.check_eq_ok
    (spec : LookupSpec)
    (acceptable : spec.Acceptable) : spec.check = .ok ⟨acceptable⟩ := by
  rw [check, dif_pos acceptable.1, dif_pos acceptable.2]

theorem MutationSpec.check_eq_ok
    (spec : MutationSpec)
    (acceptable : spec.Acceptable) : spec.check = .ok ⟨acceptable⟩ := by
  rw [check, dif_pos acceptable.1, dif_pos acceptable.2.1,
    dif_pos acceptable.2.2]

theorem LookupSpecs.ofList_specs (specs : LookupSpecs) :
    ofList specs.specs = .ok specs := by
  rw [ofList, checkNumberOfSpecs_eq_ok specs.count,
    checkAll_eq_ok LookupSpec.check_eq_ok specs.acceptable]

theorem MutationSpecs.ofList_specs (specs : MutationSpecs) :
    ofList specs.specs = .ok specs := by
  rw [ofList, checkNumberOfSpecs_eq_ok specs.count,
    checkAll_eq_ok MutationSpec.check_eq_ok specs.acceptable]
  exact dif_pos specs.length_le

/-- Specs that are accepted are kept as they are. -/
theorem LookupSpecs.specs_of_ofList
    {listed : List LookupSpec}
    {specs : LookupSpecs}
    (accepted : ofList listed = .ok specs) : specs.specs = listed := by
  unfold ofList at accepted
  split at accepted
  · cases accepted
  split at accepted
  · cases accepted
  · cases accepted
    rfl

end ClusterClient.Wire
