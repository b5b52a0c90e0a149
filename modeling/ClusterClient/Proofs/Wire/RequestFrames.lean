import ClusterClient.Proofs.Wire.Frames
import Mathlib.Algebra.GroupWithZero.Nat
import Mathlib.Data.List.Forall2

namespace ClusterClient.Wire

/-!
# Every operation has a well-formed request frame

The limits that the parts of an operation carry keep its sections within the
length fields of the header, its paths and values within the length fields of
their records, and the body within the largest body. So the frame of an
operation is parsed as a whole, and what its sections say is stated by the
offsets of their fields.
-/

/-! The lengths of keys and of multi-path bodies. -/

/-- So many digits of seven bits are enough. -/
theorem length_leb128_le
    {digits value : Nat}
    (small : value < 128 * Nat.pow 128 digits) :
    (leb128 value).length ≤ digits + 1 := by
  induction digits generalizing value with
  | zero =>
      have single : value < 128 := small
      rw [leb128, if_pos single]
      exact Nat.le_refl 1
  | succ digits inductionHypothesis =>
      rw [leb128]
      split
      · exact Nat.le_add_left 1 _
      · have wider : Nat.pow 128 (digits + 1) = Nat.pow 128 digits * 128 := rfl
        have higher : value / 128 < 128 * Nat.pow 128 digits := by
          omega
        exact Nat.succ_le_succ (inductionHypothesis higher)

theorem length_wireKey_le (operation : Operation) (channel : Channel) :
    (operation.wireKey channel).length ≤ 5 + maxKeyLength := by
  have prefixLength : operation.key.collection.leb128.length ≤ 5 := by
    apply length_leb128_le
    exact
      Nat.lt_trans operation.key.collection.number.toNat_lt (by decide)
  have idLength := operation.key.id_length
  unfold Operation.wireKey wireKey
  split
  · rw [List.length_append, Text.length_encode]
    omega
  · rw [Text.length_encode]
    omega

@[simp] theorem length_lookupRecord (spec : LookupSpec) :
    (lookupRecord spec).length = 4 + spec.path.utf8ByteSize := by
  simp [lookupRecord]
  omega

@[simp] theorem length_mutationRecord (spec : MutationSpec) :
    (mutationRecord spec).length =
      spec.value.length + (8 + spec.path.utf8ByteSize) := by
  simp [mutationRecord]
  omega

/-- Records of bounded length make a body of bounded length. -/
theorem length_flatten_map_le
    {Spec : Type}
    {specs : List Spec}
    {write : Spec → Bytes}
    {size : Spec → Nat}
    {bound : Nat}
    (bounded : ∀ spec ∈ specs, (write spec).length ≤ size spec + bound) :
    (specs.map write).flatten.length ≤
      (specs.map size).sum + specs.length * bound := by
  induction specs with
  | nil => simp
  | cons spec specs inductionHypothesis =>
      have first := bounded spec (.head _)
      have others :=
        inductionHypothesis fun other member => bounded other (.tail _ member)
      simp only [List.map_cons, List.flatten_cons, List.length_append,
        List.sum_cons, List.length_cons, Nat.add_mul, Nat.one_mul]
      omega

theorem totalValueLength_eq_sum (specs : List MutationSpec) :
    totalValueLength specs =
      (specs.map fun spec => spec.value.length).sum := by
  induction specs with
  | nil => rfl
  | cons spec specs inductionHypothesis =>
      rw [List.map_cons, List.sum_cons, ← inductionHypothesis]
      rfl

theorem length_lookupRecords_le (specs : LookupSpecs) :
    (lookupRecords specs.specs).length ≤ maxSpecs * (4 + maxPathLength) := by
  have bounded : ∀ spec ∈ specs.specs,
      (lookupRecord spec).length ≤ 0 + (4 + maxPathLength) := by
    intro spec member
    have path := (specs.acceptable spec member).2
    rw [length_lookupRecord]
    omega
  have few := Nat.mul_le_mul_right (4 + maxPathLength) specs.count.2
  have whole := length_flatten_map_le bounded
  simp only [List.map_const', List.sum_replicate_nat, Nat.mul_zero,
    Nat.zero_add] at whole
  exact Nat.le_trans whole few

theorem length_mutationRecords_le (specs : MutationSpecs) :
    (mutationRecords specs.specs).length ≤
      maxValueLength + maxSpecs * (8 + maxPathLength) := by
  have bounded : ∀ spec ∈ specs.specs,
      (mutationRecord spec).length ≤
        spec.value.length + (8 + maxPathLength) := by
    intro spec member
    have path := (specs.acceptable spec member).2.1
    rw [length_mutationRecord]
    omega
  have few := Nat.mul_le_mul_right (8 + maxPathLength) specs.count.2
  have values := specs.length_le
  rw [totalValueLength_eq_sum] at values
  exact
    Nat.le_trans (length_flatten_map_le bounded) (Nat.add_le_add values few)

/-- The extras of a counter, by the offsets of their fields. -/
def CounterChange.HasExtras
    (counter : CounterChange)
    (extras : Bytes) : Prop :=
  extras.length = 20 ∧
    numberAt extras 0 8 = counter.delta.toNat ∧
    match counter.initial with
    | some initial =>
        numberAt extras 8 8 = initial.toNat ∧
          numberAt extras 16 4 = counter.expiry.toNat
    | none =>
        numberAt extras 8 8 = 0 ∧
          numberAt extras 16 4 = doNotCreateExpiry.toNat

theorem CounterChange.hasExtras_extras (counter : CounterChange) :
    counter.HasExtras counter.extras := by
  have nothing : ∀ rest, numberAt (writeNumber 8 0 ++ rest) 0 8 = 0 :=
    numberAt_word64 0
  have expires : ∀ expiry : UInt32,
      numberAt (writeNumber 4 expiry.toNat) 0 4 = expiry.toNat :=
    fun expiry => numberAt_last expiry.toNat_lt
  cases created : counter.initial <;>
    simp [HasExtras, extras, created, numberAt_append, numberAt_word64,
      nothing, expires]

namespace Operation

theorem length_extras_le (operation : Operation) :
    operation.extras.length ≤ 20 := by
  cases operation with
  | mutateIn key specs cas expiry =>
      simp only [extras, mutationExtras]
      split <;> simp
  | get | insert | upsert | increment | decrement | getMeta | lookupIn =>
      simp [extras, contentExtras, CounterChange.extras]

theorem length_value_le (operation : Operation) :
    operation.value.length ≤
      maxValueLength + maxSpecs * (8 + maxPathLength) := by
  cases operation with
  | insert _ content _ | upsert _ content _ _ =>
      exact Nat.le_trans content.length_le (Nat.le_add_right ..)
  | lookupIn _ specs =>
      exact Nat.le_trans (length_lookupRecords_le specs) (by decide)
  | mutateIn _ specs _ _ => exact length_mutationRecords_le specs
  | get | increment | decrement | getMeta => exact Nat.zero_le _

/-- The sections of the request frame of an operation. -/
def sections (operation : Operation) (channel : Channel) : Sections :=
  ⟨operation.extras, operation.wireKey channel, operation.value⟩

/-- The limits of an operation keep its sections within their fields. -/
theorem fit_sections (operation : Operation) (channel : Channel) :
    (operation.sections channel).Fit := by
  have extras := operation.length_extras_le
  have key := length_wireKey_le operation channel
  have value := operation.length_value_le
  have limits :
      20 + (5 + maxKeyLength) +
          (maxValueLength + maxSpecs * (8 + maxPathLength)) ≤
        maxBodySize := by
    decide
  have narrow : 5 + maxKeyLength ≤ 65535 := by
    decide
  constructor
  · exact Nat.le_trans extras (by decide)
  · exact Nat.le_trans key narrow
  · exact
      Nat.le_trans (Nat.add_le_add (Nat.add_le_add extras key) value) limits

/-- The request frame of an operation. -/
def frame
    (operation : Operation)
    (correlation : UInt32)
    (channel : Channel) : Frame :=
  .make
    ⟨requestMagic, operation.command.byte, operation.datatype,
      operation.key.partition, correlation, operation.cas⟩
    (operation.sections channel)

theorem isWellFormed_frame
    (operation : Operation)
    (correlation : UInt32)
    (channel : Channel) :
    (operation.frame correlation channel).IsWellFormed :=
  Frame.isWellFormed_make (.inl rfl) (operation.fit_sections channel)

theorem bytes_frame
    (operation : Operation)
    (correlation : UInt32)
    (channel : Channel) :
    (operation.frame correlation channel).bytes =
      operation.encode correlation channel :=
  Frame.bytes_make ..

/-- The frame of an operation is parsed from its bytes. -/
theorem parse_encode
    (operation : Operation)
    (correlation : UInt32)
    (channel : Channel) :
    Frame.parse (operation.encode correlation channel) =
      .ok (operation.frame correlation channel) := by
  apply Frame.parse_eq_ok_iff.mpr
  refine ⟨operation.isWellFormed_frame correlation channel, [], ?_⟩
  rw [List.append_nil, bytes_frame]

/-- The expiry of a document stands behind its flags. -/
theorem expiry_contentExtras (expiry : UInt32) :
    numberAt (contentExtras expiry) 4 4 = expiry.toNat := by
  have behind : (writeNumber 4 jsonDocumentFlags.toNat).length ≤ 4 := by
    simp
  rw [contentExtras, numberAt_append behind]
  exact numberAt_last expiry.toNat_lt

/-- The extras of an operation, by the offsets of their fields. -/
def HasExtras (operation : Operation) (extras : Bytes) : Prop :=
  match operation with
  | .get _ | .lookupIn .. => extras = []
  | .insert _ _ expiry | .upsert _ _ expiry _ =>
      extras.length = 8 ∧
        numberAt extras 0 4 = jsonDocumentFlags.toNat ∧
        numberAt extras 4 4 = expiry.toNat
  | .increment _ counter | .decrement _ counter => counter.HasExtras extras
  | .getMeta _ => extras = [metadataVersion]
  | .mutateIn _ _ _ expiry =>
      if expiry = 0 then
        extras = []
      else
        extras.length = 4 ∧ numberAt extras 0 4 = expiry.toNat

theorem hasExtras_extras (operation : Operation) :
    operation.HasExtras operation.extras := by
  cases operation with
  | get | lookupIn | getMeta => rfl
  | insert _ _ expiry | upsert _ _ expiry _ =>
      refine ⟨rfl, numberAt_word32 jsonDocumentFlags _, ?_⟩
      exact expiry_contentExtras expiry
  | increment _ counter | decrement _ counter =>
      exact counter.hasExtras_extras
  | mutateIn _ _ _ expiry =>
      simp only [HasExtras, extras, mutationExtras]
      split
      · rfl
      · exact ⟨rfl, numberAt_last expiry.toNat_lt⟩

end Operation

/-- The record of a lookup, by the offsets of its fields. -/
structure IsLookupRecord (spec : LookupSpec) (record : Bytes) : Prop where
  length : record.length = 4 + spec.path.utf8ByteSize
  command : numberAt record 0 1 = spec.command.byte.toNat
  flags : numberAt record 1 1 = noPathFlags.toNat
  pathLength : numberAt record 2 2 = spec.path.utf8ByteSize
  path : record.drop 4 = Text.encode spec.path

/-- The record of a mutation, by the offsets of its fields. -/
structure IsMutationRecord (spec : MutationSpec) (record : Bytes) : Prop where
  length : record.length = spec.value.length + (8 + spec.path.utf8ByteSize)
  command : numberAt record 0 1 = spec.command.byte.toNat
  flags :
    numberAt record 1 1 =
      if spec.createParents then
        createParentsFlag.toNat
      else
        noPathFlags.toNat
  pathLength : numberAt record 2 2 = spec.path.utf8ByteSize
  valueLength : numberAt record 4 4 = spec.value.length
  path : (record.drop 8).take spec.path.utf8ByteSize = Text.encode spec.path
  value : record.drop (8 + spec.path.utf8ByteSize) = spec.value

/-- The head of a record begins with its command and its flags. -/
theorem numberAt_head (command flags : UInt8) (rest : Bytes) :
    numberAt (command :: flags :: rest) 0 1 = command.toNat ∧
      numberAt (command :: flags :: rest) 1 1 = flags.toNat := by
  simp [numberAt, readNumber]

theorem isLookupRecord_lookupRecord
    {spec : LookupSpec}
    (acceptable : spec.Acceptable) :
    IsLookupRecord spec (lookupRecord spec) where
  length := length_lookupRecord spec
  command := (numberAt_head ..).1
  flags := (numberAt_head ..).2
  pathLength := by
    have fits : spec.path.utf8ByteSize < Nat.pow 256 2 :=
      Nat.lt_of_le_of_lt acceptable.2 (by decide)
    rw [lookupRecord, numberAt_append (Nat.le_refl 2)]
    exact numberAt_writeNumber fits _
  path := by
    simp [lookupRecord]

theorem isMutationRecord_mutationRecord
    {spec : MutationSpec}
    (acceptable : spec.Acceptable)
    (bounded : spec.value.length ≤ maxValueLength) :
    IsMutationRecord spec (mutationRecord spec) := by
  have pathFits : spec.path.utf8ByteSize < Nat.pow 256 2 :=
    Nat.lt_of_le_of_lt acceptable.2.1 (by decide)
  have valueFits : spec.value.length < Nat.pow 256 4 :=
    Nat.lt_of_le_of_lt bounded (by decide)
  have tail :
      (mutationRecord spec).drop 8 = Text.encode spec.path ++ spec.value := by
    simp [mutationRecord, List.drop_append]
  constructor
  · exact length_mutationRecord spec
  · exact (numberAt_head ..).1
  · rw [← apply_ite]
    exact (numberAt_head ..).2
  · rw [mutationRecord, numberAt_append (Nat.le_refl 2)]
    exact numberAt_writeNumber pathFits _
  · rw [mutationRecord, numberAt_append (by simp), numberAt_append (by simp)]
    exact numberAt_writeNumber valueFits _
  · rw [tail]
    exact List.take_left' (Text.length_encode spec.path)
  · rw [← List.drop_drop, tail]
    exact List.drop_left' (Text.length_encode spec.path)

/-- A value is no longer than all values of its mutation together. -/
theorem length_value_le_total
    {specs : List MutationSpec}
    {spec : MutationSpec}
    (member : spec ∈ specs) :
    spec.value.length ≤ totalValueLength specs := by
  induction member with
  | head => exact Nat.le_add_right ..
  | tail _ _ inductionHypothesis =>
      exact Nat.le_trans inductionHypothesis (Nat.le_add_left ..)

theorem MutationSpecs.isMutationRecord
    (specs : MutationSpecs)
    {spec : MutationSpec}
    (member : spec ∈ specs.specs) :
    IsMutationRecord spec (mutationRecord spec) :=
  isMutationRecord_mutationRecord (specs.acceptable spec member)
    (Nat.le_trans (length_value_le_total member) specs.length_le)

namespace Operation

/-- The value section that an operation is sent with, record by record. -/
def HasValue (operation : Operation) (value : Bytes) : Prop :=
  match operation with
  | .insert _ content _ | .upsert _ content _ _ => value = content.bytes
  | .lookupIn _ specs =>
      ∃ records,
        List.Forall₂ IsLookupRecord specs.specs records ∧
          value = records.flatten
  | .mutateIn _ specs _ _ =>
      ∃ records,
        List.Forall₂ IsMutationRecord specs.specs records ∧
          value = records.flatten
  | .get _ | .increment .. | .decrement .. | .getMeta _ => value = []

theorem hasValue_value (operation : Operation) :
    operation.HasValue operation.value := by
  cases operation with
  | lookupIn _ specs =>
      refine ⟨specs.specs.map lookupRecord, ?_, rfl⟩
      apply List.forall₂_map_right_iff.mpr
      apply List.forall₂_same.mpr
      intro spec member
      exact isLookupRecord_lookupRecord (specs.acceptable spec member)
  | mutateIn _ specs _ _ =>
      refine ⟨specs.specs.map mutationRecord, ?_, rfl⟩
      apply List.forall₂_map_right_iff.mpr
      apply List.forall₂_same.mpr
      exact fun spec member => specs.isMutationRecord member
  | get | insert | upsert | increment | decrement | getMeta => rfl

/-- What the request frame of an operation says about it. -/
structure IsCarriedBy
    (operation : Operation)
    (correlation : UInt32)
    (channel : Channel)
    (frame : Frame) : Prop where
  magic : frame.header.magic = 0x80
  command : frame.header.command = operation.command.byte
  partition : frame.header.partitionOrStatus = operation.key.partition
  correlation : frame.header.correlation = correlation
  cas : frame.header.cas = operation.cas
  extras : operation.HasExtras frame.sections.extras
  key :
    frame.sections.key =
      (if channel.hasCollections then
        leb128 operation.key.collection.number.toNat
      else
        []) ++
        Text.encode operation.key.id
  value : operation.HasValue frame.sections.value
  extrasLength :
    frame.header.extrasLength.toNat = frame.sections.extras.length
  keyLength : frame.header.keyLength.toNat = frame.sections.key.length
  bodyLength :
    frame.header.bodyLength.toNat =
      frame.sections.extras.length + frame.sections.key.length +
        frame.sections.value.length
  bodyLength_le : frame.header.bodyLength.toNat ≤ maxBodySize

/--
Every operation has a frame: its bytes are parsed from the first to the last,
header and sections carry the operation, no length field is cut, and the body is
not larger than a body may be.
-/
theorem encode_is_well_formed
    (operation : Operation)
    (correlation : UInt32)
    (channel : Channel) :
    ∃ frame,
      Frame.parse (operation.encode correlation channel) = .ok frame ∧
        frame.header.frameLength =
          (operation.encode correlation channel).length ∧
        operation.IsCarriedBy correlation channel frame := by
  have wellFormed := operation.isWellFormed_frame correlation channel
  refine ⟨_, operation.parse_encode correlation channel, ?_, ?_⟩
  · rw [← wellFormed.length_bytes, bytes_frame]
  · constructor
    · rfl
    · rfl
    · rfl
    · rfl
    · rfl
    · exact operation.hasExtras_extras
    · change operation.wireKey channel = _
      unfold Operation.wireKey Wire.wireKey
      split <;> rfl
    · exact operation.hasValue_value
    · exact wellFormed.extrasLength
    · exact wellFormed.keyLength
    · exact wellFormed.bodyLength
    · exact wellFormed.acceptable.body_le

end Operation

end ClusterClient.Wire
