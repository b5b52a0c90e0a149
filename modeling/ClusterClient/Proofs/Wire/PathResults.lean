import ClusterClient.Proofs.Wire.HeaderFields
import ClusterClient.Wire.PathResult

namespace ClusterClient.Wire

/-!
# The records of multi-path results

A record is a head of a fixed length and a value, and the last field of the head
declares the length of the value. The two readers accept exactly the
concatenations of such records, and the results that they return are written as
the records that were read.
-/

/-- A status that some code stands for. -/
def Status.IsProper (status : Status) : Prop :=
  ofCode status.code = status

theorem Status.isProper_ofCode (code : UInt16) : (ofCode code).IsProper := by
  rw [IsProper, code_ofCode]

/-- The record of a lookup result: status, length of the value, value. -/
def LookupField.bytes (field : LookupField) : Bytes :=
  writeNumber 2 field.status.code.toNat ++
    (writeNumber 4 field.value.length ++ field.value)

/--
The record of a mutation result: index, status, length of the value, value.
-/
def MutationField.bytes (field : MutationField) : Bytes :=
  writeNumber 1 field.index.toNat ++
    (writeNumber 2 field.status.code.toNat ++
    (writeNumber 4 field.value.length ++ field.value))

/-- The bytes of a lookup record: status (2), length (4) and so many bytes. -/
def IsLookupResult (record : Bytes) : Prop :=
  record.length = lookupHeadLength + numberAt record 2 4

/--
The bytes of a mutation record: index (1), status (2), length (4) and so many
bytes, where the index is that of a spec.
-/
def IsMutationResult (specCount : Nat) (record : Bytes) : Prop :=
  record.length = mutationHeadLength + numberAt record 3 4 ∧
    numberAt record 0 1 < specCount

/-- What the record of a lookup says. -/
def LookupField.ofRecord (record : Bytes) : LookupField where
  status := Status.ofCode (UInt16.ofNat (numberAt record 0 2))
  value := record.drop lookupHeadLength

/-- What the record of a mutation says. -/
def MutationField.ofRecord (record : Bytes) : MutationField where
  index := UInt8.ofNat (numberAt record 0 1)
  status := Status.ofCode (UInt16.ofNat (numberAt record 1 2))
  value := record.drop mutationHeadLength

/-! A record in front of other bytes. -/

section Front

variable {headLength declared : Nat} {record : Bytes}

/-- The head of a record reads the same whatever follows the record. -/
theorem numberAt_record
    (length : record.length = headLength + declared)
    {offset width : Nat}
    (inHead : offset + width ≤ headLength)
    (rest : Bytes) :
    numberAt (record ++ rest) offset width = numberAt record offset width :=
  numberAt_append_left (by omega) rest

/-- Behind the head of a record are its value and what follows the record. -/
theorem drop_head_record
    (length : record.length = headLength + declared)
    (rest : Bytes) :
    (record ++ rest).drop headLength = record.drop headLength ++ rest :=
  List.drop_append_of_le_length (by omega)

theorem length_value_record
    (length : record.length = headLength + declared) :
    (record.drop headLength).length = declared := by
  rw [List.length_drop]
  omega

theorem not_isEmpty_record
    (length : record.length = headLength + declared)
    (positive : 0 < headLength)
    (rest : Bytes) : ¬ (record ++ rest).isEmpty = true := by
  rw [List.isEmpty_iff, ← List.length_eq_zero_iff, List.length_append]
  omega

theorem not_isShorterThan_record
    (length : record.length = headLength + declared)
    (rest : Bytes) : ¬ isShorterThan headLength (record ++ rest) = true := by
  rw [isShorterThan_iff, List.length_append]
  omega

theorem not_isShorterThan_value_record
    (length : record.length = headLength + declared)
    (rest : Bytes) :
    ¬ isShorterThan declared (record.drop headLength ++ rest) = true := by
  rw [isShorterThan_iff, List.length_append, length_value_record length]
  omega

/-- A head with enough bytes behind it begins a record. -/
theorem exists_front_record
    {offset : Nat}
    {value : Bytes}
    (inHead : offset + 4 ≤ headLength)
    (head : ¬ isShorterThan headLength value = true)
    (enough :
      ¬ isShorterThan (numberAt value offset 4) (value.drop headLength) =
        true) :
    ∃ record,
      value =
          record ++ (value.drop headLength).drop (numberAt value offset 4) ∧
        record.length = headLength + numberAt record offset 4 ∧
        numberAt record 0 1 = numberAt value 0 1 := by
  rw [isShorterThan_iff] at head enough
  rw [List.length_drop] at enough
  have split :=
    List.take_append_drop (headLength + numberAt value offset 4) value
  have length :
      (value.take (headLength + numberAt value offset 4)).length =
        headLength + numberAt value offset 4 :=
    List.length_take_of_le (by omega)
  have read : ∀ {offset' width},
      offset' + width ≤ headLength →
      numberAt (value.take (headLength + numberAt value offset 4)) offset'
          width =
        numberAt value offset' width := by
    intro offset' width inside
    rw [← numberAt_record length inside (value.drop _), split]
  refine ⟨value.take (headLength + numberAt value offset 4), ?_, ?_, ?_⟩
  · rw [List.drop_drop]
    exact split.symm
  · rw [read inHead]
    exact length
  · exact read (by omega)

end Front

/-! Reading lookup records. -/

theorem readLookupFields_nil (index : Nat) :
    readLookupFields index [] = .ok [] := by
  rw [readLookupFields]
  rfl

/-- A record in front is read first. -/
theorem readLookupFields_append
    {record : Bytes}
    (isRecord : IsLookupResult record)
    (index : Nat)
    (rest : Bytes) :
    readLookupFields index (record ++ rest) =
      (readLookupFields (index + 1) rest).map (.ofRecord record :: ·) := by
  have length : record.length = lookupHeadLength + numberAt record 2 4 :=
    isRecord
  have field : ∀ offset width,
      offset + width ≤ lookupHeadLength →
      numberAt (record ++ rest) offset width = numberAt record offset width :=
    fun _ _ inHead => numberAt_record length inHead rest
  have valueLength := length_value_record length
  rw [readLookupFields, if_neg (not_isEmpty_record length (by decide) rest),
    if_neg (not_isShorterThan_record length rest)]
  simp only [field 0 2 (by decide), field 2 4 (by decide),
    drop_head_record length]
  rw [if_neg (not_isShorterThan_value_record length rest),
    List.take_left' valueLength, List.drop_left' valueLength]
  cases readLookupFields (index + 1) rest <;> rfl

theorem readLookupFields_flatten
    {records : List Bytes}
    (areRecords : ∀ record ∈ records, IsLookupResult record)
    (index : Nat) :
    readLookupFields index records.flatten =
      .ok (records.map .ofRecord) := by
  induction records generalizing index with
  | nil => exact readLookupFields_nil index
  | cons record records inductionHypothesis =>
      obtain ⟨isRecord, areOthers⟩ := List.forall_mem_cons.mp areRecords
      rw [List.flatten_cons, readLookupFields_append isRecord,
        inductionHypothesis areOthers]
      rfl

/-- Whatever is read is a concatenation of records. -/
theorem exists_records_of_readLookupFields
    {index : Nat}
    {value : Bytes}
    {fields : List LookupField}
    (read : readLookupFields index value = .ok fields) :
    ∃ records : List Bytes,
      value = records.flatten ∧ ∀ record ∈ records, IsLookupResult record := by
  fun_induction readLookupFields index value generalizing fields with
  | case1 index value empty =>
      exact ⟨[], List.isEmpty_iff.mp empty, nofun⟩
  | case2 | case3 | case4 => cases read
  | case5 index value _ head declared rest enough others readOthers =>
      rename_i inductionHypothesis
      obtain ⟨record, split, length, -⟩ :=
        exists_front_record (by decide) head enough
      obtain ⟨records, isFlatten, areRecords⟩ := inductionHypothesis readOthers
      refine
        ⟨record :: records, ?_, List.forall_mem_cons.mpr ⟨length, areRecords⟩⟩
      rw [List.flatten_cons, ← isFlatten]
      exact split

/-- The records of a lookup are read just where they stand. -/
theorem readLookupFields_eq_ok_iff
    {index : Nat}
    {value : Bytes}
    {fields : List LookupField} :
    readLookupFields index value = .ok fields ↔
      ∃ records : List Bytes,
        value = records.flatten ∧
          (∀ record ∈ records, IsLookupResult record) ∧
          fields = records.map .ofRecord := by
  constructor
  · intro read
    obtain ⟨records, rfl, areRecords⟩ := exists_records_of_readLookupFields read
    rw [readLookupFields_flatten areRecords] at read
    exact ⟨records, rfl, areRecords, (Except.ok.inj read).symm⟩
  · rintro ⟨records, rfl, areRecords, rfl⟩
    exact readLookupFields_flatten areRecords index

/-! Reading mutation records. -/

theorem readMutationFields_nil (specCount : Nat) :
    readMutationFields specCount [] = .ok [] := by
  rw [readMutationFields]
  rfl

/-- A record in front is read first. -/
theorem readMutationFields_append
    {specCount : Nat}
    {record : Bytes}
    (isRecord : IsMutationResult specCount record)
    (rest : Bytes) :
    readMutationFields specCount (record ++ rest) =
      (readMutationFields specCount rest).map (.ofRecord record :: ·) := by
  obtain ⟨length, inRange⟩ := isRecord
  have field : ∀ offset width,
      offset + width ≤ mutationHeadLength →
      numberAt (record ++ rest) offset width = numberAt record offset width :=
    fun _ _ inHead => numberAt_record length inHead rest
  have valueLength := length_value_record length
  have known : ¬ specCount ≤ (UInt8.ofNat (numberAt record 0 1)).toNat := by
    rw [UInt8.toNat_ofNat_of_lt' (numberAt_lt record 0 1)]
    exact Nat.not_le.mpr inRange
  rw [readMutationFields, if_neg (not_isEmpty_record length (by decide) rest),
    if_neg (not_isShorterThan_record length rest)]
  simp only [field 0 1 (by decide), field 1 2 (by decide),
    field 3 4 (by decide), drop_head_record length]
  rw [if_neg known, if_neg (not_isShorterThan_value_record length rest),
    List.take_left' valueLength, List.drop_left' valueLength]
  cases readMutationFields specCount rest <;> rfl

theorem readMutationFields_flatten
    {specCount : Nat}
    {records : List Bytes}
    (areRecords : ∀ record ∈ records, IsMutationResult specCount record) :
    readMutationFields specCount records.flatten =
      .ok (records.map .ofRecord) := by
  induction records with
  | nil => exact readMutationFields_nil specCount
  | cons record records inductionHypothesis =>
      obtain ⟨isRecord, areOthers⟩ := List.forall_mem_cons.mp areRecords
      rw [List.flatten_cons, readMutationFields_append isRecord,
        inductionHypothesis areOthers]
      rfl

/-- Whatever is read is a concatenation of records. -/
theorem exists_records_of_readMutationFields
    {specCount : Nat}
    {value : Bytes}
    {fields : List MutationField}
    (read : readMutationFields specCount value = .ok fields) :
    ∃ records : List Bytes,
      value = records.flatten ∧
        ∀ record ∈ records, IsMutationResult specCount record := by
  fun_induction readMutationFields specCount value generalizing fields with
  | case1 value empty => exact ⟨[], List.isEmpty_iff.mp empty, nofun⟩
  | case2 | case3 | case4 | case5 => cases read
  | case6 value _ head index declared rest known enough others readOthers =>
      rename_i inductionHypothesis
      obtain ⟨record, split, length, isIndex⟩ :=
        exists_front_record (by decide) head enough
      obtain ⟨records, isFlatten, areRecords⟩ := inductionHypothesis readOthers
      have inRange : numberAt record 0 1 < specCount := by
        rw [isIndex, ← UInt8.toNat_ofNat_of_lt' (numberAt_lt value 0 1)]
        exact Nat.lt_of_not_le known
      refine
        ⟨record :: records, ?_,
          List.forall_mem_cons.mpr ⟨⟨length, inRange⟩, areRecords⟩⟩
      rw [List.flatten_cons, ← isFlatten]
      exact split

/-- The records of a mutation are read just where they stand. -/
theorem readMutationFields_eq_ok_iff
    {specCount : Nat}
    {value : Bytes}
    {fields : List MutationField} :
    readMutationFields specCount value = .ok fields ↔
      ∃ records : List Bytes,
        value = records.flatten ∧
          (∀ record ∈ records, IsMutationResult specCount record) ∧
          fields = records.map .ofRecord := by
  constructor
  · intro read
    obtain ⟨records, rfl, areRecords⟩ :=
      exists_records_of_readMutationFields read
    rw [readMutationFields_flatten areRecords] at read
    exact ⟨records, rfl, areRecords, (Except.ok.inj read).symm⟩
  · rintro ⟨records, rfl, areRecords, rfl⟩
    exact readMutationFields_flatten areRecords

/-! Writing results as records. -/

/-- A lookup result that its record can carry. -/
structure LookupField.Fits (field : LookupField) : Prop where
  proper : field.status.IsProper
  length_lt : field.value.length < Nat.pow 256 4

/-- A mutation result that its record can carry, for one of the specs. -/
structure MutationField.Fits
    (specCount : Nat)
    (field : MutationField) : Prop where
  inRange : field.index.toNat < specCount
  proper : field.status.IsProper
  length_lt : field.value.length < Nat.pow 256 4

namespace LookupField

/-- What a record says is written as that record. -/
theorem bytes_ofRecord
    {record : Bytes}
    (isRecord : IsLookupResult record) : (ofRecord record).bytes = record := by
  have length : record.length = lookupHeadLength + numberAt record 2 4 :=
    isRecord
  have head : lookupHeadLength ≤ record.length := by
    omega
  have field : ∀ offset width,
      offset + width ≤ lookupHeadLength →
      writeNumber width (numberAt record offset width) =
        (record.drop offset).take width :=
    fun _ _ inHead => writeNumber_numberAt (Nat.le_trans inHead head)
  have behind : record.drop lookupHeadLength = (record.drop 2).drop 4 := by
    rw [List.drop_drop]
    rfl
  simp only [bytes, ofRecord, Status.code_ofCode, writeNumber_ofNat16,
    length_value_record length]
  rw [field 0 2 (by decide), field 2 4 (by decide), behind,
    List.take_append_drop, List.drop_zero, List.take_append_drop]

theorem length_bytes (field : LookupField) :
    field.bytes.length = lookupHeadLength + field.value.length := by
  simp [bytes, lookupHeadLength]
  omega

/-- A result that fits is carried by its record. -/
theorem Fits.isLookupResult
    {field : LookupField}
    (fits : field.Fits) : IsLookupResult field.bytes := by
  have behind : (writeNumber 2 field.status.code.toNat).length ≤ 2 := by
    simp
  have declared : numberAt field.bytes 2 4 = field.value.length := by
    rw [bytes, numberAt_append behind]
    simp [numberAt_writeNumber fits.length_lt]
  rw [IsLookupResult, declared, length_bytes]

theorem Fits.ofRecord_bytes
    {field : LookupField}
    (fits : field.Fits) : ofRecord field.bytes = field := by
  have status :
      numberAt field.bytes 0 2 = field.status.code.toNat :=
    numberAt_word16 ..
  have value : field.bytes.drop lookupHeadLength = field.value := by
    simp [bytes, lookupHeadLength, List.drop_append]
  rw [ofRecord, status, value, UInt16.ofNat_toNat, fits.proper]

end LookupField

namespace MutationField

/-- What a record says is written as that record. -/
theorem bytes_ofRecord
    {specCount : Nat}
    {record : Bytes}
    (isRecord : IsMutationResult specCount record) :
    (ofRecord record).bytes = record := by
  have length := isRecord.1
  have head : mutationHeadLength ≤ record.length := by
    omega
  have field : ∀ offset width,
      offset + width ≤ mutationHeadLength →
      writeNumber width (numberAt record offset width) =
        (record.drop offset).take width :=
    fun _ _ inHead => writeNumber_numberAt (Nat.le_trans inHead head)
  have behind :
      record.drop mutationHeadLength = ((record.drop 1).drop 2).drop 4 := by
    rw [List.drop_drop, List.drop_drop]
    rfl
  have third : record.drop 3 = (record.drop 1).drop 2 := by
    rw [List.drop_drop]
  simp only [bytes, ofRecord, Status.code_ofCode, writeNumber_ofNat8,
    writeNumber_ofNat16, length_value_record length]
  rw [field 0 1 (by decide), field 1 2 (by decide), field 3 4 (by decide),
    behind, third, List.take_append_drop, List.take_append_drop,
    List.drop_zero, List.take_append_drop]

theorem length_bytes (field : MutationField) :
    field.bytes.length = mutationHeadLength + field.value.length := by
  simp [bytes, mutationHeadLength]
  omega

theorem index_bytes (field : MutationField) :
    numberAt field.bytes 0 1 = field.index.toNat :=
  numberAt_word8 ..

/-- A result that fits is carried by its record. -/
theorem Fits.isMutationResult
    {specCount : Nat}
    {field : MutationField}
    (fits : field.Fits specCount) :
    IsMutationResult specCount field.bytes := by
  have declared : numberAt field.bytes 3 4 = field.value.length := by
    rw [bytes, numberAt_append (by simp), numberAt_append (by simp)]
    simp [numberAt_writeNumber fits.length_lt]
  rw [IsMutationResult, declared, length_bytes, index_bytes]
  exact ⟨rfl, fits.inRange⟩

theorem Fits.ofRecord_bytes
    {specCount : Nat}
    {field : MutationField}
    (fits : field.Fits specCount) : ofRecord field.bytes = field := by
  have status :
      numberAt field.bytes 1 2 = field.status.code.toNat := by
    rw [bytes, numberAt_append (by simp)]
    simp [numberAt_word16]
  have value : field.bytes.drop mutationHeadLength = field.value := by
    have head :
        (writeNumber 1 field.index.toNat ++
          (writeNumber 2 field.status.code.toNat ++
            writeNumber 4 field.value.length)).length =
          mutationHeadLength := by
      simp [mutationHeadLength]
    rw [bytes, ← List.append_assoc, ← List.append_assoc,
      List.append_assoc (writeNumber 1 _)]
    exact List.drop_left' head
  rw [ofRecord, index_bytes, status, value, UInt8.ofNat_toNat,
    UInt16.ofNat_toNat, fits.proper]

end MutationField

/-- What cancels on every element of a list cancels on the list. -/
theorem map_map_of_cancel
    {First Second : Type}
    {there : First → Second}
    {back : Second → First}
    {elements : List First}
    (cancel : ∀ element ∈ elements, back (there element) = element) :
    (elements.map there).map back = elements := by
  rw [List.map_map]
  exact (List.map_congr_left cancel).trans (List.map_id elements)

/-- Lookup results that fit are read back from their records. -/
theorem readLookupFields_bytes
    {fields : List LookupField}
    (fit : ∀ field ∈ fields, field.Fits)
    (index : Nat) :
    readLookupFields index (fields.map LookupField.bytes).flatten =
      .ok fields := by
  have areRecords : ∀ record ∈ fields.map LookupField.bytes,
      IsLookupResult record :=
    List.forall_mem_map.mpr fun field member =>
      (fit field member).isLookupResult
  rw [readLookupFields_flatten areRecords, map_map_of_cancel]
  exact fun field member => (fit field member).ofRecord_bytes

/-- Mutation results that fit are read back from their records. -/
theorem readMutationFields_bytes
    {specCount : Nat}
    {fields : List MutationField}
    (fit : ∀ field ∈ fields, field.Fits specCount) :
    readMutationFields specCount (fields.map MutationField.bytes).flatten =
      .ok fields := by
  have areRecords : ∀ record ∈ fields.map MutationField.bytes,
      IsMutationResult specCount record :=
    List.forall_mem_map.mpr fun field member =>
      (fit field member).isMutationResult
  rw [readMutationFields_flatten areRecords, map_map_of_cancel]
  exact fun field member => (fit field member).ofRecord_bytes

/-! Writing what was read. -/

/-- Lookup results that were read are written as they stood in the value. -/
theorem flatten_bytes_of_readLookupFields
    {index : Nat}
    {value : Bytes}
    {fields : List LookupField}
    (read : readLookupFields index value = .ok fields) :
    (fields.map LookupField.bytes).flatten = value := by
  obtain ⟨records, rfl, areRecords, rfl⟩ := readLookupFields_eq_ok_iff.mp read
  rw [map_map_of_cancel]
  exact fun record member =>
    LookupField.bytes_ofRecord (areRecords record member)

/-- Mutation results that were read are written as they stood in the value. -/
theorem flatten_bytes_of_readMutationFields
    {specCount : Nat}
    {value : Bytes}
    {fields : List MutationField}
    (read : readMutationFields specCount value = .ok fields) :
    (fields.map MutationField.bytes).flatten = value := by
  obtain ⟨records, rfl, areRecords, rfl⟩ :=
    readMutationFields_eq_ok_iff.mp read
  rw [map_map_of_cancel]
  exact fun record member =>
    MutationField.bytes_ofRecord (areRecords record member)

/-! The number of lookup records. -/

/-- A lookup body is read when its results are as many as expected. -/
theorem readLookupBody_eq_ok_iff
    {expected : Nat}
    {value : Bytes}
    {fields : List LookupField} :
    readLookupBody expected value = .ok fields ↔
      readLookupFields 0 value = .ok fields ∧ fields.length = expected := by
  unfold readLookupBody
  cases readLookupFields 0 value with
  | error fault => simp
  | ok found =>
      dsimp only
      split
      · rename_i isExpected
        refine ⟨fun same => ⟨same, ?_⟩, And.left⟩
        rwa [← Except.ok.inj same]
      · rename_i unexpected
        refine ⟨nofun, ?_⟩
        rintro ⟨same, isExpected⟩
        rw [← Except.ok.inj same] at isExpected
        exact absurd isExpected unexpected

end ClusterClient.Wire
