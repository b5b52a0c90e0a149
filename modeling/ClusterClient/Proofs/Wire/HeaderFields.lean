import ClusterClient.Wire.RequestFrame
import Mathlib.Data.List.Induction

namespace ClusterClient

/-!
# The fields of a frame header

A field is read where it was written: fields before it are skipped by their
widths, and what follows it does not matter. Some bytes that are read as a
number are those that the number is written as. So a header and its 24 bytes
determine each other, and the header of a frame carries the correlation number
that the frame was made with.
-/

/-- A field after some bytes is found by skipping them. -/
theorem numberAt_append
    {first : Bytes}
    {offset : Nat}
    (behind : first.length ≤ offset)
    (rest : Bytes)
    (width : Nat) :
    numberAt (first ++ rest) offset width =
      numberAt rest (offset - first.length) width := by
  rw [numberAt, List.drop_append, List.drop_eq_nil_of_le behind]
  rfl

/-- What follows a field does not matter. -/
theorem numberAt_append_left
    {first : Bytes}
    {offset width : Nat}
    (inside : offset + width ≤ first.length)
    (rest : Bytes) :
    numberAt (first ++ rest) offset width = numberAt first offset width := by
  have start : offset ≤ first.length :=
    Nat.le_trans (Nat.le_add_right ..) inside
  have enough : width ≤ (first.drop offset).length := by
    rw [List.length_drop]
    exact Nat.le_sub_of_add_le' inside
  rw [numberAt, List.drop_append_of_le_length start,
    List.take_append_of_le_length enough]
  rfl

/-- A field at the front reads back, whatever follows it. -/
theorem numberAt_writeNumber
    {width value : Nat}
    (fits : value < Nat.pow 256 width)
    (rest : Bytes) :
    numberAt (writeNumber width value ++ rest) 0 width = value := by
  rw [numberAt, List.drop_zero,
    List.take_left' (length_writeNumber width value)]
  exact readNumber_writeNumber fits

/-- A field that nothing follows reads back. -/
theorem numberAt_last
    {width value : Nat}
    (fits : value < Nat.pow 256 width) :
    numberAt (writeNumber width value) 0 width = value := by
  have read := numberAt_writeNumber fits []
  rwa [List.append_nil] at read

/-- What is above a field does not matter to its bytes. -/
theorem writeNumber_mod (width value : Nat) :
    writeNumber width (value % Nat.pow 256 width) =
      writeNumber width value := by
  induction width generalizing value with
  | zero => rfl
  | succ width inductionHypothesis =>
      have wider : Nat.pow 256 (width + 1) = 256 * Nat.pow 256 width :=
        Nat.pow_succ'
      have higher :
          value % (256 * Nat.pow 256 width) / 256 =
            value / 256 % Nat.pow 256 width :=
        Nat.mod_mul_right_div_self ..
      have lowest :
          UInt8.ofNat (value % (256 * Nat.pow 256 width)) =
            UInt8.ofNat value := by
        apply UInt8.toNat_inj.mp
        simp
      rw [wider, writeNumber, higher, lowest, inductionHypothesis, writeNumber]

/-- Bytes are written as they were read. -/
theorem writeNumber_readNumber (bytes : Bytes) :
    writeNumber bytes.length (readNumber bytes) = bytes := by
  induction bytes using List.reverseRecOn with
  | nil => rfl
  | append_singleton bytes byte inductionHypothesis =>
      have isByte : byte.toNat < 256 := byte.toNat_lt
      have higher :
          (readNumber bytes * 256 + byte.toNat) / 256 = readNumber bytes := by
        omega
      have lowest :
          UInt8.ofNat (readNumber bytes * 256 + byte.toNat) = byte := by
        apply UInt8.toNat_inj.mp
        simp
      rw [readNumber_append_singleton, List.length_append,
        List.length_singleton, writeNumber, higher, lowest,
        inductionHypothesis]

/-- Some bytes are a number below the limit of their width. -/
theorem readNumber_lt (bytes : Bytes) :
    readNumber bytes < Nat.pow 256 bytes.length := by
  have written := readNumber_writeNumber_mod bytes.length (readNumber bytes)
  rw [writeNumber_readNumber] at written
  rw [written]
  exact Nat.mod_lt _ (Nat.pow_pos (by decide))

theorem numberAt_lt (bytes : Bytes) (offset width : Nat) :
    numberAt bytes offset width < Nat.pow 256 width :=
  Nat.lt_of_lt_of_le (readNumber_lt _)
    (Nat.pow_le_pow_right (by decide) (List.length_take_le ..))

/-- A field that lies inside some bytes is written as it stands there. -/
theorem writeNumber_numberAt
    {bytes : Bytes}
    {offset width : Nat}
    (inside : offset + width ≤ bytes.length) :
    writeNumber width (numberAt bytes offset width) =
      (bytes.drop offset).take width := by
  have length : ((bytes.drop offset).take width).length = width := by
    rw [List.length_take, List.length_drop]
    omega
  have written := writeNumber_readNumber ((bytes.drop offset).take width)
  rwa [length] at written

/-! Fields that hold words. -/

theorem writeNumber_ofNat8 (value : Nat) :
    writeNumber 1 (UInt8.ofNat value).toNat = writeNumber 1 value := by
  rw [UInt8.toNat_ofNat']
  exact writeNumber_mod 1 value

theorem writeNumber_ofNat16 (value : Nat) :
    writeNumber 2 (UInt16.ofNat value).toNat = writeNumber 2 value := by
  rw [UInt16.toNat_ofNat']
  exact writeNumber_mod 2 value

theorem writeNumber_ofNat32 (value : Nat) :
    writeNumber 4 (UInt32.ofNat value).toNat = writeNumber 4 value := by
  rw [UInt32.toNat_ofNat']
  exact writeNumber_mod 4 value

theorem writeNumber_ofNat64 (value : Nat) :
    writeNumber 8 (UInt64.ofNat value).toNat = writeNumber 8 value := by
  rw [UInt64.toNat_ofNat']
  exact writeNumber_mod 8 value

theorem numberAt_word8 (value : UInt8) (rest : Bytes) :
    numberAt (writeNumber 1 value.toNat ++ rest) 0 1 = value.toNat :=
  numberAt_writeNumber value.toNat_lt rest

theorem numberAt_word16 (value : UInt16) (rest : Bytes) :
    numberAt (writeNumber 2 value.toNat ++ rest) 0 2 = value.toNat :=
  numberAt_writeNumber value.toNat_lt rest

theorem numberAt_word32 (value : UInt32) (rest : Bytes) :
    numberAt (writeNumber 4 value.toNat ++ rest) 0 4 = value.toNat :=
  numberAt_writeNumber value.toNat_lt rest

theorem numberAt_word64 (value : UInt64) (rest : Bytes) :
    numberAt (writeNumber 8 value.toNat ++ rest) 0 8 = value.toNat :=
  numberAt_writeNumber value.toNat_lt rest

namespace Wire

namespace Header

/-- The bytes of a header, one field after the other. -/
def bytes (header : Header) : Bytes :=
  writeNumber 1 header.magic.toNat ++
    (writeNumber 1 header.command.toNat ++
    (writeNumber 2 header.keyLength.toNat ++
    (writeNumber 1 header.extrasLength.toNat ++
    (writeNumber 1 header.datatype.toNat ++
    (writeNumber 2 header.partitionOrStatus.toNat ++
    (writeNumber 4 header.bodyLength.toNat ++
    (writeNumber 4 header.correlation.toNat ++
      writeNumber 8 header.cas.toNat)))))))

@[simp] theorem length_bytes (header : Header) :
    header.bytes.length = headerSize := by
  simp [bytes, headerSize]

/-- A header is read from its bytes, whatever follows them. -/
theorem ofBytes_bytes (header : Header) (rest : Bytes) :
    ofBytes (header.bytes ++ rest) = header := by
  simp [ofBytes, bytes, numberAt_append, numberAt_word8, numberAt_word16,
    numberAt_word32, numberAt_word64]

/-- The first bytes are those of the header that is read from them. -/
theorem bytes_ofBytes
    {bytes : Bytes}
    (enough : headerSize ≤ bytes.length) :
    (ofBytes bytes).bytes = bytes.take headerSize := by
  have field : ∀ {offset width : Nat},
      offset + width ≤ headerSize →
      writeNumber width (numberAt bytes offset width) =
        (bytes.drop offset).take width :=
    fun inside => writeNumber_numberAt (Nat.le_trans inside enough)
  have widths :
      headerSize = 1 + (1 + (2 + (1 + (1 + (2 + (4 + (4 + 8))))))) := rfl
  rw [widths]
  simp only [List.take_add, List.drop_drop]
  simp only [Header.bytes, ofBytes, writeNumber_ofNat8, writeNumber_ofNat16,
    writeNumber_ofNat32, writeNumber_ofNat64]
  repeat rw [field (by decide)]
  rfl

end Header

/-- The header of a frame, with the lengths of its sections. -/
def Envelope.header (envelope : Envelope) (sections : Sections) : Header where
  magic := envelope.magic
  command := envelope.command
  keyLength := UInt16.ofNat sections.key.length
  extrasLength := UInt8.ofNat sections.extras.length
  datatype := envelope.datatype
  partitionOrStatus := envelope.partitionOrStatus
  bodyLength := UInt32.ofNat sections.length
  correlation := envelope.correlation
  cas := envelope.cas

/-- A frame is its header and then its sections. -/
theorem frameBytes_eq (envelope : Envelope) (sections : Sections) :
    frameBytes envelope sections =
      (envelope.header sections).bytes ++ sections.bytes := by
  simp only [frameBytes, Header.bytes, Envelope.header, writeNumber_ofNat8,
    writeNumber_ofNat16, writeNumber_ofNat32, List.append_assoc]

/-- The header of a frame is the one that it was made with. -/
theorem ofBytes_frameBytes (envelope : Envelope) (sections : Sections) :
    Header.ofBytes (frameBytes envelope sections) =
      envelope.header sections := by
  rw [frameBytes_eq, Header.ofBytes_bytes]

/-- The frames of an operation differ in the four bytes of the number only. -/
theorem exists_encode (operation : Operation) (channel : Channel) :
    ∃ before after : Bytes,
      before.length = 12 ∧
        ∀ correlation : UInt32,
          operation.encode correlation channel =
            before ++ (writeNumber 4 correlation.toNat ++ after) := by
  let sections : Sections :=
    ⟨operation.extras, operation.wireKey channel, operation.value⟩
  refine
    ⟨writeNumber 1 requestMagic.toNat ++
        (writeNumber 1 operation.command.byte.toNat ++
        (writeNumber 2 sections.key.length ++
        (writeNumber 1 sections.extras.length ++
        (writeNumber 1 operation.datatype.toNat ++
        (writeNumber 2 operation.key.partition.toNat ++
          writeNumber 4 sections.length))))),
      writeNumber 8 operation.cas.toNat ++ sections.bytes, ?_, ?_⟩
  · simp only [List.length_append, length_writeNumber]
  · intro correlation
    simp only [Operation.encode, requestFrame, frameBytes, List.append_assoc,
      sections]

/-- The frame of an operation carries its correlation number. -/
theorem correlation_encode
    (operation : Operation)
    (correlation : UInt32)
    (channel : Channel) :
    (Header.ofBytes (operation.encode correlation channel)).correlation =
      correlation := by
  rw [Operation.encode, requestFrame, ofBytes_frameBytes]
  rfl

end Wire

end ClusterClient
