import ClusterClient.Proofs.Wire.HeaderFields

namespace ClusterClient.Wire

/-!
# Frames are read as they are written

Parsing accepts exactly the bytes that begin with a well-formed frame: a known
magic, length fields that say how long the sections are, and a body within the
limit. Both directions follow: a frame that was written is parsed back to what
it was made of, and a frame that was parsed is written back to the bytes that it
was parsed from.
-/

/-- What a header must satisfy to be accepted. -/
structure Header.IsAcceptable (header : Header) : Prop where
  magic : header.magic = requestMagic ∨ header.magic = responseMagic
  body_le : header.bodyLength.toNat ≤ maxBodySize
  sections_le :
    header.extrasLength.toNat + header.keyLength.toNat ≤
      header.bodyLength.toNat

namespace Header

/-- The length of the value section does not run below zero. -/
theorem IsAcceptable.length_eq
    {header : Header}
    (acceptable : header.IsAcceptable) :
    header.extrasLength.toNat + header.keyLength.toNat + header.valueLength =
      header.bodyLength.toNat := by
  have enough := acceptable.sections_le
  rw [valueLength, Nat.sub_sub]
  exact Nat.add_sub_cancel' enough

/-- The header fields that do not follow from the sections. -/
def envelope (header : Header) : Envelope where
  magic := header.magic
  command := header.command
  datatype := header.datatype
  partitionOrStatus := header.partitionOrStatus
  correlation := header.correlation
  cas := header.cas

/-- A header is accepted where its bytes stand and it is acceptable. -/
theorem parse_eq_ok_iff {bytes : Bytes} {header : Header} :
    parse bytes = .ok header ↔
      header.IsAcceptable ∧ header.bytes <+: bytes := by
  constructor
  · intro parsed
    unfold parse at parsed
    split at parsed
    · cases parsed
    rename_i enough
    dsimp only at parsed
    split at parsed
    · cases parsed
    rename_i magic
    split at parsed
    · cases parsed
    rename_i body
    split at parsed
    · cases parsed
    rename_i sections
    cases parsed
    have known := Decidable.not_and_iff_not_or_not.mp magic
    refine ⟨⟨?_, Nat.le_of_not_lt body, Nat.le_of_not_lt sections⟩, ?_⟩
    · exact known.imp Decidable.not_not.mp Decidable.not_not.mp
    · rw [bytes_ofBytes (Nat.le_of_not_lt enough)]
      exact List.take_prefix headerSize bytes
  · rintro ⟨acceptable, rest, rfl⟩
    have enough : ¬ (header.bytes ++ rest).length < headerSize := by
      simp
    have magic :
        ¬ (header.magic ≠ requestMagic ∧ header.magic ≠ responseMagic) :=
      fun unknown => acceptable.magic.elim unknown.1 unknown.2
    rw [parse, if_neg enough, ofBytes_bytes]
    dsimp only
    rw [if_neg magic, if_neg (Nat.not_lt.mpr acceptable.body_le),
      if_neg (Nat.not_lt.mpr acceptable.sections_le)]

end Header

/-- The length of some sections is the number of their bytes. -/
@[simp] theorem Sections.length_bytes (sections : Sections) :
    sections.bytes.length = sections.length := by
  simp [bytes, length, Nat.add_assoc]

/-- Sections whose lengths fit the fields of a header and the largest body. -/
structure Sections.Fit (sections : Sections) : Prop where
  extras_le : sections.extras.length ≤ 255
  key_le : sections.key.length ≤ 65535
  length_le : sections.length ≤ maxBodySize

namespace Frame

/-- The bytes of a frame. -/
def bytes (frame : Frame) : Bytes :=
  frame.header.bytes ++ frame.sections.bytes

/-- The header of a frame says how long its sections are. -/
structure IsWellFormed (frame : Frame) : Prop where
  magic :
    frame.header.magic = requestMagic ∨ frame.header.magic = responseMagic
  extrasLength :
    frame.header.extrasLength.toNat = frame.sections.extras.length
  keyLength : frame.header.keyLength.toNat = frame.sections.key.length
  bodyLength : frame.header.bodyLength.toNat = frame.sections.length
  length_le : frame.sections.length ≤ maxBodySize

theorem IsWellFormed.length_bytes
    {frame : Frame}
    (wellFormed : frame.IsWellFormed) :
    frame.bytes.length = frame.header.frameLength := by
  rw [bytes, List.length_append, Header.length_bytes, Sections.length_bytes,
    Header.frameLength, wellFormed.bodyLength]

theorem IsWellFormed.acceptable
    {frame : Frame}
    (wellFormed : frame.IsWellFormed) : frame.header.IsAcceptable where
  magic := wellFormed.magic
  body_le := by
    rw [wellFormed.bodyLength]
    exact wellFormed.length_le
  sections_le := by
    rw [wellFormed.extrasLength, wellFormed.keyLength, wellFormed.bodyLength]
    exact Nat.le_add_right ..

/-- The sections that a header cuts out of a body. -/
def cut (header : Header) (body : Bytes) : Sections where
  extras := body.take header.extrasLength.toNat
  key :=
    (body.drop header.extrasLength.toNat).take header.keyLength.toNat
  value :=
    (body.drop header.extrasLength.toNat).drop header.keyLength.toNat

theorem bytes_cut (header : Header) (body : Bytes) :
    (cut header body).bytes = body := by
  rw [Sections.bytes, cut, List.take_append_drop, List.take_append_drop]

/-- A body of the length that its header says is cut well. -/
theorem isWellFormed_cut
    {header : Header}
    (acceptable : header.IsAcceptable)
    {body : Bytes}
    (length : body.length = header.bodyLength.toNat) :
    IsWellFormed ⟨header, cut header body⟩ := by
  have enough := acceptable.sections_le
  have extras : header.extrasLength.toNat ≤ body.length := by
    omega
  have key :
      header.keyLength.toNat ≤
        (body.drop header.extrasLength.toNat).length := by
    rw [List.length_drop]
    omega
  have whole : (cut header body).length = header.bodyLength.toNat := by
    rw [← Sections.length_bytes, bytes_cut, length]
  constructor
  · exact acceptable.magic
  · exact (List.length_take_of_le extras).symm
  · exact (List.length_take_of_le key).symm
  · exact whole.symm
  · exact Nat.le_trans (Nat.le_of_eq whole) acceptable.body_le

/-- A well-formed frame is cut out of its own bytes. -/
theorem IsWellFormed.cut_eq
    {frame : Frame}
    (wellFormed : frame.IsWellFormed) :
    cut frame.header frame.sections.bytes = frame.sections := by
  unfold cut Sections.bytes
  rw [wellFormed.extrasLength, wellFormed.keyLength]
  simp

/-- After its header, a frame is refused only when bytes of it are missing. -/
theorem parse_of_header
    {bytes : Bytes}
    {header : Header}
    (headed : Header.parse bytes = .ok header) :
    parse bytes =
      if bytes.length < header.frameLength then
        .error (.incompleteBody header.frameLength bytes.length)
      else
        .ok ⟨header,
          cut header
            ((bytes.drop headerSize).take header.bodyLength.toNat)⟩ := by
  rw [parse, headed]
  rfl

/-- Parsing accepts exactly the bytes that begin with a well-formed frame. -/
theorem parse_eq_ok_iff {bytes : Bytes} {frame : Frame} :
    parse bytes = .ok frame ↔
      frame.IsWellFormed ∧ frame.bytes <+: bytes := by
  constructor
  · intro parsed
    cases headed : Header.parse bytes with
    | error fault =>
        rw [parse, headed] at parsed
        cases parsed
    | ok header =>
        obtain ⟨acceptable, rest, rfl⟩ := Header.parse_eq_ok_iff.mp headed
        rw [parse_of_header headed,
          List.drop_left' header.length_bytes] at parsed
        split at parsed
        · cases parsed
        rename_i complete
        cases parsed
        have length :
            (rest.take header.bodyLength.toNat).length =
              header.bodyLength.toNat := by
          rw [List.length_append, Header.length_bytes,
            Header.frameLength] at complete
          exact List.length_take_of_le (by omega)
        refine ⟨isWellFormed_cut acceptable length, ?_⟩
        rw [bytes, bytes_cut]
        exact
          (List.prefix_append_right_inj header.bytes).mpr
            (List.take_prefix _ rest)
  · rintro ⟨wellFormed, rest, rfl⟩
    have headed :
        Header.parse (frame.bytes ++ rest) = .ok frame.header := by
      apply Header.parse_eq_ok_iff.mpr
      exact ⟨wellFormed.acceptable, _, (List.append_assoc ..).symm⟩
    have complete :
        ¬ (frame.bytes ++ rest).length < frame.header.frameLength := by
      rw [List.length_append, wellFormed.length_bytes]
      exact Nat.not_lt.mpr (Nat.le_add_right ..)
    have body :
        ((frame.bytes ++ rest).drop headerSize).take
            frame.header.bodyLength.toNat =
          frame.sections.bytes := by
      rw [bytes, List.append_assoc,
        List.drop_left' frame.header.length_bytes, wellFormed.bodyLength]
      exact List.take_left' frame.sections.length_bytes
    rw [parse_of_header headed, if_neg complete, body, wellFormed.cut_eq]

/-- A frame that is accepted has a header that is accepted. -/
theorem headed_of_parse
    {bytes : Bytes}
    {frame : Frame}
    (parsed : parse bytes = .ok frame) :
    Header.parse bytes = .ok frame.header := by
  unfold parse at parsed
  split at parsed
  · cases parsed
  · rename_i header headed
    dsimp only at parsed
    split at parsed
    · cases parsed
    · cases parsed
      exact headed

/-- The frame that an envelope and sections make. -/
def make (envelope : Envelope) (sections : Sections) : Frame :=
  ⟨envelope.header sections, sections⟩

theorem bytes_make (envelope : Envelope) (sections : Sections) :
    (make envelope sections).bytes = frameBytes envelope sections :=
  (frameBytes_eq envelope sections).symm

/-- Where the sections fit, no length field is cut. -/
theorem isWellFormed_make
    {envelope : Envelope}
    {sections : Sections}
    (magic :
      envelope.magic = requestMagic ∨ envelope.magic = responseMagic)
    (fit : sections.Fit) : (make envelope sections).IsWellFormed where
  magic := magic
  extrasLength :=
    UInt8.toNat_ofNat_of_lt' (Nat.lt_succ_of_le fit.extras_le)
  keyLength := UInt16.toNat_ofNat_of_lt' (Nat.lt_succ_of_le fit.key_le)
  bodyLength :=
    UInt32.toNat_ofNat_of_lt'
      (Nat.lt_of_le_of_lt fit.length_le (by decide))
  length_le := fit.length_le

/-- A frame that was written is parsed, whatever follows it. -/
theorem parse_frameBytes
    {envelope : Envelope}
    {sections : Sections}
    (magic :
      envelope.magic = requestMagic ∨ envelope.magic = responseMagic)
    (fit : sections.Fit)
    (trailing : Bytes) :
    parse (frameBytes envelope sections ++ trailing) =
      .ok (make envelope sections) := by
  apply parse_eq_ok_iff.mpr
  refine ⟨isWellFormed_make magic fit, ?_⟩
  rw [bytes_make]
  exact List.prefix_append _ trailing

/-- A well-formed frame is made of its envelope and its sections. -/
theorem IsWellFormed.make_eq
    {frame : Frame}
    (wellFormed : frame.IsWellFormed) :
    make frame.header.envelope frame.sections = frame := by
  obtain ⟨header, sections⟩ := frame
  have extras := congrArg UInt8.ofNat wellFormed.extrasLength
  have key := congrArg UInt16.ofNat wellFormed.keyLength
  have body := congrArg UInt32.ofNat wellFormed.bodyLength
  simp only [UInt8.ofNat_toNat, UInt16.ofNat_toNat,
    UInt32.ofNat_toNat] at extras key body
  simp only [make, Envelope.header, Header.envelope, ← extras, ← key, ← body]

/-- A frame that was parsed is written as it stood in the bytes. -/
theorem frameBytes_of_parse
    {bytes : Bytes}
    {frame : Frame}
    (parsed : parse bytes = .ok frame) :
    frameBytes frame.header.envelope frame.sections =
      bytes.take frame.header.frameLength := by
  obtain ⟨wellFormed, rest, rfl⟩ := parse_eq_ok_iff.mp parsed
  rw [List.take_left' wellFormed.length_bytes, ← bytes_make,
    wellFormed.make_eq]

end Frame

/--
Writing and parsing frames undo each other. A frame with a known magic whose
sections fit is parsed back to its fields and its sections, whatever follows it.
A frame that is accepted is written back to the bytes that it took up: a
response under the status that its code stands for, a request under the command
that its byte stands for. In an accepted header the three lengths add up to the
length of the body.
-/
theorem parsing_undoes_writing :
    (∀ (envelope : Envelope) (sections : Sections) (trailing : Bytes),
      (envelope.magic = requestMagic ∨ envelope.magic = responseMagic) →
      sections.Fit →
      ∃ frame,
        Frame.parse (frameBytes envelope sections ++ trailing) = .ok frame ∧
          frame.header.envelope = envelope ∧ frame.sections = sections) ∧
      (∀ (bytes : Bytes) (frame : Frame),
        Frame.parse bytes = .ok frame →
        frame.header.frameLength ≤ bytes.length ∧
          (frame.header.isResponse →
            responseFrame frame.header.command frame.header.datatype
                frame.header.status frame.header.correlation frame.header.cas
                frame.sections =
              bytes.take frame.header.frameLength) ∧
          ∀ command,
            ¬ frame.header.isResponse →
            Command.ofByte? frame.header.command = some command →
            requestFrame command frame.header.datatype
                frame.header.partitionOrStatus frame.header.correlation
                frame.header.cas frame.sections =
              bytes.take frame.header.frameLength) ∧
      ∀ (bytes : Bytes) (header : Header),
        Header.parse bytes = .ok header →
        header.extrasLength.toNat + header.keyLength.toNat +
            header.valueLength =
          header.bodyLength.toNat := by
  refine ⟨?_, ?_, ?_⟩
  · intro envelope sections trailing magic fit
    exact ⟨_, Frame.parse_frameBytes magic fit trailing, rfl, rfl⟩
  · intro bytes frame parsed
    have written := Frame.frameBytes_of_parse parsed
    obtain ⟨wellFormed, isPrefix⟩ := Frame.parse_eq_ok_iff.mp parsed
    refine ⟨?_, ?_, ?_⟩
    · rw [← wellFormed.length_bytes]
      exact isPrefix.length_le
    · intro isResponse
      have magic : frame.header.magic = responseMagic :=
        of_decide_eq_true isResponse
      rw [← written, responseFrame, Header.status, Status.code_ofCode, ← magic]
      rfl
    · intro command isRequest known
      have magic : frame.header.magic = requestMagic :=
        wellFormed.magic.resolve_right (isRequest ∘ decide_eq_true)
      rw [← written, requestFrame, Command.byte_of_ofByte? known, ← magic]
      rfl
  · intro bytes header parsed
    exact (Header.parse_eq_ok_iff.mp parsed).1.length_eq

/-- A response frame with one byte in each section and two bytes behind it. -/
theorem parsing_undoes_writing_trailing :
    let envelope : Envelope := ⟨responseMagic, 0xd0, 0, 0xcc, 7, 9⟩
    let sections : Sections := ⟨[1], [2], [3]⟩
    (∃ frame,
      Frame.parse (frameBytes envelope sections ++ [4, 5]) = .ok frame ∧
        frame.header.envelope = envelope ∧ frame.sections = sections) ∧
      responseFrame 0xd0 0 .subdocMultiPathFailure 7 9 sections =
        (frameBytes envelope sections ++ [4, 5]).take 27 := by
  intro envelope sections
  obtain ⟨reads, writes, -⟩ := parsing_undoes_writing
  have fit : sections.Fit := ⟨by decide, by decide, by decide⟩
  refine ⟨reads envelope sections [4, 5] (.inr rfl) fit, ?_⟩
  exact (writes _ (Frame.make envelope sections) (by decide)).2.1 (by decide)

end ClusterClient.Wire
