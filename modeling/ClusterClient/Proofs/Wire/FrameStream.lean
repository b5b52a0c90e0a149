import ClusterClient.Proofs.Wire.Frames

namespace ClusterClient.Wire

/-!
# Cutting a stream into frames

A stream is cut where its first frame ends, again and again. The header of a
frame says where that is, so the answer is settled once the header and the body
have arrived, and nothing that arrives later changes it. What is cut off
therefore depends on the bytes of the stream alone, not on the chunks in which
they arrive: of a stream of written frames, exactly those frames are cut off
that have arrived as a whole.
-/

namespace Header

/-- What follows a header does not matter to it. -/
theorem ofBytes_append
    {bytes : Bytes}
    (enough : headerSize ≤ bytes.length)
    (trailing : Bytes) : ofBytes (bytes ++ trailing) = ofBytes bytes := by
  have split : bytes = (ofBytes bytes).bytes ++ bytes.drop headerSize := by
    rw [bytes_ofBytes enough, List.take_append_drop]
  have whole := ofBytes_bytes (ofBytes bytes)
  rw [split, List.append_assoc, whole, whole]

theorem parse_append
    {bytes : Bytes}
    (enough : headerSize ≤ bytes.length)
    (trailing : Bytes) : parse (bytes ++ trailing) = parse bytes := by
  have long : ¬ bytes.length < headerSize := Nat.not_lt.mpr enough
  have longer : ¬ (bytes ++ trailing).length < headerSize := by
    rw [List.length_append]
    omega
  rw [parse, parse, if_neg long, if_neg longer, ofBytes_append enough]

/-- Where a header was read, there are bytes enough for it. -/
theorem headerSize_le_of_parse
    {bytes : Bytes}
    {header : Header}
    (headed : parse bytes = .ok header) : headerSize ≤ bytes.length := by
  have isPrefix := (parse_eq_ok_iff.mp headed).2
  have length := isPrefix.length_le
  rwa [length_bytes] at length

end Header

namespace Frame

/-- A frame is refused for its header, whatever is behind the header. -/
theorem parse_of_fault
    {bytes : Bytes}
    {fault : ProtocolFault}
    (refused : Header.parse bytes = .error fault) :
    parse bytes = .error fault := by
  rw [parse, refused]

/-- What follows a whole frame does not matter to it. -/
theorem parse_append
    {bytes : Bytes}
    {frame : Frame}
    (parsed : parse bytes = .ok frame)
    (trailing : Bytes) : parse (bytes ++ trailing) = .ok frame := by
  obtain ⟨wellFormed, isPrefix⟩ := parse_eq_ok_iff.mp parsed
  exact
    parse_eq_ok_iff.mpr
      ⟨wellFormed, isPrefix.trans (List.prefix_append bytes trailing)⟩

end Frame

/-! Where the first frame of a buffer ends. -/

theorem firstFrameLength_of_short
    {buffer : Bytes}
    (short : buffer.length < headerSize) :
    firstFrameLength buffer = .ok none := by
  rw [firstFrameLength, if_pos short]

theorem firstFrameLength_of_header
    {buffer : Bytes}
    {header : Header}
    (headed : Header.parse buffer = .ok header) :
    firstFrameLength buffer =
      if buffer.length < header.frameLength then
        .ok none
      else
        .ok (some header.frameLength) := by
  have enough := Header.headerSize_le_of_parse headed
  rw [firstFrameLength, if_neg (Nat.not_lt.mpr enough), headed]

theorem firstFrameLength_of_fault
    {buffer : Bytes}
    {fault : ProtocolFault}
    (enough : headerSize ≤ buffer.length)
    (refused : Header.parse buffer = .error fault) :
    firstFrameLength buffer = .error fault := by
  rw [firstFrameLength, if_neg (Nat.not_lt.mpr enough), refused]

/-- A buffer begins with a whole frame just when that frame can be parsed. -/
theorem firstFrameLength_eq_some_iff {buffer : Bytes} {length : Nat} :
    firstFrameLength buffer = .ok (some length) ↔
      ∃ frame,
        Frame.parse buffer = .ok frame ∧
          frame.header.frameLength = length := by
  cases headed : Header.parse buffer with
  | error fault =>
      rw [Frame.parse_of_fault headed]
      by_cases short : buffer.length < headerSize
      · simp [firstFrameLength_of_short short]
      · simp [firstFrameLength_of_fault (Nat.le_of_not_lt short) headed]
  | ok header =>
      rw [firstFrameLength_of_header headed, Frame.parse_of_header headed]
      split <;> simp

/-- The first frame of a buffer has a header, and ends inside the buffer. -/
theorem length_of_firstFrameLength
    {buffer : Bytes}
    {length : Nat}
    (found : firstFrameLength buffer = .ok (some length)) :
    headerSize ≤ length ∧ length ≤ buffer.length := by
  obtain ⟨frame, parsed, isLength⟩ := firstFrameLength_eq_some_iff.mp found
  obtain ⟨wellFormed, isPrefix⟩ := Frame.parse_eq_ok_iff.mp parsed
  have whole := isPrefix.length_le
  rw [wellFormed.length_bytes, isLength] at whole
  exact ⟨isLength ▸ Nat.le_add_right .., whole⟩

/-- Only a whole header can be at fault. -/
theorem firstFrameLength_eq_error_iff
    {buffer : Bytes}
    {fault : ProtocolFault} :
    firstFrameLength buffer = .error fault ↔
      headerSize ≤ buffer.length ∧ Header.parse buffer = .error fault := by
  constructor
  · intro refused
    unfold firstFrameLength at refused
    split at refused
    · cases refused
    rename_i enough
    refine ⟨Nat.le_of_not_lt enough, ?_⟩
    split at refused
    · cases refused
      assumption
    · split at refused <;> cases refused
  · rintro ⟨enough, refused⟩
    exact firstFrameLength_of_fault enough refused

/-- What arrives behind a whole frame does not change where the frame ends. -/
theorem firstFrameLength_append
    {buffer : Bytes}
    {length : Nat}
    (found : firstFrameLength buffer = .ok (some length))
    (trailing : Bytes) :
    firstFrameLength (buffer ++ trailing) = .ok (some length) := by
  obtain ⟨frame, parsed, isLength⟩ := firstFrameLength_eq_some_iff.mp found
  exact
    firstFrameLength_eq_some_iff.mpr
      ⟨frame, Frame.parse_append parsed trailing, isLength⟩

/-- What arrives behind a faulty header does not mend it. -/
theorem firstFrameLength_append_of_fault
    {buffer : Bytes}
    {fault : ProtocolFault}
    (refused : firstFrameLength buffer = .error fault)
    (trailing : Bytes) :
    firstFrameLength (buffer ++ trailing) = .error fault ∧
      Frame.parse (buffer ++ trailing) = .error fault := by
  obtain ⟨enough, faulty⟩ := firstFrameLength_eq_error_iff.mp refused
  have longer : headerSize ≤ (buffer ++ trailing).length := by
    rw [List.length_append]
    omega
  rw [← Header.parse_append enough trailing] at faulty
  exact
    ⟨firstFrameLength_of_fault longer faulty, Frame.parse_of_fault faulty⟩

/-- While bytes of its first frame are missing, a buffer begins with none. -/
theorem firstFrameLength_of_part
    {whole part : Bytes}
    (complete : firstFrameLength whole = .ok (some whole.length))
    (isPrefix : part <+: whole)
    (proper : part ≠ whole) :
    firstFrameLength part = .ok none ∧
      ∃ fault, Frame.parse part = .error fault := by
  obtain ⟨rest, rfl⟩ := isPrefix
  have shorter : part.length < (part ++ rest).length := by
    rw [List.length_append]
    have some_rest : rest ≠ [] := by
      rintro rfl
      exact proper (List.append_nil part).symm
    exact Nat.lt_add_of_pos_right (List.length_pos_iff.mpr some_rest)
  have notFound : ∀ length, firstFrameLength part ≠ .ok (some length) := by
    intro length found
    have same := firstFrameLength_append found rest
    rw [complete] at same
    cases same
    have inside := (length_of_firstFrameLength found).2
    omega
  have unread : ∃ fault, Frame.parse part = .error fault := by
    cases parsed : Frame.parse part with
    | error fault => exact ⟨fault, rfl⟩
    | ok frame =>
        have found := firstFrameLength_eq_some_iff.mpr ⟨frame, parsed, rfl⟩
        exact absurd found (notFound _)
  refine ⟨?_, unread⟩
  cases answer : firstFrameLength part with
  | error fault =>
      have refused := (firstFrameLength_append_of_fault answer rest).1
      rw [complete] at refused
      cases refused
  | ok found =>
      cases found with
      | none => rfl
      | some length => exact absurd answer (notFound length)

/-! Cutting frames off a buffer. -/

/-- What has been cut off a stream, and the bytes that are left. -/
structure Cutting where
  frames : List Bytes
  rest : Bytes
  deriving Repr, DecidableEq

namespace Cutting

/-- The same cutting behind frames that were cut off before. -/
def behind (frames : List Bytes) (cutting : Cutting) : Cutting :=
  { cutting with frames := frames ++ cutting.frames }

/-- Cut off the first frame of a buffer, until the buffer begins with none. -/
def ofBuffer (buffer : Bytes) : Except ProtocolFault Cutting :=
  match _found : firstFrameLength buffer with
  | .error fault => .error fault
  | .ok none => .ok ⟨[], buffer⟩
  | .ok (some length) =>
      (ofBuffer (buffer.drop length)).map (behind [buffer.take length])
  termination_by buffer.length
  decreasing_by
    have bounds := length_of_firstFrameLength _found
    have positive : 0 < headerSize := by decide
    rw [List.length_drop]
    omega

/-- Some more bytes of the stream arrive. -/
def arrive (cutting : Cutting) (chunk : Bytes) :
    Except ProtocolFault Cutting :=
  (ofBuffer (cutting.rest ++ chunk)).map (behind cutting.frames)

/-- The bytes of a stream arrive in chunks. -/
def ofChunks (chunks : List Bytes) : Except ProtocolFault Cutting :=
  chunks.foldlM arrive ⟨[], []⟩

theorem ofBuffer_of_none
    {buffer : Bytes}
    (missing : firstFrameLength buffer = .ok none) :
    ofBuffer buffer = .ok ⟨[], buffer⟩ := by
  unfold ofBuffer
  split <;> simp_all

theorem ofBuffer_of_fault
    {buffer : Bytes}
    {fault : ProtocolFault}
    (refused : firstFrameLength buffer = .error fault) :
    ofBuffer buffer = .error fault := by
  unfold ofBuffer
  split <;> simp_all

theorem ofBuffer_of_some
    {buffer : Bytes}
    {length : Nat}
    (found : firstFrameLength buffer = .ok (some length)) :
    ofBuffer buffer =
      (ofBuffer (buffer.drop length)).map (behind [buffer.take length]) := by
  conv => lhs; unfold ofBuffer
  split <;> simp_all

/-- Frames that were cut off before stay in front. -/
theorem map_behind_map
    (first second : List Bytes)
    (cut : Except ProtocolFault Cutting) :
    (cut.map (behind second)).map (behind first) =
      cut.map (behind (first ++ second)) := by
  cases cut <;> simp [Except.map, behind]

theorem map_behind_nil (cut : Except ProtocolFault Cutting) :
    cut.map (behind []) = cut := by
  cases cut <;> rfl

/-- Bytes that arrive later are cut together with what was left before. -/
theorem ofBuffer_append (buffer trailing : Bytes) :
    ofBuffer (buffer ++ trailing) =
      (ofBuffer buffer).bind fun cutting => cutting.arrive trailing := by
  fun_induction ofBuffer buffer with
  | case1 buffer fault refused =>
      have stays := (firstFrameLength_append_of_fault refused trailing).1
      rw [ofBuffer_of_fault stays]
      rfl
  | case2 buffer missing => exact (map_behind_nil _).symm
  | case3 buffer length found inductionHypothesis =>
      have inside := (length_of_firstFrameLength found).2
      rw [ofBuffer_of_some (firstFrameLength_append found trailing),
        List.drop_append_of_le_length inside,
        List.take_append_of_le_length inside, inductionHypothesis]
      cases ofBuffer (buffer.drop length) with
      | error fault => rfl
      | ok cutting => exact map_behind_map ..

/-- Only the bytes of a stream matter, not the chunks in which they arrive. -/
theorem ofChunks_eq (chunks : List Bytes) :
    ofChunks chunks = ofBuffer chunks.flatten := by
  induction chunks using List.reverseRecOn with
  | nil => exact (ofBuffer_of_none (firstFrameLength_of_short (by decide))).symm
  | append_singleton chunks chunk inductionHypothesis =>
      have before : chunks.foldlM arrive ⟨[], []⟩ = ofBuffer chunks.flatten :=
        inductionHypothesis
      rw [ofChunks, List.foldlM_append, before, List.flatten_append,
        List.flatten_singleton, ofBuffer_append]
      cases ofBuffer chunks.flatten with
      | error fault => rfl
      | ok cutting => exact bind_pure (cutting.arrive chunk)

end Cutting

/-! Streams of written frames. -/

/-- A frame that is handed to a writer: its lengths fit their fields. -/
structure Outgoing where
  envelope : Envelope
  sections : Sections
  magic : envelope.magic = requestMagic ∨ envelope.magic = responseMagic
  fit : sections.Fit

namespace Outgoing

/-- The bytes of a frame. -/
def bytes (frame : Outgoing) : Bytes :=
  frameBytes frame.envelope frame.sections

/-- The bytes of some frames, one after the other. -/
def stream (frames : List Outgoing) : Bytes :=
  (frames.map bytes).flatten

@[simp] theorem stream_cons (frame : Outgoing) (frames : List Outgoing) :
    stream (frame :: frames) = frame.bytes ++ stream frames := rfl

theorem firstFrameLength_bytes (frame : Outgoing) :
    firstFrameLength frame.bytes = .ok (some frame.bytes.length) := by
  have parsed := Frame.parse_frameBytes frame.magic frame.fit []
  rw [List.append_nil] at parsed
  have wellFormed := Frame.isWellFormed_make frame.magic frame.fit
  apply firstFrameLength_eq_some_iff.mpr
  refine ⟨_, parsed, ?_⟩
  rw [← wellFormed.length_bytes, Frame.bytes_make]
  rfl

end Outgoing

/--
What is cut off a stream of frames of which some bytes have arrived: the frames,
in their order, that have arrived as a whole. The bytes that are left begin with
no whole frame.
-/
structure Cutting.IsExact
    (cutting : Cutting)
    (frames : List Outgoing)
    (arrived : Bytes)
    (count : Nat) : Prop where
  frames_eq : cutting.frames = (frames.take count).map Outgoing.bytes
  arrived_eq : Outgoing.stream (frames.take count) ++ cutting.rest = arrived
  whole : ∀ others ≤ frames.length,
    Outgoing.stream (frames.take others) <+: arrived ↔ others ≤ count
  incomplete : firstFrameLength cutting.rest = .ok none

namespace Cutting

/-- While bytes of the first frame are missing, nothing is cut off. -/
theorem isExact_of_missing
    {frame : Outgoing}
    {frames : List Outgoing}
    {arrived : Bytes}
    (missing : firstFrameLength arrived = .ok none)
    (outside : ¬ frame.bytes <+: arrived) :
    IsExact ⟨[], arrived⟩ (frame :: frames) arrived 0 where
  frames_eq := rfl
  arrived_eq := rfl
  whole := by
    intro others _
    cases others with
    | zero => simp [Outgoing.stream]
    | succ others =>
        refine
          iff_of_false (fun isPrefix => outside ?_) (Nat.not_succ_le_zero _)
        rw [List.take_succ_cons, Outgoing.stream_cons] at isPrefix
        exact (List.prefix_append frame.bytes _).trans isPrefix
  incomplete := missing

/-- A frame that has arrived as a whole is cut off in front of the others. -/
theorem IsExact.behind
    {cutting : Cutting}
    {frame : Outgoing}
    {frames : List Outgoing}
    {arrived : Bytes}
    {count : Nat}
    (isExact : cutting.IsExact frames arrived count) :
    (cutting.behind [frame.bytes]).IsExact (frame :: frames)
      (frame.bytes ++ arrived) (count + 1) where
  frames_eq := by
    rw [Cutting.behind, isExact.frames_eq]
    rfl
  arrived_eq := by
    rw [← isExact.arrived_eq]
    simp [Cutting.behind]
  whole := by
    intro others within
    cases others with
    | zero => simp [Outgoing.stream]
    | succ others =>
        rw [List.take_succ_cons, Outgoing.stream_cons,
          List.prefix_append_right_inj, Nat.succ_le_succ_iff]
        exact isExact.whole others (Nat.le_of_succ_le_succ within)
  incomplete := isExact.incomplete

/-- Of a stream that has arrived in part, just the whole frames are cut off. -/
theorem exists_isExact
    {frames : List Outgoing}
    {arrived : Bytes}
    (isPrefix : arrived <+: Outgoing.stream frames) :
    ∃ cutting count,
      ofBuffer arrived = .ok cutting ∧
        count ≤ frames.length ∧
        cutting.IsExact frames arrived count := by
  induction frames generalizing arrived with
  | nil =>
      have nothing : arrived = [] := List.prefix_nil.mp isPrefix
      subst nothing
      have missing : firstFrameLength [] = .ok none := rfl
      have isExact : IsExact ⟨[], []⟩ [] [] 0 :=
        ⟨rfl, rfl,
          fun _ within => iff_of_true (by simp [Outgoing.stream]) within,
          missing⟩
      exact ⟨_, 0, ofBuffer_of_none missing, Nat.le_refl 0, isExact⟩
  | cons frame frames inductionHypothesis =>
      rw [Outgoing.stream_cons] at isPrefix
      by_cases inside : frame.bytes <+: arrived
      · obtain ⟨later, rfl⟩ := inside
        obtain ⟨cutting, count, cut, within, isExact⟩ :=
          inductionHypothesis ((List.prefix_append_right_inj _).mp isPrefix)
        have found := firstFrameLength_append frame.firstFrameLength_bytes later
        refine
          ⟨cutting.behind [frame.bytes], count + 1, ?_,
            Nat.succ_le_succ within, isExact.behind⟩
        rw [ofBuffer_of_some found, List.drop_left, List.take_left, cut]
        rfl
      · have isPart : arrived <+: frame.bytes :=
          (List.prefix_or_prefix_of_prefix isPrefix
            (List.prefix_append ..)).resolve_right inside
        have proper : arrived ≠ frame.bytes := by
          intro same
          exact inside (same ▸ List.prefix_refl _)
        have missing :=
          (firstFrameLength_of_part frame.firstFrameLength_bytes isPart
            proper).1
        exact
          ⟨_, 0, ofBuffer_of_none missing, Nat.zero_le _,
            isExact_of_missing missing inside⟩

end Cutting

/--
A stream is cut exactly, whatever the chunks in which it arrives. A buffer
begins with a whole frame just when that frame can be parsed; the frame has at
least a header, it ends inside the buffer, and bytes behind it change neither
where it ends nor how it is parsed. A fault stays whatever follows. A frame of
which bytes are missing is no frame yet, and is not parsed either. So of a
stream of written frames that has arrived up to any place, exactly the frames
that have arrived as a whole are cut off, in their order, and the bytes that are
left begin with no whole frame.
-/
theorem streams_are_cut_exactly :
    (∀ (buffer : Bytes) (length : Nat),
      (firstFrameLength buffer = .ok (some length) ↔
        ∃ frame,
          Frame.parse buffer = .ok frame ∧
            frame.header.frameLength = length) ∧
        (firstFrameLength buffer = .ok (some length) →
          headerSize ≤ length ∧ length ≤ buffer.length ∧
            ∀ trailing,
              firstFrameLength (buffer ++ trailing) = .ok (some length) ∧
                Frame.parse (buffer ++ trailing) = Frame.parse buffer)) ∧
      (∀ (buffer trailing : Bytes) (fault : ProtocolFault),
        firstFrameLength buffer = .error fault →
        firstFrameLength (buffer ++ trailing) = .error fault) ∧
      (∀ whole part : Bytes,
        firstFrameLength whole = .ok (some whole.length) →
        part <+: whole →
        part ≠ whole →
        firstFrameLength part = .ok none ∧
          ∃ fault, Frame.parse part = .error fault) ∧
      ∀ (frames : List Outgoing) (chunks : List Bytes),
        chunks.flatten <+: Outgoing.stream frames →
        ∃ cutting count,
          Cutting.ofChunks chunks = .ok cutting ∧
            Cutting.ofBuffer chunks.flatten = .ok cutting ∧
            count ≤ frames.length ∧
            cutting.IsExact frames chunks.flatten count := by
  refine ⟨?_, ?_, ?_, ?_⟩
  · intro buffer length
    refine ⟨firstFrameLength_eq_some_iff, fun found => ?_⟩
    obtain ⟨header, inside⟩ := length_of_firstFrameLength found
    obtain ⟨frame, parsed, -⟩ := firstFrameLength_eq_some_iff.mp found
    refine ⟨header, inside, fun trailing => ?_⟩
    rw [parsed]
    exact
      ⟨firstFrameLength_append found trailing,
        Frame.parse_append parsed trailing⟩
  · intro buffer trailing fault refused
    exact (firstFrameLength_append_of_fault refused trailing).1
  · intro whole part complete isPrefix proper
    exact firstFrameLength_of_part complete isPrefix proper
  · intro frames chunks isPrefix
    obtain ⟨cutting, count, cut, within, isExact⟩ :=
      Cutting.exists_isExact isPrefix
    exact
      ⟨cutting, count, (Cutting.ofChunks_eq chunks).trans cut, cut, within,
        isExact⟩

/-- A request and a response, cut inside the header of the response. -/
theorem streams_are_cut_exactly_in_header :
    let request : Outgoing :=
      { envelope := ⟨requestMagic, 0x00, 0, 7, 1, 0⟩
        sections := ⟨[], [0x6b], []⟩
        magic := .inl rfl
        fit := ⟨by decide, by decide, by decide⟩ }
    let response : Outgoing :=
      { envelope := ⟨responseMagic, 0x00, 0, 0, 1, 9⟩
        sections := ⟨[0, 0, 0, 0], [], [0x7b, 0x7d]⟩
        magic := .inr rfl
        fit := ⟨by decide, by decide, by decide⟩ }
    let chunks : List Bytes :=
      [request.bytes.take 10, request.bytes.drop 10 ++ response.bytes.take 3,
        (response.bytes.take 20).drop 3]
    (∃ cutting,
      Cutting.ofChunks chunks = .ok cutting ∧
        cutting.IsExact [request, response] chunks.flatten 1) ∧
      firstFrameLength (request.bytes ++ response.bytes) = .ok (some 25) ∧
      firstFrameLength (List.replicate 24 0 ++ [0x81]) =
        .error (.unknownMagic 0) ∧
      firstFrameLength (response.bytes.take 20) = .ok none := by
  intro request response chunks
  obtain ⟨found, faults, missing, cuts⟩ := streams_are_cut_exactly
  have isPrefix : chunks.flatten <+: Outgoing.stream [request, response] := by
    decide
  have isRequest : firstFrameLength request.bytes = .ok (some 25) := by
    decide
  have isResponse :
      firstFrameLength response.bytes =
        .ok (some response.bytes.length) := by
    decide
  refine ⟨?_, ?_, ?_, ?_⟩
  · obtain ⟨cutting, count, arrived, -, -, isExact⟩ := cuts _ _ isPrefix
    have first : 1 ≤ count := (isExact.whole 1 (by decide)).mp (by decide)
    have notSecond : ¬ 2 ≤ count :=
      fun both => absurd ((isExact.whole 2 (by decide)).mpr both) (by decide)
    have one : count = 1 := by
      omega
    exact ⟨cutting, arrived, one ▸ isExact⟩
  · exact (((found _ _).2 isRequest).2.2 response.bytes).1
  · exact faults (List.replicate 24 0) [0x81] _ (by decide)
  · exact (missing _ _ isResponse (List.take_prefix ..) (by decide)).1

end ClusterClient.Wire
