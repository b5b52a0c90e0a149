import ClusterClient.Proofs.Wire.FrameStream
import ClusterClient.Proofs.Wire.PathResults
import ClusterClient.Wire.Response

namespace ClusterClient.Wire

/-!
# What answers an operation

The bytes that answer an operation are described by the offsets of their fields:
a response frame whose body has arrived as a whole, the command of the
operation, no compression, and a value of the form that the operation and the
status demand. Decoding accepts exactly these bytes. The results of multi-path
operations are the records of the value one after the other, and what is behind
the declared body is never looked at.
-/

/-! The header of a frame and its value, by the offsets of their fields. -/

/-- A byte that is read as a word is the byte that stands there. -/
theorem ofNat_numberAt_eq_iff
    {bytes : Bytes}
    {offset : Nat}
    {word : UInt8} :
    UInt8.ofNat (numberAt bytes offset 1) = word ↔
      numberAt bytes offset 1 = word.toNat := by
  rw [← UInt8.toNat_inj, UInt8.toNat_ofNat_of_lt' (numberAt_lt bytes offset 1)]

/-- The value section of the frame that some bytes begin with. -/
def valueSection (bytes : Bytes) : Bytes :=
  let front := numberAt bytes 4 1 + numberAt bytes 2 2
  (bytes.drop (headerSize + front)).take (numberAt bytes 8 4 - front)

/-- Some bytes begin with a response frame that is there as a whole. -/
structure IsResponseFrame (bytes : Bytes) : Prop where
  header : headerSize ≤ bytes.length
  magic : numberAt bytes 0 1 = responseMagic.toNat
  body_le : numberAt bytes 8 4 ≤ maxBodySize
  sections_le :
    numberAt bytes 4 1 + numberAt bytes 2 2 ≤ numberAt bytes 8 4
  complete : headerSize + numberAt bytes 8 4 ≤ bytes.length

namespace Header

theorem toNat_bodyLength_ofBytes (bytes : Bytes) :
    (ofBytes bytes).bodyLength.toNat = numberAt bytes 8 4 :=
  UInt32.toNat_ofNat_of_lt' (numberAt_lt bytes 8 4)

theorem toNat_extrasLength_ofBytes (bytes : Bytes) :
    (ofBytes bytes).extrasLength.toNat = numberAt bytes 4 1 :=
  UInt8.toNat_ofNat_of_lt' (numberAt_lt bytes 4 1)

theorem toNat_keyLength_ofBytes (bytes : Bytes) :
    (ofBytes bytes).keyLength.toNat = numberAt bytes 2 2 :=
  UInt16.toNat_ofNat_of_lt' (numberAt_lt bytes 2 2)

/-- The header that is accepted is the one that stands there. -/
theorem eq_ofBytes_of_parse
    {bytes : Bytes}
    {header : Header}
    (headed : parse bytes = .ok header) : header = ofBytes bytes := by
  obtain ⟨rest, rfl⟩ := (parse_eq_ok_iff.mp headed).2
  exact (ofBytes_bytes header rest).symm

end Header

namespace Frame

/-- A frame that is accepted has the header that stands there. -/
theorem header_of_parse
    {bytes : Bytes}
    {frame : Frame}
    (parsed : parse bytes = .ok frame) :
    frame.header = Header.ofBytes bytes := by
  obtain ⟨-, rest, rfl⟩ := parse_eq_ok_iff.mp parsed
  rw [bytes, List.append_assoc, Header.ofBytes_bytes]

/-- A response frame is there as a whole just when it is parsed as one. -/
theorem isResponseFrame_iff {bytes : Bytes} :
    IsResponseFrame bytes ↔
      ∃ frame, parse bytes = .ok frame ∧ frame.header.isResponse := by
  constructor
  · intro isFrame
    have magic : (Header.ofBytes bytes).magic = responseMagic :=
      ofNat_numberAt_eq_iff.mpr isFrame.magic
    have acceptable : (Header.ofBytes bytes).IsAcceptable := by
      refine ⟨.inr magic, ?_, ?_⟩
      · rw [Header.toNat_bodyLength_ofBytes]
        exact isFrame.body_le
      · rw [Header.toNat_bodyLength_ofBytes, Header.toNat_extrasLength_ofBytes,
          Header.toNat_keyLength_ofBytes]
        exact isFrame.sections_le
    have headed : Header.parse bytes = .ok (Header.ofBytes bytes) := by
      refine Header.parse_eq_ok_iff.mpr ⟨acceptable, ?_⟩
      rw [Header.bytes_ofBytes isFrame.header]
      exact List.take_prefix headerSize bytes
    have complete :
        ¬ bytes.length < (Header.ofBytes bytes).frameLength := by
      rw [Header.frameLength, Header.toNat_bodyLength_ofBytes]
      exact Nat.not_lt.mpr isFrame.complete
    rw [parse_of_header headed, if_neg complete]
    exact ⟨_, rfl, decide_eq_true magic⟩
  · rintro ⟨frame, parsed, isResponse⟩
    obtain ⟨wellFormed, isPrefix⟩ := parse_eq_ok_iff.mp parsed
    have magic : frame.header.magic = responseMagic :=
      of_decide_eq_true isResponse
    have acceptable := wellFormed.acceptable
    have complete := isPrefix.length_le
    rw [wellFormed.length_bytes] at complete
    have isHeader := header_of_parse parsed
    rw [isHeader] at magic acceptable complete
    rw [Header.frameLength, Header.toNat_bodyLength_ofBytes] at complete
    refine
      ⟨Nat.le_trans (Nat.le_add_right ..) complete,
        ofNat_numberAt_eq_iff.mp magic, ?_, ?_, complete⟩
    · rw [← Header.toNat_bodyLength_ofBytes]
      exact acceptable.body_le
    · rw [← Header.toNat_bodyLength_ofBytes,
        ← Header.toNat_extrasLength_ofBytes, ← Header.toNat_keyLength_ofBytes]
      exact acceptable.sections_le

/-- The value of a frame stands behind its extras and its key. -/
theorem value_of_parse
    {bytes : Bytes}
    {frame : Frame}
    (parsed : parse bytes = .ok frame) :
    frame.sections.value = valueSection bytes := by
  obtain ⟨wellFormed, isPrefix⟩ := parse_eq_ok_iff.mp parsed
  have isHeader := header_of_parse parsed
  have extras := wellFormed.extrasLength
  have key := wellFormed.keyLength
  have body := wellFormed.bodyLength
  rw [isHeader, Header.toNat_extrasLength_ofBytes] at extras
  rw [isHeader, Header.toNat_keyLength_ofBytes] at key
  rw [isHeader, Header.toNat_bodyLength_ofBytes] at body
  obtain ⟨rest, rfl⟩ := isPrefix
  have front :
      (frame.header.bytes ++
          (frame.sections.extras ++ frame.sections.key)).length =
        headerSize +
          (frame.sections.extras.length + frame.sections.key.length) := by
    rw [List.length_append, List.length_append, Header.length_bytes]
  have behind :
      frame.sections.length -
          (frame.sections.extras.length + frame.sections.key.length) =
        frame.sections.value.length :=
    Nat.add_sub_cancel_left ..
  rw [valueSection, extras, key, body, behind, Frame.bytes, Sections.bytes,
    ← List.append_assoc frame.sections.extras, ← List.append_assoc,
    List.append_assoc _ _ rest, List.drop_left' front, List.take_left]

/-- What is behind the declared body does not matter. -/
theorem parse_append_of_complete
    {bytes : Bytes}
    (complete : headerSize + numberAt bytes 8 4 ≤ bytes.length)
    (trailing : Bytes) : parse (bytes ++ trailing) = parse bytes := by
  have enough : headerSize ≤ bytes.length :=
    Nat.le_trans (Nat.le_add_right ..) complete
  cases headed : Header.parse bytes with
  | error fault =>
      have refused := Header.parse_append enough trailing
      rw [headed] at refused
      rw [parse_of_fault headed, parse_of_fault refused]
  | ok header =>
      have whole : ¬ bytes.length < header.frameLength := by
        rw [Header.eq_ofBytes_of_parse headed, Header.frameLength,
          Header.toNat_bodyLength_ofBytes]
        exact Nat.not_lt.mpr complete
      have parsed := parse_of_header headed
      rw [if_neg whole] at parsed
      rw [parsed, parse_append parsed]

end Frame

/-! The values that operations accept. -/

/-- What an operation and a status demand of the value of a response. -/
def Operation.AcceptsValue
    (operation : Operation)
    (status : Status)
    (value : Bytes) : Prop :=
  match operation with
  | .increment .. | .decrement .. =>
      status.isSuccess → value = [] ∨ 8 ≤ value.length
  | .lookupIn _ specs =>
      status.isSuccess ∨ status.isMultiPathFailure →
      ∃ records : List Bytes,
        value = records.flatten ∧
          records.length = specs.specs.length ∧
          ∀ record ∈ records, IsLookupResult record
  | .mutateIn _ specs _ _ =>
      (status.isSuccess →
        ∃ records : List Bytes,
          value = records.flatten ∧
            ∀ record ∈ records,
              IsMutationResult specs.specs.length record) ∧
        (status.isMultiPathFailure →
          3 ≤ value.length ∧ numberAt value 0 1 < specs.specs.length)
  | .get _ | .insert .. | .upsert .. | .getMeta _ => True

/-- No status is both a success and a failure of some paths. -/
theorem Status.not_isSuccess_of_isMultiPathFailure
    {status : Status}
    (failure : status.isMultiPathFailure) : ¬ status.isSuccess := by
  intro success
  cases status <;>
    first
    | exact absurd failure Bool.false_ne_true
    | exact absurd success Bool.false_ne_true

/-- A counter is read from nothing, or from eight bytes. -/
theorem exists_readCounter_iff {value : Bytes} :
    (∃ payload, readCounter value = .ok payload) ↔
      value = [] ∨ 8 ≤ value.length := by
  unfold readCounter
  split
  · rename_i empty
    exact iff_of_true ⟨_, rfl⟩ (.inl (List.isEmpty_iff.mp empty))
  rename_i some_value
  rw [List.isEmpty_iff] at some_value
  split
  · rename_i short
    refine iff_of_false nofun ?_
    rintro (empty | long)
    · exact some_value empty
    · exact Nat.not_le.mpr short long
  · rename_i long
    exact iff_of_true ⟨_, rfl⟩ (.inr (Nat.le_of_not_lt long))

/-- A lookup body is read when it is made of the expected records. -/
theorem exists_readLookupBody_iff {expected : Nat} {value : Bytes} :
    (∃ fields, readLookupBody expected value = .ok fields) ↔
      ∃ records : List Bytes,
        value = records.flatten ∧
          records.length = expected ∧
          ∀ record ∈ records, IsLookupResult record := by
  constructor
  · rintro ⟨fields, read⟩
    obtain ⟨readFields, count⟩ := readLookupBody_eq_ok_iff.mp read
    obtain ⟨records, isFlatten, areRecords, rfl⟩ :=
      readLookupFields_eq_ok_iff.mp readFields
    rw [List.length_map] at count
    exact ⟨records, isFlatten, count, areRecords⟩
  · rintro ⟨records, rfl, count, areRecords⟩
    refine ⟨records.map .ofRecord, readLookupBody_eq_ok_iff.mpr ?_⟩
    rw [List.length_map]
    exact ⟨readLookupFields_flatten areRecords 0, count⟩

/-- Mutation results are read when the value is made of records. -/
theorem exists_readMutationFields_iff {specCount : Nat} {value : Bytes} :
    (∃ fields, readMutationFields specCount value = .ok fields) ↔
      ∃ records : List Bytes,
        value = records.flatten ∧
          ∀ record ∈ records, IsMutationResult specCount record := by
  constructor
  · rintro ⟨fields, read⟩
    exact exists_records_of_readMutationFields read
  · rintro ⟨records, rfl, areRecords⟩
    exact ⟨_, readMutationFields_flatten areRecords⟩

/-- The failure of a path is read when a spec stands at its index. -/
theorem exists_readMutationFailure_iff {specCount : Nat} {value : Bytes} :
    (∃ payload, readMutationFailure specCount value = .ok payload) ↔
      3 ≤ value.length ∧ numberAt value 0 1 < specCount := by
  unfold readMutationFailure
  split
  · rename_i short
    exact iff_of_false nofun fun long => Nat.not_le.mpr short long.1
  rename_i long
  dsimp only
  rw [UInt8.toNat_ofNat_of_lt' (numberAt_lt value 0 1)]
  split
  · rename_i outside
    exact iff_of_false nofun fun inside => Nat.not_le.mpr inside.2 outside
  · rename_i inside
    exact
      iff_of_true ⟨_, rfl⟩ ⟨Nat.le_of_not_lt long, Nat.lt_of_not_le inside⟩

/-- What is mapped was there before. -/
theorem map_eq_ok_iff
    {Fault First Second : Type}
    {read : Except Fault First}
    {change : First → Second}
    {result : Second} :
    read.map change = .ok result ↔
      ∃ first, read = .ok first ∧ change first = result := by
  cases read <;> simp [Except.map]

theorem exists_map_eq_ok_iff
    {Fault First Second : Type}
    {read : Except Fault First}
    {change : First → Second} :
    (∃ result, read.map change = .ok result) ↔
      ∃ result, read = .ok result := by
  simp only [map_eq_ok_iff]
  exact
    ⟨fun ⟨_, first, read, _⟩ => ⟨first, read⟩,
      fun ⟨first, read⟩ => ⟨_, first, read, rfl⟩⟩

/-- The body of a response is read when the operation accepts its value. -/
theorem exists_readBody_iff
    {operation : Operation}
    {status : Status}
    {sections : Sections} :
    (∃ payload, readBody operation status sections = .ok payload) ↔
      operation.AcceptsValue status sections.value := by
  cases operation with
  | get _ =>
      simp only [readBody]
      split <;> exact iff_of_true ⟨_, rfl⟩ trivial
  | insert | upsert | getMeta => exact iff_of_true ⟨_, rfl⟩ trivial
  | increment | decrement =>
      simp only [readBody, Operation.AcceptsValue]
      split
      · rename_i success
        exact exists_readCounter_iff.trans (imp_iff_right success).symm
      · rename_i failure
        exact iff_of_true ⟨_, rfl⟩ fun success => absurd success failure
  | lookupIn key specs =>
      simp only [readBody, Operation.AcceptsValue, ← Bool.or_eq_true]
      split
      · rename_i hasResults
        exact
          (exists_map_eq_ok_iff.trans exists_readLookupBody_iff).trans
            (imp_iff_right hasResults).symm
      · rename_i noResults
        exact iff_of_true ⟨_, rfl⟩ fun hasResults => absurd hasResults noResults
  | mutateIn key specs cas expiry =>
      simp only [readBody, Operation.AcceptsValue]
      split
      · rename_i success
        have noFailure : ¬ status.isMultiPathFailure := fun failure =>
          Status.not_isSuccess_of_isMultiPathFailure failure success
        rw [imp_iff_right success, imp_iff_not_or,
          and_iff_left (.inl noFailure)]
        exact exists_map_eq_ok_iff.trans exists_readMutationFields_iff
      rename_i noSuccess
      rw [and_iff_right fun success => absurd success noSuccess]
      split
      · rename_i failure
        exact exists_readMutationFailure_iff.trans (imp_iff_right failure).symm
      · rename_i noFailure
        exact iff_of_true ⟨_, rfl⟩ fun failure => absurd failure noFailure

/-! Decoding a response. -/

/-- Only a refusal comes with a text. -/
theorem serverText?_eq_none
    {status : Status}
    {value : Bytes}
    (hasResults : status.isSuccess ∨ status.isMultiPathFailure) :
    serverText? status value = none := by
  rw [serverText?, (Bool.or_eq_true ..).mpr hasResults, Bool.true_or]
  rfl

/-- What a frame says in answer to an operation. -/
def Response.ofFrame
    (operation : Operation)
    (channel : Channel)
    (frame : Frame)
    (body : Payload) : Response where
  correlation := frame.header.correlation
  status := frame.header.status
  cas := frame.header.cas
  body := body
  mutationToken :=
    mutationToken? operation frame.header.status frame.sections.extras channel
  serverText := serverText? frame.header.status frame.sections.value

/-- What an operation expects of the header of a response. -/
structure Operation.Expects
    (operation : Operation)
    (header : Header) : Prop where
  response : header.isResponse
  command : header.command = operation.command.byte
  plain : header.datatype &&& snappyDatatype = 0

namespace Response

/-- A response is decoded from a frame that the operation expects. -/
theorem decode_eq_ok_iff
    {operation : Operation}
    {bytes : Bytes}
    {channel : Channel}
    {response : Response} :
    decode operation bytes channel = .ok response ↔
      ∃ frame body,
        Frame.parse bytes = .ok frame ∧
          operation.Expects frame.header ∧
          readBody operation frame.header.status frame.sections = .ok body ∧
          response = ofFrame operation channel frame body := by
  constructor
  · intro decoded
    unfold decode at decoded
    split at decoded
    · cases decoded
    rename_i frame parsed
    dsimp only at decoded
    split at decoded
    · cases decoded
    rename_i isResponse
    split at decoded
    · cases decoded
    rename_i command
    split at decoded
    · cases decoded
    rename_i plain
    split at decoded
    · cases decoded
    rename_i body read
    cases decoded
    exact
      ⟨frame, body, parsed,
        ⟨Decidable.not_not.mp isResponse, Decidable.not_not.mp command,
          Decidable.not_not.mp plain⟩,
        read, rfl⟩
  · rintro ⟨frame, body, parsed, expected, read, rfl⟩
    rw [decode, parsed]
    dsimp only
    rw [if_neg (not_not_intro expected.response),
      if_neg (not_not_intro expected.command),
      if_neg (not_not_intro expected.plain), read]
    rfl

/-- The status of a response is the one in its header. -/
theorem status_of_decode
    {operation : Operation}
    {bytes : Bytes}
    {channel : Channel}
    {response : Response}
    (decoded : decode operation bytes channel = .ok response) :
    response.status = (Header.ofBytes bytes).status := by
  obtain ⟨frame, body, parsed, -, -, rfl⟩ := decode_eq_ok_iff.mp decoded
  rw [← Frame.header_of_parse parsed]
  rfl

/-- Only the declared frame is looked at. -/
theorem decode_append_of_complete
    {bytes : Bytes}
    (complete : headerSize + numberAt bytes 8 4 ≤ bytes.length)
    (trailing : Bytes)
    (operation : Operation)
    (channel : Channel) :
    decode operation (bytes ++ trailing) channel =
      decode operation bytes channel := by
  rw [decode, Frame.parse_append_of_complete complete trailing, decode]

theorem decode_take
    {bytes : Bytes}
    (complete : headerSize + numberAt bytes 8 4 ≤ bytes.length)
    (trailing : Bytes)
    (operation : Operation)
    (channel : Channel) :
    decode operation
        (bytes.take (headerSize + numberAt bytes 8 4) ++ trailing) channel =
      decode operation bytes channel := by
  have split :=
    List.take_append_drop (headerSize + numberAt bytes 8 4) bytes
  have length := List.length_take_of_le complete
  generalize bytes.take (headerSize + numberAt bytes 8 4) = frame at *
  have inside : 8 + 4 ≤ frame.length := by
    have width : headerSize = 24 := rfl
    omega
  have declared : numberAt bytes 8 4 = numberAt frame 8 4 := by
    rw [← split, numberAt_append_left inside]
  have whole : headerSize + numberAt frame 8 4 ≤ frame.length := by
    omega
  have append := decode_append_of_complete whole
  rw [append trailing, ← append (bytes.drop _), split]

end Response

/-- Some bytes begin with a frame that answers an operation. -/
structure Operation.IsAnsweredBy
    (operation : Operation)
    (bytes : Bytes) : Prop where
  frame : IsResponseFrame bytes
  command : numberAt bytes 1 1 = operation.command.byte.toNat
  plain : UInt8.ofNat (numberAt bytes 5 1) &&& snappyDatatype = 0
  value :
    operation.AcceptsValue
      (Status.ofCode (UInt16.ofNat (numberAt bytes 6 2)))
      (valueSection bytes)

/-- A response is decoded from exactly the bytes that answer the operation. -/
theorem exists_decode_iff
    (operation : Operation)
    (bytes : Bytes)
    (channel : Channel) :
    (∃ response, Response.decode operation bytes channel = .ok response) ↔
      operation.IsAnsweredBy bytes := by
  constructor
  · rintro ⟨response, decoded⟩
    obtain ⟨frame, body, parsed, expected, read, -⟩ :=
      Response.decode_eq_ok_iff.mp decoded
    have isFrame : IsResponseFrame bytes :=
      Frame.isResponseFrame_iff.mpr ⟨frame, parsed, expected.response⟩
    have command := expected.command
    have plain := expected.plain
    have value := exists_readBody_iff.mp ⟨body, read⟩
    rw [Frame.header_of_parse parsed] at command plain value
    rw [Frame.value_of_parse parsed] at value
    exact ⟨isFrame, ofNat_numberAt_eq_iff.mp command, plain, value⟩
  · intro answered
    obtain ⟨frame, parsed, isResponse⟩ :=
      Frame.isResponseFrame_iff.mp answered.frame
    have isHeader := Frame.header_of_parse parsed
    have expected : operation.Expects frame.header := by
      refine ⟨isResponse, ?_, ?_⟩
      · rw [isHeader]
        exact ofNat_numberAt_eq_iff.mpr answered.command
      · rw [isHeader]
        exact answered.plain
    have accepted :
        operation.AcceptsValue frame.header.status frame.sections.value := by
      rw [isHeader, Frame.value_of_parse parsed]
      exact answered.value
    obtain ⟨body, read⟩ := exists_readBody_iff.mpr accepted
    exact
      ⟨_, Response.decode_eq_ok_iff.mpr
        ⟨frame, body, parsed, expected, read, rfl⟩⟩

/-- All other bytes are refused with a fault. -/
theorem exists_decode_fault_iff
    (operation : Operation)
    (bytes : Bytes)
    (channel : Channel) :
    (∃ fault, Response.decode operation bytes channel = .error fault) ↔
      ¬ operation.IsAnsweredBy bytes := by
  rw [← exists_decode_iff operation bytes channel]
  generalize Response.decode operation bytes channel = decoded
  cases decoded with
  | error fault =>
      refine iff_of_true ⟨fault, rfl⟩ ?_
      rintro ⟨response, accepted⟩
      cases accepted
  | ok response =>
      refine iff_of_false ?_ fun refused => refused ⟨response, rfl⟩
      rintro ⟨fault, refused⟩
      cases refused

/-- The results of a lookup are the records that its value is made of. -/
theorem exists_lookup_of_decode
    {key : DocumentKey}
    {specs : LookupSpecs}
    {bytes : Bytes}
    {channel : Channel}
    {response : Response}
    (decoded :
      Response.decode (.lookupIn key specs) bytes channel = .ok response)
    (hasResults :
      response.status.isSuccess ∨ response.status.isMultiPathFailure) :
    ∃ fields,
      response.body = .lookup fields ∧
        (fields.map LookupField.bytes).flatten = valueSection bytes := by
  obtain ⟨frame, body, parsed, -, read, rfl⟩ :=
    Response.decode_eq_ok_iff.mp decoded
  rw [← Frame.value_of_parse parsed]
  simp only [readBody] at read
  rw [if_pos (Bool.or_eq_true .. ▸ hasResults)] at read
  obtain ⟨fields, results, rfl⟩ := map_eq_ok_iff.mp read
  exact
    ⟨fields, rfl,
      flatten_bytes_of_readLookupFields
        (readLookupBody_eq_ok_iff.mp results).1⟩

/-- The results of a mutation are the records that its value is made of. -/
theorem exists_mutation_of_decode
    {key : DocumentKey}
    {specs : MutationSpecs}
    {cas : Cas}
    {expiry : UInt32}
    {bytes : Bytes}
    {channel : Channel}
    {response : Response}
    (decoded :
      Response.decode (.mutateIn key specs cas expiry) bytes channel =
        .ok response)
    (success : response.status.isSuccess) :
    ∃ fields,
      response.body = .mutation fields ∧
        (fields.map MutationField.bytes).flatten = valueSection bytes := by
  obtain ⟨frame, body, parsed, -, read, rfl⟩ :=
    Response.decode_eq_ok_iff.mp decoded
  rw [← Frame.value_of_parse parsed]
  have isSuccess : frame.header.status.isSuccess := success
  simp only [readBody] at read
  rw [if_pos isSuccess] at read
  obtain ⟨fields, results, rfl⟩ := map_eq_ok_iff.mp read
  exact ⟨fields, rfl, flatten_bytes_of_readMutationFields results⟩

/--
Decoding accepts exactly the bytes that begin with an answer to the operation,
and has a fault for all others. The results of a lookup, with a success or a
failure of some paths, and those of a successful mutation are written as the
value section that they were read from, byte for byte. No byte behind the
declared body is looked at.
-/
theorem answers_are_accepted_exactly :
    (∀ (operation : Operation) (bytes : Bytes) (channel : Channel),
      ((∃ response, Response.decode operation bytes channel = .ok response) ↔
        operation.IsAnsweredBy bytes) ∧
        ((∃ fault, Response.decode operation bytes channel = .error fault) ↔
          ¬ operation.IsAnsweredBy bytes)) ∧
      (∀ (key : DocumentKey) (specs : LookupSpecs) (bytes : Bytes)
          (channel : Channel) (response : Response),
        Response.decode (.lookupIn key specs) bytes channel = .ok response →
        (response.status.isSuccess ∨ response.status.isMultiPathFailure) →
        ∃ fields,
          response.body = .lookup fields ∧
            (fields.map LookupField.bytes).flatten = valueSection bytes) ∧
      (∀ (key : DocumentKey) (specs : MutationSpecs) (cas : Cas)
          (expiry : UInt32) (bytes : Bytes) (channel : Channel)
          (response : Response),
        Response.decode (.mutateIn key specs cas expiry) bytes channel =
          .ok response →
        response.status.isSuccess →
        ∃ fields,
          response.body = .mutation fields ∧
            (fields.map MutationField.bytes).flatten = valueSection bytes) ∧
      ∀ (operation : Operation) (bytes : Bytes) (channel : Channel),
        headerSize + numberAt bytes 8 4 ≤ bytes.length →
        ∀ trailing,
          Response.decode operation
              (bytes.take (headerSize + numberAt bytes 8 4) ++ trailing)
              channel =
            Response.decode operation bytes channel := by
  refine ⟨?_, ?_, ?_, ?_⟩
  · intro operation bytes channel
    exact ⟨exists_decode_iff .., exists_decode_fault_iff ..⟩
  · intro key specs bytes channel response decoded hasResults
    exact exists_lookup_of_decode decoded hasResults
  · intro key specs cas expiry bytes channel response decoded success
    exact exists_mutation_of_decode decoded success
  · intro operation bytes channel complete trailing
    exact Response.decode_take complete trailing operation channel

/--
A lookup of one path and an upsert of it, each answered with one record. A
record of which the last byte is missing does not answer the lookup.
-/
theorem answers_are_accepted_exactly_one_record :
    let key : DocumentKey := ⟨"doc", .default, 0, by decide, by decide⟩
    let lookup : LookupSpecs :=
      ⟨[⟨.get, "a"⟩], ⟨by decide, by decide⟩,
        List.forall_mem_singleton.mpr ⟨.inr (by decide), by decide⟩⟩
    let upsert : MutationSpecs :=
      ⟨[.upsert "a" [0x31]], ⟨by decide, by decide⟩,
        List.forall_mem_singleton.mpr ⟨by decide, by decide, by decide⟩,
        by decide⟩
    let channel := Channel.ofBucket "default"
    let correlation : Bytes := [0, 0, 0, 5]
    let version : Bytes := [0, 0, 0, 0, 0, 0, 0, 9]
    let found : Bytes := [0, 0, 0, 0, 0, 1, 0x31]
    let answer : Bytes :=
      [0x81, 0xd0, 0, 0, 0, 0, 0, 0, 0, 0, 0, 7] ++
        (correlation ++ (version ++ found))
    let changed : Bytes := [0, 0, 0, 0, 0, 0, 0]
    let confirmation : Bytes :=
      [0x81, 0xd1, 0, 0, 0, 0, 0, 0, 0, 0, 0, 7] ++
        (correlation ++ (version ++ changed))
    (∃ response fields,
      Response.decode (.lookupIn key lookup) answer channel = .ok response ∧
        response.body = .lookup fields ∧
        (fields.map LookupField.bytes).flatten = found) ∧
      (∃ fault,
        Response.decode (.lookupIn key lookup) answer.dropLast channel =
          .error fault) ∧
      (∃ response fields,
        Response.decode (.mutateIn key upsert anyVersion 0) confirmation
            channel = .ok response ∧
          response.body = .mutation fields ∧
          (fields.map MutationField.bytes).flatten = changed) ∧
      Response.decode (.lookupIn key lookup) (answer ++ [4, 5]) channel =
        Response.decode (.lookupIn key lookup) answer channel := by
  intro key lookup upsert channel correlation version found answer changed
    confirmation
  obtain ⟨accepts, lookups, mutations, extent⟩ := answers_are_accepted_exactly
  refine ⟨?_, ?_, ?_, ?_⟩
  · have answered : (Operation.lookupIn key lookup).IsAnsweredBy answer :=
      ⟨⟨by decide, by decide, by decide, by decide, by decide⟩, by decide,
        by decide, fun _ => ⟨[found], by decide, rfl,
          List.forall_mem_singleton.mpr rfl⟩⟩
    obtain ⟨response, decoded⟩ := (accepts _ _ channel).1.mpr answered
    have success : response.status.isSuccess := by
      rw [Response.status_of_decode decoded]
      decide
    obtain ⟨fields, body, written⟩ :=
      lookups _ _ _ _ _ decoded (.inl success)
    exact ⟨response, fields, decoded, body, written.trans (by decide)⟩
  · apply (accepts _ _ channel).2.mpr
    intro answered
    exact absurd answered.frame.complete (by decide)
  · have answered :
        (Operation.mutateIn key upsert anyVersion 0).IsAnsweredBy
          confirmation :=
      ⟨⟨by decide, by decide, by decide, by decide, by decide⟩, by decide,
        by decide, fun _ => ⟨[changed], by decide,
          List.forall_mem_singleton.mpr ⟨rfl, by decide⟩⟩,
        fun failure => absurd failure (by decide)⟩
    obtain ⟨response, decoded⟩ := (accepts _ _ channel).1.mpr answered
    have success : response.status.isSuccess := by
      rw [Response.status_of_decode decoded]
      decide
    obtain ⟨fields, body, written⟩ := mutations _ _ _ _ _ _ _ decoded success
    exact ⟨response, fields, decoded, body, written.trans (by decide)⟩
  · have complete : headerSize + numberAt answer 8 4 = answer.length := by
      decide
    have whole := extent (.lookupIn key lookup) answer channel
      (Nat.le_of_eq complete) [4, 5]
    rwa [complete, List.take_length] at whole

end ClusterClient.Wire
