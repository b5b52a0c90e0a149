import ClusterClient.Proofs.Wire.ResponseGrammar

namespace ClusterClient.Wire

/-!
# Replies are decoded as they were sent

A reply is what a server has to say about an operation: the result of a success,
the results of its paths, or the text that comes with a refusal. It is laid out
in the sections of a response frame, and decoding the frame recovers it.
-/

/-- Where a mutation stands in its partition: the words of a token. -/
structure TokenWords where
  partitionUuid : UInt64
  sequenceNumber : UInt64
  deriving Repr, DecidableEq

/-- The extras that carry a token, if there is one. -/
def tokenExtras : Option TokenWords → Bytes
  | some words =>
      writeNumber 8 words.partitionUuid.toNat ++
        writeNumber 8 words.sequenceNumber.toNat
  | none => []

/-- What a server has to say about an operation. -/
inductive Reply where
  | document (flags : UInt32) (content : Bytes)
  | stored (token : Option TokenWords)
  | counted (value : UInt64) (token : Option TokenWords)
  | metadata (flags : UInt32) (text : String)
  | lookedUp (fields : List LookupField)
  | mutated (fields : List MutationField) (token : Option TokenWords)
  | pathFailed (index : UInt8) (status : Status)
  | refused (text : String)
  deriving Repr, DecidableEq

/-- The operation has specs, and its failure may be that of a path. -/
def Operation.isMultiPath : Operation → Bool
  | .lookupIn .. | .mutateIn .. => true
  | _ => false

/-- The status refuses the operation as a whole. -/
def Status.isRefusal (status : Status) : Bool :=
  !status.isSuccess && !status.isMultiPathFailure

/-- The replies that an operation can have under a status. -/
inductive IsReply (status : Status) : Operation → Reply → Prop
  | document
      {key : DocumentKey} {flags : UInt32} {content : Bytes}
      (success : status.isSuccess) :
      IsReply status (.get key) (.document flags content)
  | inserted
      {key : DocumentKey} {content : Content} {expiry : UInt32}
      {token : Option TokenWords}
      (success : status.isSuccess) :
      IsReply status (.insert key content expiry) (.stored token)
  | upserted
      {key : DocumentKey} {content : Content} {expiry : UInt32} {cas : Cas}
      {token : Option TokenWords}
      (success : status.isSuccess) :
      IsReply status (.upsert key content expiry cas) (.stored token)
  | incremented
      {key : DocumentKey} {counter : CounterChange} {value : UInt64}
      {token : Option TokenWords}
      (success : status.isSuccess) :
      IsReply status (.increment key counter) (.counted value token)
  | decremented
      {key : DocumentKey} {counter : CounterChange} {value : UInt64}
      {token : Option TokenWords}
      (success : status.isSuccess) :
      IsReply status (.decrement key counter) (.counted value token)
  | metadata
      {key : DocumentKey} {flags : UInt32} {text : String}
      (refusal : text ≠ "" → status.isRefusal) :
      IsReply status (.getMeta key) (.metadata flags text)
  | lookedUp
      {key : DocumentKey} {specs : LookupSpecs} {fields : List LookupField}
      (hasResults : status.isSuccess ∨ status.isMultiPathFailure)
      (count : fields.length = specs.specs.length)
      (proper : ∀ field ∈ fields, field.status.IsProper) :
      IsReply status (.lookupIn key specs) (.lookedUp fields)
  | mutated
      {key : DocumentKey} {specs : MutationSpecs} {cas : Cas} {expiry : UInt32}
      {fields : List MutationField} {token : Option TokenWords}
      (success : status.isSuccess)
      (inRange : ∀ field ∈ fields, field.index.toNat < specs.specs.length)
      (proper : ∀ field ∈ fields, field.status.IsProper) :
      IsReply status (.mutateIn key specs cas expiry) (.mutated fields token)
  | pathFailed
      {key : DocumentKey} {specs : MutationSpecs} {cas : Cas} {expiry : UInt32}
      {index : UInt8} {pathStatus : Status}
      (failure : status.isMultiPathFailure)
      (inRange : index.toNat < specs.specs.length)
      (proper : pathStatus.IsProper) :
      IsReply status (.mutateIn key specs cas expiry)
        (.pathFailed index pathStatus)
  | refused
      {operation : Operation} {text : String}
      (failure : ¬ status.isSuccess)
      (whole : operation.isMultiPath → status.isRefusal)
      (refusal : text ≠ "" → status.isRefusal) :
      IsReply status operation (.refused text)

namespace Reply

/-- The extras of the frame of a reply. -/
def extras : Reply → Bytes
  | .document flags _ | .metadata flags _ => writeNumber 4 flags.toNat
  | .stored token | .counted _ token | .mutated _ token => tokenExtras token
  | .lookedUp _ | .pathFailed .. | .refused _ => []

/-- The value of the frame of a reply. -/
def value : Reply → Bytes
  | .document _ content => content
  | .stored _ => []
  | .counted value _ => writeNumber 8 value.toNat
  | .metadata _ text | .refused text => Text.encode text
  | .lookedUp fields => (fields.map LookupField.bytes).flatten
  | .mutated fields _ => (fields.map MutationField.bytes).flatten
  | .pathFailed index status =>
      writeNumber 1 index.toNat ++ writeNumber 2 status.code.toNat

/-- The sections of the frame of a reply; the key may be anything. -/
def sections (reply : Reply) (key : Bytes) : Sections :=
  ⟨reply.extras, key, reply.value⟩

/-- What a reply says about an operation. -/
def payload (operation : Operation) : Reply → Payload
  | .document flags content => .content flags content
  | .stored _ => .empty
  | .counted value _ => .counter value
  | .metadata flags _ => .metadata (flags != 0)
  | .lookedUp fields => .lookup fields
  | .mutated fields _ => .mutation fields
  | .pathFailed index status => .mutationFailed index status
  | .refused _ =>
      match operation with
      | .increment .. | .decrement .. => .counter 0
      | .getMeta _ => .metadata false
      | _ => .empty

/-- The token that a reply carries. -/
def token : Reply → Option TokenWords
  | .stored token | .counted _ token | .mutated _ token => token
  | _ => none

/-- The text that a reply carries. -/
def text : Reply → String
  | .metadata _ text | .refused text => text
  | _ => ""

theorem length_tokenExtras_le (token : Option TokenWords) :
    (tokenExtras token).length ≤ mutationTokenLength := by
  cases token <;> simp [tokenExtras, mutationTokenLength]

theorem length_extras_le (reply : Reply) :
    reply.extras.length ≤ 255 := by
  have token : ∀ token, (tokenExtras token).length ≤ 255 := fun token =>
    Nat.le_trans (length_tokenExtras_le token) (by decide)
  cases reply with
  | document | metadata => simp [extras]
  | stored | counted | mutated => exact token _
  | lookedUp | pathFailed | refused => exact Nat.zero_le _

end Reply

/-! Reading what was laid out. -/

theorem leadingWord?_writeNumber (word : UInt32) :
    leadingWord? (writeNumber 4 word.toNat) = some word := by
  have long : ¬ (writeNumber 4 word.toNat).length < 4 := by
    simp
  rw [leadingWord?, if_neg long, numberAt_last word.toNat_lt,
    UInt32.ofNat_toNat]

theorem readCounter_writeNumber (value : UInt64) :
    readCounter (writeNumber 8 value.toNat) = .ok (.counter value) := by
  have length : (writeNumber 8 value.toNat).length = 8 :=
    length_writeNumber 8 _
  have some_value : ¬ (writeNumber 8 value.toNat).isEmpty = true := by
    rw [List.isEmpty_iff, ← List.length_eq_zero_iff, length]
    decide
  have long : ¬ (writeNumber 8 value.toNat).length < 8 := by
    rw [length]
    decide
  rw [readCounter, if_neg some_value, if_neg long,
    numberAt_last value.toNat_lt, UInt64.ofNat_toNat]

theorem readMutationFailure_bytes
    {specCount : Nat}
    {index : UInt8}
    {status : Status}
    (inRange : index.toNat < specCount)
    (proper : status.IsProper) :
    readMutationFailure specCount
        (writeNumber 1 index.toNat ++ writeNumber 2 status.code.toNat) =
      .ok (.mutationFailed index status) := by
  have long :
      ¬ (writeNumber 1 index.toNat ++
        writeNumber 2 status.code.toNat).length < 3 := by
    simp
  have second :
      numberAt (writeNumber 1 index.toNat ++ writeNumber 2 status.code.toNat)
          1 2 =
        status.code.toNat := by
    rw [numberAt_append (by simp), length_writeNumber]
    exact numberAt_last status.code.toNat_lt
  rw [readMutationFailure, if_neg long, second, numberAt_word8,
    UInt8.ofNat_toNat, UInt16.ofNat_toNat, proper]
  exact if_neg (Nat.not_le.mpr inRange)

namespace Status

theorem isRefusal_iff {status : Status} :
    status.isRefusal ↔ ¬ status.isSuccess ∧ ¬ status.isMultiPathFailure := by
  simp [isRefusal]

end Status

/-- The text of a refusal is read back. -/
theorem serverText?_encode
    {status : Status}
    {text : String}
    (refusal : text ≠ "" → status.isRefusal) :
    serverText? status (Text.encode text) =
      if text = "" then none else some text := by
  split
  · rename_i empty
    rw [serverText?, Text.encode_eq_nil_iff.mpr empty, List.isEmpty_nil,
      Bool.or_true]
    rfl
  · rename_i some_text
    obtain ⟨failure, whole⟩ := Status.isRefusal_iff.mp (refusal some_text)
    have some_bytes : ¬ (Text.encode text).isEmpty = true := by
      rwa [List.isEmpty_iff, Text.encode_eq_nil_iff]
    rw [serverText?, Bool.eq_false_iff.mpr failure,
      Bool.eq_false_iff.mpr whole, Bool.eq_false_iff.mpr some_bytes,
      Text.decodeLossy_encode]
    rfl

/-- Only a successful mutation has a token. -/
theorem mutationToken?_eq_none
    {operation : Operation}
    {status : Status}
    {extras : Bytes}
    {channel : Channel}
    (nothing : ¬ operation.isMutation ∨ ¬ status.isSuccess) :
    mutationToken? operation status extras channel = none := by
  apply if_neg
  intro tokens
  simp only [Bool.and_eq_true] at tokens
  exact nothing.elim (· tokens.1.1.1) (· tokens.1.1.2)

/-- The words of a token are read back. -/
theorem mutationToken?_tokenExtras
    {operation : Operation}
    {status : Status}
    (mutation : operation.isMutation)
    (success : status.isSuccess)
    (token : Option TokenWords)
    (channel : Channel) :
    mutationToken? operation status (tokenExtras token) channel =
      if channel.hasMutationTokens then
        token.map fun words =>
          ⟨operation.key.partition, words.partitionUuid,
            words.sequenceNumber, channel.bucket⟩
      else
        none := by
  rw [mutationToken?, mutation, success, Bool.true_and, Bool.true_and]
  cases channel.hasMutationTokens with
  | false => rfl
  | true =>
      cases token with
      | none => rfl
      | some words =>
          have second :
              numberAt (tokenExtras (some words)) 8 8 =
                words.sequenceNumber.toNat := by
            rw [tokenExtras, numberAt_append (by simp), length_writeNumber]
            exact numberAt_last words.sequenceNumber.toNat_lt
          have enough :
              mutationTokenLength ≤ (tokenExtras (some words)).length := by
            simp [tokenExtras, mutationTokenLength]
          have first :
              numberAt (tokenExtras (some words)) 0 8 =
                words.partitionUuid.toNat :=
            numberAt_word64 ..
          rw [second, first, decide_eq_true enough, UInt64.ofNat_toNat,
            UInt64.ofNat_toNat]
          rfl

/-- What is inside a body is short enough for its length field. -/
theorem length_lt_of_mem
    {record : Bytes}
    {records : List Bytes}
    {headLength length : Nat}
    (member : record ∈ records)
    (isLength : record.length = headLength + length)
    (bounded : records.flatten.length ≤ maxBodySize) :
    length < Nat.pow 256 4 := by
  have inside := (List.sublist_flatten_of_mem member).length_le
  have small : maxBodySize < Nat.pow 256 4 := by
    decide
  omega

namespace IsReply

variable {status : Status} {operation : Operation} {reply : Reply}

/-- A refusal has no body but the text. -/
theorem readBody_refused
    {text : String}
    (failure : ¬ status.isSuccess)
    (whole : operation.isMultiPath → status.isRefusal)
    (key : Bytes) :
    readBody operation status ((Reply.refused text).sections key) =
      .ok ((Reply.refused text).payload operation) := by
  cases operation with
  | get | increment | decrement =>
      simp only [readBody]
      rw [if_neg failure]
      rfl
  | insert | upsert | getMeta => rfl
  | lookupIn =>
      have noPath := (Status.isRefusal_iff.mp (whole rfl)).2
      simp only [readBody]
      rw [if_neg (not_or_intro failure noPath ∘ (Bool.or_eq_true ..).mp)]
      rfl
  | mutateIn =>
      have noPath := (Status.isRefusal_iff.mp (whole rfl)).2
      simp only [readBody]
      rw [if_neg failure, if_neg noPath]
      rfl

/-- The body of a reply is read back. -/
theorem readBody_eq
    (isReply : IsReply status operation reply)
    (bounded : reply.value.length ≤ maxBodySize)
    (key : Bytes) :
    readBody operation status (reply.sections key) =
      .ok (reply.payload operation) := by
  cases isReply with
  | document success =>
      simp only [readBody, Reply.sections, Reply.extras, Reply.value]
      rw [if_pos success, leadingWord?_writeNumber]
      rfl
  | inserted success | upserted success => rfl
  | incremented success | decremented success =>
      simp only [readBody]
      rw [if_pos success]
      exact readCounter_writeNumber _
  | metadata refusal =>
      simp only [readBody, Reply.sections, Reply.extras]
      rw [leadingWord?_writeNumber]
      rfl
  | @lookedUp _ specs fields hasResults count proper =>
      have fit : ∀ field ∈ fields, field.Fits := by
        intro field member
        refine ⟨proper field member, ?_⟩
        exact
          length_lt_of_mem (List.mem_map_of_mem member) field.length_bytes
            bounded
      have read := readLookupFields_bytes fit 0
      simp only [readBody]
      rw [if_pos ((Bool.or_eq_true ..).mpr hasResults), Reply.sections,
        Reply.value, readLookupBody_eq_ok_iff.mpr ⟨read, count⟩]
      rfl
  | @mutated _ specs _ _ fields _ success inRange proper =>
      have fit : ∀ field ∈ fields, field.Fits specs.specs.length := by
        intro field member
        refine ⟨inRange field member, proper field member, ?_⟩
        exact
          length_lt_of_mem (List.mem_map_of_mem member) field.length_bytes
            bounded
      simp only [readBody]
      rw [if_pos success, Reply.sections, Reply.value,
        readMutationFields_bytes fit]
      rfl
  | pathFailed failure inRange proper =>
      have noSuccess :=
        Status.not_isSuccess_of_isMultiPathFailure failure
      simp only [readBody]
      rw [if_neg noSuccess, if_pos failure]
      exact readMutationFailure_bytes inRange proper
  | refused failure whole refusal => exact readBody_refused failure whole key

/-- The text of a reply is read back, if the reply has one. -/
theorem serverText?_eq (isReply : IsReply status operation reply) :
    serverText? status reply.value =
      if reply.text = "" then none else some reply.text := by
  cases isReply with
  | metadata refusal | refused _ _ refusal => exact serverText?_encode refusal
  | document success | inserted success | upserted success
  | incremented success | decremented success | mutated success _ _ =>
      exact serverText?_eq_none (.inl success)
  | lookedUp hasResults _ _ => exact serverText?_eq_none hasResults
  | pathFailed failure _ _ => exact serverText?_eq_none (.inr failure)

/-- The token of a reply is read back, if the channel sends tokens. -/
theorem mutationToken?_eq
    (isReply : IsReply status operation reply)
    (channel : Channel) :
    mutationToken? operation status reply.extras channel =
      if channel.hasMutationTokens then
        reply.token.map fun words =>
          ⟨operation.key.partition, words.partitionUuid,
            words.sequenceNumber, channel.bucket⟩
      else
        none := by
  cases isReply with
  | inserted success | upserted success | incremented success
  | decremented success | mutated success _ _ =>
      exact mutationToken?_tokenExtras rfl success _ channel
  | document _ | metadata _ | lookedUp _ _ _ =>
      refine (mutationToken?_eq_none (.inl ?_)).trans (ite_self none).symm
      exact Bool.false_ne_true
  | pathFailed failure _ _ =>
      have noSuccess := Status.not_isSuccess_of_isMultiPathFailure failure
      exact (mutationToken?_eq_none (.inr noSuccess)).trans (ite_self none).symm
  | refused failure _ _ =>
      exact (mutationToken?_eq_none (.inr failure)).trans (ite_self none).symm

end IsReply

/-- The frame of a reply is decoded as it was sent. -/
theorem decode_responseFrame
    {operation : Operation}
    {status : Status}
    {reply : Reply}
    {datatype : UInt8}
    {key : Bytes}
    (isReply : IsReply status operation reply)
    (proper : status.IsProper)
    (plain : datatype &&& snappyDatatype = 0)
    (key_le : key.length ≤ 65535)
    (length_le : (reply.sections key).length ≤ maxBodySize)
    (channel : Channel)
    (correlation : UInt32)
    (cas : Cas) :
    Response.decode operation
        (responseFrame operation.command.byte datatype status correlation cas
          (reply.sections key))
        channel =
      .ok {
        correlation := correlation
        status := status
        cas := cas
        body := reply.payload operation
        mutationToken :=
          if channel.hasMutationTokens then
            reply.token.map fun words =>
              ⟨operation.key.partition, words.partitionUuid,
                words.sequenceNumber, channel.bucket⟩
          else
            none
        serverText := if reply.text = "" then none else some reply.text
      } := by
  let envelope : Envelope :=
    ⟨responseMagic, operation.command.byte, datatype, status.code,
      correlation, cas⟩
  let frame := Frame.make envelope (reply.sections key)
  have fit : (reply.sections key).Fit :=
    ⟨reply.length_extras_le, key_le, length_le⟩
  have parsed :
      Frame.parse (frameBytes envelope (reply.sections key)) = .ok frame := by
    have magic : envelope.magic = responseMagic := rfl
    have written := Frame.parse_frameBytes (.inr magic) fit []
    rwa [List.append_nil] at written
  have isStatus : frame.header.status = status := proper
  have expected : operation.Expects frame.header := ⟨rfl, rfl, plain⟩
  have bounded : reply.value.length ≤ maxBodySize :=
    Nat.le_trans (Nat.le_add_left ..) length_le
  have read := isReply.readBody_eq bounded key
  rw [← isReply.serverText?_eq, ← isReply.mutationToken?_eq channel]
  apply Response.decode_eq_ok_iff.mpr
  refine ⟨frame, reply.payload operation, parsed, expected, ?_, ?_⟩
  · rw [isStatus]
    exact read
  · rw [Response.ofFrame, isStatus]
    rfl

/--
A reply is decoded as it was sent. Whatever a server has to say about an
operation under a status, decoding its frame recovers the correlation number,
the status, the version and the body, the text that a refusal came with, and the
token of a successful mutation where the channel has tokens: on the partition of
the document, in the bucket of the channel. A status that no code stands for has
the frame of the status that its code does stand for, so nothing tells them
apart.
-/
theorem replies_are_decoded_as_sent :
    (∀ (operation : Operation) (channel : Channel) (datatype : UInt8)
        (status : Status) (correlation : UInt32) (cas : Cas) (key : Bytes)
        (reply : Reply),
      IsReply status operation reply →
      status.IsProper →
      datatype &&& snappyDatatype = 0 →
      key.length ≤ 65535 →
      (reply.sections key).length ≤ maxBodySize →
      Response.decode operation
          (responseFrame operation.command.byte datatype status correlation
            cas (reply.sections key))
          channel =
        .ok {
          correlation := correlation
          status := status
          cas := cas
          body := reply.payload operation
          mutationToken :=
            if channel.hasMutationTokens then
              reply.token.map fun words =>
                ⟨operation.key.partition, words.partitionUuid,
                  words.sequenceNumber, channel.bucket⟩
            else
              none
          serverText := if reply.text = "" then none else some reply.text
        }) ∧
      ∀ (command datatype : UInt8) (status : Status) (correlation : UInt32)
          (cas : Cas) (sections : Sections),
        (Status.ofCode status.code).IsProper ∧
          responseFrame command datatype status correlation cas sections =
            responseFrame command datatype (Status.ofCode status.code)
              correlation cas sections := by
  constructor
  · intro operation channel datatype status correlation cas key reply isReply
      proper plain key_le length_le
    exact
      decode_responseFrame isReply proper plain key_le length_le channel
        correlation cas
  · intro command datatype status correlation cas sections
    refine ⟨Status.isProper_ofCode status.code, ?_⟩
    rw [responseFrame, responseFrame, Status.code_ofCode]

/--
A lookup of a path that is missing, and a counter that is incremented on a
channel with tokens.
-/
theorem replies_are_decoded_as_sent_with_token :
    let key : DocumentKey := ⟨"doc", .default, 513, by decide, by decide⟩
    let specs : LookupSpecs :=
      ⟨[⟨.get, "a"⟩], ⟨by decide, by decide⟩,
        List.forall_mem_singleton.mpr ⟨.inr (by decide), by decide⟩⟩
    let counter : CounterChange := ⟨1, none, 0, by decide, nofun⟩
    let channel : Channel := ⟨true, true, "default"⟩
    let missing : LookupField := ⟨.subdocPathNotFound, []⟩
    Response.decode (.lookupIn key specs)
          (responseFrame 0xd0 0 .subdocMultiPathFailure 7 9
            ((Reply.lookedUp [missing]).sections []))
          channel =
        .ok ⟨7, .subdocMultiPathFailure, 9, .lookup [missing], none, none⟩ ∧
      Response.decode (.increment key counter)
          (responseFrame 0x05 0 .success 8 10
            ((Reply.counted 5 (some ⟨11, 12⟩)).sections []))
          channel =
        .ok ⟨8, .success, 10, .counter 5, some ⟨513, 11, 12, "default"⟩,
          none⟩ := by
  intro key specs counter channel missing
  obtain ⟨decodes, -⟩ := replies_are_decoded_as_sent
  constructor
  · have isReply :
        IsReply .subdocMultiPathFailure (.lookupIn key specs)
          (.lookedUp [missing]) :=
      .lookedUp (.inr rfl) rfl (List.forall_mem_singleton.mpr rfl)
    exact decodes _ channel 0 _ 7 9 [] _ isReply rfl rfl (by decide) (by decide)
  · have isReply :
        IsReply .success (.increment key counter)
          (.counted 5 (some ⟨11, 12⟩)) :=
      .incremented rfl
    exact
      decodes _ channel 0 _ 8 10 [] _ isReply rfl rfl (by decide) (by decide)

end ClusterClient.Wire
