import ClusterClient.Proofs.Wire.Acceptance
import ClusterClient.Proofs.Wire.RequestFrames

namespace ClusterClient.Wire

/-!
# Requests are read back from their frames

A reader for request frames: it takes the collection and the id out of the key,
the words out of the extras and the specs, one record after the other, out of
the value. It reads every operation back from its frame, up to what is not sent:
the collection on a channel without collections, and the expiry of a counter
without an initial value. So two operations with the same frame are the same, up
to that.
-/

/-- A number in LEB128 at the front of some bytes, and the bytes after it. -/
def readLeb128? : Bytes → Option (Nat × Bytes)
  | [] => none
  | byte :: rest =>
      if byte.toNat < 128 then
        some (byte.toNat, rest)
      else
        (readLeb128? rest).map fun (higher, left) =>
          (128 * higher + (byte.toNat - 128), left)

theorem readLeb128?_leb128 (value : Nat) (rest : Bytes) :
    readLeb128? (leb128 value ++ rest) = some (value, rest) := by
  induction value using Nat.strongRecOn with
  | ind value inductionHypothesis =>
      rw [leb128]
      split
      · rename_i single
        have byte : (UInt8.ofNat value).toNat = value :=
          UInt8.toNat_ofNat_of_lt' (Nat.lt_trans single (by decide))
        simp only [List.singleton_append, readLeb128?, byte, if_pos single]
      · rename_i several
        have byte :
            (UInt8.ofNat (value % 128 + 128)).toNat = value % 128 + 128 := by
          have lowest := Nat.mod_lt value (y := 128) (by decide)
          exact UInt8.toNat_ofNat_of_lt' (Nat.add_lt_add_right lowest 128)
        have goesOn : ¬ value % 128 + 128 < 128 :=
          Nat.not_lt.mpr (Nat.le_add_left ..)
        have smaller : value / 128 < value :=
          Nat.div_lt_self (by omega) (by decide)
        simp only [List.cons_append, readLeb128?, byte, if_neg goesOn,
          inductionHypothesis _ smaller, Option.map_some,
          Nat.add_sub_cancel, Nat.div_add_mod]

/-- Read records one after the other, to the end of some bytes. -/
def readEach?
    {Spec : Type}
    (read? : Bytes → Option (Spec × Bytes))
    (bytes : Bytes) : Option (List Spec) :=
  if bytes.isEmpty then
    some []
  else
    match read? bytes with
    | none => none
    | some (spec, rest) =>
        if rest.length < bytes.length then
          (readEach? read? rest).map (spec :: ·)
        else
          none
  termination_by bytes.length

/-- Records that are read one by one are read together. -/
theorem readEach?_flatten
    {Spec : Type}
    {read? : Bytes → Option (Spec × Bytes)}
    {write : Spec → Bytes}
    {specs : List Spec}
    (nonempty : ∀ spec, 0 < (write spec).length)
    (reads : ∀ spec ∈ specs, ∀ rest,
      read? (write spec ++ rest) = some (spec, rest)) :
    readEach? read? (specs.map write).flatten = some specs := by
  induction specs with
  | nil =>
      rw [readEach?]
      rfl
  | cons spec specs inductionHypothesis =>
      have first := reads spec (.head _) (specs.map write).flatten
      have others :=
        inductionHypothesis fun other member => reads other (.tail _ member)
      have some_bytes := nonempty spec
      have notEmpty :
          ¬ (write spec ++ (specs.map write).flatten).isEmpty = true := by
        simp [List.ne_nil_of_length_pos some_bytes]
      have shorter :
          (specs.map write).flatten.length <
            (write spec ++ (specs.map write).flatten).length := by
        rw [List.length_append]
        omega
      rw [List.map_cons, List.flatten_cons, readEach?, if_neg notEmpty, first]
      dsimp only
      rw [if_pos shorter, others]
      rfl

/-! Specs. -/

@[simp] theorem PathCommand.ofByte?_byte (command : PathCommand) :
    ofByte? command.byte = some command := by
  cases command <;> rfl

/-- What is looked up under a path command. -/
def LookupKind.ofCommand? : PathCommand → Option LookupKind
  | .get => some .get
  | .exists => some .exists
  | .getCount => some .count
  | .dictUpsert | .delete => none

/-- What is done under a path command. -/
def MutationKind.ofCommand? : PathCommand → Option MutationKind
  | .dictUpsert => some .upsert
  | .delete => some .remove
  | .get | .exists | .getCount => none

@[simp] theorem LookupKind.ofCommand?_command (spec : LookupSpec) :
    ofCommand? spec.command = some spec.kind := by
  cases kind : spec.kind <;> simp [LookupSpec.command, kind, ofCommand?]

@[simp] theorem MutationKind.ofCommand?_command (spec : MutationSpec) :
    ofCommand? spec.command = some spec.kind := by
  cases kind : spec.kind <;> simp [MutationSpec.command, kind, ofCommand?]

/-- The lookup at the front of some bytes, and the bytes after it. -/
def readLookup? (bytes : Bytes) : Option (LookupSpec × Bytes) := do
  let command ← PathCommand.ofByte? (UInt8.ofNat (numberAt bytes 0 1))
  let kind ← LookupKind.ofCommand? command
  let pathLength := numberAt bytes 2 2
  let sections := bytes.drop 4
  let path ← Text.decode? (sections.take pathLength)
  return (⟨kind, path⟩, sections.drop pathLength)

/-- The mutation at the front of some bytes, and the bytes after it. -/
def readMutation? (bytes : Bytes) : Option (MutationSpec × Bytes) := do
  let command ← PathCommand.ofByte? (UInt8.ofNat (numberAt bytes 0 1))
  let kind ← MutationKind.ofCommand? command
  let createParents := UInt8.ofNat (numberAt bytes 1 1) = createParentsFlag
  let pathLength := numberAt bytes 2 2
  let valueLength := numberAt bytes 4 4
  let sections := bytes.drop 8
  let path ← Text.decode? (sections.take pathLength)
  let values := sections.drop pathLength
  let value := values.take valueLength
  return (⟨kind, path, value, createParents⟩, values.drop valueLength)

theorem IsLookupRecord.read
    {spec : LookupSpec}
    {record : Bytes}
    (isRecord : IsLookupRecord spec record)
    (rest : Bytes) : readLookup? (record ++ rest) = some (spec, rest) := by
  have length := isRecord.length
  have command : numberAt (record ++ rest) 0 1 = spec.command.byte.toNat := by
    rw [numberAt_append_left (by omega), isRecord.command]
  have pathLength :
      numberAt (record ++ rest) 2 2 = spec.path.utf8ByteSize := by
    rw [numberAt_append_left (by omega), isRecord.pathLength]
  have sections :
      (record ++ rest).drop 4 = Text.encode spec.path ++ rest := by
    rw [List.drop_append_of_le_length (by omega), isRecord.path]
  simp [readLookup?, command, pathLength, sections,
    List.take_left' (Text.length_encode spec.path),
    List.drop_left' (Text.length_encode spec.path)]

theorem IsMutationRecord.read
    {spec : MutationSpec}
    {record : Bytes}
    (isRecord : IsMutationRecord spec record)
    (rest : Bytes) : readMutation? (record ++ rest) = some (spec, rest) := by
  have length := isRecord.length
  have command : numberAt (record ++ rest) 0 1 = spec.command.byte.toNat := by
    rw [numberAt_append_left (by omega), isRecord.command]
  have flags :
      UInt8.ofNat (numberAt (record ++ rest) 1 1) = createParentsFlag ↔
        spec.createParents := by
    rw [numberAt_append_left (by omega), isRecord.flags]
    cases spec.createParents <;> decide
  have pathLength :
      numberAt (record ++ rest) 2 2 = spec.path.utf8ByteSize := by
    rw [numberAt_append_left (by omega), isRecord.pathLength]
  have valueLength : numberAt (record ++ rest) 4 4 = spec.value.length := by
    rw [numberAt_append_left (by omega), isRecord.valueLength]
  have sections :
      (record ++ rest).drop 8 =
        Text.encode spec.path ++ (spec.value ++ rest) := by
    have split :=
      List.take_append_drop spec.path.utf8ByteSize (record.drop 8)
    rw [isRecord.path, List.drop_drop, isRecord.value] at split
    rw [List.drop_append_of_le_length (by omega), ← split, List.append_assoc]
  simp [readMutation?, command, flags, pathLength, valueLength, sections,
    List.take_left' (Text.length_encode spec.path),
    List.drop_left' (Text.length_encode spec.path)]

/-- The lookups of a body are read back. -/
theorem readEach?_lookupRecords (specs : LookupSpecs) :
    readEach? readLookup? (lookupRecords specs.specs) = some specs.specs := by
  apply readEach?_flatten
  · intro spec
    rw [length_lookupRecord]
    exact Nat.add_pos_left (by decide) _
  · intro spec member
    exact
      (isLookupRecord_lookupRecord (specs.acceptable spec member)).read

/-- The mutations of a body are read back. -/
theorem readEach?_mutationRecords (specs : MutationSpecs) :
    readEach? readMutation? (mutationRecords specs.specs) =
      some specs.specs := by
  apply readEach?_flatten
  · intro spec
    rw [length_mutationRecord]
    exact Nat.add_pos_right _ (Nat.add_pos_left (by decide) _)
  · intro spec member
    exact (specs.isMutationRecord member).read

/-! Keys and counters. -/

/-- The collection that a key section begins with, and the bytes of the id. -/
def readCollection?
    (channel : Channel)
    (key : Bytes) : Option (Collection × Bytes) :=
  if channel.hasCollections then
    (readLeb128? key).map fun (number, id) => (⟨UInt32.ofNat number⟩, id)
  else
    some (.default, key)

/-- The document key of a request frame. -/
def readKey? (channel : Channel) (frame : Frame) : Option DocumentKey := do
  let (collection, bytes) ← readCollection? channel frame.sections.key
  let id ← Text.decode? bytes
  let key ← (DocumentKey.ofId id).toOption
  return (key.inCollection collection).onPartition
    frame.header.partitionOrStatus

/-- A key as a channel shows it: without collections, all are in one. -/
def DocumentKey.asSent (key : DocumentKey) (channel : Channel) : DocumentKey :=
  if channel.hasCollections then key else key.inCollection .default

theorem readCollection?_wireKey (operation : Operation) (channel : Channel) :
    readCollection? channel (operation.wireKey channel) =
      some
        ((operation.key.asSent channel).collection,
          Text.encode operation.key.id) := by
  unfold readCollection? Operation.wireKey wireKey DocumentKey.asSent
  split
  · rw [Collection.leb128, readLeb128?_leb128]
    simp
  · rfl

theorem readKey?_frame
    (operation : Operation)
    (correlation : UInt32)
    (channel : Channel) :
    readKey? channel (operation.frame correlation channel) =
      some (operation.key.asSent channel) := by
  have collection := readCollection?_wireKey operation channel
  change
    (readCollection? channel (operation.wireKey channel) >>= _) = _
  rw [collection]
  simp only [Option.bind_eq_bind, Option.bind_some, Text.decode?_encode,
    DocumentKey.ofId_id, Except.toOption]
  unfold DocumentKey.asSent
  split <;> rfl

/-- The counter change in the extras of a request frame. -/
def readCounter? (extras : Bytes) : Option CounterChange :=
  let delta := UInt64.ofNat (numberAt extras 0 8)
  let initial := UInt64.ofNat (numberAt extras 8 8)
  let expiry := UInt32.ofNat (numberAt extras 16 4)
  let change :=
    if expiry = doNotCreateExpiry then
      CounterChange.ofSigned delta.toInt64 none 0
    else
      CounterChange.ofSigned delta.toInt64 (some initial.toInt64) expiry
  change.toOption

/-- A counter as its extras show it: what is not created does not expire. -/
def CounterChange.asSent (counter : CounterChange) : CounterChange :=
  { counter with
    expiry := if counter.initial = none then 0 else counter.expiry }

theorem readCounter?_extras
    {counter : CounterChange}
    (clear : counter.initial ≠ none → counter.expiry ≠ doNotCreateExpiry) :
    readCounter? counter.extras = some counter.asSent := by
  obtain ⟨-, delta, created⟩ := counter.hasExtras_extras
  have accepted := CounterChange.ofSigned_toInt64 counter.asSent
  cases initial : counter.initial with
  | none =>
      have sentInitial : counter.asSent.initial = none := initial
      have sentExpiry : counter.asSent.expiry = 0 := if_pos initial
      rw [initial] at created
      rw [sentInitial, sentExpiry] at accepted
      simp only [readCounter?, delta, created, UInt64.ofNat_toNat,
        UInt32.ofNat_toNat, ↓reduceIte]
      exact congrArg Except.toOption accepted
  | some value =>
      have creates : counter.initial ≠ none := by
        simp [initial]
      have sentInitial : counter.asSent.initial = some value := initial
      have sentExpiry : counter.asSent.expiry = counter.expiry :=
        if_neg creates
      rw [initial] at created
      rw [sentInitial, sentExpiry] at accepted
      simp only [readCounter?, delta, created, UInt64.ofNat_toNat,
        UInt32.ofNat_toNat, if_neg (clear creates)]
      exact congrArg Except.toOption accepted

/-- The expiry in the extras of a mutation; there is none in no extras. -/
def readExpiry (extras : Bytes) : UInt32 :=
  if extras.isEmpty then 0 else UInt32.ofNat (numberAt extras 0 4)

theorem readExpiry_mutationExtras (expiry : UInt32) :
    readExpiry (mutationExtras expiry) = expiry := by
  unfold mutationExtras
  split
  · rename_i never
    exact never.symm
  · have expires : numberAt (writeNumber 4 expiry.toNat) 0 4 = _ :=
      numberAt_last expiry.toNat_lt
    rw [readExpiry, if_neg (by simp [writeNumber]), expires,
      UInt32.ofNat_toNat]

theorem ofNat_expiry_contentExtras (expiry : UInt32) :
    UInt32.ofNat (numberAt (contentExtras expiry) 4 4) = expiry := by
  rw [Operation.expiry_contentExtras, UInt32.ofNat_toNat]

/-! Operations. -/

/-- The operation of a request frame whose key and command are known. -/
def readOperation?
    (frame : Frame)
    (key : DocumentKey)
    (command : Command) : Option Operation :=
  let extras := frame.sections.extras
  let value := frame.sections.value
  match command with
  | .get => some (.get key)
  | .getMeta => some (.getMeta key)
  | .insert => do
      let content ← (Content.ofBytes value).toOption
      return .insert key content (UInt32.ofNat (numberAt extras 4 4))
  | .upsert => do
      let content ← (Content.ofBytes value).toOption
      let expiry := UInt32.ofNat (numberAt extras 4 4)
      return .upsert key content expiry frame.header.cas
  | .increment => do
      let counter ← readCounter? extras
      return .increment key counter
  | .decrement => do
      let counter ← readCounter? extras
      return .decrement key counter
  | .subdocMultiLookup => do
      let records ← readEach? readLookup? value
      let specs ← (LookupSpecs.ofList records).toOption
      return .lookupIn key specs
  | .subdocMultiMutation => do
      let records ← readEach? readMutation? value
      let specs ← (MutationSpecs.ofList records).toOption
      return .mutateIn key specs frame.header.cas (readExpiry extras)

/-- The correlation number and the operation of a request frame. -/
def readRequest?
    (channel : Channel)
    (bytes : Bytes) : Option (UInt32 × Operation) := do
  let frame ← (Frame.parse bytes).toOption
  let command ← Command.ofByte? frame.header.command
  let key ← readKey? channel frame
  let operation ← readOperation? frame key command
  return (frame.header.correlation, operation)

namespace Operation

/-- The counter change of an operation. -/
def counter? : Operation → Option CounterChange
  | .increment _ counter | .decrement _ counter => some counter
  | _ => none

/--
An operation as its frame shows it: without its collection on a channel without
collections, and without the expiry of a counter that is not to be created.
-/
def asSent (operation : Operation) (channel : Channel) : Operation :=
  let key := operation.key.asSent channel
  match operation with
  | .increment _ counter => .increment key counter.asSent
  | .decrement _ counter => .decrement key counter.asSent
  | _ => operation.withKey key

/-- No counter is to be created with the expiry that forbids to create it. -/
def HasClearExpiry (operation : Operation) : Prop :=
  ∀ counter, operation.counter? = some counter →
    counter.initial ≠ none → counter.expiry ≠ doNotCreateExpiry

theorem readOperation?_frame
    {operation : Operation}
    (clear : operation.HasClearExpiry)
    (correlation : UInt32)
    (channel : Channel) :
    readOperation? (operation.frame correlation channel)
        (operation.key.asSent channel) operation.command =
      some (operation.asSent channel) := by
  cases operation with
  | get | getMeta => rfl
  | insert key content expiry =>
      change (Content.ofBytes content.bytes).toOption >>= _ = _
      rw [Content.ofBytes_bytes]
      exact
        congrArg (some ∘ Operation.insert _ content)
          (ofNat_expiry_contentExtras expiry)
  | upsert key content expiry cas =>
      change (Content.ofBytes content.bytes).toOption >>= _ = _
      rw [Content.ofBytes_bytes]
      exact
        congrArg (some ∘ (Operation.upsert _ content · cas))
          (ofNat_expiry_contentExtras expiry)
  | increment key counter | decrement key counter =>
      change readCounter? counter.extras >>= _ = _
      rw [readCounter?_extras (clear counter rfl)]
      rfl
  | lookupIn key specs =>
      change readEach? readLookup? (lookupRecords specs.specs) >>= _ = _
      rw [readEach?_lookupRecords]
      change (LookupSpecs.ofList specs.specs).toOption >>= _ = _
      rw [LookupSpecs.ofList_specs]
      rfl
  | mutateIn key specs cas expiry =>
      change readEach? readMutation? (mutationRecords specs.specs) >>= _ = _
      rw [readEach?_mutationRecords]
      change (MutationSpecs.ofList specs.specs).toOption >>= _ = _
      rw [MutationSpecs.ofList_specs]
      exact
        congrArg (some ∘ Operation.mutateIn _ specs cas)
          (readExpiry_mutationExtras expiry)

/-- An operation is read back from its frame. -/
theorem readRequest?_encode
    {operation : Operation}
    (clear : operation.HasClearExpiry)
    (correlation : UInt32)
    (channel : Channel) :
    readRequest? channel (operation.encode correlation channel) =
      some (correlation, operation.asSent channel) := by
  have command :
      Command.ofByte? (operation.frame correlation channel).header.command =
        some operation.command :=
    Command.ofByte?_byte operation.command
  rw [readRequest?, parse_encode]
  simp only [Except.toOption, Option.bind_eq_bind, Option.bind_some, command,
    readKey?_frame, readOperation?_frame clear]
  rfl

/-- Where everything is sent, an operation is shown as it is. -/
theorem asSent_eq_self
    {operation : Operation}
    {channel : Channel}
    (qualified : channel.hasCollections)
    (creates : ∀ counter, operation.counter? = some counter →
      counter.initial ≠ none) : operation.asSent channel = operation := by
  have sameKey : operation.key.asSent channel = operation.key :=
    if_pos qualified
  cases operation with
  | increment key counter | decrement key counter =>
      have sameCounter : counter.asSent = counter := by
        unfold CounterChange.asSent
        rw [if_neg (creates counter rfl)]
      rw [asSent, sameKey, sameCounter]
      rfl
  | get | insert | upsert | getMeta | lookupIn | mutateIn =>
      unfold asSent
      rw [sameKey]
      rfl

/--
Every operation is read back from its frame, up to what is not sent: the
collection on a channel without collections and the expiry of a counter without
an initial value. So operations with one frame have one correlation number and
are the same up to that. Counters with an initial value and the expiry that
forbids to create a counter are left out, since their frames say that the
counter is not to be created.
-/
theorem requests_are_unambiguous (channel : Channel) :
    (∀ (operation : Operation) (correlation : UInt32),
      operation.HasClearExpiry →
      readRequest? channel (operation.encode correlation channel) =
        some (correlation, operation.asSent channel)) ∧
      (∀ (operation other : Operation) (correlation otherNumber : UInt32),
        operation.HasClearExpiry →
        other.HasClearExpiry →
        operation.encode correlation channel =
          other.encode otherNumber channel →
        correlation = otherNumber ∧
          operation.asSent channel = other.asSent channel) ∧
      ∀ operation : Operation,
        channel.hasCollections →
        (∀ counter, operation.counter? = some counter →
          counter.initial ≠ none) →
        operation.asSent channel = operation := by
  refine ⟨?_, ?_, ?_⟩
  · intro operation correlation clear
    exact readRequest?_encode clear correlation channel
  · intro operation other correlation otherNumber clear otherClear same
    have read := readRequest?_encode clear correlation channel
    rw [same, readRequest?_encode otherClear otherNumber channel] at read
    obtain ⟨sameNumber, sameOperation⟩ := Prod.mk.inj (Option.some.inj read)
    exact ⟨sameNumber.symm, sameOperation.symm⟩
  · intro operation qualified creates
    exact asSent_eq_self qualified creates

/-- A counter that is not to be created has no initial value to be checked. -/
theorem initial_small_of_none
    (value : UInt64)
    (isInitial : none = some value) : value.toNat < counterLimit :=
  nomatch isInitial

/-- A change to a counter that is not to be created. -/
def changeOnly (collection : Collection) (expiry : UInt32) : Operation :=
  .increment ⟨"visits", collection, 0, by decide, by decide⟩
    ⟨1, none, expiry, by decide, initial_small_of_none⟩

/--
Two changes that differ in their collections and their expiries have one frame
on a channel without collections, and it is read as either of them without both.
-/
theorem requests_are_unambiguous_unsent :
    let channel := Channel.ofBucket "default"
    let change := changeOnly ⟨300⟩ 5
    let other := changeOnly .default 9
    readRequest? channel (change.encode 7 channel) =
        some (7, changeOnly .default 0) ∧
      change.asSent channel = other.asSent channel ∧
      (Operation.getMeta change.key).asSent ⟨true, false, "default"⟩ =
        .getMeta change.key := by
  intro channel change other
  have clear : ∀ collection expiry,
      (changeOnly collection expiry).HasClearExpiry := by
    rintro collection expiry counter ⟨⟩ created
    exact absurd rfl created
  have unambiguous := requests_are_unambiguous channel
  have qualified := requests_are_unambiguous ⟨true, false, "default"⟩
  refine ⟨unambiguous.1 change 7 (clear _ _), ?_, ?_⟩
  · exact (unambiguous.2.1 change other 7 7 (clear _ _) (clear _ _) rfl).2
  · exact qualified.2.2 (.getMeta change.key) rfl nofun

end Operation

end ClusterClient.Wire
