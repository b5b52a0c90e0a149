import ClusterClient.Proofs.Server.Admissible
import ClusterClient.Proofs.Server.StoreCalls

namespace ClusterClient.Server

/-!
# Store calls over the wire agree with a memory store

For every call of a document store, the operation that a client executes is
served so that the result which the client reads out of the answer is the one
that a memory store with the same documents returns, and the same documents are
left. The three calls that read a field share one argument, and so do the two
that write one.
-/

open Client Document

namespace Answer

/-- An answer whose value is not longer than a document fits into a frame. -/
theorem fits_of_length_le
    {answer : Answer}
    (short : answer.reply.value.length ≤ 6 + maxValueLength) : answer.Fits := by
  have extras := answer.reply.length_extras_le
  have limits : 255 + (6 + maxValueLength) ≤ Wire.maxBodySize := by
    decide
  simp only [Fits, Wire.Sections.length, Wire.Reply.sections, List.length_nil]
  omega

theorem result_notFound
    (operation : Wire.Operation)
    (channel : Wire.Channel)
    (correlation : UInt32) :
    (refusal .notFound).result operation channel correlation =
      .error (.documentNotFound operation.key.id) := by
  cases operation <;> rfl

theorem result_alreadyExists
    (operation : Wire.Operation)
    (channel : Wire.Channel)
    (correlation : UInt32) :
    (refusal .alreadyExists).result operation channel correlation =
      .error
        (if operation.cas ≠ Wire.anyVersion then
          .casMismatch operation.key.id
        else
          .documentExists operation.key.id) := by
  cases operation <;> rfl

/-- The results of paths answer their lookup, also when some paths failed. -/
theorem result_lookedUp
    (key : Wire.DocumentKey)
    (specs : Wire.LookupSpecs)
    (results : List Wire.LookupField)
    (cas : Wire.Cas)
    (channel : Wire.Channel)
    (correlation : UInt32) :
    let answer : Answer := ⟨lookupStatus results, cas, .lookedUp results⟩
    answer.result (.lookupIn key specs) channel correlation =
      .ok (answer.response (.lookupIn key specs) channel correlation) := by
  unfold lookupStatus
  split <;> rfl

end Answer

/-! Call by call. -/

/--
What the server made of the operation of a call is what the call made of the
memory store: the same result is read out of the answer, and the same documents
are left.
-/
structure Yields
    (call : StoreCall)
    (operation : Wire.Operation)
    (served : Answer × Memory)
    (stored : call.Answer × Memory) : Prop where
  fits : served.1.Fits
  memory : served.2 = stored.2
  result : ∀ partitionCount channel correlation,
    (served.1.result (operation.route partitionCount) channel correlation).bind
        (readResponse call) =
      stored.1

section Yields

variable {memory : Memory} {call : StoreCall} {operation : Wire.Operation}

theorem yields_notFound {id : String} (about : operation.key.id = id) :
    Yields call operation (refusal .notFound, memory)
      (.error (.documentNotFound id), memory) where
  fits := Answer.fits_of_length_le (Nat.zero_le _)
  memory := rfl
  result partitionCount channel correlation := by
    rw [Answer.result_notFound, ← about]
    cases operation <;> rfl

/-- What is there already conflicts with a version or with a new document. -/
theorem yields_alreadyExists {id : String} (about : operation.key.id = id) :
    Yields call operation (refusal .alreadyExists, memory)
      (.error
          (if operation.cas ≠ Wire.anyVersion then
            .casMismatch id
          else
            .documentExists id),
        memory) where
  fits := Answer.fits_of_length_le (Nat.zero_le _)
  memory := rfl
  result partitionCount channel correlation := by
    rw [Answer.result_alreadyExists, ← about]
    cases operation <;> rfl

end Yields

/-- The key of a document id. -/
def IsDocumentId.key
    {id : String}
    (isId : IsDocumentId id)
    (client : Client) : Wire.DocumentKey :=
  ⟨id, client.collection, 0, isId.named, isId.fits⟩

theorem IsDocumentId.keyOf_eq
    {id : String}
    (isId : IsDocumentId id)
    (client : Client) : keyOf client id = .ok (isId.key client) := by
  rw [keyOf, Wire.DocumentKey.ofId, dif_neg isId.named, dif_pos isId.fits]
  rfl

/-- A store call is answered through the server as by a memory store. -/
def Agrees (client : Client) (memory : Memory) (call : StoreCall) : Prop :=
  ∃ operation,
    operationOf client call = .ok operation ∧
      operation.HasClearExpiry ∧
      Yields call operation (serve memory operation) (Memory.store call memory)

section Calls

variable {client : Client} {memory : Memory} {id path : String}

theorem get_agrees
    (isId : IsDocumentId id)
    (servable : AllServable memory) : Agrees client memory (.get id) := by
  refine ⟨.get (isId.key client), ?_, nofun, ?_⟩
  · rw [operationOf, isId.keyOf_eq]
    rfl
  simp only [serve, getDocument, Memory.store, Memory.get, IsDocumentId.key]
  cases found : memory.find? id with
  | none => exact yields_notFound rfl
  | some document =>
      obtain ⟨content, cas⟩ := document
      have here := servable.document found
      obtain ⟨fields, rfl⟩ := here.exists_fields
      refine ⟨Answer.fits_of_length_le ?_, rfl, fun _ _ _ => ?_⟩
      · exact Nat.le_trans here.fits (Nat.le_add_left ..)
      · change
          (do
            let content ← readJson (encodeJson (.object fields))
            return (⟨content, cas⟩ : Optimistic.Versioned Json)) =
            _
        rw [readJson, readJson?_encodeJson here.readBack]
        rfl

/-- A text that is read back is stored as its value. -/
theorem storeText_encodeJson
    {content : Json}
    (readBack : IsReadBack content)
    (memory : Memory)
    (id : String) :
    storeText memory id (encodeJson content) =
      store memory id content .stored := by
  rw [storeText, readJson?_encodeJson readBack]

theorem IsServable.ofBytes_eq
    {content : Json}
    (servable : IsServable content) :
    Wire.Content.ofBytes (encodeJson content) =
      .ok ⟨encodeJson content, servable.fits⟩ :=
  dif_pos servable.fits

theorem insert_agrees
    {content : Json}
    (isId : IsDocumentId id)
    (servable : IsServable content) :
    Agrees client memory (.insert id content) := by
  refine
    ⟨.insert (isId.key client) ⟨_, servable.fits⟩ 0, ?_, nofun, ?_⟩
  · rw [operationOf, isId.keyOf_eq, servable.ofBytes_eq]
    rfl
  simp only [serve, insertDocument, Memory.store, Memory.insert_eq,
    storeText_encodeJson servable.readBack, IsDocumentId.key]
  split
  · exact yields_alreadyExists rfl
  · exact ⟨Answer.fits_of_length_le (Nat.zero_le _), rfl, fun _ _ _ => rfl⟩

theorem upsertDocument_anyVersion (text : Bytes) :
    upsertDocument memory id text Wire.anyVersion =
      storeText memory id text := by
  unfold upsertDocument
  split <;> rfl

theorem upsert_agrees
    {content : Json}
    (isId : IsDocumentId id)
    (servable : IsServable content) :
    Agrees client memory (.upsert id content) := by
  refine
    ⟨.upsert (isId.key client) ⟨_, servable.fits⟩ 0 Wire.anyVersion, ?_,
      nofun, ?_⟩
  · rw [operationOf, isId.keyOf_eq, servable.ofBytes_eq]
    rfl
  simp only [serve, upsertDocument_anyVersion,
    storeText_encodeJson servable.readBack, IsDocumentId.key]
  exact ⟨Answer.fits_of_length_le (Nat.zero_le _), rfl, fun _ _ _ => rfl⟩

/--
What a call of a memory store reads is what a server looks up at the path of a
spec.
-/
structure ReadsField
    (memory : Memory)
    (call : StoreCall)
    (id : String)
    (spec : Wire.LookupSpec) : Prop where
  absent : memory.find? id = none →
    Memory.store call memory = (.error (.documentNotFound id), memory)
  present : ∀ fields cas,
    memory.find? id = some ⟨.object fields, cas⟩ →
    IsServable (.object fields) →
    ∃ result,
      Memory.store call memory = (result, memory) ∧
        ∀ response : Wire.Response,
          response.lookupFields = [lookUp fields spec] →
          response.cas = cas →
          readResponse call response = result

/-- A lookup of one path is answered under either status over all paths. -/
theorem ReadsField.agrees
    {call : StoreCall}
    {spec : Wire.LookupSpec}
    (readsField : ReadsField memory call id spec)
    (isLookup : operationOf client call = lookupOf client id spec)
    (isId : IsDocumentId id)
    (acceptable : spec.Acceptable)
    (servable : AllServable memory) : Agrees client memory call := by
  let specs : Wire.LookupSpecs :=
    ⟨[spec], ⟨Nat.le_refl 1, (by decide : 1 ≤ maxSpecs)⟩,
      List.forall_mem_singleton.mpr acceptable⟩
  refine ⟨.lookupIn (isId.key client) specs, ?_, nofun, ?_⟩
  · have accepted : Wire.LookupSpecs.ofList [spec] = .ok specs :=
      Wire.LookupSpecs.ofList_specs specs
    rw [isLookup, lookupOf, isId.keyOf_eq, accepted]
    rfl
  simp only [serve, lookUpAll, IsDocumentId.key]
  cases found : memory.find? id with
  | none =>
      rw [readsField.absent found]
      exact yields_notFound rfl
  | some document =>
      obtain ⟨content, cas⟩ := document
      have here := servable.document found
      obtain ⟨fields, rfl⟩ := here.exists_fields
      obtain ⟨result, stored, reads⟩ :=
        readsField.present fields cas found here
      rw [stored]
      refine ⟨Answer.fits_of_length_le ?_, rfl, fun _ _ _ => ?_⟩
      · have short := length_lookUp_le here.fits spec
        have length :
            ([lookUp fields spec].map Wire.LookupField.bytes).flatten.length =
              6 + (lookUp fields spec).value.length := by
          rw [List.map_singleton, List.flatten_singleton]
          exact Wire.LookupField.length_bytes _
        exact Nat.le_trans (Nat.le_of_eq length) (Nat.add_le_add_left short 6)
      · rw [Wire.Operation.route, Wire.Operation.withKey,
          Answer.result_lookedUp]
        change readResponse call (Answer.response ..) = result
        exact reads _ rfl rfl

theorem IsFieldPath.acceptable
    (isPath : IsFieldPath path)
    (kind : Wire.LookupKind) :
    (⟨kind, path⟩ : Wire.LookupSpec).Acceptable := by
  obtain ⟨⟨key, named, rfl⟩, fits⟩ := isPath
  exact ⟨.inr (pathOfKey_ne_empty named), fits⟩

/-- A lookup at the path of a key looks up the field under the key. -/
theorem lookUp_pathOfKey
    {key : String}
    (named : key ≠ "")
    (kind : Wire.LookupKind)
    (fields : Json.Fields) :
    lookUp fields ⟨kind, pathOfKey key⟩ =
      match KeyedList.find? key fields with
      | some value => foundResult kind value
      | none => ⟨.subdocPathNotFound, []⟩ := by
  have noRoot : ¬ (kind = .count ∧ pathOfKey key = "") := fun root =>
    pathOfKey_ne_empty named root.2
  cases there : KeyedList.find? key fields <;>
    simp only [lookUp, if_neg noRoot, keyOfPath_pathOfKey, there]

section PathOfKey

variable {key : String}

theorem lookupField_readsField (named : key ≠ "") :
    ReadsField memory (.lookupField id (pathOfKey key)) id
      ⟨.get, pathOfKey key⟩ where
  absent absent := by
    simp only [Memory.store, Memory.lookupField, Memory.fieldOf_pathOfKey,
      Memory.getObject_of_absent absent]
    rfl
  present fields cas found here := by
    refine ⟨.ok ⟨KeyedList.find? key fields, cas⟩, ?_, ?_⟩
    · simp only [Memory.store, Memory.lookupField, Memory.fieldOf_pathOfKey,
        Memory.getObject_of_find? found]
      rfl
    · intro response results version
      rw [lookUp_pathOfKey named] at results
      simp only [readResponse, readField, results, version]
      cases there : KeyedList.find? key fields with
      | none => rfl
      | some value =>
          have read :
              readFound (some (foundResult .get value)) = .ok (some value) := by
            rw [readFound, foundResult, readJson,
              readJson?_encodeJson (here.field there)]
            rfl
          change
            (do
              let value ← readFound (some (foundResult .get value))
              return (⟨value, cas⟩ : Optimistic.Versioned (Option Json))) =
              _
          rw [read]
          rfl

theorem fieldExists_readsField (named : key ≠ "") :
    ReadsField memory (.fieldExists id (pathOfKey key)) id
      ⟨.exists, pathOfKey key⟩ where
  absent absent := by
    simp only [Memory.store, Memory.fieldExists, Memory.fieldOf_pathOfKey,
      Memory.getObject_of_absent absent]
    rfl
  present fields cas found _ := by
    refine ⟨.ok (KeyedList.contains key fields), ?_, ?_⟩
    · simp only [Memory.store, Memory.fieldExists, Memory.fieldOf_pathOfKey,
        Memory.getObject_of_find? found]
      rfl
    · intro response results version
      rw [lookUp_pathOfKey named] at results
      simp only [readResponse, readField, results, KeyedList.contains]
      cases KeyedList.find? key fields <;> rfl

/-- A count that is not larger than a document is read back. -/
theorem countOf_countResult
    {count : Nat}
    (inRange : count ≤ maxValueLength) :
    countOf path (some (countResult count)) = .ok count := by
  have limit : maxValueLength ≤ largestCount := by
    decide
  simp only [countOf, countResult,
    readCount?_encode_toString (Nat.le_trans inRange limit)]

/-- At the root the fields themselves are counted. -/
theorem fieldCount_readsRoot :
    ReadsField memory (.fieldCount id "") id ⟨.count, ""⟩ where
  absent absent := by
    simp only [Memory.store, Memory.fieldCount,
      Memory.getObject_of_absent absent, ↓reduceIte]
    rfl
  present fields cas found here := by
    refine ⟨.ok fields.length, ?_, ?_⟩
    · simp only [Memory.store, Memory.fieldCount,
        Memory.getObject_of_find? found, ↓reduceIte]
      rfl
    · intro response results version
      have fits := here.fits
      have fewer := length_fields_lt fields
      simp only [readResponse, readField, results]
      exact countOf_countResult (by omega)

theorem fieldCount_readsField (named : key ≠ "") :
    ReadsField memory (.fieldCount id (pathOfKey key)) id
      ⟨.count, pathOfKey key⟩ where
  absent absent := by
    simp only [Memory.store, Memory.fieldCount, Memory.fieldOf_pathOfKey,
      Memory.getObject_of_absent absent, if_neg (pathOfKey_ne_empty named)]
    rfl
  present fields cas found here := by
    simp only [Memory.store, Memory.fieldCount, Memory.fieldOf_pathOfKey,
      Memory.getObject_of_find? found, if_neg (pathOfKey_ne_empty named)]
    refine ⟨_, rfl, ?_⟩
    intro response results version
    rw [lookUp_pathOfKey named] at results
    simp only [readResponse, readField, results]
    cases there : KeyedList.find? key fields with
    | none => rfl
    | some value =>
        have fits := here.fits
        have shorter := length_encodeJson_lt_of_find? there
        cases value with
        | object children =>
            have fewer := length_fields_lt children
            exact countOf_countResult (by omega)
        | array items =>
            have fewer := length_items_lt items
            exact countOf_countResult (by omega)
        | null | boolean | whole | real | text => rfl

end PathOfKey

/--
What a call of a memory store changes is what a server changes at the path of a
spec, under the same version.
-/
structure ChangesField
    (memory : Memory)
    (call : StoreCall)
    (id : String)
    (spec : Wire.MutationSpec)
    (cas : Wire.Cas) : Prop where
  absent : memory.find? id = none →
    Memory.store call memory = (.error (.documentNotFound id), memory)
  stale : ∀ document,
    memory.find? id = some document →
    cas ≠ Wire.anyVersion →
    cas ≠ document.cas →
    Memory.store call memory = (.error (.casMismatch id), memory)
  refused : ∀ fields current status,
    memory.find? id = some ⟨.object fields, current⟩ →
    ¬ (cas ≠ Wire.anyVersion ∧ cas ≠ current) →
    change fields spec = .error status →
    Memory.store call memory =
      (.error (pathError status spec.path none), memory)
  changed : ∀ fields current changed,
    memory.find? id = some ⟨.object fields, current⟩ →
    ¬ (cas ≠ Wire.anyVersion ∧ cas ≠ current) →
    change fields spec = .ok changed →
    ∃ result,
      Memory.store call memory =
          (result, memory.revise id (.object changed)) ∧
        ∀ response : Wire.Response,
          response.cas = memory.nextCas →
          readResponse call response = result

/-- A mutation of one path is answered as the change of the field is. -/
theorem ChangesField.agrees
    {call : StoreCall}
    {spec : Wire.MutationSpec}
    {cas : Wire.Cas}
    (changesField : ChangesField memory call id spec cas)
    (isMutation : operationOf client call = mutationOf client id spec cas)
    (isId : IsDocumentId id)
    (acceptable : spec.Acceptable)
    (fits : spec.value.length ≤ maxValueLength)
    (servable : AllServable memory) : Agrees client memory call := by
  let specs : Wire.MutationSpecs :=
    ⟨[spec], ⟨Nat.le_refl 1, (by decide : 1 ≤ maxSpecs)⟩,
      List.forall_mem_singleton.mpr acceptable, fits⟩
  refine ⟨.mutateIn (isId.key client) specs cas 0, ?_, nofun, ?_⟩
  · have accepted : Wire.MutationSpecs.ofList [spec] = .ok specs :=
      Wire.MutationSpecs.ofList_specs specs
    rw [isMutation, mutationOf, isId.keyOf_eq, accepted]
    rfl
  simp only [serve, mutate, IsDocumentId.key]
  cases found : memory.find? id with
  | none =>
      rw [changesField.absent found]
      exact yields_notFound rfl
  | some document =>
      dsimp only
      by_cases outdated : cas ≠ Wire.anyVersion ∧ cas ≠ document.cas
      · rw [changesField.stale document found outdated.1 outdated.2, isStale,
          if_pos (decide_eq_true outdated)]
        have conflict :
            (if cas ≠ Wire.anyVersion then
                Error.casMismatch id
              else
                .documentExists id) =
              .casMismatch id :=
          if_pos outdated.1
        rw [← conflict]
        exact yields_alreadyExists rfl
      · rw [isStale, if_neg (by simpa using outdated)]
        obtain ⟨content, current⟩ := document
        obtain ⟨fields, rfl⟩ := (servable.document found).exists_fields
        dsimp only
        cases made : change fields spec with
        | error status =>
            rw [changesField.refused fields current status found outdated made]
            simp only [changeAll, made, specs]
            exact
              ⟨Answer.fits_of_length_le
                  (by simp [Wire.Reply.value, maxValueLength]),
                rfl, fun _ _ _ => rfl⟩
        | ok changed =>
            obtain ⟨result, stored, reads⟩ :=
              changesField.changed fields current changed found outdated made
            rw [stored]
            simp only [changeAll, made, specs]
            refine
              ⟨Answer.fits_of_length_le (Nat.zero_le _), rfl,
                fun _ _ _ => ?_⟩
            change readResponse call (Answer.response ..) = result
            exact reads _ rfl

/-- A server sets the field under a key. -/
theorem change_upsert
    {value : Json}
    (readBack : IsReadBack value)
    (key : String)
    (fields : Json.Fields) :
    change fields (.upsert (pathOfKey key) (encodeJson value)) =
      .ok (KeyedList.insert key value fields) := by
  simp only [change, Wire.MutationSpec.upsert, keyOfPath_pathOfKey,
    readJson?_encodeJson readBack]

/-- A server removes the field under a key, which must be there. -/
theorem change_remove (key : String) (fields : Json.Fields) :
    change fields (.remove (pathOfKey key)) =
      if KeyedList.contains key fields then
        .ok (KeyedList.erase key fields)
      else
        .error .subdocPathNotFound := by
  simp only [change, Wire.MutationSpec.remove, keyOfPath_pathOfKey]

/-- A memory store sets the field under a key. -/
theorem store_upsertField_pathOfKey
    (memory : Memory)
    (id key : String)
    (value : Json)
    (cas : Wire.Cas) :
    Memory.store (.upsertField id (pathOfKey key) value cas) memory =
      memory.changeFields id cas fun fields =>
        .ok (KeyedList.insert key value fields) := by
  change memory.upsertField id (pathOfKey key) value cas = _
  rw [Memory.upsertField, Memory.fieldOf_pathOfKey]

/-- A memory store removes the field under a key, which must be there. -/
theorem store_removeField_pathOfKey
    (memory : Memory)
    (id key : String)
    (cas : Wire.Cas) :
    Memory.store (.removeField id (pathOfKey key) cas) memory =
      memory.changeFields id cas fun fields =>
        if KeyedList.contains key fields then
          .ok (KeyedList.erase key fields)
        else
          .error (.pathNotFound (pathOfKey key)) := by
  change memory.removeField id (pathOfKey key) cas = _
  rw [Memory.removeField, Memory.fieldOf_pathOfKey]

theorem upsertField_changesField
    {value : Json}
    (readBack : IsReadBack value)
    (key : String)
    (cas : Wire.Cas) :
    ChangesField memory (.upsertField id (pathOfKey key) value cas) id
      (.upsert (pathOfKey key) (encodeJson value)) cas where
  absent absent :=
    (store_upsertField_pathOfKey ..).trans
      (Memory.changeFields_of_absent absent ..)
  stale document found guarded stale :=
    (store_upsertField_pathOfKey ..).trans
      (Memory.changeFields_of_stale found guarded stale _)
  refused fields current status found accepted failed := by
    rw [change_upsert readBack] at failed
    cases failed
  changed fields current changed found accepted made := by
    rw [change_upsert readBack] at made
    cases made
    rw [store_upsertField_pathOfKey,
      Memory.changeFields_of_accepted found accepted]
    exact ⟨_, rfl, fun _ version => congrArg Except.ok version⟩

theorem removeField_changesField (key : String) (cas : Wire.Cas) :
    ChangesField memory (.removeField id (pathOfKey key) cas) id
      (.remove (pathOfKey key)) cas where
  absent absent :=
    (store_removeField_pathOfKey ..).trans
      (Memory.changeFields_of_absent absent ..)
  stale document found guarded stale :=
    (store_removeField_pathOfKey ..).trans
      (Memory.changeFields_of_stale found guarded stale _)
  refused fields current status found accepted failed := by
    rw [store_removeField_pathOfKey,
      Memory.changeFields_of_accepted found accepted]
    rw [change_remove] at failed
    split at failed
    · cases failed
    · rename_i missing
      cases failed
      rw [if_neg missing]
      rfl
  changed fields current changed found accepted made := by
    rw [store_removeField_pathOfKey,
      Memory.changeFields_of_accepted found accepted]
    rw [change_remove] at made
    split at made
    · rename_i there
      cases made
      rw [if_pos there]
      exact ⟨_, rfl, fun _ version => congrArg Except.ok version⟩
    · cases made

/-- Every admissible call is answered through the server as by a memory. -/
theorem store_agrees
    {call : StoreCall}
    (admissible : IsAdmissible call)
    (servable : AllServable memory) : Agrees client memory call := by
  cases call with
  | insert => exact insert_agrees admissible.1 admissible.2
  | upsert => exact upsert_agrees admissible.1 admissible.2
  | get => exact get_agrees admissible servable
  | lookupField id path =>
      obtain ⟨isId, isPath⟩ := admissible
      have acceptable := isPath.acceptable .get
      obtain ⟨⟨key, named, rfl⟩, -⟩ := isPath
      exact (lookupField_readsField named).agrees rfl isId acceptable servable
  | fieldExists id path =>
      obtain ⟨isId, isPath⟩ := admissible
      have acceptable := isPath.acceptable .exists
      obtain ⟨⟨key, named, rfl⟩, -⟩ := isPath
      exact (fieldExists_readsField named).agrees rfl isId acceptable servable
  | fieldCount id path =>
      obtain ⟨isId, rfl | isPath⟩ := admissible
      · have acceptable : (⟨.count, ""⟩ : Wire.LookupSpec).Acceptable :=
          ⟨.inl rfl, Nat.zero_le _⟩
        exact fieldCount_readsRoot.agrees rfl isId acceptable servable
      · have acceptable := isPath.acceptable .count
        obtain ⟨⟨key, named, rfl⟩, -⟩ := isPath
        exact (fieldCount_readsField named).agrees rfl isId acceptable servable
  | upsertField id path value cas =>
      obtain ⟨isId, ⟨⟨key, named, rfl⟩, short⟩, readBack, fits⟩ := admissible
      have acceptable :
          (Wire.MutationSpec.upsert (pathOfKey key)
            (encodeJson value)).Acceptable :=
        ⟨pathOfKey_ne_empty named, short,
          iff_of_true rfl (encodeJson_ne_nil readBack)⟩
      exact
        (upsertField_changesField readBack key cas).agrees rfl isId acceptable
          fits servable
  | removeField id path cas =>
      obtain ⟨isId, ⟨⟨key, named, rfl⟩, short⟩⟩ := admissible
      have acceptable :
          (Wire.MutationSpec.remove (pathOfKey key)).Acceptable :=
        ⟨pathOfKey_ne_empty named, short,
          iff_of_false (by rintro ⟨⟩) (absurd rfl)⟩
      exact
        (removeField_changesField key cas).agrees rfl isId acceptable
          (Nat.zero_le _) servable

end Calls

end ClusterClient.Server
