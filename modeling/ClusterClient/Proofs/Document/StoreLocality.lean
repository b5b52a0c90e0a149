import ClusterClient.Proofs.Document.AtomicClients
import ClusterClient.Proofs.Document.FieldPath
import ClusterClient.Proofs.KeyOrder

namespace ClusterClient.Document

/-!
# Store calls are atomic and local

A call of documents in memory fails and leaves everything as it is, or it
succeeds and changes one document at most. A write gives this document a
version that no document has, and a write of a field changes this field only.

In a run of clients whose replacements may be interrupted, the versions that
are under way count as well: the version that a replacement has taken is not
the version of any document, so to put its document in place later is still
local to this document.
-/

/-- The version that a successful write returns; reads grant none. -/
def StoreCall.granted? : (call : StoreCall) → call.Success → Option Wire.Cas
  | .insert .., cas | .upsert .., cas => some cas
  | .upsertField .., cas | .removeField .., cas => some cas
  | .get _, _ | .lookupField .., _ => none
  | .fieldExists .., _ | .fieldCount .., _ => none

namespace Memory

/--
Only the document with an id has changed. It has a version now that no document
had before.
-/
structure WritesOnly
    (before : Memory)
    (id : String)
    (cas : Wire.Cas)
    (after : Memory) : Prop where
  version : after.version? id = some cas
  others :
    KeyedList.erase id after.documents = KeyedList.erase id before.documents
  fresh : ∀ other, before.version? other ≠ some cas

/-- The document was and is an object, and only one field has changed. -/
def EditsOnly
    (before : Memory)
    (id key : String)
    (value? : Option Json)
    (after : Memory) : Prop :=
  ∃ fields edited old new,
    before.find? id = some ⟨.object fields, old⟩ ∧
      after.find? id = some ⟨.object edited, new⟩ ∧
      KeyedList.find? key edited = value? ∧
      KeyedList.erase key edited = KeyedList.erase key fields

theorem others_place
    (memory : Memory)
    (id : String)
    (document : Revision) :
    KeyedList.erase id (memory.place id document).documents =
      KeyedList.erase id memory.documents :=
  KeyedList.erase_insert_self id document memory.documents

/-- To put a document in place under a new version is local to the document. -/
theorem writesOnly_place
    {memory : Memory}
    {id : String}
    {document : Revision}
    (fresh : ∀ other, memory.version? other ≠ some document.cas) :
    memory.WritesOnly id document.cas (memory.place id document) where
  version := by rw [version?_place, if_pos rfl]
  others := others_place memory id document
  fresh := fresh

/-- To revise a document is local to it while the next version is free. -/
theorem writesOnly_revise
    {memory : Memory}
    (fresh : ∀ other, memory.version? other ≠ some memory.nextCas)
    (id : String)
    (content : Json) :
    memory.WritesOnly id memory.nextCas (memory.revise id content) where
  version := by rw [version?_revise, if_pos rfl]
  others := others_place memory.takeVersion.2 id ⟨content, memory.nextCas⟩
  fresh := fresh

/-- Reads leave everything as it is. -/
theorem store_of_read
    {call : StoreCall}
    (reads : written? call = none)
    (memory : Memory) : (store call memory).2 = memory := by
  cases call with
  | get | lookupField | fieldExists | fieldCount => rfl
  | insert | upsert | upsertField | removeField => cases reads

/-- A call that fails leaves everything as it is, whatever its fault is. -/
theorem store_of_failed
    {call : StoreCall}
    {error : Error}
    {memory after : Memory}
    (failed : store call memory = (.error error, after)) : after = memory := by
  cases call with
  | get | lookupField | fieldExists | fieldCount =>
      exact (congrArg Prod.snd failed).symm
  | upsert id content => cases failed
  | insert id content =>
      simp only [store, insert_eq] at failed
      split at failed
      · cases failed
        rfl
      · cases failed
  | upsertField id path value cas =>
      rcases upsertField_cases memory id path value cas with
        ⟨content, written⟩ | ⟨fault, refused⟩
      · cases written.symm.trans failed
      · cases refused.symm.trans failed
        rfl
  | removeField id path cas =>
      rcases removeField_cases memory id path cas with
        ⟨content, written⟩ | ⟨fault, refused⟩
      · cases written.symm.trans failed
      · cases refused.symm.trans failed
        rfl

/-- A successful write returns the next version. -/
theorem granted?_of_written
    {call : StoreCall}
    {id : String}
    (writes : written? call = some id)
    {memory after : Memory}
    {success : call.Success}
    (stored : store call memory = (.ok success, after)) :
    call.granted? success = some memory.nextCas := by
  cases call with
  | get | lookupField | fieldExists | fieldCount => cases writes
  | upsert other content =>
      cases stored
      rfl
  | insert other content =>
      simp only [store, insert_eq] at stored
      split at stored
      · cases stored
      · cases stored
        rfl
  | upsertField other path value cas =>
      rcases upsertField_cases memory other path value cas with
        ⟨content, made⟩ | ⟨error, failed⟩
      · cases made.symm.trans stored
        rfl
      · cases failed.symm.trans stored
  | removeField other path cas =>
      rcases removeField_cases memory other path cas with
        ⟨content, made⟩ | ⟨error, failed⟩
      · cases made.symm.trans stored
        rfl
      · cases failed.symm.trans stored

/-- A document that is created or replaced has the content that was given. -/
theorem find?_of_replaced
    {id : String}
    {content : Json}
    {memory after : Memory}
    {cas : Wire.Cas}
    (stored :
      store (.insert id content) memory = (.ok cas, after) ∨
        store (.upsert id content) memory = (.ok cas, after)) :
    after.find? id = some ⟨content, cas⟩ := by
  have revised : cas = memory.nextCas ∧ after = memory.revise id content := by
    rcases stored with created | replaced
    · simp only [store, insert_eq] at created
      split at created
      · cases created
      · cases created
        exact ⟨rfl, rfl⟩
    · cases replaced
      exact ⟨rfl, rfl⟩
  rw [revised.1, revised.2, find?_revise, if_pos rfl]

/-- Fields that were changed are those of the object in place. -/
theorem changeFields_eq_ok
    {memory after : Memory}
    {id : String}
    {cas fresh : Wire.Cas}
    {change : Json.Fields → Except Error Json.Fields}
    (changed : memory.changeFields id cas change = (.ok fresh, after)) :
    ∃ fields edited current,
      memory.find? id = some ⟨.object fields, current⟩ ∧
        change fields = .ok edited ∧
        after = memory.revise id (.object edited) := by
  cases found : memory.find? id with
  | none =>
      rw [changeFields_of_absent found] at changed
      cases changed
  | some document =>
      obtain ⟨content, current⟩ := document
      by_cases refused : cas ≠ Wire.anyVersion ∧ cas ≠ current
      · rw [changeFields_of_stale found refused.1 refused.2] at changed
        cases changed
      · cases content with
        | object fields =>
            rw [changeFields_of_accepted found refused] at changed
            cases edits : change fields with
            | error error =>
                rw [edits] at changed
                cases changed
            | ok edited =>
                rw [edits] at changed
                cases changed
                exact ⟨fields, edited, current, rfl, edits, rfl⟩
        | _ =>
            simp only [changeFields, found, if_neg refused] at changed
            cases changed

/-- An edit of fields that is local to one of them is so in the document. -/
theorem editsOnly_of_changeFields
    {memory after : Memory}
    {id key : String}
    {cas fresh : Wire.Cas}
    {value? : Option Json}
    {change : Json.Fields → Except Error Json.Fields}
    (localEdit : ∀ {fields edited},
      change fields = .ok edited →
        KeyedList.find? key edited = value? ∧
          KeyedList.erase key edited = KeyedList.erase key fields)
    (changed : memory.changeFields id cas change = (.ok fresh, after)) :
    memory.EditsOnly id key value? after := by
  obtain ⟨fields, edited, current, found, edits, rfl⟩ :=
    changeFields_eq_ok changed
  obtain ⟨value, others⟩ := localEdit edits
  refine ⟨fields, edited, current, memory.nextCas, found, ?_, value, others⟩
  rw [find?_revise, if_pos rfl]

theorem fieldOf_eq_ok_iff {path key : String} :
    fieldOf path = .ok key ↔ keyOfPath path = .ok key := by
  unfold fieldOf
  cases keyOfPath path <;> simp

/-- A successful write of a field changes the field at its path only. -/
theorem editsOnly_of_written
    {change : FieldChange}
    {id path : String}
    {cas : Wire.Cas}
    {memory after : Memory}
    {success : (change.call id path cas).Success}
    (stored :
      store (change.call id path cas) memory = (.ok success, after)) :
    ∃ key,
      keyOfPath path = .ok key ∧
        memory.EditsOnly id key change.value? after := by
  cases change with
  | assign value =>
      simp only [FieldChange.call, store, upsertField] at stored
      cases addressed : fieldOf path with
      | error error =>
          rw [addressed] at stored
          cases stored
      | ok key =>
          simp only [addressed] at stored
          refine ⟨key, fieldOf_eq_ok_iff.mp addressed, ?_⟩
          refine editsOnly_of_changeFields ?_ stored
          rintro fields edited ⟨⟩
          refine ⟨?_, KeyedList.erase_insert_self key value fields⟩
          rw [KeyedList.find?_insert, if_pos rfl]
          rfl
  | drop =>
      simp only [FieldChange.call, store, removeField] at stored
      cases addressed : fieldOf path with
      | error error =>
          rw [addressed] at stored
          cases stored
      | ok key =>
          simp only [addressed] at stored
          refine ⟨key, fieldOf_eq_ok_iff.mp addressed, ?_⟩
          refine editsOnly_of_changeFields ?_ stored
          intro fields edited edits
          split at edits
          · cases edits
            refine ⟨?_, KeyedList.erase_erase_self key fields⟩
            rw [KeyedList.find?_erase, if_pos rfl]
            rfl
          · cases edits

/-- A guarded change of fields is refused for its version if it is stale. -/
theorem changeFields_casMismatch_iff
    {memory : Memory}
    {id : String}
    {fields : Json.Fields}
    {cas current : Wire.Cas}
    {change : Json.Fields → Except Error Json.Fields}
    (found : memory.find? id = some ⟨.object fields, current⟩)
    (guarded : cas ≠ Wire.anyVersion)
    {name : String}
    (unrelated : change fields ≠ .error (.casMismatch name)) :
    (memory.changeFields id cas change).1 = .error (.casMismatch name) ↔
      cas ≠ current ∧ name = id := by
  by_cases stale : cas = current
  · subst stale
    rw [changeFields_of_current found]
    cases edits : change fields with
    | error error =>
        rw [edits] at unrelated
        simpa using unrelated
    | ok edited => simp
  · rw [changeFields_of_stale found guarded stale]
    simp [stale, eq_comm]

theorem casMismatch_iff
    (change : FieldChange)
    {memory : Memory}
    {id path key : String}
    {fields : Json.Fields}
    {cas current : Wire.Cas}
    (addressed : keyOfPath path = .ok key)
    (found : memory.find? id = some ⟨.object fields, current⟩)
    (guarded : cas ≠ Wire.anyVersion)
    (name : String) :
    (store (change.call id path cas) memory).1 = .error (.casMismatch name) ↔
      cas ≠ current ∧ name = id := by
  have field := fieldOf_eq_ok_iff.mpr addressed
  cases change with
  | assign value =>
      simp only [FieldChange.call, store, upsertField, field]
      exact changeFields_casMismatch_iff found guarded (by simp)
  | drop =>
      simp only [FieldChange.call, store, removeField, field]
      refine changeFields_casMismatch_iff found guarded ?_
      split <;> simp

end Memory

namespace AtomicRun

variable {Thread Result : Type} [DecidableEq Thread]
variable {current : Thread → Program atomicInterface Result}
variable {memory : Memory}
variable {history : History atomicInterface Thread Memory}

/-- The ledger stays sound in every run that begins without documents. -/
theorem isSound
    {clients : Thread → Program operationInterface Result}
    (run :
      AtomicRun (fun thread => atomicProgram (clients thread)) .empty history
        current memory)
    (room : allocations history < 2 ^ 64 - 1) :
    (ledgerOf current memory).IsSound := by
  have one : Memory.empty.nextCas.toNat = 1 := rfl
  obtain ⟨-, -, toHere⟩ :=
    advances run (fun thread => .ready (clients thread)) (by omega)
  exact (isSound_empty clients).advances toHere

/--
Any number of clients whose replacements of documents may be interrupted have
come to some documents in memory, with fewer than `2 ^ 64 - 1` versions taken.
There, a call that fails leaves everything as it is, and so does a read. A
successful write changes its document only and gives it the version that it
returns, the next one, which no document has; a document that is created or
replaced has the content that was given. A replacement under way is going to
change its document only, under a version that no document has. A successful
write of a field changes the field that its path addresses only. A guarded
write of a field of an object is refused for its version exactly when this is
not the version of the document, whatever the field is.
-/
theorem calls_are_atomic_and_local
    (clients : Thread → Program operationInterface Result)
    (run :
      AtomicRun (fun thread => atomicProgram (clients thread)) .empty history
        current memory)
    (room : allocations history < 2 ^ 64 - 1) :
    (∀ call error after,
        Memory.store call memory = (.error error, after) → after = memory) ∧
      (∀ call,
        Memory.written? call = none → (Memory.store call memory).2 = memory) ∧
      (∀ call id success after,
        Memory.written? call = some id →
        Memory.store call memory = (.ok success, after) →
        call.granted? success = some memory.nextCas ∧
          memory.WritesOnly id memory.nextCas after ∧
          after.nextCas = memory.nextCas + 1) ∧
      (∀ id content cas after,
        Memory.store (.insert id content) memory = (.ok cas, after) ∨
            Memory.store (.upsert id content) memory = (.ok cas, after) →
          after.find? id = some ⟨content, cas⟩) ∧
      (∀ thread id document next,
        current thread = .step (.place id document) next →
        memory.WritesOnly id document.cas (memory.place id document)) ∧
      (∀ (change : FieldChange) id path cas success after,
        Memory.store (change.call id path cas) memory = (.ok success, after) →
        ∃ key,
          keyOfPath path = .ok key ∧
            memory.EditsOnly id key change.value? after) ∧
      ∀ (change : FieldChange) id path key fields cas inPlace,
        keyOfPath path = .ok key →
        memory.find? id = some ⟨.object fields, inPlace⟩ →
        cas ≠ Wire.anyVersion →
        ∀ name,
          (Memory.store (change.call id path cas) memory).1 =
              .error (.casMismatch name) ↔
            cas ≠ inPlace ∧ name = id := by
  have sound := run.isSound room
  refine ⟨?_, ?_, ?_, ?_, ?_, ?_, ?_⟩
  · intro call error after failed
    exact Memory.store_of_failed failed
  · intro call reads
    exact Memory.store_of_read reads memory
  · intro call id success after writes stored
    refine ⟨Memory.granted?_of_written writes stored, ?_⟩
    obtain ⟨content, rfl⟩ := Memory.store_of_written writes stored
    have fresh : ∀ other, memory.version? other ≠ some memory.nextCas :=
      fun other => sound.versions_ne_counter (.document other)
    exact ⟨Memory.writesOnly_revise fresh id content, rfl⟩
  · intro id content cas after stored
    exact Memory.find?_of_replaced stored
  · intro thread id document next placing
    apply Memory.writesOnly_place
    intro other held
    have pending :
        (ledgerOf current memory).versions (.replacement thread) =
          some document.cas := by
      rw [ledgerOf_replacement, placing]
      rfl
    have stored :
        (ledgerOf current memory).versions (.document other) =
          some document.cas := held
    cases sound.once pending stored
  · intro change id path cas success after stored
    exact Memory.editsOnly_of_written stored
  · intro change id path key fields cas inPlace addressed found guarded name
    exact Memory.casMismatch_iff change addressed found guarded name

/--
With a replacement under way that has taken the older version, a write under
this version is refused and changes nothing, and a write under the version in
place changes the quoted field.
-/
theorem calls_are_atomic_and_local_rivals :
    (∀ error after,
        Memory.store (.upsertField "a" "\x60b.c\x60" (.boolean true) 1)
            rivalCreation.state = (.error error, after) →
          after = rivalCreation.state) ∧
      (Memory.store (.upsertField "a" "\x60b.c\x60" (.boolean true) 1)
            rivalCreation.state).1 = .error (.casMismatch "a") ∧
      rivalCreation.state.EditsOnly "a" "b.c" (some (.boolean true))
        (Memory.store (.upsertField "a" "\x60b.c\x60" (.boolean true) 2)
          rivalCreation.state).2 := by
  obtain ⟨failures, -, -, -, -, edits, refusals⟩ :=
    calls_are_atomic_and_local rivalClients
      (.replay atomicMachine.toMachine [false, true] _ _) (by decide)
  have quoted : keyOfPath "\x60b.c\x60" = .ok "b.c" :=
    keyOfPath_pathOfKey "b.c"
  refine ⟨fun error after => failures _ error after, ?_, ?_⟩
  · exact
      (refusals (.assign (.boolean true)) "a" "\x60b.c\x60" "b.c" [] 1 2 quoted
        (by decide) (by decide) "a").mpr ⟨by decide, rfl⟩
  · obtain ⟨key, addressed, edited⟩ :=
      edits (.assign (.boolean true)) "a" "\x60b.c\x60" 2 (3 : Wire.Cas)
        _ rfl
    cases quoted.symm.trans addressed
    exact edited

end AtomicRun

end ClusterClient.Document
