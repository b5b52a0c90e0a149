import ClusterClient.Proofs.Document.FieldLoop
import ClusterClient.Proofs.Document.FieldPath
import ClusterClient.Proofs.Document.SequentialMap

namespace ClusterClient.Document

/-!
# Operations on the map of a document

Every operation on a map is one store call or a field loop. The main statements,
`isSingle_or_isGuarded` and the lemmas it is assembled from, are that the call,
or the end of the loop, does to the map in the document what a sequential map
does, returns what a sequential map returns, and leaves a map.
-/

namespace Memory

variable {Value : Type} (codec : ValueCodec Value) (id : String)

/-- The map in a document, if there is one. -/
def contents (memory : Memory) : MapContents Value :=
  match memory.find? id with
  | some ⟨.object fields, _⟩ => some (valuesOf codec fields)
  | _ => none

/-- A document is absent, or it is an object that holds a map. -/
def HoldsMap (memory : Memory) : Prop :=
  ∀ document,
    memory.find? id = some document →
    ∃ fields, document.content = .object fields ∧ IsMapping codec fields

variable {codec id}

/-- There is no document, or there is an object that holds a map. -/
theorem HoldsMap.cases
    {memory : Memory}
    (holds : memory.HoldsMap codec id) :
    memory.find? id = none ∨
      ∃ fields cas,
        memory.find? id = some ⟨.object fields, cas⟩ ∧
          IsMapping codec fields := by
  cases found : memory.find? id with
  | none => exact .inl rfl
  | some document =>
      obtain ⟨fields, isObject, mapping⟩ := holds document found
      obtain ⟨content, cas⟩ := document
      simp only at isObject
      subst isObject
      exact .inr ⟨fields, cas, rfl, mapping⟩

/-- An object in place of a map holds the map. -/
theorem HoldsMap.mapping_of_find?
    {memory : Memory}
    (holds : memory.HoldsMap codec id)
    {fields : Json.Fields}
    {cas : Wire.Cas}
    (found : memory.find? id = some ⟨.object fields, cas⟩) :
    IsMapping codec fields := by
  obtain ⟨same, isObject, mapping⟩ := holds _ found
  cases isObject
  exact mapping

theorem contents_of_absent
    {memory : Memory}
    (absent : memory.find? id = none) : memory.contents codec id = none := by
  simp [contents, absent]

theorem contents_of_find?
    {memory : Memory}
    {fields : Json.Fields}
    {cas : Wire.Cas}
    (found : memory.find? id = some ⟨.object fields, cas⟩) :
    memory.contents codec id = some (valuesOf codec fields) := by
  simp [contents, found]

theorem contents_revise (memory : Memory) (fields : Json.Fields) :
    (memory.revise id (.object fields)).contents codec id =
      some (valuesOf codec fields) := by
  simp [contents]

theorem holdsMap_revise
    (memory : Memory)
    {fields : Json.Fields}
    (mapping : IsMapping codec fields) :
    (memory.revise id (.object fields)).HoldsMap codec id := by
  intro document found
  rw [find?_revise, if_pos rfl] at found
  cases found
  exact ⟨fields, rfl, mapping⟩

theorem contents_congr
    {memory later : Memory}
    (same : later.find? id = memory.find? id) :
    later.contents codec id = memory.contents codec id := by
  simp [contents, same]

theorem HoldsMap.congr
    {memory later : Memory}
    (holds : memory.HoldsMap codec id)
    (same : later.find? id = memory.find? id) :
    later.HoldsMap codec id := by
  intro document found
  rw [same] at found
  exact holds document found

end Memory

/-- Every value is written, and is read again from what was written. -/
def ValueCodec.IsFaithful {Value : Type} (codec : ValueCodec Value) : Prop :=
  ∀ value, ∃ encoded,
    codec.encode value = some encoded ∧ codec.decode encoded = some value

/-- An operation on a map, with the settings of the one who makes it. -/
structure MapOperation (Value : Type) where
  settings : Settings
  call : MapCall Value

namespace MapOperation

variable {Value : Type} (codec : ValueCodec Value) (id : String)

/-- What an operation does. -/
def action (operation : MapOperation Value) : Action (MapAnswer Value) :=
  let map : FieldMap := ⟨id, operation.settings⟩
  match operation.call with
  | .attach => do
      let _ ← FieldMap.attach id operation.settings
      return .nothing
  | .put key value => do
      let replaced ← map.put codec key value
      return .held replaced
  | .get key => do
      let value ← map.get codec key
      return .held value
  | .remove key => do
      let held ← map.remove codec key
      return .held held
  | .containsKey key => do
      let found ← map.containsKey key
      return .truth found
  | .size => do
      let count ← map.size
      return .count count
  | .isEmpty => do
      let empty ← map.isEmpty
      return .truth empty
  | .clear => do
      map.clear
      return .nothing
  | .entries => do
      let snapshot ← map.entries codec
      return .listing snapshot.entries

/-- The program of an operation. -/
def program (operation : MapOperation Value) :
    Program interface (Except Error (MapAnswer Value)) :=
  (operation.action codec id).run

/--
An operation ends with a result in a step from one state of the documents to
another one, as a sequential map does, and still leaves a map.
-/
structure Concludes
    (operation : MapOperation Value)
    (before : Memory)
    (result : Except Error (MapAnswer Value))
    (after : Memory) : Prop where
  performs :
    operation.call.Performs id (before.contents codec id) result
      (after.contents codec id)
  holdsMap : after.HoldsMap codec id
  harmless : ∀ error, result = .error error → after = before
  attaches :
    operation.call = .attach → (before.find? id).isSome → after = before

/--
An operation has one step, and it concludes with this step in whatever state it
takes it.
-/
def IsSingle (operation : MapOperation Value) : Prop :=
  ∃ (call : StoreCall) (judge : call.Answer → Except Error (MapAnswer Value)),
    operation.program codec id =
        .step (.store call) (fun answer => .done (judge answer)) ∧
      ∀ memory : Memory,
        memory.HoldsMap codec id →
        operation.Concludes codec id memory
          (judge (Memory.store call memory).1) (Memory.store call memory).2

variable {codec id}

/-- A read concludes an operation and changes nothing. -/
theorem Concludes.ofRead
    {operation : MapOperation Value}
    {memory : Memory}
    (holds : memory.HoldsMap codec id)
    {result : Except Error (MapAnswer Value)}
    (performs :
      operation.call.Performs id (memory.contents codec id) result
        (memory.contents codec id)) :
    operation.Concludes codec id memory result memory where
  performs := performs
  holdsMap := holds
  harmless _ _ := rfl
  attaches _ _ := rfl

theorem bind_return
    {Source Target : Type}
    (reached : Except Error Source)
    (answer : Source → Target) :
    Program.bind (.done reached : Program interface (Except Error Source))
        (ExceptT.bindCont fun value => pure (answer value)) =
      .done (reached.map answer) := by
  cases reached <;> rfl

section Single

variable (settings : Settings)

/-- What attaching returns: an object that is there already does not matter. -/
def attached : Except Error Wire.Cas → Except Error (MapAnswer Value)
  | .ok _ | .error (.documentExists _) => .ok .nothing
  | .error error => .error error

theorem isSingle_attach : IsSingle codec id ⟨settings, .attach⟩ := by
  refine ⟨.insert id Json.emptyObject, attached, ?_, ?_⟩
  · refine congrArg (Program.step _) (funext fun answer => ?_)
    cases answer with
    | ok cas => rfl
    | error error => cases error <;> rfl
  · intro memory holds
    rcases holds.cases with absent | ⟨fields, cas, found, mapping⟩
    · have inserted :
          Memory.store (.insert id Json.emptyObject) memory =
            (.ok memory.nextCas, memory.revise id (.object [])) := by
        simp only [Memory.store, Memory.insert_eq, Memory.contains, absent]
        rfl
      rw [inserted]
      refine ⟨?_, memory.holdsMap_revise .nil, by simp [attached], ?_⟩
      · rw [Memory.contents_of_absent absent, Memory.contents_revise]
        exact .attach none
      · simp [absent]
    · have refused :
          Memory.store (.insert id Json.emptyObject) memory =
            (.error (.documentExists id), memory) := by
        simp only [Memory.store, Memory.insert_eq, Memory.contains, found]
        rfl
      rw [refused]
      apply Concludes.ofRead holds
      rw [Memory.contents_of_find? found]
      exact .attach (some (valuesOf codec fields))

theorem isSingle_get {key : String} (nonempty : key ≠ "") :
    IsSingle codec id ⟨settings, .get key⟩ := by
  refine
    ⟨.lookupField id (pathOfKey key),
      fun answer =>
        (answer.bind fun current => decodeField codec current.value).map .held,
      ?_, ?_⟩
  · simp only [program, action, FieldMap.get, keyPath, nonempty, ↓reduceIte]
    refine congrArg (Program.step _)
      (funext fun (answer :
        Except Error (Optimistic.Versioned (Option Json))) => ?_)
    cases answer with
    | error error => rfl
    | ok current =>
        exact bind_return (decodeField codec current.value) MapAnswer.held
  · intro memory holds
    apply Concludes.ofRead holds
    simp only [Memory.store, Memory.lookupField, Memory.fieldOf_pathOfKey]
    rcases holds.cases with absent | ⟨fields, cas, found, mapping⟩
    · rw [Memory.contents_of_absent absent, Memory.getObject_of_absent absent]
      exact .missing (by simp) (by simp)
    · rw [Memory.contents_of_find? found, Memory.getObject_of_find? found]
      simp only [Except.bind, mapping.decodeField_find?, Except.map]
      exact .get (valuesOf codec fields) key

theorem isSingle_containsKey {key : String} (nonempty : key ≠ "") :
    IsSingle codec id ⟨settings, .containsKey key⟩ := by
  refine
    ⟨.fieldExists id (pathOfKey key), fun answer => answer.map .truth, ?_, ?_⟩
  · simp only [program, action, FieldMap.containsKey, keyPath, nonempty,
      ↓reduceIte]
    refine congrArg (Program.step _)
      (funext fun (answer : Except Error Bool) => ?_)
    exact bind_return answer MapAnswer.truth
  · intro memory holds
    apply Concludes.ofRead holds
    simp only [Memory.store, Memory.fieldExists, Memory.fieldOf_pathOfKey]
    rcases holds.cases with absent | ⟨fields, cas, found, mapping⟩
    · rw [Memory.contents_of_absent absent, Memory.getObject_of_absent absent]
      exact .missing (by simp) (by simp)
    · rw [Memory.contents_of_find? found, Memory.getObject_of_find? found]
      simp only [Except.map, ← mapping.isSome_valuesOf key]
      exact .containsKey (valuesOf codec fields) key

theorem isSingle_size : IsSingle codec id ⟨settings, .size⟩ := by
  refine ⟨.fieldCount id "", fun answer => answer.map .count, ?_, ?_⟩
  · refine congrArg (Program.step _)
      (funext fun (answer : Except Error Nat) => ?_)
    exact bind_return answer MapAnswer.count
  · intro memory holds
    apply Concludes.ofRead holds
    simp only [Memory.store, Memory.fieldCount, ↓reduceIte]
    rcases holds.cases with absent | ⟨fields, cas, found, mapping⟩
    · rw [Memory.contents_of_absent absent, Memory.getObject_of_absent absent]
      exact .missing (by simp) (by simp)
    · rw [Memory.contents_of_find? found, Memory.getObject_of_find? found]
      exact .size mapping.encard_eq_length

theorem isSingle_isEmpty : IsSingle codec id ⟨settings, .isEmpty⟩ := by
  refine
    ⟨.fieldCount id "",
      fun answer => answer.map fun (count : Nat) => .truth (count == 0),
      ?_, ?_⟩
  · refine congrArg (Program.step _)
      (funext fun (answer : Except Error Nat) => ?_)
    cases answer <;> rfl
  · intro memory holds
    apply Concludes.ofRead holds
    simp only [Memory.store, Memory.fieldCount, ↓reduceIte]
    rcases holds.cases with absent | ⟨fields, cas, found, mapping⟩
    · rw [Memory.contents_of_absent absent, Memory.getObject_of_absent absent]
      exact .missing (by simp) (by simp)
    · rw [Memory.contents_of_find? found, Memory.getObject_of_find? found]
      refine .isEmpty ?_
      rw [beq_iff_eq]
      exact mapping.length_eq_zero_iff

theorem isSingle_clear : IsSingle codec id ⟨settings, .clear⟩ := by
  refine
    ⟨.upsert id Json.emptyObject, fun answer => answer.map fun _ => .nothing,
      ?_, ?_⟩
  · refine congrArg (Program.step _) (funext fun answer => ?_)
    cases answer <;> rfl
  · intro memory holds
    have replaced :
        Memory.store (.upsert id Json.emptyObject) memory =
          (.ok memory.nextCas, memory.revise id (.object [])) := rfl
    rw [replaced]
    refine ⟨?_, memory.holdsMap_revise .nil, ?_, by simp⟩
    · rw [Memory.contents_revise]
      exact .clear (memory.contents codec id)
    · simp [Except.map]

theorem isSingle_entries : IsSingle codec id ⟨settings, .entries⟩ := by
  refine
    ⟨.get id,
      fun answer =>
        (answer.bind fun (document : Optimistic.Versioned Json) =>
          (objectFields document.value).bind (decodeEntries codec)).map
            .listing,
      ?_, ?_⟩
  · refine congrArg (Program.step _)
      (funext fun (answer : Except Error (Optimistic.Versioned Json)) => ?_)
    cases answer with
    | error error => rfl
    | ok document =>
        obtain ⟨content, cas⟩ := document
        cases content with
        | object fields =>
            change
              Program.bind
                  (Program.bind (.done (decodeEntries codec fields))
                    (ExceptT.bindCont fun entries =>
                      pure (⟨⟨id, settings⟩, entries⟩ : MapSnapshot Value)))
                  (ExceptT.bindCont fun snapshot =>
                    pure (MapAnswer.listing snapshot.entries)) =
                .done ((decodeEntries codec fields).map MapAnswer.listing)
            rw [bind_return, bind_return]
            cases decodeEntries codec fields <;> rfl
        | _ => rfl
  · intro memory holds
    apply Concludes.ofRead holds
    simp only [Memory.store, Memory.get]
    rcases holds.cases with absent | ⟨fields, cas, found, mapping⟩
    · rw [Memory.contents_of_absent absent, absent]
      exact .missing (by simp) (by simp)
    · obtain ⟨listed, read, ordered, all⟩ := mapping.decodeEntries
      rw [Memory.contents_of_find? found, found]
      simp only [Except.bind, objectFields, read, Except.map]
      exact .entries ordered all

end Single

section Guarded

/-- The field loop of an insertion. -/
def putLoop
    (id : String)
    (settings : Settings)
    (key : String)
    (encoded : Json) : FieldLoop Json where
  update := .ofSettings "put" settings
  id := id
  path := pathOfKey key
  compute := fun _ => encoded
  change := .assign

/-- The field loop of a removal. -/
def removeLoop
    (id : String)
    (settings : Settings)
    (key : String) : FieldLoop Unit where
  update := (Optimistic.Update.ofSettings "remove" settings).acceptingMissingPath
  id := id
  path := pathOfKey key
  compute := fun _ => ()
  change := fun _ => .drop

/-- What a guarded write returns when its loop has ended. -/
def finish
    (codec : ValueCodec Value)
    (result : Except Error (Option Json)) : Except Error (MapAnswer Value) :=
  (result.bind (decodeField codec)).map .held

variable (codec id) in
/--
An operation is a field loop of at least one round, and it concludes when its
loop does.
-/
def IsGuarded (operation : MapOperation Value) : Prop :=
  ∃ (Next : Type) (loop : FieldLoop Next),
    operation.program codec id =
        Program.bind loop.program (fun result => .done (finish codec result)) ∧
      0 < loop.update.maxAttempts ∧ operation.call ≠ .attach ∧
      ∀ {before after : Memory} {result : Except Error (Option Json)},
        before.HoldsMap codec id →
        loop.Conclusion before result after →
        operation.Concludes codec id before (finish codec result) after

variable (settings : Settings)

omit settings in
/-- An insertion is its loop, whose result is read as a value. -/
theorem run_put
    (map : FieldMap)
    {key : String}
    (nonempty : key ≠ "")
    {value : Value}
    {encoded : Json}
    (encodes : codec.encode value = some encoded) :
    (map.put codec key value).run =
      Program.bind (putLoop map.id map.settings key encoded).program
        (fun result => .done (result.bind (decodeField codec))) := by
  simp only [FieldMap.put, keyPath, nonempty, encodeField, encodes, ↓reduceIte]
  change Program.bind (putLoop map.id map.settings key encoded).program _ = _
  refine congrArg (Program.bind _) (funext fun result => ?_)
  cases result <;> rfl

omit settings in
/-- A removal is its loop, whose result is read as a value. -/
theorem run_remove (map : FieldMap) {key : String} (nonempty : key ≠ "") :
    (map.remove codec key).run =
      Program.bind (removeLoop map.id map.settings key).program
        (fun result => .done (result.bind (decodeField codec))) := by
  simp only [FieldMap.remove, keyPath, nonempty, ↓reduceIte]
  change Program.bind (removeLoop map.id map.settings key).program _ = _
  refine congrArg (Program.bind _) (funext fun result => ?_)
  cases result <;> rfl

theorem program_put
    {key : String}
    (nonempty : key ≠ "")
    {value : Value}
    {encoded : Json}
    (encodes : codec.encode value = some encoded) :
    program codec id ⟨settings, .put key value⟩ =
      Program.bind (putLoop id settings key encoded).program
        (fun result => .done (finish codec result)) := by
  change Program.bind (FieldMap.put ⟨id, settings⟩ codec key value).run _ = _
  rw [run_put _ nonempty encodes, Program.bind_assoc]
  exact congrArg (Program.bind _)
    (funext fun result =>
      bind_return (result.bind (decodeField codec)) MapAnswer.held)

theorem program_remove {key : String} (nonempty : key ≠ "") :
    program codec id ⟨settings, .remove key⟩ =
      Program.bind (removeLoop id settings key).program
        (fun result => .done (finish codec result)) := by
  change Program.bind (FieldMap.remove ⟨id, settings⟩ codec key).run _ = _
  rw [run_remove _ nonempty, Program.bind_assoc]
  exact congrArg (Program.bind _)
    (funext fun result =>
      bind_return (result.bind (decodeField codec)) MapAnswer.held)

/-- A look-up of an entry fails only when there is no document. -/
theorem lookupField_eq_error
    {memory : Memory}
    (holds : memory.HoldsMap codec id)
    {key : String}
    {error : Error}
    (failed : memory.lookupField id (pathOfKey key) = .error error) :
    memory.find? id = none ∧ error = .documentNotFound id := by
  simp only [Memory.lookupField, Memory.fieldOf_pathOfKey] at failed
  rcases holds.cases with absent | ⟨fields, cas, found, mapping⟩
  · rw [Memory.getObject_of_absent absent] at failed
    cases failed
    exact ⟨absent, rfl⟩
  · rw [Memory.getObject_of_find? found] at failed
    cases failed

/-- An operation that finds no document fails. -/
theorem Concludes.ofAbsent
    {operation : MapOperation Value}
    {memory : Memory}
    (holds : memory.HoldsMap codec id)
    (absent : memory.find? id = none)
    (attaches : operation.call ≠ .attach)
    (clears : operation.call ≠ .clear) :
    operation.Concludes codec id memory (.error (.documentNotFound id))
      memory := by
  apply Concludes.ofRead holds
  rw [Memory.contents_of_absent absent]
  exact .missing attaches clears

/-- A guarded write that replaced a field of a map reports its value. -/
theorem finish_eq_ok
    {fields : Json.Fields}
    (mapping : IsMapping codec fields)
    (key : String) :
    finish codec (.ok (KeyedList.find? key fields)) =
      .ok (.held (valuesOf codec fields key)) := by
  simp only [finish, Except.bind, mapping.decodeField_find?, Except.map]

/-- A write that replaces one map by another concludes an operation. -/
theorem Concludes.ofRevision
    {operation : MapOperation Value}
    {memory : Memory}
    {fields changed : Json.Fields}
    {cas : Wire.Cas}
    (found : memory.find? id = some ⟨.object fields, cas⟩)
    (mapping : IsMapping codec changed)
    {answer : MapAnswer Value}
    (performs :
      operation.call.Performs id (some (valuesOf codec fields)) (.ok answer)
        (some (valuesOf codec changed)))
    (attaches : operation.call ≠ .attach) :
    operation.Concludes codec id memory (.ok answer)
      (memory.revise id (.object changed)) where
  performs := by
    rw [Memory.contents_of_find? found, Memory.contents_revise]
    exact performs
  holdsMap := memory.holdsMap_revise mapping
  harmless := nofun
  attaches attaching := absurd attaching attaches

/-- An insertion sets an entry of the map. -/
theorem isGuarded_put
    {key : String}
    (nonempty : key ≠ "")
    {value : Value}
    {encoded : Json}
    (encodes : codec.encode value = some encoded)
    (decodes : codec.decode encoded = some value) :
    IsGuarded codec id ⟨settings, .put key value⟩ := by
  refine
    ⟨Json, putLoop id settings key encoded,
      program_put settings nonempty encodes, ?_, nofun, ?_⟩
  · exact Nat.lt_of_lt_of_le Nat.one_pos (Nat.le_max_right _ 1)
  · intro before after result holds conclusion
    cases conclusion with
    | unreadable failed =>
        obtain ⟨absent, rfl⟩ := lookupField_eq_error holds failed
        exact .ofAbsent holds absent nofun nofun
    | vanished absent => exact .ofAbsent holds absent nofun nofun
    | contended =>
        exact .ofRead holds (.contendedPut _ key value _)
    | @changed other fields changed cas addressed found applied =>
        cases (Memory.fieldOf_pathOfKey key).symm.trans addressed
        cases applied
        have mapping := holds.mapping_of_find? found
        have readable := Option.isSome_iff_exists.mpr ⟨value, decodes⟩
        rw [finish_eq_ok mapping]
        refine .ofRevision found (mapping.insert readable key) ?_ nofun
        rw [valuesOf_insert decodes]
        exact .put (valuesOf codec fields) key value
    | missing addressed found absent drops => cases drops

/-- A removal drops an entry of the map, or finds that there is none. -/
theorem isGuarded_remove {key : String} (nonempty : key ≠ "") :
    IsGuarded codec id ⟨settings, .remove key⟩ := by
  refine
    ⟨Unit, removeLoop id settings key, program_remove settings nonempty,
      ?_, nofun, ?_⟩
  · exact Nat.lt_of_lt_of_le Nat.one_pos (Nat.le_max_right _ 1)
  · intro before after result holds conclusion
    cases conclusion with
    | unreadable failed =>
        obtain ⟨absent, rfl⟩ := lookupField_eq_error holds failed
        exact .ofAbsent holds absent nofun nofun
    | vanished absent => exact .ofAbsent holds absent nofun nofun
    | contended =>
        exact .ofRead holds (.contendedRemove _ key _)
    | @changed other fields changed cas addressed found applied =>
        cases (Memory.fieldOf_pathOfKey key).symm.trans addressed
        have mapping := holds.mapping_of_find? found
        rw [finish_eq_ok mapping]
        have erased : changed = KeyedList.erase key fields :=
          FieldChange.eq_erase_of_drop applied
        rw [erased]
        refine .ofRevision found (mapping.erase key) ?_ nofun
        rw [valuesOf_erase]
        exact .remove (valuesOf codec fields) key
    | @missing other fields cas addressed found absent drops =>
        cases (Memory.fieldOf_pathOfKey key).symm.trans addressed
        apply Concludes.ofRead holds
        have contents :
            before.contents codec id = some (valuesOf codec fields) :=
          Memory.contents_of_find? found
        have missing : valuesOf codec fields key = none := by
          simp [valuesOf, absent]
        have removed :
            MapCall.Performs id (.remove key) (some (valuesOf codec fields))
              (.ok (.held (valuesOf codec fields key)))
              (some (Function.update (valuesOf codec fields) key none)) :=
          .remove (valuesOf codec fields) key
        rw [← missing, Function.update_eq_self, missing, ← contents] at removed
        exact removed

end Guarded

/-- Every operation under a key has one step or is a field loop. -/
theorem isSingle_or_isGuarded
    (faithful : codec.IsFaithful)
    (operation : MapOperation Value)
    (keyed : operation.call.IsKeyed) :
    IsSingle codec id operation ∨ IsGuarded codec id operation := by
  obtain ⟨settings, call⟩ := operation
  cases call with
  | attach => exact .inl (isSingle_attach settings)
  | get key => exact .inl (isSingle_get settings keyed)
  | containsKey key => exact .inl (isSingle_containsKey settings keyed)
  | size => exact .inl (isSingle_size settings)
  | isEmpty => exact .inl (isSingle_isEmpty settings)
  | clear => exact .inl (isSingle_clear settings)
  | entries => exact .inl (isSingle_entries settings)
  | put key value =>
      obtain ⟨encoded, encodes, decodes⟩ := faithful value
      exact .inr (isGuarded_put settings keyed encodes decodes)
  | remove key => exact .inr (isGuarded_remove settings keyed)

end MapOperation

end ClusterClient.Document
