import ClusterClient.Proofs.Document.MapUpdates
import ClusterClient.Proofs.Document.SequentialMap

namespace ClusterClient.Document

/-!
# Snapshots mirror their maps

A snapshot is changed after its map, and only when the change of the map has
succeeded. While nobody else writes the document, its entries are the values
that the fields of the document are read as, in the order of the keys.

A call on a snapshot could spoil this by failing after it has changed the
document, which an update does when it cannot read the value that it replaces.
In a mirrored document there is no such value.
-/

section Readings

variable {Value : Type} {codec : ValueCodec Value}
variable {fields : Json.Fields} {entries : List (String × Value)}

/-- The fields are read one after the other. -/
theorem decodeEntries_cons_eq_ok
    {key : String}
    {value : Json}
    (read : decodeEntries codec ((key, value) :: fields) = .ok entries) :
    ∃ decoded others,
      codec.decode value = some decoded ∧
        decodeEntries codec fields = .ok others ∧
        entries = (key, decoded) :: others := by
  simp only [decodeEntries] at read
  cases decodes : codec.decode value with
  | none => simp [decodes] at read
  | some decoded =>
      cases rest : decodeEntries codec fields with
      | error error => simp [decodes, rest] at read
      | ok others =>
          simp only [decodes, rest, Except.ok.injEq] at read
          exact ⟨decoded, others, rfl, rfl, read.symm⟩

theorem keys_of_decodeEntries
    (read : decodeEntries codec fields = .ok entries) :
    entries.map Prod.fst = fields.map Prod.fst := by
  induction fields generalizing entries with
  | nil =>
      cases read
      rfl
  | cons field rest inductionHypothesis =>
      obtain ⟨decoded, others, -, inRest, rfl⟩ := decodeEntries_cons_eq_ok read
      simp [inductionHypothesis inRest]

/-- An entry is what the field under its key is read as. -/
theorem decodeField_of_decodeEntries
    (read : decodeEntries codec fields = .ok entries)
    (key : String) :
    decodeField codec (KeyedList.find? key fields) =
      .ok (KeyedList.find? key entries) := by
  induction fields generalizing entries with
  | nil =>
      cases read
      rfl
  | cons field rest inductionHypothesis =>
      obtain ⟨other, value⟩ := field
      obtain ⟨decoded, others, decodes, inRest, rfl⟩ :=
        decodeEntries_cons_eq_ok read
      by_cases same : key = other
      · simp [KeyedList.find?, same, decodeField, decodes]
      · simp [KeyedList.find?, same, inductionHypothesis inRest]

/-- A field is set in the reading as it is in the object. -/
theorem decodeEntries_insert
    {encoded : Json}
    {value : Value}
    (decodes : codec.decode encoded = some value)
    (read : decodeEntries codec fields = .ok entries)
    (key : String) :
    decodeEntries codec (KeyedList.insert key encoded fields) =
      .ok (KeyedList.insert key value entries) := by
  induction fields generalizing entries with
  | nil =>
      cases read
      simp [KeyedList.insert, decodeEntries, decodes]
  | cons field rest inductionHypothesis =>
      obtain ⟨other, current⟩ := field
      obtain ⟨decoded, others, currentDecodes, inRest, rfl⟩ :=
        decodeEntries_cons_eq_ok read
      by_cases same : key = other
      · simp [KeyedList.insert, same, decodeEntries, decodes, inRest]
      · by_cases before : key < other
        · simp [KeyedList.insert, same, before, decodeEntries, decodes,
            currentDecodes, inRest]
        · simp [KeyedList.insert, same, before, decodeEntries, currentDecodes,
            inductionHypothesis inRest]

/-- A field is dropped in the reading as it is in the object. -/
theorem decodeEntries_erase
    (read : decodeEntries codec fields = .ok entries)
    (key : String) :
    decodeEntries codec (KeyedList.erase key fields) =
      .ok (KeyedList.erase key entries) := by
  induction fields generalizing entries with
  | nil =>
      cases read
      rfl
  | cons field rest inductionHypothesis =>
      obtain ⟨other, current⟩ := field
      obtain ⟨decoded, others, decodes, inRest, rfl⟩ :=
        decodeEntries_cons_eq_ok read
      have erased := inductionHypothesis inRest
      by_cases same : key = other
      · subst same
        simpa [KeyedList.erase] using erased
      · simp [KeyedList.erase, same, decodeEntries, decodes, erased]

end Readings

/-- Code that goes on with other code is run up to its result first. -/
theorem Memory.run_bind
    {First Second : Type}
    (memory : Memory)
    (action : Action First)
    (continuation : First → Action Second) :
    memory.run (action >>= continuation) =
      match memory.run action with
      | (.error error, later) => (.error error, later)
      | (.ok value, later) => later.run (continuation value) := by
  refine (TotalMachine.run_bind _ action.run _ memory).trans ?_
  unfold Memory.run
  rcases TotalMachine.run _ action.run memory with ⟨result, later⟩
  cases result <;> rfl

/-- A call that changes a snapshot. -/
inductive SnapshotCall (Value : Type) where
  | set (key : String) (value : Value)
  | remove (key : String)
  | clear
  deriving Repr, DecidableEq

namespace SnapshotCall

variable {Value : Type} (codec : ValueCodec Value)

/-- The key whose entry a call sets or removes. -/
def key? : SnapshotCall Value → Option String
  | .set key _ | .remove key => some key
  | .clear => none

/-- What a call does; to clear returns no value. -/
def action
    (snapshot : MapSnapshot Value) :
    SnapshotCall Value → Action (Option Value × MapSnapshot Value)
  | .set key value => snapshot.set codec key value
  | .remove key => snapshot.remove codec key
  | .clear => do
      let cleared ← snapshot.clear
      return (none, cleared.2)

/-- Make a call alone; a call that fails leaves the snapshot as it is. -/
def apply
    (call : SnapshotCall Value)
    (memory : Memory)
    (snapshot : MapSnapshot Value) :
    Except Error (Option Value) × Memory × MapSnapshot Value :=
  match memory.run (call.action codec snapshot) with
  | (.error error, later) => (.error error, later, snapshot)
  | (.ok (held, changed), later) => (.ok held, later, changed)

/-- Make calls in a row, whether or not they fail. -/
def applyAll
    (calls : List (SnapshotCall Value))
    (memory : Memory)
    (snapshot : MapSnapshot Value) : Memory × MapSnapshot Value :=
  calls.foldl (fun reached call => (call.apply codec reached.1 reached.2).2)
    (memory, snapshot)

/--
What a call returns and the entries that it leaves, on the entries alone. It is
refused for the key and for the value like the update of the map; a removal of
an absent key is no update.
-/
def outcome
    (entries : List (String × Value)) :
    SnapshotCall Value → Except Error (Option Value × List (String × Value))
  | .set key value =>
      ((MapUpdate.put key value).change codec).map fun _ =>
        (KeyedList.find? key entries, KeyedList.insert key value entries)
  | .remove key =>
      if KeyedList.contains key entries then
        ((MapUpdate.remove key : MapUpdate Value).change codec).map fun _ =>
          (KeyedList.find? key entries, KeyedList.erase key entries)
      else
        .ok (none, entries)
  | .clear => .ok (none, [])

end SnapshotCall

namespace MapSnapshot

variable {Value : Type} {codec : ValueCodec Value}
variable {snapshot : MapSnapshot Value} {memory : Memory}

/--
The entries of a snapshot are what the fields of its document are read as, and
they stand in the order of their keys.
-/
structure Mirrors
    (codec : ValueCodec Value)
    (snapshot : MapSnapshot Value)
    (memory : Memory) : Prop where
  entries : ∃ fields cas,
    memory.find? snapshot.map.id = some ⟨.object fields, cas⟩ ∧
      decodeEntries codec fields = .ok snapshot.entries
  ordered : KeyedList.IsOrdered snapshot.entries

/-- The entries of a map are read from the object in place, or not at all. -/
theorem run_entries (map : FieldMap) (memory : Memory) :
    memory.run (map.entries codec) =
      (match memory.getObject map.id with
        | .error error => .error error
        | .ok object =>
            (decodeEntries codec object.value).map fun entries =>
              ⟨map, entries⟩,
        memory) := by
  have read :
      memory.run (perform (.get map.id)) = (memory.get map.id, memory) := rfl
  rw [FieldMap.entries, Memory.run_bind, read]
  unfold Memory.get Memory.getObject
  cases memory.find? map.id with
  | none => rfl
  | some document =>
      obtain ⟨content, cas⟩ := document
      cases content with
      | object fields =>
          change memory.run (do
            let entries ← (decodeEntries codec fields : Action _)
            return (⟨map, entries⟩ : MapSnapshot Value)) =
              ((decodeEntries codec fields).map fun entries => ⟨map, entries⟩,
                memory)
          cases decodeEntries codec fields <;> rfl
      | _ => rfl

/-- A snapshot that was taken of an object in key order mirrors it. -/
theorem mirrors_of_taken
    {map : FieldMap}
    (ordered : ∀ fields cas,
      memory.find? map.id = some ⟨.object fields, cas⟩ →
      KeyedList.IsOrdered fields)
    (taken : (memory.run (map.entries codec)).1 = .ok snapshot) :
    snapshot.map = map ∧ snapshot.Mirrors codec memory := by
  rw [run_entries] at taken
  cases read : memory.getObject map.id with
  | error error =>
      rw [read] at taken
      cases taken
  | ok object =>
      have found := Memory.find?_of_getObject read
      simp only [read] at taken
      cases decoded : decodeEntries codec object.value with
      | error error =>
          rw [decoded] at taken
          cases taken
      | ok entries =>
          rw [decoded] at taken
          cases taken
          refine ⟨rfl, ⟨object.value, object.cas, found, decoded⟩, ?_⟩
          rw [KeyedList.isOrdered_iff_keys, keys_of_decodeEntries decoded,
            ← KeyedList.isOrdered_iff_keys]
          exact ordered object.value object.cas found

/-- The count of the fields of a mirrored document is that of the entries. -/
theorem Mirrors.run_size (mirrors : snapshot.Mirrors codec memory) :
    memory.run snapshot.map.size = (.ok snapshot.size, memory) := by
  obtain ⟨fields, cas, found, read⟩ := mirrors.entries
  have counted :
      memory.run snapshot.map.size =
        (memory.fieldCount snapshot.map.id "", memory) := rfl
  have sameLength : fields.length = snapshot.entries.length := by
    simpa using congrArg List.length (keys_of_decodeEntries read).symm
  rw [counted, Memory.fieldCount, if_pos rfl, Memory.getObject_of_find? found]
  simp [sameLength, size]

/-- A snapshot mirrors its document again when both have been changed alike. -/
theorem mirrors_revise
    {fields : Json.Fields}
    {entries : List (String × Value)}
    (read : decodeEntries codec fields = .ok entries)
    (ordered : KeyedList.IsOrdered entries) :
    ({ snapshot with entries } : MapSnapshot Value).Mirrors codec
      (memory.revise snapshot.map.id (.object fields)) := by
  refine ⟨⟨fields, memory.nextCas, ?_, read⟩, ordered⟩
  rw [Memory.find?_revise, if_pos rfl]

/-- What an update does to a document all of whose fields can be read. -/
theorem run_update_of_read
    {map : FieldMap}
    {fields : Json.Fields}
    {cas : Wire.Cas}
    {entries : List (String × Value)}
    (found : memory.find? map.id = some ⟨.object fields, cas⟩)
    (read : decodeEntries codec fields = .ok entries)
    (update : MapUpdate Value) :
    memory.run (update.action codec map) =
      match update.change codec with
      | .error error => (.error error, memory)
      | .ok made =>
          match made.fieldsAfter? update.key fields with
          | none => (.ok none, memory)
          | some after =>
              (.ok (KeyedList.find? update.key entries),
                memory.revise map.id (.object after)) := by
  rw [MapUpdate.run_eq, Memory.getObject_of_find? found]
  cases update.change codec with
  | error error => rfl
  | ok made =>
      dsimp only
      cases made.fieldsAfter? update.key fields with
      | none => rfl
      | some after => exact Prod.ext (decodeField_of_decodeEntries read _) rfl

end MapSnapshot

namespace MapUpdate

variable {Value : Type} {codec : ValueCodec Value} {made : FieldChange}

/-- An insertion that is not refused assigns the form of its value. -/
theorem eq_assign_of_put
    {key : String}
    {value : Value}
    (allowed : (put key value).change codec = .ok made) :
    ∃ encoded, codec.encode value = some encoded ∧ made = .assign encoded := by
  unfold change at allowed
  cases addressed : keyPath key with
  | error error => simp [MapUpdate.key, addressed] at allowed
  | ok path =>
      simp only [MapUpdate.key, addressed, encodeField] at allowed
      cases encodes : codec.encode value with
      | none => simp [encodes, Except.map] at allowed
      | some encoded =>
          simp only [encodes, Except.map, Except.ok.injEq] at allowed
          exact ⟨encoded, rfl, allowed.symm⟩

theorem eq_drop_of_remove
    {key : String}
    (allowed : (remove key : MapUpdate Value).change codec = .ok made) :
    made = .drop := by
  unfold change at allowed
  cases addressed : keyPath key with
  | error error => simp [MapUpdate.key, addressed] at allowed
  | ok path =>
      simp only [MapUpdate.key, addressed, Except.ok.injEq] at allowed
      exact allowed.symm

end MapUpdate

namespace SnapshotCall

variable {Value : Type} {codec : ValueCodec Value}
variable {snapshot : MapSnapshot Value} {memory : Memory}

/--
A call on a mirrored snapshot does what it does on the entries alone: it is
refused and leaves both sides as they are, or it leaves a mirror.
-/
inductive Fulfils
    (codec : ValueCodec Value)
    (call : SnapshotCall Value)
    (memory : Memory)
    (snapshot : MapSnapshot Value) : Prop where
  | refused
      {error : Error}
      (refuses : call.outcome codec snapshot.entries = .error error)
      (applied :
        call.apply codec memory snapshot = (.error error, memory, snapshot))
  | made
      {held : Option Value}
      {entries : List (String × Value)}
      {later : Memory}
      (makes : call.outcome codec snapshot.entries = .ok (held, entries))
      (applied :
        call.apply codec memory snapshot =
          (.ok held, later, { snapshot with entries }))
      (mirrors :
        ({ snapshot with entries } : MapSnapshot Value).Mirrors codec later)

/-- What a call does after its update of the map. -/
theorem apply_of_update
    {call : SnapshotCall Value}
    (update : MapUpdate Value)
    {entries : List (String × Value)}
    (changes :
      call.action codec snapshot = do
        let held ← update.action codec snapshot.map
        return (held, { snapshot with entries })) :
    call.apply codec memory snapshot =
      match memory.run (update.action codec snapshot.map) with
      | (.error error, later) => (.error error, later, snapshot)
      | (.ok held, later) => (.ok held, later, { snapshot with entries }) := by
  unfold apply
  rw [changes, Memory.run_bind]
  rcases memory.run (update.action codec snapshot.map) with ⟨result, later⟩
  cases result <;> rfl

theorem fulfils_set
    (decodes : ∀ value encoded,
      codec.encode value = some encoded → codec.decode encoded = some value)
    (mirrors : snapshot.Mirrors codec memory)
    (key : String)
    (value : Value) :
    Fulfils codec (.set key value) memory snapshot := by
  obtain ⟨fields, cas, found, read⟩ := mirrors.entries
  have applied : (set key value).apply codec memory snapshot = _ :=
    apply_of_update (.put key value) rfl
  rw [MapSnapshot.run_update_of_read found read] at applied
  cases allowed : (MapUpdate.put key value).change codec with
  | error error =>
      rw [allowed] at applied
      exact .refused (by rw [outcome, allowed]; rfl) applied
  | ok made =>
      obtain ⟨encoded, encodes, rfl⟩ := MapUpdate.eq_assign_of_put allowed
      rw [allowed] at applied
      refine .made (by rw [outcome, allowed]; rfl) applied ?_
      apply MapSnapshot.mirrors_revise
      · exact decodeEntries_insert (decodes value encoded encodes) read key
      · exact mirrors.ordered.insert key value

/-- A key that is not in the snapshot is not removed from the map either. -/
theorem apply_remove_of_absent
    {key : String}
    (absent : ¬KeyedList.contains key snapshot.entries)
    (memory : Memory) :
    (remove key).apply codec memory snapshot =
      (.ok none, memory, snapshot) := by
  unfold apply
  rw [action, MapSnapshot.remove, if_neg absent]
  rfl

theorem fulfils_remove
    (mirrors : snapshot.Mirrors codec memory)
    (key : String) :
    Fulfils codec (.remove key) memory snapshot := by
  obtain ⟨fields, cas, found, read⟩ := mirrors.entries
  by_cases there : KeyedList.contains key snapshot.entries
  · have inDocument : KeyedList.contains key fields := by
      unfold KeyedList.contains at there ⊢
      rw [KeyedList.find?_isSome_iff] at there ⊢
      rwa [keys_of_decodeEntries read] at there
    have applied : (remove key).apply codec memory snapshot = _ :=
      apply_of_update (.remove key) (if_pos there)
    rw [MapSnapshot.run_update_of_read found read] at applied
    cases allowed : (MapUpdate.remove key : MapUpdate Value).change codec with
    | error error =>
        rw [allowed] at applied
        exact .refused (by rw [outcome, if_pos there, allowed]; rfl) applied
    | ok made =>
        obtain rfl := MapUpdate.eq_drop_of_remove allowed
        simp only [allowed, FieldChange.fieldsAfter?, MapUpdate.key, inDocument,
          ↓reduceIte] at applied
        refine .made (by rw [outcome, if_pos there, allowed]; rfl) applied ?_
        apply MapSnapshot.mirrors_revise
        · exact decodeEntries_erase read key
        · exact mirrors.ordered.erase key
  · refine .made (by rw [outcome, if_neg there]) ?_ mirrors
    exact apply_remove_of_absent there memory

theorem fulfils_clear (memory : Memory) (snapshot : MapSnapshot Value) :
    Fulfils codec .clear memory snapshot :=
  .made rfl rfl (MapSnapshot.mirrors_revise rfl KeyedList.isOrdered_nil)

/-- Every call on a mirrored snapshot does what it does on the entries alone. -/
theorem fulfils
    (decodes : ∀ value encoded,
      codec.encode value = some encoded → codec.decode encoded = some value)
    (mirrors : snapshot.Mirrors codec memory)
    (call : SnapshotCall Value) : Fulfils codec call memory snapshot := by
  cases call with
  | set key value => exact fulfils_set decodes mirrors key value
  | remove key => exact fulfils_remove mirrors key
  | clear => exact fulfils_clear memory snapshot

/-- A call leaves a mirror of the same map, whether or not it fails. -/
theorem Fulfils.mirrors_later
    {call : SnapshotCall Value}
    (fulfils : Fulfils codec call memory snapshot)
    (mirrors : snapshot.Mirrors codec memory) :
    (call.apply codec memory snapshot).2.2.map = snapshot.map ∧
      (call.apply codec memory snapshot).2.2.Mirrors codec
        (call.apply codec memory snapshot).2.1 := by
  cases fulfils with
  | refused _ applied =>
      rw [applied]
      exact ⟨rfl, mirrors⟩
  | made _ applied mirrorsLater =>
      rw [applied]
      exact ⟨rfl, mirrorsLater⟩

/-- What a call is refused for leaves everything as it is. -/
theorem Fulfils.of_error
    {call : SnapshotCall Value}
    (fulfils : Fulfils codec call memory snapshot)
    {error : Error}
    {after : Memory}
    {later : MapSnapshot Value}
    (failed : call.apply codec memory snapshot = (.error error, after, later)) :
    after = memory ∧ later = snapshot := by
  cases fulfils with
  | refused _ applied =>
      cases applied.symm.trans failed
      exact ⟨rfl, rfl⟩
  | made _ applied => cases applied.symm.trans failed

/-- The answer and the entries are those of the call on the entries alone. -/
theorem Fulfils.outcome_eq
    {call : SnapshotCall Value}
    (fulfils : Fulfils codec call memory snapshot)
    {answer : Except Error (Option Value)}
    {after : Memory}
    {later : MapSnapshot Value}
    (applied : call.apply codec memory snapshot = (answer, after, later)) :
    (answer.map fun held => (held, later.entries)) =
      call.outcome codec snapshot.entries := by
  cases fulfils with
  | refused refuses refusal =>
      cases refusal.symm.trans applied
      exact refuses.symm
  | made makes success =>
      cases success.symm.trans applied
      exact makes.symm

/-- On entries, a call for a key returns the value that is under the key. -/
theorem held_of_outcome
    {call : SnapshotCall Value}
    {key : String}
    (isKey : call.key? = some key)
    {entries left : List (String × Value)}
    {held : Option Value}
    (made : call.outcome codec entries = .ok (held, left)) :
    held = KeyedList.find? key entries := by
  cases call with
  | clear => cases isKey
  | set other value =>
      cases isKey
      rw [outcome] at made
      cases allowed : (MapUpdate.put key value).change codec with
      | error error =>
          rw [allowed] at made
          cases made
      | ok change =>
          rw [allowed] at made
          cases made
          rfl
  | remove other =>
      cases isKey
      by_cases there : KeyedList.contains key entries
      · rw [outcome, if_pos there] at made
        cases allowed : (MapUpdate.remove key : MapUpdate Value).change codec with
        | error error =>
            rw [allowed] at made
            cases made
        | ok change =>
            rw [allowed] at made
            cases made
            rfl
      · rw [outcome, if_neg there] at made
        cases made
        exact (Option.not_isSome_iff_eq_none.mp there).symm

/-- Calls in a row keep a snapshot a mirror of its map. -/
theorem mirrors_applyAll
    (decodes : ∀ value encoded,
      codec.encode value = some encoded → codec.decode encoded = some value)
    (mirrors : snapshot.Mirrors codec memory)
    (calls : List (SnapshotCall Value)) :
    (applyAll codec calls memory snapshot).2.map = snapshot.map ∧
      (applyAll codec calls memory snapshot).2.Mirrors codec
        (applyAll codec calls memory snapshot).1 := by
  induction calls generalizing memory snapshot with
  | nil => exact ⟨rfl, mirrors⟩
  | cons call rest inductionHypothesis =>
      obtain ⟨sameMap, mirrorsNext⟩ :=
        (fulfils decodes mirrors call).mirrors_later mirrors
      obtain ⟨sameMapLater, mirrorsLater⟩ := inductionHypothesis mirrorsNext
      exact ⟨sameMapLater.trans sameMap, mirrorsLater⟩

/--
A snapshot that was taken of a map, whose object keeps its fields in key order,
with any calls made on it since by the only writer: its entries are the values
that the fields of the document are read as, in the order of the keys and one to
a key, and there are as many as the map counts. The next call returns and leaves
what it does on the entries alone, so to set or to remove an entry returns the
value that the snapshot held; a call that fails changes neither side, and
neither does the removal of a key that is not in the snapshot.
-/
theorem snapshots_stay_mirrors
    {map : FieldMap}
    {taken : MapSnapshot Value}
    (decodes : ∀ value encoded,
      codec.encode value = some encoded → codec.decode encoded = some value)
    (ordered : ∀ fields cas,
      memory.find? map.id = some ⟨.object fields, cas⟩ →
      KeyedList.IsOrdered fields)
    (takes : (memory.run (map.entries codec)).1 = .ok taken)
    (calls : List (SnapshotCall Value)) :
    let reached := (applyAll codec calls memory taken).1
    let snapshot := (applyAll codec calls memory taken).2
    snapshot.map = map ∧
      snapshot.Mirrors codec reached ∧
      (reached.run map.size).1 = .ok snapshot.size ∧
      ∀ (call : SnapshotCall Value) answer after later,
        call.apply codec reached snapshot = (answer, after, later) →
        (answer.map fun held => (held, later.entries)) =
            call.outcome codec snapshot.entries ∧
          (∀ key held,
            call.key? = some key → answer = .ok held →
              held = snapshot.find? key) ∧
          (∀ error, answer = .error error →
            after = reached ∧ later = snapshot) ∧
          ∀ key, call = .remove key → snapshot.find? key = none →
            answer = .ok none ∧ after = reached ∧ later = snapshot := by
  intro reached snapshot
  obtain ⟨isMap, mirrorsFirst⟩ := MapSnapshot.mirrors_of_taken ordered takes
  obtain ⟨sameMap, mirrors⟩ := mirrors_applyAll decodes mirrorsFirst calls
  have staysMap : snapshot.map = map := sameMap.trans isMap
  refine ⟨staysMap, mirrors, ?_, ?_⟩
  · rw [← staysMap, mirrors.run_size]
  · intro call answer after later applied
    have fulfilled := fulfils decodes mirrors call
    have onEntries := fulfilled.outcome_eq applied
    refine ⟨onEntries, ?_, ?_, ?_⟩
    · rintro key held isKey rfl
      exact held_of_outcome isKey onEntries.symm
    · rintro error rfl
      exact fulfilled.of_error applied
    · rintro key rfl absent
      have notThere : ¬KeyedList.contains key snapshot.entries :=
        Option.not_isSome_iff_eq_none.mpr absent
      cases (apply_remove_of_absent notThere reached).symm.trans applied
      exact ⟨rfl, rfl, rfl⟩

/-- A text under one key, read into a snapshot of JSON values. -/
def textSnapshot : MapSnapshot Json :=
  ⟨⟨"m", .default⟩, [("k", .text "text")]⟩

/-- An entry under a quoted key, one under a refused key, and a removal. -/
def textCalls : List (SnapshotCall Json) :=
  [.set "a.b" (.boolean true), .set "" .null, .remove "k"]

/-- The calls are mirrored, the refused one included. -/
theorem snapshots_stay_mirrors_text :
    (applyAll .json textCalls MapUpdate.textForNumber textSnapshot).2.entries =
        [("a.b", .boolean true)] ∧
      (applyAll .json textCalls MapUpdate.textForNumber textSnapshot).2.Mirrors
        .json
        (applyAll .json textCalls MapUpdate.textForNumber textSnapshot).1 := by
  have ordered : ∀ fields cas,
      MapUpdate.textForNumber.find? "m" = some ⟨.object fields, cas⟩ →
      KeyedList.IsOrdered fields := by
    rintro fields cas ⟨⟩
    exact List.pairwise_singleton _ _
  have decodes : ∀ value encoded,
      ValueCodec.json.encode value = some encoded →
        ValueCodec.json.decode encoded = some value := by
    rintro value encoded ⟨⟩
    rfl
  have takes :
      (MapUpdate.textForNumber.run
        (textSnapshot.map.entries .json)).1 = .ok textSnapshot := rfl
  have mirrored := snapshots_stay_mirrors decodes ordered takes textCalls
  exact ⟨by decide, mirrored.2.1⟩

end SnapshotCall

end ClusterClient.Document
