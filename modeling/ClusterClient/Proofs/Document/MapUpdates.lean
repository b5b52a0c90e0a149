import ClusterClient.Proofs.Document.FieldUpdates
import ClusterClient.Proofs.Document.MapOperations

namespace ClusterClient.Document

/-!
# Updates of one entry

An insertion or a removal is checked before its first store call, and then it is
a field loop whose result is read as a value of the map. So there are two places
where it can fail without having done anything, and one where it has already
made its change: when the value that it replaced cannot be read.

The main statements are `MapUpdate.run_eq`, which says what an update does to
documents that nobody else touches, and
`failed_updates_change_nothing_or_discard`, which follows from it.
-/

/-- Run code that works on documents alone on documents in memory. -/
def Memory.run
    {Result : Type}
    (memory : Memory)
    (action : Action Result) : Except Error Result × Memory :=
  (Store.toMachine Memory.store).run action.run memory

/-- An update of one entry of a map. -/
inductive MapUpdate (Value : Type) where
  | put (key : String) (value : Value)
  | remove (key : String)
  deriving Repr, DecidableEq

/-- A value cannot be read when there is one of another form. -/
theorem decodeField_eq_error
    {Value : Type}
    {codec : ValueCodec Value}
    {value : Option Json}
    {error : Error}
    (failed : decodeField codec value = .error error) :
    ∃ held,
      value = some held ∧ codec.decode held = none ∧
        error = unexpectedShape := by
  cases value with
  | none => cases failed
  | some held =>
      unfold decodeField at failed
      cases decoded : codec.decode held with
      | some read => simp [decoded] at failed
      | none =>
          simp only [decoded, Except.error.injEq] at failed
          exact ⟨held, rfl, decoded, failed.symm⟩

theorem keyPath_eq_error
    {key : String}
    {error : Error}
    (failed : keyPath key = .error error) :
    error = .invalidArgument .emptyMapKey := by
  unfold keyPath at failed
  split at failed
  · exact (Except.error.inj failed).symm
  · cases failed

theorem encodeField_eq_error
    {Value : Type}
    {codec : ValueCodec Value}
    {value : Value}
    {error : Error}
    (failed : encodeField codec value = .error error) :
    error = unexpectedShape := by
  unfold encodeField at failed
  split at failed
  · cases failed
  · exact (Except.error.inj failed).symm

namespace MapUpdate

variable {Value : Type} (codec : ValueCodec Value) (map : FieldMap)

/-- The key of the entry. -/
def key : MapUpdate Value → String
  | .put key _ => key
  | .remove key => key

/-- The name under which an update reports contention. -/
def name : MapUpdate Value → String
  | .put .. => "put"
  | .remove _ => "remove"

/-- What an update does. -/
def action : MapUpdate Value → Action (Option Value)
  | .put key value => map.put codec key value
  | .remove key => map.remove codec key

/--
The change of its field that an update makes. The empty key and a value without
a form in JSON are refused.
-/
def change (update : MapUpdate Value) : Except Error FieldChange :=
  match keyPath update.key with
  | .error error => .error error
  | .ok _ =>
      match update with
      | .put _ value => (encodeField codec value).map .assign
      | .remove _ => .ok .drop

/-- How an update ends: what its loop returns is read as a value. -/
def ending
    (result : Except Error (Option Json)) :
    Program interface (Except Error (Option Value)) :=
  .done (result.bind (decodeField codec))

/-- A field loop does what an update does once it is not refused. -/
structure IsLoop
    (update : MapUpdate Value)
    (change : FieldChange)
    {Next : Type}
    (loop : FieldLoop Next) : Prop where
  program :
    (update.action codec map).run = Program.bind loop.program (ending codec)
  id : loop.id = map.id
  path : loop.path = pathOfKey update.key
  operation : loop.update.operation = update.name
  maxAttempts : loop.update.maxAttempts = max map.settings.retryLimit.toNat 1
  changeOf : ∀ value, loop.changeOf value = change
  acceptsMissingPath : change = .drop → loop.update.acceptsMissingPath = true

variable {codec map} {update : MapUpdate Value}

/-- An update that is refused makes no store call. -/
theorem run_of_refused
    {error : Error}
    (refused : update.change codec = .error error) :
    (update.action codec map).run = .done (.error error) := by
  cases update with
  | put key value =>
      simp only [change, MapUpdate.key] at refused
      simp only [action, FieldMap.put]
      cases addressed : keyPath key with
      | error fault =>
          rw [addressed] at refused
          cases refused
          rfl
      | ok path =>
          rw [addressed] at refused
          cases encoded : encodeField codec value with
          | error fault =>
              rw [encoded] at refused
              cases refused
              rfl
          | ok form =>
              rw [encoded] at refused
              cases refused
  | remove key =>
      simp only [change, MapUpdate.key] at refused
      simp only [action, FieldMap.remove]
      cases addressed : keyPath key with
      | error fault =>
          rw [addressed] at refused
          cases refused
          rfl
      | ok path =>
          rw [addressed] at refused
          cases refused

/-- An update is refused for its key or for its value. -/
theorem change_eq_error
    {error : Error}
    (refused : update.change codec = .error error) :
    error = .invalidArgument .emptyMapKey ∨ error = unexpectedShape := by
  unfold change at refused
  cases addressed : keyPath update.key with
  | error fault =>
      rw [addressed] at refused
      cases refused
      exact .inl (keyPath_eq_error addressed)
  | ok path =>
      rw [addressed] at refused
      cases update with
      | remove key => cases refused
      | put key value =>
          cases encoded : encodeField codec value with
          | ok form => simp [encoded, Except.map] at refused
          | error fault =>
              simp only [encoded, Except.map, Except.error.injEq] at refused
              rw [← refused]
              exact .inr (encodeField_eq_error encoded)

variable (map) in
/-- An update that is not refused is a field loop. -/
theorem exists_loop
    {made : FieldChange}
    (allowed : update.change codec = .ok made) :
    ∃ (Next : Type) (loop : FieldLoop Next),
      update.IsLoop codec map made loop := by
  have nonempty : update.key ≠ "" := by
    intro empty
    simp [change, keyPath, empty] at allowed
  cases update with
  | put key value =>
      simp only [MapUpdate.key] at nonempty
      simp only [change, MapUpdate.key, keyPath, nonempty, encodeField,
        ↓reduceIte] at allowed
      cases encodes : codec.encode value with
      | none =>
          rw [encodes] at allowed
          cases allowed
      | some encoded =>
          rw [encodes] at allowed
          cases allowed
          exact
            ⟨Json, MapOperation.putLoop map.id map.settings key encoded,
              MapOperation.run_put map nonempty encodes, rfl, rfl, rfl, rfl,
              fun _ => rfl, fun dropped => by cases dropped⟩
  | remove key =>
      simp only [MapUpdate.key] at nonempty
      simp only [change, MapUpdate.key, keyPath, nonempty, ↓reduceIte]
        at allowed
      cases allowed
      exact
        ⟨Unit, MapOperation.removeLoop map.id map.settings key,
          MapOperation.run_remove map nonempty, rfl, rfl, rfl, rfl,
          fun _ => rfl, fun _ => rfl⟩

namespace IsLoop

variable {made : FieldChange} {Next : Type} {loop : FieldLoop Next}

theorem maxAttempts_pos (isLoop : update.IsLoop codec map made loop) :
    0 < loop.update.maxAttempts := by
  rw [isLoop.maxAttempts]
  exact Nat.lt_of_lt_of_le Nat.one_pos (Nat.le_max_right _ 1)

/-- The path of a loop addresses the key of its update. -/
theorem fieldOf_path (isLoop : update.IsLoop codec map made loop) :
    Memory.fieldOf loop.path = .ok update.key := by
  rw [isLoop.path, Memory.fieldOf_pathOfKey]

end IsLoop

/--
What an update does to documents that nobody else touches: it is refused, or it
finds no object, or it makes its change of the fields that it finds. What it
returns is read only then.
-/
theorem run_eq (update : MapUpdate Value) (memory : Memory) :
    memory.run (update.action codec map) =
      match update.change codec with
      | .error error => (.error error, memory)
      | .ok made =>
          match memory.getObject map.id with
          | .error error => (.error error, memory)
          | .ok object =>
              match made.fieldsAfter? update.key object.value with
              | none => (.ok none, memory)
              | some after =>
                  (decodeField codec
                      (KeyedList.find? update.key object.value),
                    memory.revise map.id (.object after)) := by
  unfold Memory.run
  cases allowed : update.change codec with
  | error error =>
      rw [run_of_refused allowed]
      rfl
  | ok made =>
      obtain ⟨Next, loop, isLoop⟩ := exists_loop map allowed
      rw [isLoop.program, TotalMachine.run_bind]
      cases read : memory.getObject map.id with
      | error error =>
          have unreadable :
              memory.lookupField loop.id loop.path = .error error := by
            simp [Memory.lookupField, isLoop.fieldOf_path, isLoop.id, read]
          rw [FieldLoop.run_program_of_unreadable isLoop.maxAttempts_pos
            unreadable]
          rfl
      | ok object =>
          obtain ⟨fields, cas⟩ := object
          have found := Memory.find?_of_getObject read
          rw [← isLoop.id] at found
          rw [FieldLoop.run_program_of_object isLoop.maxAttempts_pos
            isLoop.fieldOf_path found, isLoop.changeOf]
          cases changed : made.fieldsAfter? update.key fields with
          | some after =>
              simp [TotalMachine.run, ending, isLoop.id, Except.bind, changed]
          | none =>
              have drops : made = .drop := FieldChange.eq_drop_of_refused changed
              simp [TotalMachine.run, ending, isLoop.acceptsMissingPath drops,
                Except.bind, decodeField, changed]

variable (codec map) in
/--
An update makes its change, and the value that it replaces cannot be read as a
value of the map.
-/
def Discards (update : MapUpdate Value) (memory : Memory) : Prop :=
  (∃ made, update.change codec = .ok made) ∧
    ∃ held,
      memory.fieldValue? map.id update.key = some held ∧
        codec.decode held = none

/--
An update that fails leaves all documents and their versions as they were, with
one exception: it fails after its change has been made when it discards a value
that cannot be read. Its error is then the same as that of a read.
-/
theorem failed_updates_change_nothing_or_discard
    {memory later : Memory}
    {error : Error}
    (failed : memory.run (update.action codec map) = (.error error, later)) :
    (¬ update.Discards codec map memory ∧ later = memory) ∨
      (update.Discards codec map memory ∧
        error = unexpectedShape ∧
        ∃ made fields cas after,
          update.change codec = .ok made ∧
            memory.find? map.id = some ⟨.object fields, cas⟩ ∧
            made.fieldsAfter? update.key fields = some after ∧
            later = memory.revise map.id (.object after)) := by
  rw [run_eq] at failed
  cases allowed : update.change codec with
  | error refusal =>
      simp only [allowed, Prod.mk.injEq] at failed
      refine .inl ⟨?_, failed.2.symm⟩
      rintro ⟨⟨made, possible⟩, -⟩
      cases allowed.symm.trans possible
  | ok made =>
      simp only [allowed] at failed
      cases read : memory.getObject map.id with
      | error fault =>
          simp only [read, Prod.mk.injEq] at failed
          refine .inl ⟨?_, failed.2.symm⟩
          rintro ⟨-, held, there, -⟩
          obtain ⟨fields, cas, found, -⟩ := Memory.exists_of_fieldValue? there
          rw [Memory.getObject_of_find? found] at read
          cases read
      | ok object =>
          obtain ⟨fields, cas⟩ := object
          have found := Memory.find?_of_getObject read
          simp only [read] at failed
          cases changed : made.fieldsAfter? update.key fields with
          | none =>
              rw [changed] at failed
              cases failed
          | some after =>
              simp only [changed, Prod.mk.injEq] at failed
              obtain ⟨undecoded, revised⟩ := failed
              obtain ⟨held, there, unreadable, isShape⟩ :=
                decodeField_eq_error undecoded
              have discards : update.Discards codec map memory := by
                refine ⟨⟨made, allowed⟩, held, ?_, unreadable⟩
                rw [Memory.fieldValue?_of_find? found]
                exact there
              exact
                .inr
                  ⟨discards, isShape, made, fields, cas, after, rfl, found,
                    changed, revised.symm⟩

/-- A map of numbers whose document holds a text. -/
def textForNumber : Memory :=
  Memory.empty.revise "m" (.object [("k", .text "text")])

/-- The insertion of a number in place of a text fails, and the text is gone. -/
theorem failed_update_replaces_text :
    (textForNumber.run
          ((put "k" 1).action .unsigned64 ⟨"m", .default⟩)).1 =
        .error unexpectedShape ∧
      textForNumber.find? "m" = some ⟨.object [("k", .text "text")], 1⟩ ∧
      (textForNumber.run
            ((put "k" 1).action .unsigned64 ⟨"m", .default⟩)).2.find? "m" =
        some ⟨.object [("k", .whole (.ofUnsigned 1))], 2⟩ := by
  decide

/-- The removal of the text fails because it discards it. -/
theorem failed_updates_change_nothing_or_discard_text :
    textForNumber.run ((remove "k").action .unsigned64 ⟨"m", .default⟩) =
        (.error unexpectedShape, textForNumber.revise "m" (.object [])) ∧
      (remove "k").Discards .unsigned64 ⟨"m", .default⟩ textForNumber := by
  have failed :
      textForNumber.run ((remove "k").action .unsigned64 ⟨"m", .default⟩) =
        (.error unexpectedShape, textForNumber.revise "m" (.object [])) := by
    decide
  refine ⟨failed, ?_⟩
  rcases failed_updates_change_nothing_or_discard failed with
    ⟨-, same⟩ | ⟨discards, -⟩
  · exact absurd same.symm (Memory.revise_ne _ _ _)
  · exact discards

end MapUpdate

end ClusterClient.Document
