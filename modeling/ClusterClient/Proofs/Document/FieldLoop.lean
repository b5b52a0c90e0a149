import ClusterClient.Document.FieldMap
import ClusterClient.Proofs.Document.Versions

namespace ClusterClient.Document

/-!
# Guarded updates of one field

A field loop reads one field with the version of its document, computes a change
of the field, and makes the change on condition that the version is still the
same. As a program it stands at one of four points: about to read, about to
write under a version that it has read, pausing, or ended.

The main statement is `Point.advance`: every step of a field loop leaves the
documents alone and the loop at a point that remembers what it has read, except
for the last step, which concludes the loop in one of a few ways. In particular
a write takes effect only on the fields that were read.
-/

theorem run_discard_perform (call : StoreCall) :
    (discard (perform call)).run =
      .step (.store call) fun answer =>
        .done (Except.map (fun _ => ()) answer) := by
  refine congrArg (Program.step _) (funext fun answer => ?_)
  cases answer <;> rfl

/-- What is done to a field. -/
inductive FieldChange where
  | assign (value : Json)
  | drop
  deriving Repr, DecidableEq

namespace FieldChange

/-- The store call that makes a change under a version. -/
def call (id path : String) (cas : Wire.Cas) : FieldChange → StoreCall
  | .assign value => .upsertField id path value cas
  | .drop => .removeField id path cas

/-- The fields after a change; a field that is not there cannot be dropped. -/
def fieldsAfter? (key : String) (fields : Json.Fields) :
    FieldChange → Option Json.Fields
  | .assign value => some (KeyedList.insert key value fields)
  | .drop =>
      if KeyedList.contains key fields then
        some (KeyedList.erase key fields)
      else
        none

/-- The value of the field after a change. -/
def value? : FieldChange → Option Json
  | .assign value => some value
  | .drop => none

/-- Dropping a field that is there leaves the other fields. -/
theorem eq_erase_of_drop
    {key : String}
    {fields changed : Json.Fields}
    (applied : FieldChange.drop.fieldsAfter? key fields = some changed) :
    changed = KeyedList.erase key fields := by
  simp only [fieldsAfter?] at applied
  split at applied
  · exact (Option.some.inj applied).symm
  · cases applied

/-- A change gives the field its value and leaves the other fields alone. -/
theorem find?_fieldsAfter?
    {change : FieldChange}
    {key : String}
    {fields changed : Json.Fields}
    (applied : change.fieldsAfter? key fields = some changed)
    (other : String) :
    KeyedList.find? other changed =
      if other = key then change.value? else KeyedList.find? other fields := by
  cases change with
  | assign value =>
      cases applied
      rw [KeyedList.find?_insert]
      rfl
  | drop =>
      rw [eq_erase_of_drop applied, KeyedList.find?_erase]
      rfl

theorem find?_fieldsAfter?_self
    {change : FieldChange}
    {key : String}
    {fields changed : Json.Fields}
    (applied : change.fieldsAfter? key fields = some changed) :
    KeyedList.find? key changed = change.value? := by
  rw [find?_fieldsAfter? applied, if_pos rfl]

theorem find?_of_fieldsAfter?_eq_none
    {change : FieldChange}
    {key : String}
    {fields : Json.Fields}
    (refused : change.fieldsAfter? key fields = none) :
    KeyedList.find? key fields = none := by
  cases change with
  | assign value => cases refused
  | drop =>
      simp only [fieldsAfter?] at refused
      split at refused
      · cases refused
      · simpa [KeyedList.contains] using ‹¬ KeyedList.contains key fields›

/-- Only a drop can be refused. -/
theorem eq_drop_of_refused
    {change : FieldChange}
    {key : String}
    {fields : Json.Fields}
    (refused : change.fieldsAfter? key fields = none) : change = .drop := by
  cases change with
  | assign value => cases refused
  | drop => rfl

theorem store_of_absent
    (change : FieldChange)
    {memory : Memory}
    {id path key : String}
    (addressed : Memory.fieldOf path = .ok key)
    (absent : memory.find? id = none)
    (cas : Wire.Cas) :
    Except.map (fun _ => ())
          (Memory.store (change.call id path cas) memory).1 =
        .error (.documentNotFound id) ∧
      (Memory.store (change.call id path cas) memory).2 = memory := by
  cases change <;>
    simp [call, Memory.store, Memory.upsertField, Memory.removeField,
      addressed, Memory.changeFields_of_absent absent, Except.map]

theorem store_of_stale
    (change : FieldChange)
    {memory : Memory}
    {id path key : String}
    (addressed : Memory.fieldOf path = .ok key)
    {document : Revision}
    (found : memory.find? id = some document)
    {cas : Wire.Cas}
    (guarded : cas ≠ Wire.anyVersion)
    (stale : cas ≠ document.cas) :
    Except.map (fun _ => ())
          (Memory.store (change.call id path cas) memory).1 =
        .error (.casMismatch id) ∧
      (Memory.store (change.call id path cas) memory).2 = memory := by
  cases change <;>
    simp [call, Memory.store, Memory.upsertField, Memory.removeField,
      addressed, Memory.changeFields_of_stale found guarded stale, Except.map]

/-- Under the version in place, a field is changed if it can be. -/
theorem store_of_current
    (change : FieldChange)
    {memory : Memory}
    {id path key : String}
    (addressed : Memory.fieldOf path = .ok key)
    {fields : Json.Fields}
    {cas : Wire.Cas}
    (found : memory.find? id = some ⟨.object fields, cas⟩) :
    (Except.map (fun _ => ())
          (Memory.store (change.call id path cas) memory).1,
        (Memory.store (change.call id path cas) memory).2) =
      match change.fieldsAfter? key fields with
      | some after => (.ok (), memory.revise id (.object after))
      | none => (.error (.pathNotFound path), memory) := by
  cases change with
  | assign value =>
      simp [call, Memory.store, Memory.upsertField, addressed,
        Memory.changeFields_of_current found, fieldsAfter?, Except.map]
  | drop =>
      by_cases there : KeyedList.contains key fields <;>
        simp [call, Memory.store, Memory.removeField, addressed,
          Memory.changeFields_of_current found, fieldsAfter?, there,
          Except.map]

end FieldChange

/-- A guarded update of one field of one document. -/
structure FieldLoop (Next : Type) where
  update : Optimistic.Update
  id : String
  path : String
  compute : Option Json → Next
  change : Next → FieldChange

namespace FieldLoop

variable {Next Result : Type}

/-- The change that a loop makes after reading a value. -/
def changeOf (loop : FieldLoop Next) (value : Option Json) : FieldChange :=
  loop.change (loop.compute value)

/-- Up to so many rounds of a loop. -/
def rounds
    (loop : FieldLoop Next)
    (attempt remaining : Nat) :
    Program interface (Except Error (Option Json)) :=
  loop.update.rounds
    (perform (.lookupField loop.id loop.path)).run
    (fun current => pure (loop.compute current))
    (fun next cas =>
      (discard (perform ((loop.change next).call loop.id loop.path cas))).run)
    pause attempt remaining

/-- The program of a loop. -/
def program (loop : FieldLoop Next) :
    Program interface (Except Error (Option Json)) :=
  loop.update.run
    (perform (.lookupField loop.id loop.path)).run
    (fun current => pure (loop.compute current))
    (fun next cas =>
      (discard (perform ((loop.change next).call loop.id loop.path cas))).run)
    pause

/-- The delay of a loop after a conflict. -/
def delay (loop : FieldLoop Next) (attempt : Nat) : Duration :=
  loop.update.backoff.delay attempt

/-- Where a loop stands between two steps. -/
inductive Point where
  | reading (attempt remaining : Nat)
  | writing
      (attempt remaining : Nat)
      (current : Optimistic.Versioned (Option Json))
  | pausing (attempt remaining : Nat)
  | ended (result : Except Error (Option Json))

namespace Point

/-- The point before so many rounds. -/
def ofRounds (loop : FieldLoop Next) (attempt : Nat) : Nat → Point
  | 0 => .ended (.error loop.update.contention)
  | remaining + 1 => .reading attempt remaining

/-- The point after a conflict. -/
def ofConflict (loop : FieldLoop Next) (attempt remaining : Nat) : Point :=
  if remaining ≠ 0 ∧ ¬ (loop.delay attempt).isZero then
    .pausing attempt remaining
  else
    ofRounds loop (attempt + 1) remaining

/-- The point after a write. -/
def ofVerdict
    (loop : FieldLoop Next)
    (attempt remaining : Nat) :
    Optimistic.Update.Verdict (Option Json) → Point
  | .finished result => .ended result
  | .conflict => ofConflict loop attempt remaining

/-- The point after a read. -/
def ofRead
    (attempt remaining : Nat) :
    Except Error (Optimistic.Versioned (Option Json)) → Point
  | .error error => .ended (.error error)
  | .ok current => .writing attempt remaining current

/-- What is left of a loop at a point. -/
def program (loop : FieldLoop Next) :
    Point → Program interface (Except Error (Option Json))
  | .reading attempt remaining => loop.rounds attempt (remaining + 1)
  | .writing attempt remaining current =>
      .step
        (.store
          ((loop.changeOf current.value).call loop.id loop.path current.cas))
        fun answer =>
          match loop.update.judge current.value
              (Except.map (fun _ => ()) answer) with
          | .finished result => .done result
          | .conflict =>
              if remaining ≠ 0 ∧ ¬ (loop.delay attempt).isZero then
                .step (.pause (loop.delay attempt)) fun _ =>
                  loop.rounds (attempt + 1) remaining
              else
                loop.rounds (attempt + 1) remaining
  | .pausing attempt remaining =>
      .step (.pause (loop.delay attempt)) fun _ =>
        loop.rounds (attempt + 1) remaining
  | .ended result => .done result

theorem program_ofRounds
    (loop : FieldLoop Next)
    (attempt remaining : Nat) :
    (ofRounds loop attempt remaining).program loop =
      loop.rounds attempt remaining := by
  cases remaining <;> rfl

theorem program_ofConflict
    (loop : FieldLoop Next)
    (attempt remaining : Nat) :
    (ofConflict loop attempt remaining).program loop =
      if remaining ≠ 0 ∧ ¬ (loop.delay attempt).isZero then
        .step (.pause (loop.delay attempt)) fun _ =>
          loop.rounds (attempt + 1) remaining
      else
        loop.rounds (attempt + 1) remaining := by
  unfold ofConflict
  split
  · rfl
  · exact program_ofRounds loop (attempt + 1) remaining

theorem program_writing
    (loop : FieldLoop Next)
    (attempt remaining : Nat)
    (current : Optimistic.Versioned (Option Json)) :
    (writing attempt remaining current).program loop =
      .step
        (.store
          ((loop.changeOf current.value).call loop.id loop.path current.cas))
        fun answer =>
          (ofVerdict loop attempt remaining
            (loop.update.judge current.value
              (Except.map (fun _ => ()) answer))).program loop := by
  refine congrArg (Program.step _) (funext fun answer => ?_)
  cases loop.update.judge current.value (Except.map (fun _ => ()) answer) with
  | finished result => rfl
  | conflict => exact (program_ofConflict loop attempt remaining).symm

theorem program_reading
    (loop : FieldLoop Next)
    (attempt remaining : Nat) :
    (reading attempt remaining).program loop =
      .step (.store (.lookupField loop.id loop.path)) fun answer =>
        (ofRead attempt remaining answer).program loop := by
  refine congrArg (Program.step _)
    (funext fun (answer :
      Except Error (Optimistic.Versioned (Option Json))) => ?_)
  cases answer with
  | error error => rfl
  | ok current =>
      change _ = (writing attempt remaining current).program loop
      rw [program_writing]
      change Program.bind (discard (perform _)).run _ = _
      rw [run_discard_perform]
      refine congrArg (Program.step _) (funext fun written => ?_)
      change
        Program.bind (.done (Except.map (fun _ => ()) written)) _ =
          (ofVerdict loop attempt remaining
            (loop.update.judge current.value
              (Except.map (fun _ => ()) written))).program loop
      generalize Except.map (fun _ => ()) written = outcome
      simp only [Program.bind]
      cases loop.update.judge current.value outcome with
      | finished result => rfl
      | conflict =>
          rw [ofVerdict, program_ofConflict]
          by_cases waits : remaining ≠ 0 ∧ ¬ (loop.delay attempt).isZero
          · rw [if_pos waits]
            exact if_pos waits
          · rw [if_neg waits]
            exact if_neg waits

/-- A point at which a loop has not ended. -/
def IsOpen : Point → Prop
  | .ended _ => False
  | _ => True

theorem IsOpen.program_ne_done
    {loop : FieldLoop Next}
    {point : Point}
    (isOpen : point.IsOpen)
    (result : Except Error (Option Json)) :
    point.program loop ≠ .done result := by
  intro ended
  cases point with
  | reading | writing | pausing => cases ended
  | ended => exact isOpen

/--
What a loop has read is recalled: while the version that it read is in place,
so are the fields among which it found the value. A loop pauses only when there
are rounds left.
-/
def Stands (loop : FieldLoop Next) (memory : Memory) : Point → Prop
  | .writing _ _ current =>
      ∃ key fields,
        Memory.fieldOf loop.path = .ok key ∧
          memory.Recalls loop.id ⟨.object fields, current.cas⟩ ∧
          current.value = KeyedList.find? key fields
  | .pausing _ remaining => remaining ≠ 0
  | _ => True

/-- Changes that do not wrap the counter leave a loop standing. -/
theorem Stands.change
    {loop : FieldLoop Next}
    {memory later : Memory}
    {point : Point}
    (stands : point.Stands loop memory)
    (change : memory.Change later)
    (forward : memory.nextCas ≤ later.nextCas) :
    point.Stands loop later := by
  cases point with
  | writing attempt remaining current =>
      obtain ⟨key, fields, addressed, recalls, value⟩ := stands
      exact ⟨key, fields, addressed, recalls.change change forward, value⟩
  | pausing => exact stands
  | reading | ended => trivial

end Point

/--
How a loop ends, with the documents before and after its last step. Either
nothing was changed, or the change was made to the fields that were read.
-/
inductive Conclusion
    (loop : FieldLoop Next)
    (memory : Memory) :
    Except Error (Option Json) → Memory → Prop where
  | unreadable
      {error : Error}
      (failed : memory.lookupField loop.id loop.path = .error error) :
      Conclusion loop memory (.error error) memory
  | vanished
      (absent : memory.find? loop.id = none) :
      Conclusion loop memory (.error (.documentNotFound loop.id)) memory
  | contended :
      Conclusion loop memory (.error loop.update.contention) memory
  | changed
      {key : String}
      {fields after : Json.Fields}
      {cas : Wire.Cas}
      (addressed : Memory.fieldOf loop.path = .ok key)
      (found : memory.find? loop.id = some ⟨.object fields, cas⟩)
      (applied :
        (loop.changeOf (KeyedList.find? key fields)).fieldsAfter? key fields =
          some after) :
      Conclusion loop memory (.ok (KeyedList.find? key fields))
        (memory.revise loop.id (.object after))
  | missing
      {key : String}
      {fields : Json.Fields}
      {cas : Wire.Cas}
      (addressed : Memory.fieldOf loop.path = .ok key)
      (found : memory.find? loop.id = some ⟨.object fields, cas⟩)
      (absent : KeyedList.find? key fields = none)
      (drops : loop.changeOf none = .drop) :
      Conclusion loop memory
        (if loop.update.acceptsMissingPath then
          .ok none
        else
          .error (.pathNotFound loop.path))
        memory

theorem Conclusion.same_of_error
    {loop : FieldLoop Next}
    {memory later : Memory}
    {error : Error}
    (conclusion : loop.Conclusion memory (.error error) later) :
    later = memory := by
  generalize failed : Except.error error = result at conclusion
  cases conclusion with
  | changed => cases failed
  | unreadable | vanished | contended | missing => rfl

/-- A field that is read is one of the fields of the document in place. -/
theorem lookupField_eq_ok
    {memory : Memory}
    {id path : String}
    {current : Optimistic.Versioned (Option Json)}
    (read : memory.lookupField id path = .ok current) :
    ∃ key fields,
      Memory.fieldOf path = .ok key ∧
        memory.find? id = some ⟨.object fields, current.cas⟩ ∧
        current.value = KeyedList.find? key fields := by
  unfold Memory.lookupField at read
  split at read
  · cases read
  · rename_i key addressed
    cases opened : memory.getObject id with
    | error error => simp [opened] at read
    | ok object =>
        simp only [opened, Except.ok.injEq] at read
        rw [← read]
        exact
          ⟨key, object.value, addressed, Memory.find?_of_getObject opened, rfl⟩

/--
What comes of a write under a version that was read, with the documents that it
leaves.
-/
inductive Written
    (loop : FieldLoop Next)
    (memory : Memory)
    (current : Optimistic.Versioned (Option Json)) :
    Except Error Unit → Memory → Prop where
  | vanished
      (absent : memory.find? loop.id = none) :
      Written loop memory current
        (.error (.documentNotFound loop.id)) memory
  | stale : Written loop memory current (.error (.casMismatch loop.id)) memory
  | changed
      {key : String}
      {fields after : Json.Fields}
      (addressed : Memory.fieldOf loop.path = .ok key)
      (found : memory.find? loop.id = some ⟨.object fields, current.cas⟩)
      (read : current.value = KeyedList.find? key fields)
      (applied :
        (loop.changeOf current.value).fieldsAfter? key fields = some after) :
      Written loop memory current (.ok ())
        (memory.revise loop.id (.object after))
  | missing
      {key : String}
      {fields : Json.Fields}
      (addressed : Memory.fieldOf loop.path = .ok key)
      (found : memory.find? loop.id = some ⟨.object fields, current.cas⟩)
      (read : current.value = KeyedList.find? key fields)
      (refused :
        (loop.changeOf current.value).fieldsAfter? key fields = none) :
      Written loop memory current (.error (.pathNotFound loop.path)) memory

/-- A write under a recalled version takes effect on what was read, or not. -/
theorem written_of_stands
    {loop : FieldLoop Next}
    {memory : Memory}
    {attempt remaining : Nat}
    {current : Optimistic.Versioned (Option Json)}
    (stands : (Point.writing attempt remaining current).Stands loop memory)
    {call : StoreCall}
    (isChange :
      call =
        (loop.changeOf current.value).call loop.id loop.path current.cas) :
    Written loop memory current
      (Except.map (fun _ => ()) (Memory.store call memory).1)
      (Memory.store call memory).2 := by
  subst isChange
  obtain ⟨key, fields, addressed, recalls, read⟩ := stands
  cases found : memory.find? loop.id with
  | none =>
      obtain ⟨answered, same⟩ :=
        FieldChange.store_of_absent (loop.changeOf current.value) addressed
          found current.cas
      rw [answered, same]
      exact .vanished found
  | some document =>
      by_cases inPlace : document.cas = current.cas
      · have same := recalls.same found inPlace
        subst same
        have stored :=
          FieldChange.store_of_current (loop.changeOf current.value)
            addressed found
        cases applied :
            (loop.changeOf current.value).fieldsAfter? key fields with
        | some after =>
            rw [applied, Prod.mk.injEq] at stored
            rw [stored.1, stored.2]
            exact .changed addressed found read applied
        | none =>
            rw [applied, Prod.mk.injEq] at stored
            rw [stored.1, stored.2]
            exact .missing addressed found read applied
      · have guarded : current.cas ≠ Wire.anyVersion := by
          intro any
          have positive : 0 < current.cas := recalls.positive
          rw [any] at positive
          exact absurd positive (by decide)
        obtain ⟨answered, same⟩ :=
          FieldChange.store_of_stale (loop.changeOf current.value) addressed
            found guarded (Ne.symm inPlace)
        rw [answered, same]
        exact .stale

namespace Point

/-- The point after a conflict is open, or the loop has run out of rounds. -/
theorem ofConflict_cases
    (loop : FieldLoop Next)
    (memory : Memory)
    (attempt remaining : Nat) :
    ((ofConflict loop attempt remaining).IsOpen ∧
        (ofConflict loop attempt remaining).Stands loop memory) ∨
      ofConflict loop attempt remaining =
        .ended (.error loop.update.contention) := by
  unfold ofConflict
  split
  · rename_i waits
    exact .inl ⟨trivial, waits.1⟩
  · cases remaining with
    | zero => exact .inr rfl
    | succ remaining => exact .inl ⟨trivial, trivial⟩

/--
A step leaves a loop open and the documents alone, or it is a store call that
concludes the loop.
-/
inductive Advance
    (loop : FieldLoop Next)
    (memory : Memory)
    (point : Point) : Step → Memory → Prop where
  | goesOn
      {call : Step}
      (isOpen : point.IsOpen)
      (stands : point.Stands loop memory) :
      Advance loop memory point call memory
  | concludes
      {call : StoreCall}
      {result : Except Error (Option Json)}
      {later : Memory}
      (ended : point = .ended result)
      (conclusion : loop.Conclusion memory result later) :
      Advance loop memory point (.store call) later

/-- What comes of a write concludes the loop, unless it is a conflict. -/
theorem advance_of_written
    {loop : FieldLoop Next}
    {memory later : Memory}
    {current : Optimistic.Versioned (Option Json)}
    {outcome : Except Error Unit}
    (written : loop.Written memory current outcome later)
    (attempt remaining : Nat)
    (call : StoreCall) :
    Advance loop memory
      (ofVerdict loop attempt remaining
        (loop.update.judge current.value outcome))
      (.store call) later := by
  cases written with
  | vanished absent => exact .concludes rfl (.vanished absent)
  | stale =>
      rcases ofConflict_cases loop memory attempt remaining with
        ⟨isOpen, stands⟩ | contended
      · exact .goesOn isOpen stands
      · exact .concludes contended .contended
  | changed addressed found read applied =>
      apply Advance.concludes rfl
      rw [read] at applied ⊢
      exact .changed addressed found applied
  | missing addressed found read refused =>
      have absent := FieldChange.find?_of_fieldsAfter?_eq_none refused
      rw [read, absent] at refused
      have drops := FieldChange.eq_drop_of_refused refused
      refine .concludes ?_ (.missing addressed found absent drops)
      simp only [Optimistic.Update.judge]
      split <;> rfl

/-- A read leaves the loop about to write what it recalls, or concludes it. -/
theorem advance_of_read
    (loop : FieldLoop Next)
    {memory : Memory}
    (dated : memory.IsDated)
    (attempt remaining : Nat)
    (call : StoreCall) :
    Advance loop memory
      (ofRead attempt remaining (memory.lookupField loop.id loop.path))
      (.store call) memory := by
  cases read : memory.lookupField loop.id loop.path with
  | error error => exact .concludes rfl (.unreadable read)
  | ok current =>
      obtain ⟨key, fields, addressed, found, value⟩ := lookupField_eq_ok read
      exact .goesOn trivial
        ⟨key, fields, addressed, dated.recalls found, value⟩

/--
Every step of a loop that stands at a point leads to a point at which the loop
goes on, or concludes the loop.
-/
theorem advance
    {loop : FieldLoop Next}
    {point : Point}
    {before after : Memory}
    (dated : before.IsDated)
    (stands : point.Stands loop before)
    {call : Step}
    {next :
      interface.Answer call →
        Program interface (Except Error (Option Json))}
    {answer : interface.Answer call}
    (due : point.program loop = .step call next)
    (answered : memorySemantics call before answer after) :
    ∃ reached : Point,
      next answer = reached.program loop ∧
        Advance loop before reached call after := by
  cases point with
  | reading attempt remaining =>
      rw [program_reading] at due
      cases due
      have stored := memorySemantics_store.mp answered
      cases stored
      exact ⟨_, rfl, advance_of_read loop dated attempt remaining _⟩
  | writing attempt remaining current =>
      rw [program_writing] at due
      cases due
      have stored := memorySemantics_store.mp answered
      have written := written_of_stands stands rfl
      rw [stored] at written
      exact ⟨_, rfl, advance_of_written written attempt remaining _⟩
  | pausing attempt remaining =>
      cases due
      rw [memorySemantics_pause.mp answered]
      refine ⟨ofRounds loop (attempt + 1) remaining, ?_, ?_⟩
      · exact (program_ofRounds loop (attempt + 1) remaining).symm
      · cases remaining with
        | zero => exact absurd rfl stands
        | succ remaining => exact .goesOn trivial trivial
  | ended result => cases due

end Point

section Alone

variable {loop : FieldLoop Next} {memory : Memory}

/-- A loop of at least one round begins with a read. -/
theorem exists_program_eq_reading (someRound : 0 < loop.update.maxAttempts) :
    ∃ remaining,
      loop.update.maxAttempts = remaining + 1 ∧
        loop.program = (Point.reading 1 remaining).program loop := by
  obtain ⟨remaining, isSucc⟩ := Nat.exists_eq_add_one.mpr someRound
  refine ⟨remaining, isSucc, ?_⟩
  change loop.rounds 1 loop.update.maxAttempts = loop.rounds 1 (remaining + 1)
  rw [isSucc]

/-- A loop ends where its field cannot be read. -/
theorem run_program_of_unreadable
    (someRound : 0 < loop.update.maxAttempts)
    {error : Error}
    (failed : memory.lookupField loop.id loop.path = .error error) :
    (Store.toMachine Memory.store).run loop.program memory =
      (.error error, memory) := by
  obtain ⟨remaining, -, reading⟩ := exists_program_eq_reading someRound
  rw [reading, Point.program_reading]
  simp only [TotalMachine.run, Store.toMachine, Memory.store, failed]
  rfl

/-- Alone, a loop makes its change of an object in the first round, if it can. -/
theorem run_program_of_object
    (someRound : 0 < loop.update.maxAttempts)
    {key : String}
    {fields : Json.Fields}
    {cas : Wire.Cas}
    (addressed : Memory.fieldOf loop.path = .ok key)
    (found : memory.find? loop.id = some ⟨.object fields, cas⟩) :
    (Store.toMachine Memory.store).run loop.program memory =
      match
        (loop.changeOf (KeyedList.find? key fields)).fieldsAfter? key fields
      with
      | some after =>
          (.ok (KeyedList.find? key fields),
            memory.revise loop.id (.object after))
      | none =>
          (if loop.update.acceptsMissingPath then
              .ok none
            else
              .error (.pathNotFound loop.path),
            memory) := by
  obtain ⟨remaining, -, reading⟩ := exists_program_eq_reading someRound
  have read :
      memory.lookupField loop.id loop.path =
        .ok ⟨KeyedList.find? key fields, cas⟩ := by
    simp [Memory.lookupField, addressed, Memory.getObject, found]
  have written :=
    FieldChange.store_of_current
      (loop.changeOf (KeyedList.find? key fields)) addressed found
  rw [reading, Point.program_reading]
  simp only [TotalMachine.run, Store.toMachine, Memory.store, read]
  change
    TotalMachine.run _
        ((Point.writing 1 remaining ⟨KeyedList.find? key fields, cas⟩).program
          loop) memory = _
  rw [Point.program_writing]
  simp only [TotalMachine.run, Store.toMachine]
  revert written
  generalize
    Memory.store
      ((loop.changeOf (KeyedList.find? key fields)).call loop.id loop.path cas)
      memory = stored
  cases (loop.changeOf (KeyedList.find? key fields)).fieldsAfter? key fields with
  | some after =>
      intro written
      simp only [Prod.mk.injEq] at written
      rw [written.1, written.2]
      rfl
  | none =>
      intro written
      simp only [Prod.mk.injEq] at written
      rw [written.1, written.2]
      simp only [Optimistic.Update.judge]
      split <;> rfl

end Alone

end FieldLoop

end ClusterClient.Document
