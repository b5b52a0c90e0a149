import ClusterClient.Proofs.Document.FieldLoop

namespace ClusterClient.Document

/-!
# Updates of one field are not lost

A field update sets one field of one document to a function of its value. Any
number of them may run beside each other and beside any other steps on the
documents, which may replace, drop and create documents again in the meantime.

The main statement is that an update which succeeds has changed the documents
once, and the value that it reports is the one that its change replaced, while
an update which fails has changed nothing. Hence a field that nobody else
touches ends as the functions of the successful updates make it, one after the
other in the order of their changes.
-/

/-- Set one field of one document to a function of its value. -/
structure FieldUpdate where
  update : Optimistic.Update
  id : String
  path : String
  compute : Option Json → Json

namespace FieldUpdate

/-- The program of a field update. -/
def program (field : FieldUpdate) :
    Program interface (Except Error (Option Json)) :=
  field.update.run
    (perform (.lookupField field.id field.path)).run
    (fun current => pure (field.compute current))
    (fun next cas =>
      (discard (perform (.upsertField field.id field.path next cas))).run)
    pause

/-- A field update is a field loop that assigns what it has computed. -/
def loop (field : FieldUpdate) : FieldLoop Json where
  update := field.update
  id := field.id
  path := field.path
  compute := field.compute
  change := .assign

@[simp] theorem loop_id (field : FieldUpdate) :
    field.loop.id = field.id := rfl

@[simp] theorem loop_path (field : FieldUpdate) :
    field.loop.path = field.path := rfl

theorem program_eq (field : FieldUpdate) :
    field.program =
      (FieldLoop.Point.ofRounds field.loop 1
        field.update.maxAttempts).program field.loop :=
  (FieldLoop.Point.program_ofRounds field.loop 1 field.update.maxAttempts).symm

/-- A field update is about the field with a key. -/
def Addresses (field : FieldUpdate) (id key : String) : Prop :=
  field.id = id ∧ Memory.fieldOf field.path = .ok key

instance (field : FieldUpdate) (id key : String) :
    Decidable (field.Addresses id key) :=
  match read : Memory.fieldOf field.path with
  | .ok other =>
      decidable_of_iff (field.id = id ∧ other = key)
        (by simp [Addresses, read])
  | .error error => isFalse (by simp [Addresses, read])

end FieldUpdate

namespace Memory

/-- The value of a field, if the document is an object that has it. -/
def fieldValue? (memory : Memory) (id key : String) : Option Json :=
  match memory.find? id with
  | some ⟨.object fields, _⟩ => KeyedList.find? key fields
  | _ => none

theorem fieldValue?_of_find?
    {memory : Memory}
    {id : String}
    {fields : Json.Fields}
    {cas : Wire.Cas}
    (found : memory.find? id = some ⟨.object fields, cas⟩)
    (key : String) :
    memory.fieldValue? id key = KeyedList.find? key fields := by
  simp [fieldValue?, found]

/-- A field with a value is a field of an object. -/
theorem exists_of_fieldValue?
    {memory : Memory}
    {id key : String}
    {value : Json}
    (there : memory.fieldValue? id key = some value) :
    ∃ fields cas,
      memory.find? id = some ⟨.object fields, cas⟩ ∧
        KeyedList.find? key fields = some value := by
  unfold fieldValue? at there
  split at there
  · exact ⟨_, _, ‹_›, there⟩
  · cases there

theorem lookupField_of_find?
    {memory : Memory}
    {id path key : String}
    (addressed : fieldOf path = .ok key)
    {fields : Json.Fields}
    {cas : Wire.Cas}
    (found : memory.find? id = some ⟨.object fields, cas⟩) :
    memory.lookupField id path = .ok ⟨KeyedList.find? key fields, cas⟩ := by
  simp [lookupField, addressed, getObject, found]

theorem fieldValue?_revise
    (memory : Memory)
    (id other key : String)
    (fields : Json.Fields) :
    (memory.revise id (.object fields)).fieldValue? other key =
      if other = id then
        KeyedList.find? key fields
      else
        memory.fieldValue? other key := by
  by_cases same : other = id <;> simp [fieldValue?, same]

theorem revise_ne (memory : Memory) (id : String) (content : Json) :
    memory ≠ memory.revise id content := by
  intro same
  have counters := congrArg Memory.nextCas same
  rw [nextCas_revise] at counters
  grind

end Memory

namespace FieldUpdate

variable {Thread : Type} [DecidableEq Thread]

/-- The steps of a thread that changed the documents. -/
def changesBy
    (thread : Thread)
    (history : History interface Thread Memory) :
    History interface Thread Memory :=
  history.filter fun moment =>
    moment.thread? = some thread ∧ moment.before ≠ moment.after

@[simp] theorem changesBy_append
    (thread : Thread)
    (earlier later : History interface Thread Memory) :
    changesBy thread (earlier ++ later) =
      changesBy thread earlier ++ changesBy thread later :=
  List.filter_append ..

theorem changesBy_of_other
    {thread : Thread}
    (moment : MemoryMoment Thread)
    (other : moment.thread? ≠ some thread) :
    changesBy thread [moment] = [] := by
  simp [changesBy, other]

theorem changesBy_of_same
    {thread : Thread}
    (moment : MemoryMoment Thread)
    (same : moment.before = moment.after) :
    changesBy thread [moment] = [] := by
  simp [changesBy, same]

/-- A step of a thread that changes the documents is a change of the thread. -/
theorem changesBy_of_ne
    {thread : Thread}
    (moment : MemoryMoment Thread)
    (turn : moment.thread? = some thread)
    (differs : moment.before ≠ moment.after) :
    changesBy thread [moment] = [moment] := by
  simp [changesBy, turn, differs]

/-- The step set the field of an update to the function of its value. -/
structure Applies
    (field : FieldUpdate)
    (previous : Option Json)
    (before after : Memory) : Prop where
  differs : before ≠ after
  found : ∃ cas,
    before.lookupField field.id field.path = .ok ⟨previous, cas⟩
  left : ∃ cas,
    after.lookupField field.id field.path =
      .ok ⟨some (field.compute previous), cas⟩
  replaced : ∀ {key},
    field.Addresses field.id key →
    before.fieldValue? field.id key = previous
  effect : ∀ id key,
    after.fieldValue? id key =
      if field.Addresses id key then
        some (field.compute previous)
      else
        before.fieldValue? id key

/-- The write that concludes a field update applies its function. -/
theorem applies_of_conclusion
    {field : FieldUpdate}
    {previous : Option Json}
    {before after : Memory}
    (conclusion : field.loop.Conclusion before (.ok previous) after) :
    field.Applies previous before after := by
  generalize concluded : Except.ok previous = result at conclusion
  cases conclusion with
  | unreadable | vanished | contended => cases concluded
  | missing addressed found absent drops => cases drops
  | @changed key fields changed cas addressed found applied =>
      cases concluded
      simp only [loop_id, loop_path] at addressed found
      refine ⟨before.revise_ne _ _, ⟨cas, ?_⟩, ⟨before.nextCas, ?_⟩, ?_, ?_⟩
      · exact Memory.lookupField_of_find? addressed found
      · have revised :
            (before.revise field.id (.object changed)).find? field.id =
              some ⟨.object changed, before.nextCas⟩ := by
          rw [Memory.find?_revise, if_pos rfl]
        have value := FieldChange.find?_fieldsAfter?_self applied
        have assigned :
            (field.loop.changeOf (KeyedList.find? key fields)).value? =
              some (field.compute (KeyedList.find? key fields)) := rfl
        rw [← assigned, ← value]
        exact Memory.lookupField_of_find? addressed revised
      · rintro other ⟨-, same⟩
        cases addressed.symm.trans same
        exact Memory.fieldValue?_of_find? found key
      · intro id other
        rw [loop_id, Memory.fieldValue?_revise]
        by_cases sameId : id = field.id
        · subst sameId
          have addresses : field.Addresses field.id other ↔ other = key := by
            constructor
            · rintro ⟨-, same⟩
              exact Except.ok.inj (same.symm.trans addressed)
            · rintro rfl
              exact ⟨rfl, addressed⟩
          rw [if_pos rfl, FieldChange.find?_fieldsAfter? applied]
          simp only [addresses, Memory.fieldValue?_of_find? found other]
          rfl
        · have elsewhere : ¬ field.Addresses id other := by
            rintro ⟨same, -⟩
            exact sameId same.symm
          rw [if_neg sameId, if_neg elsewhere]

/--
How the program of an update goes with the changes that its thread has made:
before its end, and at its end in failure, there are none, and at its end in
success there is one, which applied its function to the reported value.
-/
inductive Tracks
    (field : FieldUpdate)
    (memory : Memory) :
    History interface Thread Memory →
    Program interface (Except Error (Option Json)) → Prop where
  | pending
      {point : FieldLoop.Point}
      (isOpen : point.IsOpen)
      (stands : point.Stands field.loop memory) :
      Tracks field memory [] (point.program field.loop)
  | failed (error : Error) : Tracks field memory [] (.done (.error error))
  | succeeded
      {moment : MemoryMoment Thread}
      {previous : Option Json}
      (applies : field.Applies previous moment.before moment.after) :
      Tracks field memory [moment] (.done (.ok previous))

omit [DecidableEq Thread] in
theorem tracks_program (field : FieldUpdate) (memory : Memory) :
    field.Tracks memory ([] : History interface Thread Memory)
      field.program := by
  rw [program_eq]
  cases field.update.maxAttempts with
  | zero => exact .failed _
  | succ rounds =>
      exact .pending (trivial : (FieldLoop.Point.reading 1 rounds).IsOpen)
        trivial

omit [DecidableEq Thread] in
/-- A change that does not wrap the counter does not concern an update. -/
theorem Tracks.change
    {field : FieldUpdate}
    {memory later : Memory}
    {changes : History interface Thread Memory}
    {program : Program interface (Except Error (Option Json))}
    (tracks : field.Tracks memory changes program)
    (change : memory.Change later)
    (forward : memory.nextCas ≤ later.nextCas) :
    field.Tracks later changes program := by
  cases tracks with
  | pending isOpen stands =>
      exact .pending isOpen (stands.change change forward)
  | failed error => exact .failed error
  | succeeded applies => exact .succeeded applies

/--
A step of an update leaves the documents as they are, or it is the one change
of the update and ends it in success.
-/
theorem Tracks.turn
    {field : FieldUpdate}
    {before after : Memory}
    {changes : History interface Thread Memory}
    (thread : Thread)
    {call : Step}
    {next :
      interface.Answer call →
        Program interface (Except Error (Option Json))}
    {answer : interface.Answer call}
    (dated : before.IsDated)
    (tracks : field.Tracks before changes (.step call next))
    (answered : memorySemantics call before answer after) :
    field.Tracks after
        (changes ++
          changesBy thread [.turn thread call answer before after])
        (next answer) ∧
      (after = before ∨ ∃ previous, field.Applies previous before after) := by
  generalize due :
    (.step call next : Program interface (Except Error (Option Json))) =
      program at tracks
  cases tracks with
  | failed | succeeded => cases due
  | pending isOpen stands =>
      obtain ⟨point, reached, advances⟩ :=
        FieldLoop.Point.advance dated stands due.symm answered
      rw [reached]
      let moment : MemoryMoment Thread :=
        .turn thread call answer before after
      cases advances with
      | goesOn isOpen stands =>
          rw [changesBy_of_same _ rfl]
          exact ⟨.pending isOpen stands, .inl rfl⟩
      | @concludes _ result _ ended conclusion =>
          subst ended
          cases result with
          | error error =>
              have same : after = before := conclusion.same_of_error
              rw [changesBy_of_same moment same.symm]
              exact ⟨.failed error, .inl same⟩
          | ok previous =>
              have applies := applies_of_conclusion conclusion
              rw [changesBy_of_ne moment rfl applies.differs]
              exact ⟨.succeeded applies, .inr ⟨previous, applies⟩⟩

omit [DecidableEq Thread] in
/-- An update that has succeeded has made one change. -/
theorem Tracks.of_ok
    {field : FieldUpdate}
    {memory : Memory}
    {changes : History interface Thread Memory}
    {program : Program interface (Except Error (Option Json))}
    (tracks : field.Tracks memory changes program)
    {previous : Option Json}
    (ended : program = .done (.ok previous)) :
    ∃ moment,
      changes = [moment] ∧
        field.Applies previous moment.before moment.after := by
  cases tracks with
  | pending isOpen stands => exact absurd ended (isOpen.program_ne_done _)
  | failed error => cases ended
  | @succeeded moment previous applies =>
      cases ended
      exact ⟨moment, rfl, applies⟩

omit [DecidableEq Thread] in
/-- An update that has failed has made no change. -/
theorem Tracks.of_error
    {field : FieldUpdate}
    {memory : Memory}
    {changes : History interface Thread Memory}
    {program : Program interface (Except Error (Option Json))}
    (tracks : field.Tracks memory changes program)
    {error : Error}
    (ended : program = .done (.error error)) : changes = [] := by
  cases tracks with
  | pending | failed => rfl
  | succeeded applies => cases ended

omit [DecidableEq Thread] in
/-- An update has made a change exactly when it has succeeded. -/
theorem Tracks.ne_nil_iff
    {field : FieldUpdate}
    {memory : Memory}
    {changes : History interface Thread Memory}
    {program : Program interface (Except Error (Option Json))}
    (tracks : field.Tracks memory changes program) :
    changes ≠ [] ↔ ∃ previous, program = .done (.ok previous) := by
  constructor
  · intro changed
    cases tracks with
    | pending | failed => exact absurd rfl changed
    | @succeeded moment previous applies => exact ⟨previous, rfl⟩
  · rintro ⟨previous, ended⟩
    obtain ⟨moment, changes, -⟩ := tracks.of_ok ended
    simp [changes]

section Runs

variable {updates : Thread → FieldUpdate}
variable {programs current :
  Thread → Program interface (Except Error (Option Json))}
variable {memory middle final : Memory}
variable {history earlier later : History interface Thread Memory}

/-- Throughout a run, every update goes with its changes. -/
theorem tracks_of_run
    (run :
      MemoryRun (fun thread => (updates thread).program) memory history
        current final)
    (dated : memory.IsDated)
    (room : memory.nextCas.toNat + versionsTaken history < 2 ^ 64)
    (thread : Thread) :
    (updates thread).Tracks final (changesBy thread history)
      (current thread) := by
  induction run with
  | start => exact tracks_program (updates thread) memory
  | @turn history current before after turning call next answer run due
      answered inductionHypothesis =>
      have change := memorySemantics.change answered
      have forward := MemoryRun.forward run room rfl change
      rw [versionsTaken_append] at room
      have tracks := inductionHypothesis (by omega)
      rw [changesBy_append]
      by_cases own : thread = turning
      · subst own
        have datedBefore := MemoryRun.isDated run dated (by omega)
        rw [due] at tracks
        rw [Function.update_self]
        exact (tracks.turn thread datedBefore answered).1
      · rw [changesBy_of_other _ (by simpa using Ne.symm own),
          List.append_nil, Function.update_of_ne own]
        exact tracks.change change forward
  | outside run step inductionHypothesis =>
      have forward := MemoryRun.forward run room rfl step.change
      rw [versionsTaken_append] at room
      rw [changesBy_append, changesBy_of_other _ (by simp), List.append_nil]
      exact (inductionHypothesis (by omega)).change step.change forward

/-- The threads that changed a field, in the order of their changes. -/
def writersOf
    (updates : Thread → FieldUpdate)
    (id key : String)
    (history : History interface Thread Memory) : List Thread :=
  history.filterMap fun moment =>
    moment.thread?.filter fun thread =>
      (updates thread).Addresses id key ∧ moment.before ≠ moment.after

/-- The functions of some threads, one after the other. -/
def computeAll
    (updates : Thread → FieldUpdate)
    (threads : List Thread)
    (value : Option Json) : Option Json :=
  threads.foldl
    (fun current thread => some ((updates thread).compute current)) value

omit [DecidableEq Thread] in
theorem writersOf_append (id key : String) :
    writersOf updates id key (earlier ++ later) =
      writersOf updates id key earlier ++ writersOf updates id key later :=
  List.filterMap_append ..

omit [DecidableEq Thread] in
theorem writersOf_of_same
    (moment : MemoryMoment Thread)
    (same : moment.after = moment.before)
    (id key : String) : writersOf updates id key [moment] = [] := by
  cases turn : moment.thread? <;> simp [writersOf, turn, same]

omit [DecidableEq Thread] in
/-- A turn of an update makes a field what its writers make it. -/
theorem fieldValue?_of_turn
    (moment : MemoryMoment Thread)
    {thread : Thread}
    (turn : moment.thread? = some thread)
    {previous : Option Json}
    (applies :
      (updates thread).Applies previous moment.before moment.after)
    (id key : String) :
    moment.after.fieldValue? id key =
      computeAll updates (writersOf updates id key [moment])
        (moment.before.fieldValue? id key) := by
  rw [applies.effect id key]
  by_cases addressed : (updates thread).Addresses id key
  · have writer : writersOf updates id key [moment] = [thread] := by
      simp [writersOf, turn, Option.filter_some, addressed, applies.differs]
    obtain ⟨rfl, -⟩ := And.intro addressed.1 addressed.2
    rw [if_pos addressed, writer, applies.replaced addressed]
    rfl
  · have nobody : writersOf updates id key [moment] = [] := by
      simp [writersOf, turn, addressed]
    rw [if_neg addressed, nobody]
    rfl

/--
In a run that goes on from another one, a field that only updates touch ends as
their functions make it.
-/
theorem fieldValue?_eq_computeAll
    (first :
      MemoryRun (fun thread => (updates thread).program) memory earlier
        programs middle)
    (second : MemoryRun programs middle later current final)
    (dated : memory.IsDated)
    (room :
      memory.nextCas.toNat + versionsTaken (earlier ++ later) < 2 ^ 64)
    {id key : String}
    (untouched :
      ∀ moment ∈ later,
        moment.thread? = none →
        moment.after.fieldValue? id key = moment.before.fieldValue? id key) :
    final.fieldValue? id key =
      computeAll updates (writersOf updates id key later)
        (middle.fieldValue? id key) := by
  induction second with
  | start => rfl
  | @turn later current before after turning call next answer run due
      answered inductionHypothesis =>
      rw [← List.append_assoc, versionsTaken_append] at room
      simp only [List.mem_append, List.mem_singleton, or_imp, forall_and,
        forall_eq] at untouched
      have valueBefore := inductionHypothesis (by omega) untouched.1
      have whole := first.append run
      have tracks := tracks_of_run whole dated (by omega) turning
      rw [due] at tracks
      have step :=
        tracks.turn turning (MemoryRun.isDated whole dated (by omega)) answered
      rw [writersOf_append, computeAll, List.foldl_append]
      change _ = computeAll updates _ (computeAll updates _ _)
      rw [← valueBefore]
      rcases step.2 with same | ⟨previous, applies⟩
      · rw [writersOf_of_same (.turn turning call answer before after) same,
          same]
        rfl
      · exact
          fieldValue?_of_turn (.turn turning call answer before after) rfl
            applies id key
  | outside run step inductionHypothesis =>
      rw [← List.append_assoc, versionsTaken_append] at room
      simp only [List.mem_append, List.mem_singleton, or_imp, forall_and,
        forall_eq] at untouched
      have valueBefore := inductionHypothesis (by omega) untouched.1
      rw [writersOf_append, computeAll, List.foldl_append]
      change _ = computeAll updates _ (computeAll updates _ _)
      rw [← valueBefore]
      exact untouched.2 rfl

/-- The writers of a field are those of its updates that have made a change. -/
theorem mem_writersOf_iff {id key : String} {thread : Thread} :
    thread ∈ writersOf updates id key history ↔
      (updates thread).Addresses id key ∧ changesBy thread history ≠ [] := by
  simp only [writersOf, changesBy, List.mem_filterMap, ne_eq,
    List.filter_eq_nil_iff, Option.filter_eq_some_iff, decide_eq_true_eq,
    not_forall, not_not, exists_prop]
  constructor
  · rintro ⟨moment, member, turn, addressed, differs⟩
    exact ⟨addressed, moment, member, turn, differs⟩
  · rintro ⟨addressed, moment, member, turn, differs⟩
    exact ⟨moment, member, turn, addressed, differs⟩

/--
Updates that run beside each other and beside any other steps: each one that
succeeds has made one change, which replaced the value that it reports by the
function of that value, and one that fails has made none. So the writers of a
field are the updates of it that succeed, and where nobody else touches the
field it ends as their functions make it, in the order of their changes.
-/
theorem no_update_is_lost
    (first :
      MemoryRun (fun thread => (updates thread).program) .empty earlier
        programs middle)
    (second : MemoryRun programs middle later current final)
    (room : versionsTaken (earlier ++ later) < 2 ^ 64 - 1) :
    (∀ thread previous,
        current thread = .done (.ok previous) →
        ∃ moment replaced written,
          changesBy thread (earlier ++ later) = [moment] ∧
            moment.before.lookupField (updates thread).id
                (updates thread).path =
              .ok ⟨previous, replaced⟩ ∧
            moment.after.lookupField (updates thread).id
                (updates thread).path =
              .ok ⟨some ((updates thread).compute previous), written⟩) ∧
      (∀ thread error,
        current thread = .done (.error error) →
        changesBy thread (earlier ++ later) = []) ∧
      ∀ id key,
        (∀ thread,
          thread ∈ writersOf updates id key (earlier ++ later) ↔
            (updates thread).Addresses id key ∧
              ∃ previous, current thread = .done (.ok previous)) ∧
          ((∀ moment ∈ later,
              moment.thread? = none →
              moment.after.fieldValue? id key =
                moment.before.fieldValue? id key) →
            final.fieldValue? id key =
              computeAll updates (writersOf updates id key later)
                (middle.fieldValue? id key)) := by
  have dated := Memory.empty_isDated
  have enough :
      Memory.empty.nextCas.toNat + versionsTaken (earlier ++ later) <
        2 ^ 64 := by
    have one : Memory.empty.nextCas.toNat = 1 := rfl
    omega
  have tracks := tracks_of_run (first.append second) dated enough
  refine ⟨?_, ?_, ?_⟩
  · intro thread previous ended
    obtain ⟨moment, changes, applies⟩ := (tracks thread).of_ok ended
    obtain ⟨replaced, found⟩ := applies.found
    obtain ⟨written, left⟩ := applies.left
    exact ⟨moment, replaced, written, changes, found, left⟩
  · intro thread error ended
    exact (tracks thread).of_error ended
  · intro id key
    refine ⟨fun thread => ?_, fieldValue?_eq_computeAll first second dated enough⟩
    rw [mem_writersOf_iff, (tracks thread).ne_nil_iff]

/-- Append one of two letters to the text of a field. -/
def appending (second : Bool) : FieldUpdate where
  update := .ofLimit "append" 3
  id := "notes"
  path := "text"
  compute
    | some (.text text) => .text (text ++ if second then "b" else "a")
    | _ => .text (if second then "b" else "a")

/-- Two appends to a field of a new document: the second overtakes the first. -/
def overtaking : Replay interface Bool Memory (Except Error (Option Json)) :=
  (Store.toMachine Memory.store).toMachine.replay
    [false, true, true, false, false, false]
    (fun second => (appending second).program)
    (Memory.empty.revise "notes" (.object []))

/-- The overtaken append starts over, and both letters are there. -/
theorem no_update_is_lost_overtaking :
    versionsTaken overtaking.history < 2 ^ 64 - 2 ∧
      writersOf appending "notes" "text" overtaking.history = [true, false] ∧
      overtaking.state.fieldValue? "notes" "text" = some (.text "ba") := by
  have made :
      anyMemoryStep .empty (Memory.empty.revise "notes" (.object [])) :=
    ⟨.onStore (.upsert "notes" (.object [])), rfl⟩
  have lost :=
    no_update_is_lost (.outside .start made)
      (.replay (Store.toMachine Memory.store).toMachine
        [false, true, true, false, false, false]
        (fun second => (appending second).program) _)
      (by decide)
  have writers :
      writersOf appending "notes" "text" overtaking.history = [true, false] := by
    decide
  refine ⟨by decide, writers, ?_⟩
  have value := (lost.2.2 "notes" "text").2 (by decide)
  exact value.trans (congrArg (computeAll appending · none) writers)

end Runs

end FieldUpdate

end ClusterClient.Document
