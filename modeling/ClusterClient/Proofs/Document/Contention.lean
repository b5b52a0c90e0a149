import ClusterClient.Proofs.Document.MapUpdates

namespace ClusterClient.Document

/-!
# Contention is charged to other writers

A map update reports contention when the last of its rounds has been refused.
A round is refused because the version that it read is not in place any more
when it writes, and a version can only be replaced by a write. So every refused
round is a window of the run, from its read to its write, in which somebody else
has written the document, and the windows do not overlap.

The main statement is `contention_is_charged_to_other_writers`. It needs no
bound on the versions that are taken: that a version has been replaced is
enough, whatever replaces it.
-/

namespace Memory

/-- There is an object with an id. -/
def HasObject (memory : Memory) (id : String) : Prop :=
  ∃ fields cas, memory.find? id = some ⟨.object fields, cas⟩

/-- Only a document that is not an object cannot be opened. -/
theorem not_hasObject_of_getObject
    {memory : Memory}
    {id : String}
    {error : Error}
    (failed : memory.getObject id = .error error) :
    ¬ memory.HasObject id ∧ error.isContention = false := by
  unfold getObject at failed
  refine ⟨?_, ?_⟩
  · rintro ⟨fields, cas, found⟩
    simp [found] at failed
  · split at failed
    · cases failed
      rfl
    · split at failed
      · cases failed
      · cases failed
        rfl

/-- A step leaves a document as it is, drops it, or writes it. -/
theorem Change.find?_cases
    {memory later : Memory}
    (change : memory.Change later)
    (id : String) :
    later.find? id = memory.find? id ∨ later.find? id = none ∨
      ∃ content, later = memory.revise id content := by
  cases change with
  | nothing => exact .inl rfl
  | revise other content =>
      by_cases same : id = other
      · subst same
        exact .inr (.inr ⟨content, rfl⟩)
      · exact .inl (by rw [find?_revise, if_neg same])
  | remove other =>
      by_cases same : id = other
      · exact .inr (.inl (by rw [find?_remove, if_pos same]))
      · exact .inl (by rw [find?_remove, if_neg same])

end Memory

section Windows

variable {Thread : Type}

/-- A step has put a document in place under the next version. -/
def writesDocument (id : String) (moment : MemoryMoment Thread) : Bool :=
  match moment.after.find? id with
  | none => false
  | some document =>
      decide (moment.after = moment.before.revise id document.content)

theorem writesDocument_iff {id : String} {moment : MemoryMoment Thread} :
    writesDocument id moment = true ↔
      ∃ content, moment.after = moment.before.revise id content := by
  constructor
  · intro writes
    unfold writesDocument at writes
    split at writes
    · cases writes
    · exact ⟨_, of_decide_eq_true writes⟩
  · rintro ⟨content, revised⟩
    simp [writesDocument, revised]

/--
A history in which so many times, one after the other, a caller has read a
field, somebody else has written its document, and the next step of the caller,
a write under the version that it had read, has been refused.
-/
inductive Overtaken
    (caller : Thread)
    (id path : String)
    (made : FieldChange) :
    Nat → History interface Thread Memory → Prop where
  | never (history : History interface Thread Memory) :
      Overtaken caller id path made 0 history
  | again
      {times : Nat}
      {earlier between later : History interface Thread Memory}
      {current : Optimistic.Versioned (Option Json)}
      {read readAfter write writeAfter : Memory}
      {call : StoreCall}
      (before : Overtaken caller id path made times earlier)
      (waits : ∀ moment ∈ between, moment.thread? ≠ some caller)
      (written : ∃ moment ∈ between, writesDocument id moment = true)
      (guarded : call = made.call id path current.cas) :
      Overtaken caller id path made (times + 1)
        (earlier ++
          .turn caller (.store (.lookupField id path))
              (Except.ok current) read readAfter ::
            (between ++
              .turn caller (.store call) (Except.error (.casMismatch id))
                  write writeAfter ::
                later))

variable {caller : Thread} {id path : String} {made : FieldChange}
variable {times : Nat} {history : History interface Thread Memory}

/-- What happens later does not matter. -/
theorem Overtaken.append
    (overtaken : Overtaken caller id path made times history)
    (later : History interface Thread Memory) :
    Overtaken caller id path made times (history ++ later) := by
  cases overtaken with
  | never => exact .never _
  | again before waits written guarded =>
      simp only [List.append_assoc, List.cons_append]
      exact .again before waits written guarded

variable [DecidableEq Thread]

/-- How often somebody else has written a document. -/
def foreignWrites
    (caller : Thread)
    (id : String)
    (history : History interface Thread Memory) : Nat :=
  history.countP fun moment =>
    moment.thread? ≠ some caller ∧ writesDocument id moment

/-- Every time that a caller is overtaken, somebody else has written. -/
theorem Overtaken.le_foreignWrites
    (overtaken : Overtaken caller id path made times history) :
    times ≤ foreignWrites caller id history := by
  induction overtaken with
  | never => exact Nat.zero_le _
  | @again times earlier between _ _ _ _ _ _ _ _ waits written _
      inductionHypothesis =>
      obtain ⟨moment, member, writes⟩ := written
      have inWindow : 0 < foreignWrites caller id between := by
        apply List.countP_pos_iff.mpr
        exact ⟨moment, member, by simp [waits moment member, writes]⟩
      simp only [foreignWrites, List.countP_append, List.countP_cons]
        at inductionHypothesis inWindow ⊢
      omega

end Windows

/-- What a write of one field under a version may answer. -/
inductive FieldChange.Answers
    (change : FieldChange)
    (memory : Memory)
    (id path : String)
    (cas : Wire.Cas)
    {Success : Type} : Except Error Success → Prop where
  | made (success : Success) :
      Answers change memory id path cas (.ok success)
  | stale
      {document : Revision}
      (found : memory.find? id = some document)
      (differs : document.cas ≠ cas) :
      Answers change memory id path cas (.error (.casMismatch id))
  | missing
      (drops : change = .drop) :
      Answers change memory id path cas (.error (.pathNotFound path))
  | absent
      (noObject : ¬ memory.HasObject id) :
      Answers change memory id path cas (.error (.documentNotFound id))
  | noFields
      (noObject : ¬ memory.HasObject id) :
      Answers change memory id path cas (.error (.pathMismatch ""))

namespace FieldChange

theorem answers_changeFields
    (change : FieldChange)
    (memory : Memory)
    (id path : String)
    (cas : Wire.Cas)
    {edit : Json.Fields → Except Error Json.Fields}
    (refusals : ∀ fields error,
      edit fields = .error error →
      error = .pathNotFound path ∧ change = .drop) :
    change.Answers memory id path cas (memory.changeFields id cas edit).1 := by
  cases found : memory.find? id with
  | none =>
      rw [Memory.changeFields_of_absent found]
      refine .absent ?_
      rintro ⟨fields, version, there⟩
      cases found.symm.trans there
  | some document =>
      by_cases refused : cas ≠ Wire.anyVersion ∧ cas ≠ document.cas
      · rw [Memory.changeFields_of_stale found refused.1 refused.2]
        exact .stale found (Ne.symm refused.2)
      · obtain ⟨content, version⟩ := document
        simp only [Memory.changeFields, found, refused, ↓reduceIte]
        cases content with
        | object fields =>
            cases edited : edit fields with
            | ok changed =>
                simp only [edited]
                exact .made memory.nextCas
            | error error =>
                obtain ⟨isMissing, drops⟩ := refusals fields error edited
                simp only [edited, isMissing]
                exact .missing drops
        | _ =>
            refine .noFields ?_
            rintro ⟨fields, version, there⟩
            cases found.symm.trans there

/-- A write under a version is made, or refused for one of four reasons. -/
theorem answers_store
    (change : FieldChange)
    (memory : Memory)
    (id : String)
    {path key : String}
    (addressed : Memory.fieldOf path = .ok key)
    (cas : Wire.Cas) :
    change.Answers memory id path cas
      (Memory.store (change.call id path cas) memory).1 := by
  cases change with
  | assign value =>
      simp only [call, Memory.store, Memory.upsertField, addressed]
      apply answers_changeFields
      intro fields error refused
      cases refused
  | drop =>
      simp only [call, Memory.store, Memory.removeField, addressed]
      apply answers_changeFields
      intro fields error refused
      split at refused
      · cases refused
      · cases refused
        exact ⟨rfl, rfl⟩

end FieldChange

namespace FieldLoop

variable {Next Thread : Type}

/--
How the result of a loop is explained: it has succeeded, or it has been
overtaken in all of its rounds, or at some step there was no object.
-/
inductive Explained
    (loop : FieldLoop Next)
    (caller : Thread)
    (made : FieldChange)
    (history : History interface Thread Memory) :
    Except Error (Option Json) → Prop where
  | succeeded (value : Option Json) :
      Explained loop caller made history (.ok value)
  | overtaken
      (times :
        Overtaken caller loop.id loop.path made loop.update.maxAttempts
          history) :
      Explained loop caller made history (.error loop.update.contention)
  | noObject
      {error : Error}
      (other : error.isContention = false)
      (without : ∃ moment ∈ history, ¬ moment.before.HasObject loop.id) :
      Explained loop caller made history (.error error)

/--
What is known at a point of a loop: it has been overtaken once in each round
before, and once more in this round unless the version that it has read is still
in place.
-/
inductive Charged
    (loop : FieldLoop Next)
    (caller : Thread)
    (made : FieldChange) :
    Point → History interface Thread Memory → Memory → Prop where
  | reading
      {attempt remaining times : Nat}
      {history : History interface Thread Memory}
      {memory : Memory}
      (overtaken : Overtaken caller loop.id loop.path made times history)
      (left : times + (remaining + 1) = loop.update.maxAttempts) :
      Charged loop caller made (.reading attempt remaining) history memory
  | writing
      {attempt remaining times : Nat}
      {earlier between : History interface Thread Memory}
      {current : Optimistic.Versioned (Option Json)}
      {read readAfter memory : Memory}
      (overtaken : Overtaken caller loop.id loop.path made times earlier)
      (left : times + (remaining + 1) = loop.update.maxAttempts)
      (waits : ∀ moment ∈ between, moment.thread? ≠ some caller)
      (kept :
        (∃ moment ∈ between, writesDocument loop.id moment = true) ∨
          ∀ document,
            memory.find? loop.id = some document →
            document.cas = current.cas) :
      Charged loop caller made (.writing attempt remaining current)
        (earlier ++
          .turn caller (.store (.lookupField loop.id loop.path))
              (Except.ok current) read readAfter ::
            between)
        memory
  | pausing
      {attempt remaining times : Nat}
      {history : History interface Thread Memory}
      {memory : Memory}
      (overtaken : Overtaken caller loop.id loop.path made times history)
      (left : times + remaining = loop.update.maxAttempts)
      (waits : remaining ≠ 0) :
      Charged loop caller made (.pausing attempt remaining) history memory
  | ended
      {result : Except Error (Option Json)}
      {history : History interface Thread Memory}
      {memory : Memory}
      (explained : loop.Explained caller made history result) :
      Charged loop caller made (.ended result) history memory

variable {loop : FieldLoop Next} {caller : Thread} {made : FieldChange}
variable {history : History interface Thread Memory}

theorem Explained.append
    {result : Except Error (Option Json)}
    (explained : loop.Explained caller made history result)
    (later : History interface Thread Memory) :
    loop.Explained caller made (history ++ later) result := by
  cases explained with
  | succeeded value => exact .succeeded value
  | overtaken times => exact .overtaken (times.append later)
  | noObject other without =>
      obtain ⟨moment, member, noObject⟩ := without
      exact .noObject other ⟨moment, List.mem_append_left _ member, noObject⟩

namespace Charged

/-- A step of somebody else keeps what is known. -/
theorem foreign
    {point : Point}
    (moment : MemoryMoment Thread)
    (charged : loop.Charged caller made point history moment.before)
    (other : moment.thread? ≠ some caller)
    (change : moment.before.Change moment.after) :
    loop.Charged caller made point (history ++ [moment]) moment.after := by
  cases charged with
  | reading overtaken left => exact .reading (overtaken.append _) left
  | pausing overtaken left waits =>
      exact .pausing (overtaken.append _) left waits
  | ended explained => exact .ended (explained.append _)
  | @writing _ _ _ earlier between current _ _ _ overtaken left waits kept =>
      rw [List.append_assoc, List.cons_append]
      refine .writing overtaken left ?_ ?_
      · intro another member
        rcases List.mem_append.mp member with isEarlier | isLast
        · exact waits another isEarlier
        · rw [List.mem_singleton.mp isLast]
          exact other
      · rcases kept with ⟨writer, member, writes⟩ | inPlace
        · exact .inl ⟨writer, List.mem_append_left _ member, writes⟩
        · rcases change.find?_cases loop.id with same | dropped | written
          · exact .inr (by rw [same]; exact inPlace)
          · exact .inr (by rw [dropped]; nofun)
          · exact
              .inl
                ⟨moment, List.mem_append_right _ (List.mem_singleton_self _),
                  writesDocument_iff.mpr written⟩

/-- After a conflict there is one round less, or the loop gives up. -/
theorem ofConflict
    {times attempt remaining : Nat}
    {memory : Memory}
    (overtaken : Overtaken caller loop.id loop.path made times history)
    (left : times + remaining = loop.update.maxAttempts) :
    loop.Charged caller made (Point.ofConflict loop attempt remaining) history
      memory := by
  unfold Point.ofConflict
  split
  · rename_i pauses
    exact .pausing overtaken left pauses.1
  · cases remaining with
    | zero =>
        subst left
        exact .ended (.overtaken overtaken)
    | succ remaining => exact .reading overtaken left

/-- A read begins a round, or there is no object. -/
theorem ofRead
    {key : String}
    (addressed : Memory.fieldOf loop.path = .ok key)
    {times attempt remaining : Nat}
    (overtaken : Overtaken caller loop.id loop.path made times history)
    (left : times + (remaining + 1) = loop.update.maxAttempts)
    (memory after : Memory) :
    loop.Charged caller made
      (Point.ofRead attempt remaining
        (memory.lookupField loop.id loop.path))
      (history ++
        [.turn caller (.store (.lookupField loop.id loop.path))
          (memory.lookupField loop.id loop.path) memory after])
      memory := by
  cases read : memory.lookupField loop.id loop.path with
  | ok current =>
      obtain ⟨_, fields, _, found, _⟩ := lookupField_eq_ok read
      refine .writing overtaken left (by simp) (.inr ?_)
      intro document there
      cases found.symm.trans there
      rfl
  | error error =>
      simp only [Memory.lookupField, addressed] at read
      cases opened : memory.getObject loop.id with
      | ok object => simp [opened] at read
      | error fault =>
          simp only [opened, Except.error.injEq] at read
          subst read
          obtain ⟨noObject, other⟩ := Memory.not_hasObject_of_getObject opened
          exact
            .ended
              (.noObject other
                ⟨_, List.mem_append_right _ (List.mem_singleton_self _),
                  noObject⟩)

/-- A write ends the loop, unless the loop has been overtaken once more. -/
theorem ofAnswer
    (accepts : made = .drop → loop.update.acceptsMissingPath = true)
    {attempt remaining : Nat}
    {current : Optimistic.Versioned (Option Json)}
    {memory after : Memory}
    (charged :
      loop.Charged caller made (.writing attempt remaining current) history
        memory)
    {change : FieldChange}
    (isMade : change = made)
    {answer : (change.call loop.id loop.path current.cas).Answer}
    (answers : change.Answers memory loop.id loop.path current.cas answer) :
    loop.Charged caller made
      (Point.ofVerdict loop attempt remaining
        (loop.update.judge current.value (answer.map fun _ => ())))
      (history ++
        [.turn caller (.store (change.call loop.id loop.path current.cas))
          answer memory after])
      after := by
  subst isMade
  cases charged with
  | writing overtaken left waits kept =>
      cases answers with
      | made success => exact .ended (.succeeded current.value)
      | missing drops =>
          simp only [Except.map, Optimistic.Update.judge, accepts drops,
            ↓reduceIte]
          exact .ended (.succeeded none)
      | absent noObject | noFields noObject =>
          exact
            .ended
              (.noObject rfl
                ⟨_, List.mem_append_right _ (List.mem_singleton_self _),
                  noObject⟩)
      | stale found differs =>
          have written := kept.resolve_right fun inPlace =>
            differs (inPlace _ found)
          rw [List.append_assoc, List.cons_append]
          exact
            ofConflict (.again overtaken waits written rfl) (by omega)

/-- A step of the loop leads to a point at which it is known what came of it. -/
theorem turn
    {key : String}
    (addressed : Memory.fieldOf loop.path = .ok key)
    (changes : ∀ value, loop.changeOf value = made)
    (accepts : made = .drop → loop.update.acceptsMissingPath = true)
    {point : Point}
    {before after : Memory}
    (charged : loop.Charged caller made point history before)
    {call : Step}
    {next :
      interface.Answer call →
        Program interface (Except Error (Option Json))}
    {answer : interface.Answer call}
    (due : point.program loop = .step call next)
    (answered : memorySemantics call before answer after) :
    ∃ reached : Point,
      next answer = reached.program loop ∧
        loop.Charged caller made reached
          (history ++ [.turn caller call answer before after]) after := by
  cases point with
  | ended result => cases due
  | pausing attempt remaining =>
      cases due
      cases charged with
      | pausing overtaken left waits =>
          refine ⟨.ofRounds loop (attempt + 1) remaining, ?_, ?_⟩
          · exact (Point.program_ofRounds loop (attempt + 1) remaining).symm
          · cases remaining with
            | zero => exact absurd rfl waits
            | succ remaining => exact .reading (overtaken.append _) left
  | reading attempt remaining =>
      rw [Point.program_reading] at due
      cases due
      cases memorySemantics_store.mp answered
      cases charged with
      | reading overtaken left =>
          exact ⟨_, rfl, ofRead addressed overtaken left before before⟩
  | writing attempt remaining current =>
      rw [Point.program_writing] at due
      cases due
      have answers :=
        (loop.changeOf current.value).answers_store before loop.id addressed
          current.cas
      rw [memorySemantics_store.mp answered] at answers
      exact ⟨_, rfl, charged.ofAnswer accepts (changes current.value) answers⟩

end Charged

end FieldLoop

namespace MapUpdate

variable {Value Thread Next : Type} [DecidableEq Thread]
variable {codec : ValueCodec Value} {map : FieldMap}
variable {update : MapUpdate Value} {made : FieldChange}
variable {caller : Thread}
variable {programs current :
  Thread → Program interface (Except Error (Option Value))}
variable {memory final : Memory}
variable {history : History interface Thread Memory}

/-- Throughout a run, the rounds of an update are charged to others. -/
theorem charged_of_run
    {loop : FieldLoop Next}
    (isLoop : update.IsLoop codec map made loop)
    (begins : programs caller = (update.action codec map).run)
    (run : MemoryRun programs memory history current final) :
    ∃ point : FieldLoop.Point,
      current caller = Program.bind (point.program loop) (ending codec) ∧
        loop.Charged caller made point history final := by
  induction run with
  | start =>
      obtain ⟨remaining, rounds, reading⟩ :=
        FieldLoop.exists_program_eq_reading isLoop.maxAttempts_pos
      refine ⟨.reading 1 remaining, ?_, .reading (.never []) (by omega)⟩
      rw [begins, isLoop.program, reading]
  | @outside history _ before after _ change inductionHypothesis =>
      obtain ⟨point, due, charged⟩ := inductionHypothesis
      exact
        ⟨point, due,
          FieldLoop.Charged.foreign (.outside before after) charged nofun
            change.change⟩
  | @turn history current before after thread call next answer _ due answered
      inductionHypothesis =>
      obtain ⟨point, isPoint, charged⟩ := inductionHypothesis
      by_cases own : thread = caller
      · subst own
        rw [isPoint] at due
        cases stands : point.program loop with
        | done result =>
            rw [stands] at due
            cases due
        | step called goesOn =>
            rw [stands] at due
            cases due
            obtain ⟨reached, isReached, chargedAfter⟩ :=
              charged.turn isLoop.fieldOf_path isLoop.changeOf
                isLoop.acceptsMissingPath stands answered
            refine ⟨reached, ?_, chargedAfter⟩
            rw [Function.update_self]
            exact congrArg (Program.bind · (ending codec)) isReached
      · refine ⟨point, ?_, ?_⟩
        · rw [Function.update_of_ne (Ne.symm own)]
          exact isPoint
        · exact
            FieldLoop.Charged.foreign (.turn thread call answer before after)
              charged (by simpa using own) (memorySemantics.change answered)

/-- A result of an update that has ended is explained. -/
theorem explained_of_run
    {loop : FieldLoop Next}
    (isLoop : update.IsLoop codec map made loop)
    (begins : programs caller = (update.action codec map).run)
    (run : MemoryRun programs memory history current final)
    {result : Except Error (Option Value)}
    (ended : current caller = .done result) :
    ∃ reached,
      result = reached.bind (decodeField codec) ∧
        loop.Explained caller made history reached := by
  obtain ⟨point, isPoint, charged⟩ := charged_of_run isLoop begins run
  rw [isPoint] at ended
  cases stands : point.program loop with
  | step called goesOn =>
      rw [stands] at ended
      cases ended
  | done reached =>
      rw [stands] at ended
      cases ended
      cases charged with
      | ended explained =>
          cases stands
          exact ⟨reached, rfl, explained⟩
      | reading | writing | pausing =>
          refine
            absurd stands (FieldLoop.Point.IsOpen.program_ne_done ?_ reached)
          trivial

/--
An update beside any other programs and any other steps on the documents: it
reports contention only after it has been overtaken in every round, so that
others have written the document at least as often. If they have written it less
often and it has been an object throughout, an update that is not refused has
taken effect, and all that can still fail is to read the value that it replaced.
-/
theorem contention_is_charged_to_other_writers
    (begins : programs caller = (update.action codec map).run)
    (run : MemoryRun programs memory history current final)
    {result : Except Error (Option Value)}
    (ended : current caller = .done result) :
    (∀ operation attempts,
        result = .error (.concurrentModification operation attempts) →
        operation = update.name ∧
          attempts = max map.settings.retryLimit.toNat 1 ∧
          attempts ≤ foreignWrites caller map.id history ∧
          ∃ made,
            update.change codec = .ok made ∧
              Overtaken caller map.id (pathOfKey update.key) made attempts
                history) ∧
      (foreignWrites caller map.id history <
          max map.settings.retryLimit.toNat 1 →
        (∀ moment ∈ history, moment.before.HasObject map.id) →
        (∃ made, update.change codec = .ok made) →
        ∃ value, result = decodeField codec value) := by
  cases allowed : update.change codec with
  | error error =>
      have same : result = .error error := by
        have refused := (run.done_stays (begins.trans (run_of_refused allowed))).1
        cases ended.symm.trans refused
        rfl
      refine ⟨?_, by simp⟩
      intro operation attempts contention
      rcases change_eq_error allowed with isEmpty | isShape <;>
        simp_all [unexpectedShape]
  | ok made =>
      obtain ⟨Next, loop, isLoop⟩ := exists_loop map allowed
      obtain ⟨reached, isRead, explained⟩ :=
        explained_of_run isLoop begins run ended
      have limit := isLoop.maxAttempts
      refine ⟨?_, ?_⟩
      · intro operation attempts contention
        rw [contention] at isRead
        cases explained with
        | succeeded value =>
            obtain ⟨_, _, _, isShape⟩ := decodeField_eq_error isRead.symm
            cases isShape
        | noObject other without =>
            cases isRead
            cases other
        | overtaken times =>
            cases isRead
            rw [isLoop.id, isLoop.path] at times
            exact
              ⟨isLoop.operation, limit, times.le_foreignWrites, made, rfl,
                times⟩
      · intro few throughout _
        cases explained with
        | succeeded value => exact ⟨value, isRead⟩
        | noObject other without =>
            obtain ⟨moment, member, noObject⟩ := without
            rw [isLoop.id] at noObject
            exact absurd (throughout moment member) noObject
        | overtaken times =>
            rw [isLoop.id, limit] at times
            exact absurd times.le_foreignWrites (Nat.not_le_of_lt few)

/-- A map whose updates may be tried only once. -/
def impatientMap : FieldMap :=
  ⟨"m", { Settings.default with retryLimit := 1 }⟩

/-- Two insertions under one key. -/
def rivalInsertions
    (second : Bool) : Program interface (Except Error (Option UInt64)) :=
  (impatientMap.put .unsigned64 "k" (if second then 2 else 1)).run

/-- The second insertion into a new map overtakes the first. -/
def overtakenOnce :
    Replay interface Bool Memory (Except Error (Option UInt64)) :=
  (Store.toMachine Memory.store).toMachine.replay
    [false, true, true, false] rivalInsertions
    (Memory.empty.revise "m" (.object []))

/-- The overtaken insertion gives up after the one write of the other. -/
theorem contention_is_charged_to_other_writers_once :
    overtakenOnce.programs false =
        .done (.error (.concurrentModification "put" 1)) ∧
      foreignWrites false "m" overtakenOnce.history = 1 ∧
      Overtaken false "m" "k" (.assign (.whole (.ofUnsigned 1))) 1
        overtakenOnce.history := by
  have begins :
      rivalInsertions false =
        ((put "k" 1).action .unsigned64 impatientMap).run := rfl
  have ended :
      overtakenOnce.programs false =
        .done (.error (.concurrentModification "put" 1)) := rfl
  have charged :=
    contention_is_charged_to_other_writers begins
      (.replay (Store.toMachine Memory.store).toMachine
        [false, true, true, false] rivalInsertions _)
      ended
  obtain ⟨-, -, -, made, isMade, overtaken⟩ := charged.1 "put" 1 rfl
  cases isMade
  exact ⟨ended, by decide, overtaken⟩

end MapUpdate

end ClusterClient.Document
