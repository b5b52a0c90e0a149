import ClusterClient.Optimistic.Update

namespace ClusterClient.Optimistic

/-!
# The rounds of a guarded update

An update runs against endless sequences of answers to its reads and to its
writes, and keeps a record of all that it does. Every round writes what was
computed from the value read in the same round, under the version read in the
same round, and the first round that is not a conflict is the last one.

The main statement gives the record and the result of every update. It rests on
what one round does: a conflict hands over to the next round, and any other
round ends the update.
-/

/-- What a guarded update does. -/
inductive Event (Value Next : Type) where
  | read (answer : Except Error (Versioned (Option Value)))
  | compute (current : Option Value)
  | write (next : Next) (cas : Wire.Cas) (answer : Except Error Unit)
  | pause (delay : Duration)

/-- What the reads and the writes of an update return, the first at zero. -/
structure Answers (Value : Type) where
  reads : Nat → Except Error (Versioned (Option Value))
  writes : Nat → Except Error Unit

/-- How many reads and writes were made, and all that was done, in order. -/
structure Record (Value Next : Type) where
  reads : Nat
  writes : Nat
  events : List (Event Value Next)

/-- Nothing was done. -/
def Record.empty {Value Next : Type} : Record Value Next := ⟨0, 0, []⟩

/-- An update starts another round just when its write is a conflict. -/
theorem Update.judge_eq_conflict_iff
    {Value : Type}
    {update : Update}
    {current : Option Value}
    {written : Except Error Unit} :
    update.judge current written = .conflict ↔
      ∃ id, written = .error (.casMismatch id) := by
  unfold judge
  split
  · exact iff_of_false nofun nofun
  · exact iff_of_true rfl ⟨_, rfl⟩
  · split <;> exact iff_of_false nofun nofun
  · rename_i noConflict _
    refine iff_of_false nofun ?_
    rintro ⟨id, same⟩
    exact noConflict id (Except.error.inj same)

/-- One action after another starts in the state that the first one leaves. -/
theorem bind_apply
    {State First Second : Type}
    (action : StateM State First)
    (continuation : First → StateM State Second)
    (state : State) :
    (action >>= continuation) state =
      continuation (action state).1 (action state).2 := rfl

namespace Answers

variable {Value Next : Type}

/-- Read, as the next answer says. -/
def read
    (answers : Answers Value) :
    StateM (Record Value Next)
      (Except Error (Versioned (Option Value))) := fun record =>
  let answer := answers.reads record.reads
  (answer,
    { record with
      reads := record.reads + 1
      events := record.events ++ [.read answer] })

/-- Write, as the next answer says. -/
def write
    (answers : Answers Value)
    (next : Next)
    (cas : Wire.Cas) :
    StateM (Record Value Next) (Except Error Unit) := fun record =>
  let answer := answers.writes record.writes
  (answer,
    { record with
      writes := record.writes + 1
      events := record.events ++ [.write next cas answer] })

/-- Compute the next value. -/
def compute
    (next : Option Value → Next)
    (current : Option Value) : StateM (Record Value Next) Next := fun record =>
  (next current, { record with events := record.events ++ [.compute current] })

/-- Pause. -/
def pause (delay : Duration) : StateM (Record Value Next) Unit := fun record =>
  ((), { record with events := record.events ++ [.pause delay] })

/-- Run an update against the answers. -/
def run
    (answers : Answers Value)
    (update : Update)
    (next : Option Value → Next) :
    Except Error (Option Value) × Record Value Next :=
  (update.run answers.read (compute next) answers.write pause).run .empty

/-- A round reads, and its write meets another version. -/
def IsConflict (answers : Answers Value) (round : Nat) : Prop :=
  ∃ current id,
    answers.reads round = .ok current ∧
      answers.writes round = .error (.casMismatch id)

/-- What a round does: a read that fails is neither computed with nor written. -/
def roundEvents
    (answers : Answers Value)
    (next : Option Value → Next)
    (round : Nat) : List (Event Value Next) :=
  match answers.reads round with
  | .error error => [.read (.error error)]
  | .ok current =>
      [.read (.ok current), .compute current.value,
        .write (next current.value) current.cas (answers.writes round)]

/-- The pause after a conflicting round, if there is one. -/
def pauseAfter (update : Update) (round : Nat) : List (Event Value Next) :=
  let delay := update.backoff.delay (round + 1)
  if delay.isZero then [] else [.pause delay]

/-- What a conflicting round does, with the pause before the next one. -/
def conflictEvents
    (answers : Answers Value)
    (update : Update)
    (next : Option Value → Next)
    (round : Nat) : List (Event Value Next) :=
  answers.roundEvents next round ++ pauseAfter update round

/-- The result of an update that ends with a round. -/
def resultAt
    (answers : Answers Value)
    (update : Update)
    (round : Nat) : Except Error (Option Value) :=
  match answers.reads round with
  | .error error => .error error
  | .ok current =>
      match update.judge current.value (answers.writes round) with
      | .finished result => result
      | .conflict => .error update.contention

/-- Up to so many rounds from a round on, of which the last ends the update. -/
structure IsCourse
    (answers : Answers Value)
    (first count last : Nat) : Prop where
  first_le : first ≤ last
  last_lt : last < first + count
  conflicts : ∀ round, first ≤ round → round < last → answers.IsConflict round
  settled : last + 1 < first + count → ¬ answers.IsConflict last

variable {answers : Answers Value} {update : Update}
variable {next : Option Value → Next} {first remaining : Nat}

theorem IsCourse.ofSettled
    (settled : ¬ answers.IsConflict first) :
    answers.IsCourse first (remaining + 1) first where
  first_le := Nat.le_refl first
  last_lt := by omega
  conflicts round fromFirst below := absurd fromFirst (by omega)
  settled _ := settled

/-- The only round that is left ends the update even when it is a conflict. -/
theorem IsCourse.ofOne (answers : Answers Value) (first : Nat) :
    answers.IsCourse first 1 first where
  first_le := Nat.le_refl first
  last_lt := by omega
  conflicts round fromFirst below := absurd fromFirst (by omega)
  settled more := absurd more (by omega)

theorem IsCourse.cons
    {last : Nat}
    (conflict : answers.IsConflict first)
    (course : answers.IsCourse (first + 1) remaining last) :
    answers.IsCourse first (remaining + 1) last where
  first_le := by
    have later := course.first_le
    omega
  last_lt := by
    have bound := course.last_lt
    omega
  conflicts round fromFirst below := by
    rcases Nat.eq_or_lt_of_le fromFirst with same | later
    · rw [← same]
      exact conflict
    · exact course.conflicts round later below
  settled more := course.settled (by omega)

/-- The rounds of an update from a round on. -/
def runFrom
    (answers : Answers Value)
    (update : Update)
    (next : Option Value → Next)
    (first remaining : Nat) :
    StateM (Record Value Next) (Except Error (Option Value)) :=
  update.rounds answers.read (compute next) answers.write pause (first + 1)
    remaining

/-- A round that is not a conflict ends the update, and so does the last one. -/
theorem runFrom_of_settled
    (settled : remaining = 0 ∨ ¬ answers.IsConflict first)
    (events : List (Event Value Next)) :
    ∃ record,
      answers.runFrom update next first (remaining + 1) ⟨first, first, events⟩ =
          (answers.resultAt update first, record) ∧
        record.events = events ++ answers.roundEvents next first := by
  rw [runFrom, Update.rounds]
  simp only [bind_apply, read, resultAt, roundEvents]
  cases found : answers.reads first with
  | error error => exact ⟨_, rfl, rfl⟩
  | ok current =>
      simp only [bind_apply, compute, write]
      cases judged : update.judge current.value (answers.writes first) with
      | finished result =>
          refine ⟨_, rfl, ?_⟩
          simp
      | conflict =>
          obtain ⟨id, written⟩ := Update.judge_eq_conflict_iff.mp judged
          have isLast : remaining = 0 :=
            settled.resolve_right (not_not_intro ⟨current, id, found, written⟩)
          subst isLast
          refine ⟨_, rfl, ?_⟩
          simp

/-- A conflict hands over to the next round, after a pause. -/
theorem runFrom_of_conflict
    (conflict : answers.IsConflict first)
    (events : List (Event Value Next)) :
    answers.runFrom update next first (remaining + 2) ⟨first, first, events⟩ =
      answers.runFrom update next (first + 1) (remaining + 1)
        ⟨first + 1, first + 1,
          events ++ answers.conflictEvents update next first⟩ := by
  obtain ⟨current, id, found, written⟩ := conflict
  rw [runFrom, Update.rounds]
  simp only [bind_apply, read, found, compute, write, written, Update.judge,
    conflictEvents, roundEvents, pauseAfter]
  by_cases still : (update.backoff.delay (first + 1)).isZero
  · rw [if_neg (fun paused => paused.2 still), if_pos still]
    simp [runFrom]
  · rw [if_pos ⟨Nat.succ_ne_zero remaining, still⟩, if_neg still]
    simp [runFrom, bind_apply, pause]

/-- The rounds of an update go on up to the first that is not a conflict. -/
theorem exists_course
    (answers : Answers Value)
    (update : Update)
    (next : Option Value → Next)
    (first : Nat)
    (allowed : 0 < remaining)
    (events : List (Event Value Next)) :
    ∃ last record,
      answers.IsCourse first remaining last ∧
        answers.runFrom update next first remaining ⟨first, first, events⟩ =
          (answers.resultAt update last, record) ∧
        record.events =
          events ++
            (List.range' first (last - first)).flatMap
              (answers.conflictEvents update next) ++
            answers.roundEvents next last := by
  induction remaining generalizing first events with
  | zero => exact absurd allowed (Nat.lt_irrefl 0)
  | succ remaining inductionHypothesis =>
      by_cases ends : remaining = 0 ∨ ¬ answers.IsConflict first
      · obtain ⟨record, ran, recorded⟩ :=
          @runFrom_of_settled _ _ answers update next first remaining ends events
        refine ⟨first, record, ?_, ran, by simpa using recorded⟩
        rcases ends with isLast | settled
        · subst isLast
          exact .ofOne answers first
        · exact .ofSettled settled
      · simp only [not_or, Classical.not_not] at ends
        obtain ⟨more, conflict⟩ := ends
        obtain ⟨others, rfl⟩ := Nat.exists_eq_succ_of_ne_zero more
        obtain ⟨last, record, course, ran, recorded⟩ :=
          inductionHypothesis (first + 1) (Nat.succ_pos others)
            (events ++ answers.conflictEvents update next first)
        have later := course.first_le
        have rounds : last - first = last - (first + 1) + 1 := by omega
        refine ⟨last, record, course.cons conflict, ?_, ?_⟩
        · rw [runFrom_of_conflict conflict, ran]
        · rw [recorded, rounds, List.range'_succ, List.flatMap_cons]
          simp only [List.append_assoc]

/-- What the answers of the last round mean to the update. -/
theorem resultAt_of_ok
    {current : Versioned (Option Value)}
    {round : Nat}
    (found : answers.reads round = .ok current) :
    answers.resultAt update round =
      match update.judge current.value (answers.writes round) with
      | .finished result => result
      | .conflict => .error update.contention := by
  rw [resultAt, found]

end Answers

/--
A guarded update makes rounds of a read, a computation and a write up to the
first round that is not a conflict, or up to its limit, which is at least one.
A read that fails, be it with a conflict, ends its round and the update. Every
write carries what was computed from the value of its own round, and the version
of its own round; a pause stands after each conflict but the last. The result is
the value that was read in the last round if its write succeeded, nothing if the
write found no path and the update accepts that, contention after a conflict in
the last round that is allowed, and otherwise the error of the read or of the
write.
-/
theorem rounds_end_with_first_other_than_conflict
    {Value Next : Type}
    (operation : String)
    (limit : Nat)
    (backoff : Backoff)
    (acceptsMissingPath : Bool)
    (next : Option Value → Next)
    (answers : Answers Value) :
    let update : Update :=
      { Update.ofLimit operation limit with
        backoff := backoff
        acceptsMissingPath := acceptsMissingPath }
    ∃ last result record,
      answers.run update next = (result, record) ∧
        last < max limit 1 ∧
        (∀ round < last, answers.IsConflict round) ∧
        (last + 1 < max limit 1 → ¬ answers.IsConflict last) ∧
        record.events =
          (List.range last).flatMap (fun round =>
            answers.roundEvents next round ++
              Answers.pauseAfter update round) ++
            answers.roundEvents next last ∧
        (∀ error,
          answers.reads last = .error error → result = .error error) ∧
        ∀ current,
          answers.reads last = .ok current →
          (answers.writes last = .ok () → result = .ok current.value) ∧
            (∀ path,
              answers.writes last = .error (.pathNotFound path) →
              result =
                if acceptsMissingPath then
                  .ok none
                else
                  .error (.pathNotFound path)) ∧
            (∀ id,
              answers.writes last = .error (.casMismatch id) →
              last + 1 = max limit 1 ∧
                result =
                  .error (.concurrentModification operation (max limit 1))) ∧
            ∀ error,
              answers.writes last = .error error →
              (∀ path, error ≠ .pathNotFound path) →
              (∀ id, error ≠ .casMismatch id) →
              result = .error error := by
  intro update
  obtain ⟨last, record, course, ran, recorded⟩ :=
    answers.exists_course update next 0
      (Nat.lt_of_lt_of_le Nat.one_pos (Nat.le_max_right limit 1)) []
  refine ⟨last, answers.resultAt update last, record, ran, ?_, ?_, ?_, ?_, ?_, ?_⟩
  · simpa using course.last_lt
  · intro round below
    exact course.conflicts round (Nat.zero_le round) below
  · intro more
    exact course.settled (by omega)
  · rw [recorded, List.range_eq_range']
    rfl
  · intro error failed
    rw [Answers.resultAt, failed]
  · intro current found
    rw [Answers.resultAt_of_ok found]
    refine ⟨?_, ?_, ?_, ?_⟩
    · intro written
      rw [written]
      rfl
    · intro path written
      rw [written]
      cases acceptsMissingPath <;> rfl
    · intro id written
      have bound := course.last_lt
      have isLast : ¬ last + 1 < 0 + max limit 1 := fun more =>
        course.settled more ⟨current, id, found, written⟩
      rw [written]
      exact ⟨by omega, rfl⟩
    · intro error written noPath noConflict
      rw [written]
      cases error with
      | pathNotFound path => exact absurd rfl (noPath path)
      | casMismatch id => exact absurd rfl (noConflict id)
      | _ => rfl

/-- Two writers come between, and the third round writes over what it read. -/
theorem rounds_end_with_first_other_than_conflict_overtaken :
    let update : Update :=
      { Update.ofLimit "put" 5 with
        backoff := .none
        acceptsMissingPath := false }
    let answers : Answers Nat :=
      ⟨fun round => .ok ⟨some round, UInt64.ofNat (round + 1)⟩,
        fun round => if round < 2 then .error (.casMismatch "doc") else .ok ()⟩
    ∃ record,
      answers.run update (fun current => current.getD 0 + 10) =
          (.ok (some 2), record) ∧
        record.events =
          [.read (.ok ⟨some 0, 1⟩), .compute (some 0),
            .write 10 1 (.error (.casMismatch "doc")),
            .read (.ok ⟨some 1, 2⟩), .compute (some 1),
            .write 11 2 (.error (.casMismatch "doc")),
            .read (.ok ⟨some 2, 3⟩), .compute (some 2), .write 12 3 (.ok ())] := by
  intro update answers
  obtain ⟨last, result, record, ran, -, conflicts, settled, recorded, -, results⟩ :=
    rounds_end_with_first_other_than_conflict "put" 5 .none false
      (fun current => current.getD 0 + 10) answers
  have isLast : last = 2 := by
    rcases Nat.lt_trichotomy last 2 with below | same | above
    · refine absurd ⟨_, "doc", rfl, if_pos below⟩ (settled ?_)
      change last + 1 < 5
      omega
    · exact same
    · obtain ⟨current, id, -, written⟩ := conflicts 2 above
      cases written
  subst isLast
  rw [(results _ rfl).1 rfl] at ran
  exact ⟨record, ran, recorded⟩

end ClusterClient.Optimistic
