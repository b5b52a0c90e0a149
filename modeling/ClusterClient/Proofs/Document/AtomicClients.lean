import ClusterClient.Proofs.Document.FieldLoop
import ClusterClient.Proofs.Document.VersionLedger

namespace ClusterClient.Document

/-!
# Versions are never shared and never taken up again

Clients of documents in memory run beside each other. All of their operations
are atomic except one: to replace a document takes two steps, one that takes the
version and one that puts the document in place, and any steps of others may
come between them. So versions come into place out of order.

Every step of a client is a step of the ledger of the versions that documents
and replacements under way hold. The main statement is
`versions_are_never_reused`.
-/

/-- The atomic steps of clients of documents in memory. -/
inductive AtomicStep where
  | whole (operation : Scripted.MemoryStep)
  | takeVersion
  | place (id : String) (document : Revision)
  deriving Repr, DecidableEq

/-- What an atomic step returns. -/
def AtomicStep.Answer : AtomicStep → Type
  | .whole operation => operation.Answer
  | .takeVersion => Wire.Cas
  | .place .. => Unit

/-- Programs of atomic steps. -/
abbrev atomicInterface : Interface := ⟨AtomicStep, AtomicStep.Answer⟩

/-- Programs of operations on documents in memory. -/
abbrev operationInterface : Interface :=
  ⟨Scripted.MemoryStep, Scripted.MemoryStep.Answer⟩

/-- Documents in memory take atomic steps. -/
def atomicMachine : TotalMachine atomicInterface Memory :=
  fun step memory =>
    match step with
    | .whole operation => operation.run memory
    | .takeVersion => memory.takeVersion
    | .place id document => ((), memory.place id document)

/-- The atomic steps of an operation. -/
def atomicSteps :
    (operation : Scripted.MemoryStep) →
    Program atomicInterface operation.Answer
  | .onStore (.upsert id content) =>
      .step .takeVersion fun cas =>
        .step (.place id ⟨content, cas⟩) fun _ => .done (Except.ok cas)
  | operation => .step (.whole operation) .done

/-- Taken in a row, the atomic steps of an operation are the operation. -/
theorem run_atomicSteps
    (operation : Scripted.MemoryStep)
    (memory : Memory) :
    atomicMachine.run (atomicSteps operation) memory = operation.run memory := by
  cases operation with
  | onStore call => cases call <;> rfl
  | remove | contains | documentCount => rfl

variable {Thread Result : Type}

/-- The atomic steps of a client. -/
def atomicProgram
    (client : Program operationInterface Result) :
    Program atomicInterface Result :=
  client.interpret atomicSteps

/-- The version that a program has taken for a document not yet in place. -/
def pendingVersion? : Program atomicInterface Result → Option Wire.Cas
  | .step (.place _ document) _ => some document.cas
  | _ => none

/-- Where a client stands: between two operations, or about to put in place. -/
inductive Stage : Program atomicInterface Result → Prop where
  | ready (client : Program operationInterface Result) :
      Stage (atomicProgram client)
  | placing
      (id : String)
      (document : Revision)
      (client : Program operationInterface Result) :
      Stage (.step (.place id document) fun _ => atomicProgram client)

/-- A client between two operations has no version pending. -/
theorem pendingVersion?_atomicProgram
    (client : Program operationInterface Result) :
    pendingVersion? (atomicProgram client) = none := by
  cases client with
  | done result => rfl
  | step operation next =>
      cases operation with
      | onStore call => cases call <;> rfl
      | remove | contains | documentCount => rfl

/-- What a step of a client does. -/
inductive Stage.Turn
    (before : Memory) :
    Program atomicInterface Result → Program atomicInterface Result →
    Memory → Prop where
  | whole
      {program : Program atomicInterface Result}
      (idle : pendingVersion? program = none)
      (client : Program operationInterface Result)
      {after : Memory}
      (change : before.Change after) :
      Turn before program (atomicProgram client) after
  | takes
      {program : Program atomicInterface Result}
      (idle : pendingVersion? program = none)
      (id : String)
      (content : Json)
      (client : Program operationInterface Result) :
      Turn before program
        (.step (.place id ⟨content, before.nextCas⟩)
          fun _ => atomicProgram client)
        before.takeVersion.2
  | places
      {program : Program atomicInterface Result}
      {id : String}
      {document : Revision}
      (pending : pendingVersion? program = some document.cas)
      (client : Program operationInterface Result) :
      Turn before program (atomicProgram client) (before.place id document)

/-- A client that takes a step stands again between steps. -/
theorem Stage.Turn.stage
    {program later : Program atomicInterface Result}
    {before after : Memory}
    (turn : Stage.Turn before program later after) : Stage later := by
  cases turn with
  | whole _ client => exact .ready client
  | takes _ id content client => exact .placing id _ client
  | places _ client => exact .ready client

/-- A whole operation changes documents in memory in one of three ways. -/
theorem change_of_whole
    {operation : Scripted.MemoryStep}
    {before after : Memory}
    {answer : operation.Answer}
    (answered : atomicMachine (.whole operation) before = (answer, after)) :
    before.Change after := by
  have change := Memory.step_change operation before
  have ran : operation.run before = (answer, after) := answered
  rw [ran] at change
  exact change

/-- Every step of a client is one of the three. -/
theorem Stage.turn
    {program : Program atomicInterface Result}
    (stage : Stage program)
    {before after : Memory}
    {call : AtomicStep}
    {next : atomicInterface.Answer call → Program atomicInterface Result}
    {answer : atomicInterface.Answer call}
    (due : program = .step call next)
    (answered : atomicMachine call before = (answer, after)) :
    Stage.Turn before program (next answer) after := by
  cases stage with
  | placing id document client =>
      cases due
      cases answered
      exact .places rfl client
  | ready client =>
      have idle := pendingVersion?_atomicProgram client
      cases client with
      | done result => cases due
      | step operation goesOn =>
          cases operation with
          | remove | contains | documentCount =>
              cases due
              exact .whole idle _ (change_of_whole answered)
          | onStore call =>
              cases call with
              | upsert id content =>
                  cases due
                  cases answered
                  exact .takes idle id content _
              | insert | get | lookupField | fieldExists | fieldCount
              | upsertField | removeField =>
                  cases due
                  exact .whole idle _ (change_of_whole answered)

namespace Memory

/-- The version of a document. -/
def version? (memory : Memory) (id : String) : Option Wire.Cas :=
  (memory.find? id).map Revision.cas

theorem version?_place
    (memory : Memory)
    (id other : String)
    (document : Revision) :
    (memory.place id document).version? other =
      if other = id then some document.cas else memory.version? other := by
  have placed :
      (memory.place id document).find? other =
        if other = id then some document else memory.find? other :=
    KeyedList.find?_insert other id document memory.documents
  unfold version?
  rw [placed]
  split <;> rfl

theorem version?_revise
    (memory : Memory)
    (id other : String)
    (content : Json) :
    (memory.revise id content).version? other =
      if other = id then some memory.nextCas else memory.version? other :=
  version?_place memory.takeVersion.2 id other ⟨content, memory.nextCas⟩

theorem version?_remove
    (memory : Memory)
    (id other : String) :
    (memory.remove id).2.version? other =
      if other = id then none else memory.version? other := by
  unfold version?
  rw [find?_remove]
  split <;> rfl

/-- The document that a call writes, if it succeeds. -/
def written? : StoreCall → Option String
  | .insert id _ | .upsert id _ => some id
  | .upsertField id _ _ _ | .removeField id _ _ => some id
  | .get _ | .lookupField _ _ | .fieldExists _ _ | .fieldCount _ _ => none

/-- A successful write puts its document in place under the next version. -/
theorem store_of_written
    {call : StoreCall}
    {id : String}
    (writes : written? call = some id)
    {memory after : Memory}
    {success : call.Success}
    (stored : store call memory = (.ok success, after)) :
    ∃ content, after = memory.revise id content := by
  cases call with
  | get | lookupField | fieldExists | fieldCount => cases writes
  | upsert other content =>
      cases writes
      cases stored
      exact ⟨content, rfl⟩
  | insert other content =>
      cases writes
      simp only [store, insert_eq] at stored
      split at stored
      · cases stored
      · cases stored
        exact ⟨content, rfl⟩
  | upsertField other path value cas =>
      cases writes
      rcases upsertField_cases memory id path value cas with
        ⟨content, made⟩ | ⟨error, failed⟩
      · cases made.symm.trans stored
        exact ⟨content, rfl⟩
      · cases failed.symm.trans stored
  | removeField other path cas =>
      cases writes
      rcases removeField_cases memory id path cas with
        ⟨content, made⟩ | ⟨error, failed⟩
      · cases made.symm.trans stored
        exact ⟨content, rfl⟩
      · cases failed.symm.trans stored

/-- Fields are changed under a version only while it is in place. -/
theorem version?_of_changeFields
    {memory after : Memory}
    {id : String}
    {cas fresh : Wire.Cas}
    {edit : Json.Fields → Except Error Json.Fields}
    (guarded : cas ≠ Wire.anyVersion)
    (changed : memory.changeFields id cas edit = (.ok fresh, after)) :
    memory.version? id = some cas := by
  cases found : memory.find? id with
  | none =>
      rw [changeFields_of_absent found] at changed
      cases changed
  | some document =>
      by_cases inPlace : cas = document.cas
      · simp [version?, found, inPlace]
      · rw [changeFields_of_stale found guarded inPlace] at changed
        cases changed

/-- A guarded write succeeds only under the version in place. -/
theorem version?_of_guarded
    {memory after : Memory}
    {change : FieldChange}
    {id path : String}
    {cas : Wire.Cas}
    (guarded : cas ≠ Wire.anyVersion)
    {success : (change.call id path cas).Success}
    (stored :
      store (change.call id path cas) memory = (.ok success, after)) :
    memory.version? id = some cas := by
  cases change with
  | assign value =>
      simp only [FieldChange.call, store, upsertField] at stored
      cases addressed : fieldOf path with
      | error error =>
          rw [addressed] at stored
          cases stored
      | ok key =>
          simp only [addressed] at stored
          exact version?_of_changeFields guarded stored
  | drop =>
      simp only [FieldChange.call, store, removeField] at stored
      cases addressed : fieldOf path with
      | error error =>
          rw [addressed] at stored
          cases stored
      | ok key =>
          simp only [addressed] at stored
          exact version?_of_changeFields guarded stored

end Memory

/-- A step, with its answer, has written or dropped a document. -/
def AtomicStep.writes (id : String) : (step : AtomicStep) → step.Answer → Bool
  | .whole (.onStore call), (answer : call.Answer) =>
      Memory.written? call = some id ∧ answer.isOk
  | .whole (.remove other), (dropped : Bool) => other = id ∧ dropped
  | .place other _, _ => other = id
  | .whole (.contains _), _ | .whole .documentCount, _ | .takeVersion, _ => false

/-- A moment has written or dropped a document. -/
def writesAt
    (id : String) : Moment atomicInterface Thread Memory → Bool
  | .turn _ step answer _ _ => step.writes id answer
  | .outside .. => false

section Runs

/-- The ledger of documents and of the programs that work on them. -/
def ledgerOf
    (programs : Thread → Program atomicInterface Result)
    (memory : Memory) : Ledger Thread where
  versions
    | .document id => memory.version? id
    | .replacement thread => pendingVersion? (programs thread)
  counter := memory.nextCas

@[simp] theorem ledgerOf_document
    (programs : Thread → Program atomicInterface Result)
    (memory : Memory)
    (id : String) :
    (ledgerOf programs memory).versions (.document id) =
      memory.version? id := rfl

@[simp] theorem ledgerOf_replacement
    (programs : Thread → Program atomicInterface Result)
    (memory : Memory)
    (thread : Thread) :
    (ledgerOf programs memory).versions (.replacement thread) =
      pendingVersion? (programs thread) := rfl

variable [DecidableEq Thread]
variable {programs : Thread → Program atomicInterface Result}

/-- A client that had no version pending, and has none, changes no pending one. -/
theorem pendingVersion?_update
    {thread : Thread}
    {next : Program atomicInterface Result}
    (idle : pendingVersion? (programs thread) = none)
    (stillIdle : pendingVersion? next = none)
    (other : Thread) :
    pendingVersion? (Function.update programs thread next other) =
      pendingVersion? (programs other) := by
  by_cases own : other = thread
  · rw [own, Function.update_self, stillIdle, idle]
  · rw [Function.update_of_ne own]

/-- A step of a client is a step of the ledger. -/
theorem Stage.Turn.step
    {thread : Thread}
    {next : Program atomicInterface Result}
    {before after : Memory}
    (turn : Stage.Turn before (programs thread) next after) :
    (ledgerOf programs before).Step
      (ledgerOf (Function.update programs thread next) after) := by
  cases turn with
  | whole idle client change =>
      have pending :=
        pendingVersion?_update idle (pendingVersion?_atomicProgram client)
      cases change with
      | nothing =>
          refine .keeps ?_ rfl
          rintro (id | other)
          · rfl
          · exact pending other
      | revise id content =>
          refine .issues (.document id) ?_ ?_ rfl
          · rw [ledgerOf_document, Memory.version?_revise, if_pos rfl]
            rfl
          · rintro (other | other) different
            · rw [ledgerOf_document, Memory.version?_revise,
                if_neg (by simpa using different)]
              rfl
            · exact pending other
      | remove id =>
          refine .drops (.document id) ?_ ?_ rfl
          · rw [ledgerOf_document, Memory.version?_remove, if_pos rfl]
          · rintro (other | other) different
            · rw [ledgerOf_document, Memory.version?_remove,
                if_neg (by simpa using different)]
              rfl
            · exact pending other
  | takes idle id content client =>
      refine .issues (.replacement thread) ?_ ?_ rfl
      · rw [ledgerOf_replacement, Function.update_self]
        rfl
      · rintro (other | other) different
        · rfl
        · rw [ledgerOf_replacement, Function.update_of_ne
            (by simpa using different)]
          rfl
  | @places id document pending client =>
      refine .hands thread id pending ?_ ?_ ?_ rfl
      · rw [ledgerOf_replacement, Function.update_self]
        exact pendingVersion?_atomicProgram client
      · rw [ledgerOf_document, Memory.version?_place, if_pos rfl]
      · rintro (other | other) notSource notTarget
        · rw [ledgerOf_document, Memory.version?_place,
            if_neg (by simpa using notTarget)]
          rfl
        · rw [ledgerOf_replacement, Function.update_of_ne
            (by simpa using notSource)]
          rfl

/-- A step took a version. -/
def allocates (moment : Moment atomicInterface Thread Memory) : Bool :=
  moment.before.nextCas ≠ moment.after.nextCas

/-- The number of versions that were taken in a run. -/
def allocations (history : History atomicInterface Thread Memory) : Nat :=
  history.countP allocates

omit [DecidableEq Thread] in
@[simp] theorem allocations_append
    (earlier later : History atomicInterface Thread Memory) :
    allocations (earlier ++ later) =
      allocations earlier + allocations later :=
  List.countP_append

omit [DecidableEq Thread] in
theorem allocations_singleton (moment : Moment atomicInterface Thread Memory) :
    allocations [moment] =
      if moment.before.nextCas = moment.after.nextCas then 0 else 1 := by
  by_cases same : moment.before.nextCas = moment.after.nextCas <;>
    simp [allocations, allocates, same]

/-- The runs of clients on documents that nobody else touches. -/
abbrev AtomicRun :
    (Thread → Program atomicInterface Result) → Memory →
    History atomicInterface Thread Memory →
    (Thread → Program atomicInterface Result) → Memory → Prop :=
  Run atomicMachine.toMachine.semantics fun _ _ => False

namespace AtomicRun

variable {current : Thread → Program atomicInterface Result}
variable {memory final : Memory}
variable {history : History atomicInterface Thread Memory}

/-- Without wrapping, a run of clients takes steps of the ledger. -/
theorem advances
    (run : AtomicRun programs memory history current final)
    (stages : ∀ thread, Stage (programs thread))
    (room : memory.nextCas.toNat + allocations history < 2 ^ 64) :
    (∀ thread, Stage (current thread)) ∧
      final.nextCas.toNat = memory.nextCas.toNat + allocations history ∧
      (ledgerOf programs memory).Advances (ledgerOf current final) := by
  induction run with
  | start => exact ⟨stages, rfl, .refl⟩
  | outside _ never => exact never.elim
  | @turn history current before after thread call next answer _ due answered
      inductionHypothesis =>
      have single :
          allocations [.turn thread call answer before after] =
            if before.nextCas = after.nextCas then 0 else 1 :=
        allocations_singleton _
      rw [allocations_append, single] at room ⊢
      obtain ⟨standing, counted, advances⟩ := inductionHypothesis (by omega)
      have turn := (standing thread).turn due (Option.some.inj answered)
      have next :
          after.nextCas = before.nextCas ∨
            after.nextCas = before.nextCas + 1 := turn.step.counter
      have taken := toNat_of_next next (by omega)
      refine ⟨?_, by omega, advances.tail ⟨turn.step, ?_⟩⟩
      · intro other
        by_cases own : other = thread
        · rw [own, Function.update_self]
          exact turn.stage
        · rw [Function.update_of_ne own]
          exact standing other
      · apply UInt64.le_iff_toNat_le.mpr
        simp only [ledgerOf]
        omega

omit [DecidableEq Thread] in
/-- A write of a document replaces the version that it has. -/
theorem version?_of_writes
    {thread : Thread}
    {before after : Memory}
    (sound : (ledgerOf programs before).IsSound)
    {call : AtomicStep}
    {next : atomicInterface.Answer call → Program atomicInterface Result}
    {answer : atomicInterface.Answer call}
    (due : programs thread = .step call next)
    (answered : atomicMachine call before = (answer, after))
    {id : String}
    (writes : call.writes id answer = true)
    {cas : Wire.Cas}
    (held : before.version? id = some cas) :
    after.version? id ≠ some cas := by
  cases call with
  | takeVersion => cases writes
  | place other document =>
      simp only [AtomicStep.writes, decide_eq_true_eq] at writes
      subst writes
      cases answered
      rw [Memory.version?_place, if_pos rfl]
      intro same
      have pending :
          (ledgerOf programs before).versions (.replacement thread) =
            some cas := by
        rw [ledgerOf_replacement, due]
        exact same
      have current :
          (ledgerOf programs before).versions (.document other) =
            some cas := held
      cases sound.once pending current
  | whole operation =>
      cases operation with
      | contains | documentCount => cases writes
      | remove other =>
          simp only [AtomicStep.writes, decide_eq_true_eq] at writes
          obtain ⟨isId, -⟩ := writes
          subst isId
          cases answered
          change (before.remove other).2.version? other ≠ _
          rw [Memory.version?_remove, if_pos rfl]
          nofun
      | onStore call =>
          simp only [AtomicStep.writes, decide_eq_true_eq] at writes
          obtain ⟨isWrite, succeeds⟩ := writes
          cases answer with
          | error error => cases succeeds
          | ok success =>
              obtain ⟨content, revised⟩ :=
                Memory.store_of_written isWrite answered
              rw [revised, Memory.version?_revise, if_pos rfl]
              intro same
              cases same
              exact sound.versions_ne_counter (.document id) held

/--
While a document is found under the version that it had before, it has not been
written.
-/
theorem not_writesAt
    (run : AtomicRun programs memory history current final)
    (stages : ∀ thread, Stage (programs thread))
    (sound : (ledgerOf programs memory).IsSound)
    (room : memory.nextCas.toNat + allocations history < 2 ^ 64)
    {id : String}
    {cas : Wire.Cas}
    (held : memory.version? id = some cas)
    (still : final.version? id = some cas) :
    ∀ moment ∈ history, writesAt id moment = false := by
  induction run with
  | start =>
      intro moment member
      cases member
  | outside _ never => exact never.elim
  | @turn history current before after thread call next answer run due answered
      inductionHypothesis =>
      have roomBefore : memory.nextCas.toNat + allocations history < 2 ^ 64 := by
        rw [allocations_append] at room
        omega
      obtain ⟨standing, counted, earlier⟩ := advances run stages roomBefore
      obtain ⟨-, -, last⟩ :=
        advances (Run.start.turn due answered) standing
          (by
            rw [List.nil_append, counted]
            rw [allocations_append] at room
            omega)
      have soundBefore := sound.advances earlier
      have kept : before.version? id = some cas := by
        rcases sound.keeps_or_retires_advances earlier held with
          keeps | retired
        · exact keeps
        · exact absurd still ((retired.advances last).unheld (.document id))
      intro moment member
      rcases List.mem_append.mp member with isEarlier | isLast
      · exact inductionHypothesis roomBefore kept moment isEarlier
      · rw [List.mem_singleton.mp isLast]
        by_contra writes
        exact
          version?_of_writes soundBefore due (Option.some.inj answered)
            (by simpa [writesAt] using writes) kept still

omit [DecidableEq Thread] in
/-- Without documents and with all clients at their start, no version is held. -/
theorem isSound_empty (clients : Thread → Program operationInterface Result) :
    (ledgerOf (fun thread => atomicProgram (clients thread)) .empty).IsSound := by
  have unheld : ∀ holder,
      (ledgerOf (fun thread => atomicProgram (clients thread)) .empty).versions
        holder = none := by
    rintro (id | thread)
    · rfl
    · exact pendingVersion?_atomicProgram (clients thread)
  refine ⟨Memory.empty_isDated.counterPositive, ?_, ?_, ?_⟩
  · intro holder cas held
    cases (unheld holder).symm.trans held
  · intro holder cas held
    cases (unheld holder).symm.trans held
  · intro holder other cas held
    cases (unheld holder).symm.trans held

/--
Any number of clients whose replacements of documents may be interrupted, in a
run cut anywhere into three stretches: the versions of documents and of
replacements under way are above zero, below the counter and held only once; a
version that a document had and has no more is never again the version of any
document; and a guarded write of a field succeeds only under the version in
place, with no write of the document since any time at which it had it.
-/
theorem versions_are_never_reused
    (clients : Thread → Program operationInterface Result)
    {middle reached current : Thread → Program atomicInterface Result}
    {first second final : Memory}
    {earlier between later : History atomicInterface Thread Memory}
    (begins :
      AtomicRun (fun thread => atomicProgram (clients thread)) .empty earlier
        middle first)
    (continues : AtomicRun middle first between reached second)
    (ends : AtomicRun reached second later current final)
    (room : allocations (earlier ++ between ++ later) < 2 ^ 64 - 1) :
    (ledgerOf current final).IsSound ∧
      (∀ id cas,
        first.version? id = some cas →
        second.version? id ≠ some cas →
        ∀ other, final.version? other ≠ some cas) ∧
      ∀ (change : FieldChange) id path cas
          (success : (change.call id path cas).Success) after,
        cas ≠ Wire.anyVersion →
        Memory.store (change.call id path cas) second = (.ok success, after) →
        second.version? id = some cas ∧
          (first.version? id = some cas →
            ∀ moment ∈ between, writesAt id moment = false) := by
  have one : Memory.empty.nextCas.toNat = 1 := rfl
  simp only [allocations_append] at room
  obtain ⟨stages, counted, toFirst⟩ :=
    advances begins (fun thread => .ready (clients thread)) (by omega)
  obtain ⟨laterStages, laterCounted, toSecond⟩ :=
    advances continues stages (by omega)
  obtain ⟨-, -, toFinal⟩ := advances ends laterStages (by omega)
  have sound := (isSound_empty clients).advances toFirst
  refine ⟨(sound.advances toSecond).advances toFinal, ?_, ?_⟩
  · intro id cas held replaced other
    rcases sound.keeps_or_retires_advances toSecond held with keeps | retired
    · exact absurd keeps replaced
    · exact (retired.advances toFinal).unheld (.document other)
  · intro change id path cas success after guarded stored
    have inPlace := Memory.version?_of_guarded guarded stored
    refine ⟨inPlace, fun held => ?_⟩
    exact not_writesAt continues stages sound (by omega) held inPlace

/-- A client that replaces a document, and one that drops and creates it. -/
def rivalClients (second : Bool) : Program operationInterface Unit :=
  if second then
    .step (.onStore (.insert "a" (.object []))) fun _ =>
      .step (.remove "a") fun _ =>
        .step (.onStore (.insert "a" (.object []))) fun _ => .done ()
  else
    .step (.onStore (.upsert "a" (.object []))) fun _ => .done ()

/-- A stretch of a run of the two clients. -/
def rivalStretch
    (schedule : List Bool)
    (programs : Bool → Program atomicInterface Unit)
    (memory : Memory) : Replay atomicInterface Bool Memory Unit :=
  atomicMachine.toMachine.replay schedule programs memory

/-- The document is created while the version for its replacement is pending. -/
def rivalCreation : Replay atomicInterface Bool Memory Unit :=
  rivalStretch [false, true] (fun second => atomicProgram (rivalClients second))
    .empty

/-- The replacement puts the older version in place. -/
def rivalReplacement : Replay atomicInterface Bool Memory Unit :=
  rivalStretch [false] rivalCreation.programs rivalCreation.state

/-- The document is dropped and created again. -/
def rivalRecreation : Replay atomicInterface Bool Memory Unit :=
  rivalStretch [true, true] rivalReplacement.programs rivalReplacement.state

/-- The version that was replaced by an older one does not come back. -/
theorem versions_are_never_reused_rivals :
    rivalCreation.state.version? "a" = some 2 ∧
      rivalReplacement.state.version? "a" = some 1 ∧
      rivalRecreation.state.version? "a" = some 3 ∧
      ∀ other, rivalRecreation.state.version? other ≠ some 2 := by
  have unique :=
    versions_are_never_reused rivalClients
      (.replay atomicMachine.toMachine [false, true] _ _)
      (.replay atomicMachine.toMachine [false] rivalCreation.programs
        rivalCreation.state)
      (.replay atomicMachine.toMachine [true, true] rivalReplacement.programs
        rivalReplacement.state)
      (by decide)
  have created : rivalCreation.state.version? "a" = some 2 := by decide
  have replaced : rivalReplacement.state.version? "a" = some 1 := by decide
  refine ⟨created, replaced, by decide, ?_⟩
  apply unique.2.1 "a" 2 created
  intro same
  cases replaced.symm.trans same

end AtomicRun

end Runs

end ClusterClient.Document
