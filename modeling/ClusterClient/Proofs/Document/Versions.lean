import ClusterClient.Document.Memory
import ClusterClient.Proofs.Run
import ClusterClient.Scripted.Documents
import Mathlib.Algebra.Group.Nat.Defs

namespace ClusterClient.Document

/-!
# Versions of documents in memory

Whatever a step does to documents in memory, it does one of three things:
nothing, put one document in place under the next version, or drop one
document. From that it follows that, for as long as the version counter has not
wrapped, stored versions are above zero and below the counter, and that a
document which was read is still the one in place if its version is.
-/

namespace Memory

/-- Put a document in place under the next version. -/
def revise (memory : Memory) (id : String) (content : Json) : Memory :=
  memory.takeVersion.2.place id ⟨content, memory.nextCas⟩

@[simp] theorem find?_revise
    (memory : Memory)
    (id other : String)
    (content : Json) :
    (memory.revise id content).find? other =
      if other = id then
        some ⟨content, memory.nextCas⟩
      else
        memory.find? other :=
  KeyedList.find?_insert other id _ memory.documents

@[simp] theorem nextCas_revise
    (memory : Memory)
    (id : String)
    (content : Json) :
    (memory.revise id content).nextCas = memory.nextCas + 1 := rfl

@[simp] theorem find?_remove
    (memory : Memory)
    (id other : String) :
    (memory.remove id).2.find? other =
      if other = id then none else memory.find? other :=
  KeyedList.find?_erase other id memory.documents

@[simp] theorem nextCas_remove (memory : Memory) (id : String) :
    (memory.remove id).2.nextCas = memory.nextCas := rfl

/-- What one step may do to documents in memory. -/
inductive Change (memory : Memory) : Memory → Prop where
  | nothing : Change memory memory
  | revise (id : String) (content : Json) :
      Change memory (memory.revise id content)
  | remove (id : String) : Change memory (memory.remove id).2

theorem getObject_of_absent
    {memory : Memory}
    {id : String}
    (absent : memory.find? id = none) :
    memory.getObject id = .error (.documentNotFound id) := by
  simp [getObject, absent]

theorem getObject_of_find?
    {memory : Memory}
    {id : String}
    {fields : Json.Fields}
    {cas : Wire.Cas}
    (found : memory.find? id = some ⟨.object fields, cas⟩) :
    memory.getObject id = .ok ⟨fields, cas⟩ := by
  simp [getObject, found]

/-- Fields that are read are those of the object in place. -/
theorem find?_of_getObject
    {memory : Memory}
    {id : String}
    {object : Optimistic.Versioned Json.Fields}
    (read : memory.getObject id = .ok object) :
    memory.find? id = some ⟨.object object.value, object.cas⟩ := by
  unfold getObject at read
  cases found : memory.find? id with
  | none => simp [found] at read
  | some document =>
      obtain ⟨content, cas⟩ := document
      cases content with
      | object fields =>
          simp only [found, Except.ok.injEq] at read
          rw [← read]
      | _ => simp [found] at read

theorem insert_eq (memory : Memory) (id : String) (content : Json) :
    memory.insert id content =
      if memory.contains id then
        (.error (.documentExists id), memory)
      else
        (.ok memory.nextCas, memory.revise id content) := rfl

theorem changeFields_of_absent
    {memory : Memory}
    {id : String}
    (absent : memory.find? id = none)
    (cas : Wire.Cas)
    (change : Json.Fields → Except Error Json.Fields) :
    memory.changeFields id cas change =
      (.error (.documentNotFound id), memory) := by
  simp [changeFields, absent]

theorem changeFields_of_stale
    {memory : Memory}
    {id : String}
    {document : Revision}
    (found : memory.find? id = some document)
    {cas : Wire.Cas}
    (guarded : cas ≠ Wire.anyVersion)
    (stale : cas ≠ document.cas)
    (change : Json.Fields → Except Error Json.Fields) :
    memory.changeFields id cas change =
      (.error (.casMismatch id), memory) := by
  simp [changeFields, found, guarded, stale]

/-- Fields are changed under a version that is accepted. -/
theorem changeFields_of_accepted
    {memory : Memory}
    {id : String}
    {fields : Json.Fields}
    {cas current : Wire.Cas}
    (found : memory.find? id = some ⟨.object fields, current⟩)
    (accepted : ¬ (cas ≠ Wire.anyVersion ∧ cas ≠ current))
    (change : Json.Fields → Except Error Json.Fields) :
    memory.changeFields id cas change =
      match change fields with
      | .error error => (.error error, memory)
      | .ok changed =>
          (.ok memory.nextCas, memory.revise id (.object changed)) := by
  simp only [changeFields, found, if_neg accepted]
  rfl

/-- Fields are changed under the version in place. -/
theorem changeFields_of_current
    {memory : Memory}
    {id : String}
    {fields : Json.Fields}
    {cas : Wire.Cas}
    (found : memory.find? id = some ⟨.object fields, cas⟩)
    (change : Json.Fields → Except Error Json.Fields) :
    memory.changeFields id cas change =
      match change fields with
      | .error error => (.error error, memory)
      | .ok changed =>
          (.ok memory.nextCas, memory.revise id (.object changed)) :=
  changeFields_of_accepted found (fun refused => refused.2 rfl) change

/--
Changing the fields of a document revises it, or fails and leaves everything
as it is.
-/
theorem changeFields_cases
    (memory : Memory)
    (id : String)
    (cas : Wire.Cas)
    (change : Json.Fields → Except Error Json.Fields) :
    (∃ content,
        memory.changeFields id cas change =
          (.ok memory.nextCas, memory.revise id content)) ∨
      ∃ error, memory.changeFields id cas change = (.error error, memory) := by
  cases found : memory.find? id with
  | none => exact .inr ⟨_, changeFields_of_absent found cas change⟩
  | some document =>
      obtain ⟨content, current⟩ := document
      by_cases refused : cas ≠ Wire.anyVersion ∧ cas ≠ current
      · exact .inr ⟨_, changeFields_of_stale found refused.1 refused.2 change⟩
      · simp only [changeFields, found, refused, ↓reduceIte]
        cases content with
        | object fields =>
            cases changed : change fields with
            | error error => exact .inr ⟨error, by simp [changed]⟩
            | ok changedFields =>
                exact .inl ⟨.object changedFields, by simp only [changed]; rfl⟩
        | _ => exact .inr ⟨_, rfl⟩

/--
A write of a field revises the document, or fails and leaves everything as it
is.
-/
theorem upsertField_cases
    (memory : Memory)
    (id path : String)
    (value : Json)
    (cas : Wire.Cas) :
    (∃ content,
        memory.upsertField id path value cas =
          (.ok memory.nextCas, memory.revise id content)) ∨
      ∃ error,
        memory.upsertField id path value cas = (.error error, memory) := by
  unfold upsertField
  cases fieldOf path with
  | error error => exact .inr ⟨error, rfl⟩
  | ok key => exact changeFields_cases memory id cas _

theorem removeField_cases
    (memory : Memory)
    (id path : String)
    (cas : Wire.Cas) :
    (∃ content,
        memory.removeField id path cas =
          (.ok memory.nextCas, memory.revise id content)) ∨
      ∃ error, memory.removeField id path cas = (.error error, memory) := by
  unfold removeField
  cases fieldOf path with
  | error error => exact .inr ⟨error, rfl⟩
  | ok key => exact changeFields_cases memory id cas _

/-- A store call changes documents in memory in one of the three ways. -/
theorem store_change (call : StoreCall) (memory : Memory) :
    Change memory (store call memory).2 := by
  cases call with
  | insert id content =>
      simp only [store, insert_eq]
      split
      · exact .nothing
      · exact .revise id content
  | upsert id content => exact .revise id content
  | get | lookupField | fieldExists | fieldCount => exact .nothing
  | upsertField id path value cas =>
      rcases upsertField_cases memory id path value cas with
        ⟨content, written⟩ | ⟨error, failed⟩
      · simp only [store, written]
        exact .revise id content
      · simp only [store, failed]
        exact .nothing
  | removeField id path cas =>
      rcases removeField_cases memory id path cas with
        ⟨content, written⟩ | ⟨error, failed⟩
      · simp only [store, written]
        exact .revise id content
      · simp only [store, failed]
        exact .nothing

/-- Every step changes documents in memory in one of the three ways. -/
theorem step_change (step : Scripted.MemoryStep) (memory : Memory) :
    Change memory (step.run memory).2 := by
  cases step with
  | onStore call => exact store_change call memory
  | remove id => exact .remove id
  | contains | documentCount => exact .nothing

/-- Stored versions are above zero and below the counter. -/
structure IsDated (memory : Memory) : Prop where
  counterPositive : 0 < memory.nextCas
  versionPositive : ∀ {id document},
    memory.find? id = some document → 0 < document.cas
  versionBelow : ∀ {id document},
    memory.find? id = some document → document.cas < memory.nextCas

theorem empty_isDated : empty.IsDated where
  counterPositive := by decide
  versionPositive found := by cases found
  versionBelow found := by cases found

/-- A change that does not wrap the counter keeps the dates. -/
theorem IsDated.change
    {memory later : Memory}
    (dated : memory.IsDated)
    (change : memory.Change later)
    (forward : memory.nextCas ≤ later.nextCas) : later.IsDated := by
  cases change with
  | nothing => exact dated
  | revise id content =>
      have below : memory.nextCas < memory.nextCas + 1 := by
        simp only [nextCas_revise] at forward
        grind
      refine ⟨?_, ?_, ?_⟩
      · exact Std.lt_trans dated.counterPositive below
      · intro other document found
        rw [find?_revise] at found
        split at found
        · cases found
          exact dated.counterPositive
        · exact dated.versionPositive found
      · intro other document found
        rw [find?_revise] at found
        split at found
        · cases found
          exact below
        · exact Std.lt_trans (dated.versionBelow found) below
  | remove id =>
      refine ⟨dated.counterPositive, ?_, ?_⟩
      · intro other document found
        rw [find?_remove] at found
        split at found
        · cases found
        · exact dated.versionPositive found
      · intro other document found
        rw [find?_remove] at found
        split at found
        · cases found
        · exact dated.versionBelow found

/-- A document that was read: it is the one in place while its version is. -/
structure Recalls
    (memory : Memory)
    (id : String)
    (document : Revision) : Prop where
  positive : 0 < document.cas
  below : document.cas < memory.nextCas
  same : ∀ {current},
    memory.find? id = some current →
    current.cas = document.cas → current = document

theorem IsDated.recalls
    {memory : Memory}
    (dated : memory.IsDated)
    {id : String}
    {document : Revision}
    (found : memory.find? id = some document) :
    memory.Recalls id document where
  positive := dated.versionPositive found
  below := dated.versionBelow found
  same current _ := Option.some.inj (current.symm.trans found)

/-- A change that does not wrap the counter keeps what was read. -/
theorem Recalls.change
    {memory later : Memory}
    {id : String}
    {document : Revision}
    (recalls : memory.Recalls id document)
    (change : memory.Change later)
    (forward : memory.nextCas ≤ later.nextCas) :
    later.Recalls id document := by
  refine ⟨recalls.positive, ?_, ?_⟩
  · exact Std.lt_of_lt_of_le recalls.below forward
  · intro current found sameVersion
    cases change with
    | nothing => exact recalls.same found sameVersion
    | revise other content =>
        rw [find?_revise] at found
        split at found
        · cases found
          have below := recalls.below
          rw [← sameVersion] at below
          exact absurd below Std.lt_irrefl
        · exact recalls.same found sameVersion
    | remove other =>
        rw [find?_remove] at found
        split at found
        · cases found
        · exact recalls.same found sameVersion

end Memory

/-- A store call has the one answer that documents in memory give. -/
abbrev memorySemantics : Semantics interface Memory :=
  (Store.toMachine Memory.store).toMachine.semantics

theorem memorySemantics_store
    {call : StoreCall}
    {before after : Memory}
    {answer : call.Answer} :
    memorySemantics (.store call) before answer after ↔
      Memory.store call before = (answer, after) :=
  ⟨fun answered => Option.some.inj answered, fun stored => congrArg some stored⟩

theorem memorySemantics_pause
    {delay : Duration}
    {before after : Memory}
    {answer : Step.Answer (.pause delay)} :
    memorySemantics (.pause delay) before answer after ↔ after = before := by
  constructor
  · intro answered
    exact (congrArg Prod.snd (Option.some.inj answered)).symm
  · rintro rfl
    rfl

/-- Beside the programs, others may take any step on the documents. -/
def anyMemoryStep (before after : Memory) : Prop :=
  ∃ step : Scripted.MemoryStep, (step.run before).2 = after

/-- The runs of programs on documents in memory, beside any other steps. -/
abbrev MemoryRun
    {Thread Result : Type}
    [DecidableEq Thread] :
    (Thread → Program interface Result) → Memory →
    History interface Thread Memory →
    (Thread → Program interface Result) → Memory → Prop :=
  Run memorySemantics anyMemoryStep

/-- A moment of documents in memory. -/
abbrev MemoryMoment (Thread : Type) := Moment interface Thread Memory

/-- A step took a version. -/
def takesVersion {Thread : Type} (moment : MemoryMoment Thread) : Bool :=
  moment.before.nextCas ≠ moment.after.nextCas

/-- The number of versions that were taken in a run. -/
def versionsTaken
    {Thread : Type}
    (history : List (MemoryMoment Thread)) : Nat :=
  history.countP takesVersion

@[simp] theorem versionsTaken_append
    {Thread : Type}
    (earlier later : List (MemoryMoment Thread)) :
    versionsTaken (earlier ++ later) =
      versionsTaken earlier + versionsTaken later :=
  List.countP_append

theorem versionsTaken_singleton
    {Thread : Type}
    (moment : MemoryMoment Thread) :
    versionsTaken [moment] =
      if moment.before.nextCas = moment.after.nextCas then 0 else 1 := by
  by_cases same : moment.before.nextCas = moment.after.nextCas <;>
    simp [versionsTaken, takesVersion, same]

/-- Whatever the surroundings do is a change of documents in memory. -/
theorem anyMemoryStep.change
    {before after : Memory}
    (step : anyMemoryStep before after) : before.Change after := by
  obtain ⟨step, rfl⟩ := step
  exact Memory.step_change step before

/-- Whatever a call of a program does is a change of documents in memory. -/
theorem memorySemantics.change
    {call : Step}
    {before after : Memory}
    {answer : call.Answer}
    (answered : memorySemantics call before answer after) :
    before.Change after := by
  cases call with
  | store call =>
      have stored := memorySemantics_store.mp answered
      have change := Memory.store_change call before
      rw [stored] at change
      exact change
  | pause delay =>
      rw [memorySemantics_pause.mp answered]
      exact .nothing

/-- A change takes one version, or the counter stays. -/
theorem Memory.Change.nextCas
    {memory later : Memory}
    (change : memory.Change later) :
    later.nextCas = memory.nextCas ∨ later.nextCas = memory.nextCas + 1 := by
  cases change with
  | nothing => exact .inl rfl
  | revise id content => exact .inr rfl
  | remove id => exact .inl rfl

/-- A counter that takes at most one number, and has room for it, counts it. -/
theorem toNat_of_next
    {before after : Wire.Cas}
    (next : after = before ∨ after = before + 1)
    (room : before.toNat + (if before = after then 0 else 1) < 2 ^ 64) :
    after.toNat = before.toNat + if before = after then 0 else 1 := by
  rcases next with same | next
  · simp [same]
  · have differs : before ≠ after := by
      rw [next]
      grind
    simp only [differs, ↓reduceIte] at room ⊢
    rw [next, UInt64.toNat_add]
    exact Nat.mod_eq_of_lt room

theorem Memory.Change.counts
    {Thread : Type}
    (moment : MemoryMoment Thread)
    (change : moment.before.Change moment.after)
    (room : moment.before.nextCas.toNat + versionsTaken [moment] < 2 ^ 64) :
    moment.after.nextCas.toNat =
      moment.before.nextCas.toNat + versionsTaken [moment] := by
  rw [versionsTaken_singleton] at room ⊢
  exact toNat_of_next change.nextCas room

namespace MemoryRun

variable {Thread Result : Type} [DecidableEq Thread]
variable {programs current : Thread → Program interface Result}
variable {memory final : Memory}
variable {history : History interface Thread Memory}

/-- Without wrapping, the counter counts the versions that were taken. -/
theorem nextCas_eq
    (run : MemoryRun programs memory history current final)
    (room : memory.nextCas.toNat + versionsTaken history < 2 ^ 64) :
    final.nextCas.toNat = memory.nextCas.toNat + versionsTaken history := by
  induction run with
  | start => rfl
  | @turn history _ before after thread call _ answer _ _ answered
      inductionHypothesis =>
      rw [versionsTaken_append] at room ⊢
      have counted := inductionHypothesis (by omega)
      have change := memorySemantics.change answered
      have step :=
        Memory.Change.counts (.turn thread call answer before after) change
          (by simp only [Moment.before_turn]; omega)
      simp only [Moment.before_turn, Moment.after_turn] at step
      omega
  | @outside history _ before after _ change inductionHypothesis =>
      rw [versionsTaken_append] at room ⊢
      have counted := inductionHypothesis (by omega)
      have step :=
        Memory.Change.counts (.outside before after : MemoryMoment Thread)
          change.change (by simp only [Moment.before_outside]; omega)
      simp only [Moment.before_outside, Moment.after_outside] at step
      omega

/-- Without wrapping, no step after a run takes the counter back. -/
theorem forward
    (run : MemoryRun programs memory history current final)
    {moment : MemoryMoment Thread}
    (room :
      memory.nextCas.toNat + versionsTaken (history ++ [moment]) < 2 ^ 64)
    (begins : moment.before = final)
    (change : moment.before.Change moment.after) :
    moment.before.nextCas ≤ moment.after.nextCas := by
  rw [versionsTaken_append] at room
  have counted := nextCas_eq run (by omega)
  rw [← begins] at counted
  have step := Memory.Change.counts moment change (by omega)
  rw [UInt64.le_iff_toNat_le]
  omega

/-- Without wrapping, stored versions stay above zero and below the counter. -/
theorem isDated
    (run : MemoryRun programs memory history current final)
    (dated : memory.IsDated)
    (room : memory.nextCas.toNat + versionsTaken history < 2 ^ 64) :
    final.IsDated := by
  induction run with
  | start => exact dated
  | turn run _ answered inductionHypothesis =>
      have change := memorySemantics.change answered
      have forward := forward run room rfl change
      rw [versionsTaken_append] at room
      exact (inductionHypothesis (by omega)).change change forward
  | outside run step inductionHypothesis =>
      have forward := forward run room rfl step.change
      rw [versionsTaken_append] at room
      exact (inductionHypothesis (by omega)).change step.change forward

end MemoryRun

end ClusterClient.Document
