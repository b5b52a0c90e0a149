import ClusterClient.Document.Memory

namespace ClusterClient.Scripted

/-!
# A recorded document store with interruptions

Every call is recorded and passed on to documents in memory. Interruptions are
queued: when the method of a call is the one that the first interruption waits
for, its steps are done to the documents before the call, and its error, if it
has one, is returned instead.
-/

open Document

/-- A step on documents in memory. -/
inductive MemoryStep where
  | onStore (call : StoreCall)
  | remove (id : String)
  | contains (id : String)
  | documentCount
  deriving Repr, DecidableEq

/-- What a step on documents in memory returns. -/
def MemoryStep.Answer : MemoryStep → Type
  | .onStore call => call.Answer
  | .remove _ => Bool
  | .contains _ => Bool
  | .documentCount => Nat

/-- Do a step to documents in memory. -/
def MemoryStep.run
    (step : MemoryStep)
    (memory : Memory) : step.Answer × Memory :=
  match step with
  | .onStore call => Memory.store call memory
  | .remove id => memory.remove id
  | .contains id => (memory.contains id, memory)
  | .documentCount => (memory.documentCount, memory)

/-- Do steps to documents in memory for their effect only. -/
def runSteps (memory : Memory) (steps : List MemoryStep) : Memory :=
  steps.foldl (fun current step => (step.run current).2) memory

/-- What a recorded call shows: its method, its path and its version. -/
structure CallRecord where
  method : String
  path : Option String
  cas : Option Wire.Cas
  deriving Repr, DecidableEq

/-- The record of a call. -/
def CallRecord.ofCall : StoreCall → CallRecord
  | .insert .. => ⟨"insert", none, none⟩
  | .upsert .. => ⟨"upsert", none, none⟩
  | .get _ => ⟨"get", none, none⟩
  | .lookupField _ path => ⟨"lookup_field", some path, none⟩
  | .fieldExists _ path => ⟨"field_exists", some path, none⟩
  | .fieldCount _ path => ⟨"field_count", some path, none⟩
  | .upsertField _ path _ cas => ⟨"upsert_field", some path, some cas⟩
  | .removeField _ path cas => ⟨"remove_field", some path, some cas⟩

/-- Something that comes in between before a call of a method. -/
structure Interruption where
  before : String
  steps : List MemoryStep
  error : Option Error
  deriving Repr

/-- Documents, the queued interruptions, and the calls, the latest first. -/
structure RecordedStore where
  memory : Memory
  interruptions : List Interruption
  calls : List CallRecord
  deriving Repr

namespace RecordedStore

/-- Documents with nothing queued and nothing recorded. -/
def ofMemory (memory : Memory) : RecordedStore := ⟨memory, [], []⟩

/-- Record a call and take the interruption that waits for it, if any. -/
def interrupt
    (state : RecordedStore)
    (record : CallRecord) : Option Error × RecordedStore :=
  let recorded := { state with calls := record :: state.calls }
  match state.interruptions with
  | [] => (none, recorded)
  | interruption :: rest =>
      if interruption.before = record.method then
        (interruption.error,
          { recorded with
            memory := runSteps state.memory interruption.steps
            interruptions := rest })
      else
        (none, recorded)

/-- A recorded store answers store calls. -/
def store : Store RecordedStore := fun call state =>
  match state.interrupt (.ofCall call) with
  | (some error, later) => (.error error, later)
  | (none, later) =>
      let (answer, memory) := Memory.store call later.memory
      (answer, { later with memory := memory })

/-- Run code that works on documents. -/
def run
    {Result : Type}
    (state : RecordedStore)
    (action : Action Result) : Except Error Result × RecordedStore :=
  TotalMachine.run (Store.toMachine store) action.run state

end RecordedStore

end ClusterClient.Scripted
