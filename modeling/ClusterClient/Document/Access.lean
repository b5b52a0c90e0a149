import ClusterClient.Json.Value
import ClusterClient.Program
import ClusterClient.Optimistic.Update

namespace ClusterClient.Document

/-!
# The calls of a document store

JSON documents are addressed by id and accessed as a whole or field by field.
Every field write carries a version precondition, and zero accepts every
version. Whatever is built on documents is a program over these calls, so that
it runs against any store and beside any other program.
-/

/-- The calls of a document store. -/
inductive StoreCall where
  | insert (id : String) (content : Json)
  | upsert (id : String) (content : Json)
  | get (id : String)
  | lookupField (id path : String)
  | fieldExists (id path : String)
  | fieldCount (id path : String)
  | upsertField (id path : String) (value : Json) (cas : Wire.Cas)
  | removeField (id path : String) (cas : Wire.Cas)
  deriving Repr, DecidableEq

/-- What a successful call returns. -/
def StoreCall.Success : StoreCall → Type
  | .insert .. => Wire.Cas
  | .upsert .. => Wire.Cas
  | .get _ => Optimistic.Versioned Json
  | .lookupField .. => Optimistic.Versioned (Option Json)
  | .fieldExists .. => Bool
  | .fieldCount .. => Nat
  | .upsertField .. => Wire.Cas
  | .removeField .. => Wire.Cas

/-- What a call returns. -/
abbrev StoreCall.Answer (call : StoreCall) : Type :=
  Except Error call.Success

/-- The steps of code that works on documents: store calls and pauses. -/
inductive Step where
  | store (call : StoreCall)
  | pause (delay : Duration)
  deriving Repr, DecidableEq

/-- What a step returns. -/
def Step.Answer : Step → Type
  | .store call => call.Answer
  | .pause _ => Unit

/-- Programs that work on documents. -/
abbrev interface : Interface := ⟨Step, Step.Answer⟩

/-- Programs that work on documents and may fail. -/
abbrev Action : Type → Type :=
  ExceptT Error (Program interface)

/-- Make one store call; a failed call fails the action. -/
def perform (call : StoreCall) : Action call.Success :=
  ExceptT.mk (@Program.perform interface (.store call))

/-- Let some time pass. -/
def pause (delay : Duration) : Program interface Unit :=
  @Program.perform interface (.pause delay)

/-- A store answers each call in one step. -/
abbrev Store (State : Type) :=
  (call : StoreCall) → State → call.Answer × State

/-- A store as a machine; pauses do not matter to it. -/
def Store.toMachine
    {State : Type}
    (store : Store State) : TotalMachine interface State :=
  fun step state =>
    match step with
    | .store call => store call state
    | .pause _ => ((), state)

end ClusterClient.Document
