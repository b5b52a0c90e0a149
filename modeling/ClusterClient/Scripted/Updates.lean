import ClusterClient.Json.Value
import ClusterClient.Optimistic.Update

namespace ClusterClient.Scripted

/-!
# Guarded updates over scripted answers

A script says what successive reads and writes of a guarded update return; its
last entry is used again when the script is exhausted. The update runs over the
script and leaves a trace of its reads, computations and writes.
-/

/-- What a script has left, and how many entries were taken. -/
structure Script (Entry : Type) where
  entries : List Entry
  taken : Nat
  deriving Repr

namespace Script

variable {Entry : Type}

/-- A script of which nothing was taken. -/
def ofList (entries : List Entry) : Script Entry := ⟨entries, 0⟩

/-- The position of the entry that is used next. -/
def position (script : Script Entry) : Nat :=
  min script.taken (script.entries.length - 1)

/-- The entry that is used next; an empty script has none. -/
def current? (script : Script Entry) : Option Entry :=
  script.entries[script.position]?

/-- Go on to the next entry. -/
def advance (script : Script Entry) : Script Entry :=
  { script with taken := script.taken + 1 }

end Script

/-- A read of a guarded update: an absent or present value with its version. -/
abbrev ReadResult := Except Error (Optimistic.Versioned (Option Json))

/-- What happens in a guarded update. -/
inductive UpdateEvent where
  | read (position : Nat)
  | compute (current : Json)
  | write (next : Json) (cas : Wire.Cas)
  deriving Repr

/-- Both scripts, and what happened so far, the latest first. -/
structure UpdateState where
  reads : Script ReadResult
  writes : Script (Except Error Unit)
  trace : List UpdateEvent

/-- What an empty script answers. -/
def unscripted : Error :=
  .transport (.described "nothing scripted")

/-- Record an event. -/
def note (event : UpdateEvent) : StateM UpdateState Unit :=
  modify fun state => { state with trace := event :: state.trace }

/-- Read as the script says. -/
def readScript : StateM UpdateState ReadResult := do
  let state ← get
  note (.read state.reads.position)
  modify fun state => { state with reads := state.reads.advance }
  return state.reads.current?.getD (.error unscripted)

/-- The next value is a list of the current one; null stands for none. -/
def computeScript (current : Option Json) : StateM UpdateState Json := do
  let value := current.getD .null
  note (.compute value)
  return .array [value]

/-- Write as the script says. -/
def writeScript
    (next : Json)
    (cas : Wire.Cas) : StateM UpdateState (Except Error Unit) := do
  let state ← get
  note (.write next cas)
  set { (← get) with writes := state.writes.advance }
  return state.writes.current?.getD (.error unscripted)

/-- Run a guarded update over scripts; the trace is in order. -/
def runUpdate
    (update : Optimistic.Update)
    (reads : List ReadResult)
    (writes : List (Except Error Unit)) :
    Except Error (Option Json) × List UpdateEvent :=
  let (result, state) :=
    (update.run readScript computeScript writeScript fun _ => pure ()).run
      ⟨.ofList reads, .ofList writes, []⟩
  (result, state.trace.reverse)

end ClusterClient.Scripted
