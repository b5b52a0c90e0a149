import ClusterClient.Document.FieldMap
import ClusterClient.Document.Memory
import ClusterClient.Request.Lifecycle

namespace ClusterClient.Scripted

/-!
# Races under a fair schedule

Several callers complete one request while others wait for it, and several
callers fill and empty one map. All of them take turns, one atomic step a turn.
-/

/-- So many rounds in which each of some callers has one turn. -/
def takeTurns (callers rounds : Nat) : List Nat :=
  (List.replicate rounds (List.range callers)).flatten

/-- What a caller in a race for a request ends with. -/
inductive RaceResult (Value : Type) where
  | completed (won : Bool)
  | waited (result : Except Error Value)

/-- The number of callers that won. -/
def winners {Value : Type} (results : List (RaceResult Value)) : Nat :=
  results.countP fun
    | .completed won => won
    | .waited _ => false

/-- What the waiting callers got. -/
def waitedResults
    {Value : Type}
    (results : List (RaceResult Value)) : List (Except Error Value) :=
  results.filterMap fun
    | .waited result => some result
    | .completed _ => none

/-- More turns than any caller in a race for a request needs. -/
def completionTurns : Nat := 8

/--
So many callers complete a request with an outcome, and as many wait for it.
The results come with the request that they leave.
-/
def raceToComplete
    {Value : Type}
    (callers : Nat)
    (outcome : Request.Outcome Value)
    (request : Request Value) : List (RaceResult Value) × Request Value :=
  let racer : Program (Request.interface Value) (RaceResult Value) := do
    let won ← Request.complete outcome
    return .completed won
  let waiter : Program (Request.interface Value) (RaceResult Value) := do
    let result ← Request.await
    return .waited result
  let programs :=
    List.replicate callers waiter ++ List.replicate callers racer
  let turns := takeTurns (2 * callers) (2 * callers + completionTurns)
  let (ended, left) :=
    Machine.runSchedule Request.machine turns programs request
  (ended.filterMap Program.result?, left)

open Document

/-- The largest retry limit, so that nobody gives up in a race. -/
def patientSettings : Settings :=
  { Settings.default with retryLimit := 0xffffffff }

/-- The key of an entry that a caller writes. -/
def racedKey (caller entry : Nat) : String :=
  "t" ++ toString caller ++ "-" ++ toString entry

/-- Put entries one after the other. -/
def putEach
    (map : FieldMap)
    (caller : Nat) : List Nat → Action Unit
  | [] => return ()
  | entry :: rest => do
      discard (map.put ValueCodec.unsigned64 (racedKey caller entry)
        (UInt64.ofNat (caller * 100 + entry)))
      putEach map caller rest

/-- Remove entries one after the other. -/
def removeEach
    (map : FieldMap)
    (caller : Nat) : List Nat → Action Unit
  | [] => return ()
  | entry :: rest => do
      discard (map.remove ValueCodec.unsigned64 (racedKey caller entry))
      removeEach map caller rest

/-- Open a map, fill it with entries of one's own, and remove some of them. -/
def fillMap (id : String) (keys removed caller : Nat) : Action Unit := do
  let map ← FieldMap.attach id patientSettings
  putEach map caller (List.range keys)
  removeEach map caller (List.range (min removed keys))

/--
Rounds in which every caller has finished: each round lets at least one write
of somebody's take effect, and a conflict costs two turns.
-/
def fillRounds (callers keys removed : Nat) : Nat :=
  2 * (callers + 1) * (keys + removed + 1) + 2

/-- Let so many callers fill one map in turns. -/
def raceToFill (id : String) (callers keys removed : Nat) : Memory :=
  let programs := (List.range callers).map fun caller =>
    (fillMap id keys removed caller).run
  (Machine.runSchedule
    (TotalMachine.toMachine (Store.toMachine Memory.store))
    (takeTurns callers (fillRounds callers keys removed))
    programs .empty).2

end ClusterClient.Scripted
