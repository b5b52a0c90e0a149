import ClusterClient.KeyedList
import ClusterClient.Request.Lifecycle
import ClusterClient.Wire.Response

namespace ClusterClient.Client

/-!
# Requests in flight

A client keeps a table of the requests that wait for a response, under the
correlation numbers that their frames carry. Taking an entry out of the table
and completing its request are two steps, so other callers may come in between.

`TableCall` lists the atomic steps on the table and on the requests, and
`Traffic.machine` answers them.
-/

/-- An operation that waits for its response, and the request to complete. -/
structure Pending where
  operation : Wire.Operation
  request : Nat
  deriving Repr, DecidableEq

/--
All requests that a client has opened, in order, and the table of those that
wait for a response.
-/
structure Traffic where
  nextCorrelation : UInt32
  table : List (UInt32 × Pending)
  requests : List (Request Wire.Response)
  identities : Request.Identities
  deriving Repr, DecidableEq

/-- The atomic steps on the table and on the requests. -/
inductive TableCall where
  | newContext (operation : String) (target : Option String)
  | openRequest (request : Request Wire.Response)
  | takeCorrelation
  | register (correlation : UInt32) (entry : Pending)
  | takeEntry (correlation : UInt32)
  | takeExpired (now : Instant)
  | takeAll
  | dropCompleted
  | complete (request : Nat) (outcome : Request.Outcome Wire.Response)

/-- What each atomic step returns. -/
def TableCall.Answer : TableCall → Type
  | .newContext .. => Request.Context
  | .openRequest _ => Nat
  | .takeCorrelation => UInt32
  | .register .. => Unit
  | .takeEntry _ => Option Pending
  | .takeExpired _ => List Pending
  | .takeAll => List Pending
  | .dropCompleted => Unit
  | .complete .. => Bool

/-- Programs on the table. -/
abbrev tableInterface : Interface := ⟨TableCall, TableCall.Answer⟩

/-- Make one atomic step on the table. -/
def performTable (call : TableCall) :
    Program tableInterface call.Answer :=
  @Program.perform tableInterface call

namespace Traffic

/-- A client without requests; correlation numbers start at one. -/
def empty : Traffic where
  nextCorrelation := 1
  table := []
  requests := []
  identities := .initial

/-- The number of entries in the table. -/
def pendingCount (traffic : Traffic) : Nat :=
  traffic.table.length

/-- The request of an entry has a deadline at or before an instant. -/
def isExpired
    (traffic : Traffic)
    (now : Instant)
    (entry : Pending) : Bool :=
  match traffic.requests[entry.request]? with
  | some request => request.isExpired now
  | none => false

/-- The request of an entry has a published outcome. -/
def isCompleted (traffic : Traffic) (entry : Pending) : Bool :=
  match traffic.requests[entry.request]? with
  | some request => request.isCompleted
  | none => false

/-- Keep the entries that satisfy a condition. -/
def keepEntries
    (traffic : Traffic)
    (condition : Pending → Bool) : Traffic :=
  { traffic with
    table := traffic.table.filter fun entry => condition entry.2 }

/-- The entries that satisfy a condition. -/
def entriesWhere
    (traffic : Traffic)
    (condition : Pending → Bool) : List Pending :=
  (traffic.table.map Prod.snd).filter condition

/-- Complete a request; the result says whether this call won. -/
def complete
    (traffic : Traffic)
    (index : Nat)
    (outcome : Request.Outcome Wire.Response) : Bool × Traffic :=
  match traffic.requests[index]? with
  | none => (false, traffic)
  | some request =>
      let (won, completed) := request.finish outcome
      (won, { traffic with requests := traffic.requests.set index completed })

/-- How the table and the requests answer an atomic step. -/
def machine : TotalMachine tableInterface Traffic := fun call traffic =>
  match call with
  | .newContext operation target =>
      let (context, identities) :=
        traffic.identities.newContext operation target
      (context, { traffic with identities := identities })
  | .openRequest request =>
      (traffic.requests.length,
        { traffic with requests := traffic.requests ++ [request] })
  | .takeCorrelation =>
      (traffic.nextCorrelation,
        { traffic with nextCorrelation := traffic.nextCorrelation + 1 })
  | .register correlation entry =>
      ((),
        { traffic with
          table := KeyedList.insert correlation entry traffic.table })
  | .takeEntry correlation =>
      (KeyedList.find? correlation traffic.table,
        { traffic with
          table := KeyedList.erase correlation traffic.table })
  | .takeExpired now =>
      (traffic.entriesWhere (traffic.isExpired now),
        traffic.keepEntries fun entry => !traffic.isExpired now entry)
  | .takeAll =>
      (traffic.table.map Prod.snd, { traffic with table := [] })
  | .dropCompleted =>
      ((), traffic.keepEntries fun entry => !traffic.isCompleted entry)
  | .complete request outcome => traffic.complete request outcome

end Traffic

end ClusterClient.Client
