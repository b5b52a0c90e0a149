import ClusterClient.Client.Call
import ClusterClient.Client.Verdict
import ClusterClient.Settings
import ClusterClient.Wire.RequestFrame

namespace ClusterClient

/-!
# Requests and their responses

`issue` registers a request under a fresh correlation number before its
frame is sent, so that a response never comes too early. `receive` takes
the entry out of the table and then completes its request; responses that
nobody waits for are dropped. `expire` and `shutdown` take entries out of
the table and cancel their requests.
-/

/-- What a client does when the server reports a transient condition. -/
inductive TransientPolicy where
  | report
  | resend
  deriving Repr, DecidableEq

/-- A client on one channel; requests that it opened live in its traffic. -/
structure Client where
  channel : Wire.Channel
  settings : Settings
  collection : Wire.Collection
  policy : TransientPolicy
  deriving Repr, DecidableEq

namespace Client

/-- A client of the default collection that sends again where it may. -/
def ofSettings (channel : Wire.Channel) (settings : Settings) : Client where
  channel := channel
  settings := settings
  collection := .default
  policy := .resend

/-- An issued request: its place among the requests, and its deadline. -/
structure Handle where
  request : Nat
  deadline? : Option Instant
  deriving Repr, DecidableEq

/--
Hand the frame of a registered request to the connection. When the connection
refuses it, the entry is dropped and the request fails with the same error.
-/
def transmit
    (correlation : UInt32)
    (request : Nat)
    (frame : Bytes) : Attempt Unit :=
  ExceptT.mk do
    let sent : Except Error Unit ← perform (.send frame)
    match sent with
    | .ok () => return .ok ()
    | .error error =>
        discard (onTable (.takeEntry correlation))
        discard (onTable (.complete request (.failed error)))
        return .error error

/-- Route an operation, register it under a fresh number and send its frame. -/
def issue
    (client : Client)
    (operation : Wire.Operation)
    (timeout : Duration) : Attempt Handle := do
  let routed := operation.route client.settings.partitionCount
  let context : Request.Context ←
    onTable (.newContext routed.name (some routed.key.id))
  let now : Instant ← perform .readClock
  let request ← accept (Request.create timeout now context)
  let index : Nat ← onTable (.openRequest request)
  let correlation : UInt32 ← onTable .takeCorrelation
  let _ : Unit ← onTable (.register correlation ⟨routed, index⟩)
  transmit correlation index (routed.encode correlation client.channel)
  return ⟨index, request.deadline?⟩

/-- Complete the request of an entry that was taken out of the table. -/
def settle
    (client : Client)
    (entry : Pending)
    (frame : Bytes) : Program tableInterface (Except Error Unit) := do
  match verdict entry.operation frame client.channel with
  | .ok response =>
      discard (performTable (.complete entry.request (.succeeded response)))
      return .ok ()
  | .error error =>
      discard (performTable (.complete entry.request (.failed error)))
      match error with
      | .protocol fault => return .error (.protocol fault)
      | _ => return .ok ()

/--
Complete the request that a response frame answers. A frame that cannot be
decoded fails its request and is also reported.
-/
def receive
    (client : Client)
    (frame : Bytes) : Program tableInterface (Except Error Unit) :=
  match Wire.Header.parse frame with
  | .error fault => return .error (.protocol fault)
  | .ok header => do
      let taken : Option Pending ←
        performTable (.takeEntry header.correlation)
      match taken with
      | none => return .ok ()
      | some entry => settle client entry frame

/-- Cancel the requests of entries that were taken out of the table. -/
def cancelAll (reason : Cancellation) :
    List Pending → Program tableInterface Unit
  | [] => return ()
  | entry :: rest => do
      discard (performTable (.complete entry.request (.cancelled reason)))
      cancelAll reason rest

/-- Cancel every request whose deadline is at or before an instant. -/
def expire (now : Instant) : Program tableInterface Nat := do
  let expired : List Pending ← performTable (.takeExpired now)
  cancelAll .timeout expired
  return expired.length

/-- Cancel every request in flight. -/
def shutdown : Program tableInterface Unit := do
  let drained : List Pending ← performTable .takeAll
  cancelAll .shutdown drained

end Client

end ClusterClient
