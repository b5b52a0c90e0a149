import ClusterClient.Client.Traffic

namespace ClusterClient.Client

/-!
# The calls of a client

Besides its own table a client needs a clock, a connection that takes frames,
and a way to wait. `Attempt` is the type of its programs that may fail.

An execution that is sent again and again follows as many rounds as the answer
to `allowance` says. Executions with a deadline end by themselves, since every
pause brings the deadline nearer; one without a deadline may outlast every
allowance, and `never` is where it goes on.
-/

/-- The calls of a client. -/
inductive Call where
  | table (call : TableCall)
  | readClock
  | send (frame : Bytes)
  | awaitUntil (request : Nat) (limit : Duration)
  | awaitForever (request : Nat)
  | sleep (delay : Duration)
  | allowance
  | never

/-- What each call returns. -/
def Call.Answer : Call → Type
  | .table call => call.Answer
  | .readClock => Instant
  | .send _ => Except Error Unit
  | .awaitUntil .. => Option (Request.Outcome Wire.Response)
  | .awaitForever _ => Request.Outcome Wire.Response
  | .sleep _ => Unit
  | .allowance => Nat
  | .never => Empty

/-- Programs of a client. -/
abbrev interface : Interface := ⟨Call, Call.Answer⟩

/-- Programs of a client that may fail. -/
abbrev Attempt : Type → Type :=
  ExceptT Error (Program interface)

/-- Make one call. -/
def perform (call : Call) : Program interface call.Answer :=
  @Program.perform interface call

/-- Make one atomic step on the table. -/
def onTable (call : TableCall) : Program interface call.Answer :=
  perform (.table call)

/-- Run a program on the table as part of a client's program. -/
def withTable {Result : Type} :
    Program tableInterface Result → Program interface Result :=
  Program.interpret onTable

/-- End with a result that is already known. -/
def conclude {Result : Type} (result : Except Error Result) : Attempt Result :=
  ExceptT.mk (.done result)

/-- Go on with an argument that passed its check. -/
def accept
    {Argument : Type}
    (checked : Except ArgumentFault Argument) : Attempt Argument :=
  match checked with
  | .ok argument => conclude (.ok argument)
  | .error fault => conclude (.error (.invalidArgument fault))

end ClusterClient.Client
