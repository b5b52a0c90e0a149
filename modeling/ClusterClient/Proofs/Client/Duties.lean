import ClusterClient.Proofs.Client.Activities

namespace ClusterClient.Client

/-!
# What the activities of a client owe

A thread that has opened a request owes it a place in the table, and a thread
that has taken an entry out of the table, or whose frame was refused, owes the
request its completion. `Abides` says that a program meets what it owes, one
constructor for each kind of call, and the main statement is that a program that
does completes every request that it holds.
-/

/-- What a call took out of the table. -/
def takenIn : (call : Call) → call.Answer → List Pending
  | .table (.takeEntry _), taken => Option.toList taken
  | .table (.takeExpired _), taken => taken
  | .table .takeAll, taken => taken
  | _, _ => []

namespace Call

/-- The call takes entries out of the table to complete their requests. -/
def IsTaking : Call → Prop
  | .table (.takeEntry _) | .table (.takeExpired _) | .table .takeAll => True
  | _ => False

/-- The call neither opens nor registers anything nor takes anything over. -/
def IsQuiet : Call → Prop
  | .table (.newContext ..) | .table .dropCompleted
  | .table (.complete ..) => True
  | .table _ => False
  | _ => True

end Call

/-- What a thread owes. -/
inductive Duty where
  | holding (requests : List Nat)
  | opened (request : Nat) (number : Option UInt32)
  | sending (request : Nat) (number : UInt32)
  | failing (request : Nat) (number : UInt32)
  deriving DecidableEq

/-- A program meets what it owes; only one that may open requests opens any. -/
inductive Abides
    {Result : Type}
    (opens : Bool) : Duty → Program interface Result → Prop where
  | done (result : Result) : Abides opens (.holding []) (.done result)
  | quiet
      {call : Call}
      {next : call.Answer → Program interface Result}
      (isQuiet : call.IsQuiet)
      (goesOn : ∀ answer, Abides opens (.holding []) (next answer)) :
      Abides opens (.holding []) (.step call next)
  | openRequest
      {request : Request Wire.Response}
      {next : Nat → Program interface Result}
      (mayOpen : opens)
      (settled : request.IsSettled)
      (goesOn : ∀ index, Abides opens (.opened index none) (next index)) :
      Abides opens (.holding []) (.step (.table (.openRequest request)) next)
  | takeCorrelation
      {request : Nat}
      {next : UInt32 → Program interface Result}
      (mayOpen : opens)
      (goesOn : ∀ number,
        Abides opens (.opened request (some number)) (next number)) :
      Abides opens (.opened request none) (.step (.table .takeCorrelation) next)
  | register
      {request : Nat}
      {entry : Pending}
      {number : UInt32}
      {next : Unit → Program interface Result}
      (mayOpen : opens)
      (isOwn : entry.request = request)
      (goesOn : Abides opens (.sending request number) (next ())) :
      Abides opens (.opened request (some number))
        (.step (.table (.register number entry)) next)
  | send
      {request : Nat}
      {number : UInt32}
      {frame : Bytes}
      {next : Except Error Unit → Program interface Result}
      (sent : Abides opens (.holding []) (next (.ok ())))
      (refused : ∀ error,
        Abides opens (.failing request number) (next (.error error))) :
      Abides opens (.sending request number) (.step (.send frame) next)
  | retract
      {request : Nat}
      {number : UInt32}
      {next : Option Pending → Program interface Result}
      (goesOn : ∀ taken, Abides opens (.holding [request]) (next taken)) :
      Abides opens (.failing request number)
        (.step (.table (.takeEntry number)) next)
  | take
      {call : Call}
      {next : call.Answer → Program interface Result}
      (isTaking : call.IsTaking)
      (goesOn : ∀ answer,
        Abides opens (.holding ((takenIn call answer).map Pending.request))
          (next answer)) :
      Abides opens (.holding []) (.step call next)
  | complete
      {request : Nat}
      {rest : List Nat}
      {outcome : Request.Outcome Wire.Response}
      {next : Bool → Program interface Result}
      (goesOn : ∀ won, Abides opens (.holding rest) (next won)) :
      Abides opens (.holding (request :: rest))
        (.step (.table (.complete request outcome)) next)

namespace Abides

variable {Result : Type} {opens : Bool}

theorem eq_of_done
    {duty : Duty}
    {result : Result}
    (abides : Abides opens duty (.done result)) : duty = .holding [] := by
  cases abides
  rfl

/-- Only a program that may open requests has opened one. -/
theorem opens_of_opened
    {request : Nat}
    {number : Option UInt32}
    {program : Program interface Result}
    (abides : Abides opens (.opened request number) program) :
    opens = true := by
  cases abides with
  | takeCorrelation mayOpen | register mayOpen => exact mayOpen

theorem eq_of_quiet
    {duty : Duty}
    {operation : String}
    {target : Option String}
    {next : Request.Context → Program interface Result}
    (abides :
      Abides opens duty (.step (.table (.newContext operation target)) next)) :
    duty = .holding [] := by
  cases abides <;> rfl

end Abides

/--
A program will complete a request after some steps on the table, whatever these
are answered. The table answers every call, so nobody has to be waited for.
-/
inductive WillComplete
    {Result : Type}
    (request : Nat) : Program interface Result → Prop where
  | now
      (outcome : Request.Outcome Wire.Response)
      (next : Bool → Program interface Result) :
      WillComplete request (.step (.table (.complete request outcome)) next)
  | later
      (call : TableCall)
      {next : call.Answer → Program interface Result}
      (goesOn : ∀ answer, WillComplete request (next answer)) :
      WillComplete request (.step (.table call) next)

/-- A program completes every request that it holds. -/
theorem Abides.willComplete
    {Result : Type}
    {opens : Bool}
    {held : List Nat}
    {program : Program interface Result}
    (abides : Abides opens (.holding held) program)
    {request : Nat}
    (member : request ∈ held) : WillComplete request program := by
  generalize owed : Duty.holding held = duty at abides
  induction abides generalizing held with
  | done | quiet | openRequest | take =>
      cases owed
      cases member
  | takeCorrelation | register | send | retract => cases owed
  | @complete first rest outcome next goesOn inductionHypothesis =>
      cases owed
      rcases List.mem_cons.mp member with isFirst | inRest
      · rw [isFirst]
        exact .now outcome next
      · exact .later _ fun won => inductionHypothesis won inRest rfl

end ClusterClient.Client
