import ClusterClient.Proofs.Client.Attempts
import ClusterClient.Proofs.Client.Duties
import ClusterClient.Proofs.Request.Standing

namespace ClusterClient.Client

/-!
# Who looks after a request

Besides single activities, the threads of a client execute operations. A thread
that has opened a request looks after it: an execution until the request is
completed and out of the table, an issue until it hands the request to its
caller. `Tends` says which calls a program makes meanwhile, one constructor for
each kind of call at each stage, and the main statement is that every work makes
these calls, starting from nothing. What else is said about the calls of a work
follows from it by induction; that every activity meets what it owes comes here.
-/

/-- What a thread may do on a client: an activity, or a whole execution. -/
inductive Work where
  | single (activity : Activity)
  | execution
      (operation : Wire.Operation)
      (timeout : Duration)
      (policy : TransientPolicy)

namespace Work

/-- The program of a work. -/
def program (client : Client) : Work → Program interface Ending
  | .single activity => activity.program client
  | .execution operation timeout policy => do
      let result ← (client.executeWithin operation timeout policy).run
      return .awaited result

/-- The request that a work may complete through its handle. -/
def handled? : Work → Option Nat
  | .single (.await handle) => some handle.request
  | .single (.complete request _) => some request
  | _ => none

/-- The operation that a work sends requests for. -/
def operation? : Work → Option Wire.Operation
  | .single (.issue operation _) => some operation
  | .execution operation _ _ => some operation
  | _ => none

/-- The work may declare that a request has succeeded. -/
def declaresSuccess : Work → Bool
  | .single (.receive _) | .single (.complete ..) => true
  | _ => false

/-- Successes are declared by receivers and by hand. -/
theorem of_declaresSuccess
    {work : Work}
    (declares : work.declaresSuccess) :
    (∃ frame, work = .single (.receive frame)) ∨
      ∃ request outcome, work = .single (.complete request outcome) := by
  cases work with
  | execution => cases declares
  | single activity =>
      cases activity with
      | receive frame => exact .inl ⟨frame, rfl⟩
      | complete request outcome => exact .inr ⟨request, outcome, rfl⟩
      | issue | expire | shutdown | await => cases declares

/-- The work may complete a request with an outcome. -/
def Gives (work : Work) (outcome : Request.Outcome Wire.Response) : Prop :=
  outcome.phase = .succeeded → work.declaresSuccess

end Work

/--
What a thread is about: it holds requests that it will complete, or it looks
after one that it has opened. When it gives such a request up, it has cancelled
the request itself and the entry may still be in the table.
-/
inductive Stage where
  | holding (requests : List Nat)
  | opened (request : Nat) (number : Option UInt32)
  | sending (number : UInt32) (entry : Pending)
  | failing (number : UInt32) (entry : Pending)
  | waiting (request : Nat)
  | gaveUp (request : Nat)
  deriving DecidableEq

namespace Stage

/-- The requests that will be completed. -/
def held : Stage → List Nat
  | .holding requests => requests
  | _ => []

/-- The request that is looked after. -/
def own? : Stage → Option Nat
  | .holding _ => none
  | .opened request _ | .waiting request | .gaveUp request => some request
  | .sending _ entry | .failing _ entry => some entry.request

/-- The request that was opened and is not registered yet. -/
def opened? : Stage → Option Nat
  | .opened request _ => some request
  | _ => none

/-- The entry whose frame is on its way, and its number. -/
def sent? : Stage → Option (UInt32 × Pending)
  | .sending number entry | .failing number entry => some (number, entry)
  | _ => none

/-- The request that was given up. -/
def gaveUp? : Stage → Option Nat
  | .gaveUp request => some request
  | _ => none

theorem own?_of_opened?
    {stage : Stage}
    {request : Nat}
    (opened : stage.opened? = some request) : stage.own? = some request := by
  cases stage <;> first | exact opened | cases opened

theorem own?_of_gaveUp?
    {stage : Stage}
    {request : Nat}
    (givenUp : stage.gaveUp? = some request) : stage.own? = some request := by
  cases stage <;> first | exact givenUp | cases givenUp

end Stage

/-- The call neither opens, registers, sends, takes nor completes anything. -/
def Call.IsIdle : Call → Prop
  | .table (.newContext ..) | .table .dropCompleted => True
  | .table _ | .send _ => False
  | _ => True

/--
The program of a work looks after what it has opened and completes what it has
taken. It registers requests for its own operation only, and hands over only the
frame of the entry that it has registered. Only a work that was given a handle
completes a request by hand.
-/
inductive Tends
    (client : Client)
    (work : Work) : Stage → Program interface Ending → Prop where
  | done (ending : Ending) : Tends client work (.holding []) (.done ending)
  | issued
      (handle : Handle)
      (issues : ∃ operation timeout,
        work = .single (.issue operation timeout)) :
      Tends client work (.waiting handle.request)
        (.done (.issued (.ok handle)))
  | idle
      {call : Call}
      {next : call.Answer → Program interface Ending}
      (isIdle : call.IsIdle)
      (goesOn : ∀ answer, Tends client work (.holding []) (next answer)) :
      Tends client work (.holding []) (.step call next)
  | openRequest
      {request : Request Wire.Response}
      {next : Nat → Program interface Ending}
      (mayOpen : work.operation?.isSome)
      (isFresh : request.IsFresh)
      (goesOn : ∀ index, Tends client work (.opened index none) (next index)) :
      Tends client work (.holding [])
        (.step (.table (.openRequest request)) next)
  | takeCorrelation
      {request : Nat}
      {next : UInt32 → Program interface Ending}
      (mayOpen : work.operation?.isSome)
      (goesOn : ∀ number,
        Tends client work (.opened request (some number)) (next number)) :
      Tends client work (.opened request none)
        (.step (.table .takeCorrelation) next)
  | register
      {number : UInt32}
      {entry : Pending}
      {next : Unit → Program interface Ending}
      (isRouted :
        work.operation?.map (·.route client.settings.partitionCount) =
          some entry.operation)
      (goesOn : Tends client work (.sending number entry) (next ())) :
      Tends client work (.opened entry.request (some number))
        (.step (.table (.register number entry)) next)
  | send
      {number : UInt32}
      {entry : Pending}
      {next : Except Error Unit → Program interface Ending}
      (sent : Tends client work (.waiting entry.request) (next (.ok ())))
      (refused : ∀ error,
        Tends client work (.failing number entry) (next (.error error))) :
      Tends client work (.sending number entry)
        (.step (.send (entry.operation.encode number client.channel)) next)
  | retract
      {number : UInt32}
      {entry : Pending}
      {next : Option Pending → Program interface Ending}
      (goesOn : ∀ taken,
        Tends client work (.holding [entry.request]) (next taken)) :
      Tends client work (.failing number entry)
        (.step (.table (.takeEntry number)) next)
  | take
      {call : Call}
      {next : call.Answer → Program interface Ending}
      (isTaking : call.IsTaking)
      (goesOn : ∀ answer,
        Tends client work
          (.holding ((takenIn call answer).map Pending.request))
          (next answer)) :
      Tends client work (.holding []) (.step call next)
  | complete
      {request : Nat}
      {rest : List Nat}
      {outcome : Request.Outcome Wire.Response}
      {next : Bool → Program interface Ending}
      (gives : work.Gives outcome)
      (goesOn : ∀ won, Tends client work (.holding rest) (next won)) :
      Tends client work (.holding (request :: rest))
        (.step (.table (.complete request outcome)) next)
  | byHand
      {request : Nat}
      {outcome : Request.Outcome Wire.Response}
      {next : Bool → Program interface Ending}
      (isHandled : work.handled? = some request)
      (gives : work.Gives outcome)
      (goesOn : ∀ won, Tends client work (.holding []) (next won)) :
      Tends client work (.holding [])
        (.step (.table (.complete request outcome)) next)
  | look
      {request : Nat}
      {next : Instant → Program interface Ending}
      (goesOn : ∀ now, Tends client work (.waiting request) (next now)) :
      Tends client work (.waiting request) (.step .readClock next)
  | awaitUntil
      {request : Nat}
      {limit : Duration}
      {next :
        Option (Request.Outcome Wire.Response) → Program interface Ending}
      (answered : ∀ outcome,
        Tends client work (.holding []) (next (some outcome)))
      (unanswered : Tends client work (.waiting request) (next none)) :
      Tends client work (.waiting request)
        (.step (.awaitUntil request limit) next)
  | awaitForever
      {request : Nat}
      {next : Request.Outcome Wire.Response → Program interface Ending}
      (answered : ∀ outcome, Tends client work (.holding []) (next outcome)) :
      Tends client work (.waiting request) (.step (.awaitForever request) next)
  | giveUp
      {request : Nat}
      {next : Bool → Program interface Ending}
      (won : Tends client work (.gaveUp request) (next true))
      (lost : Tends client work (.waiting request) (next false)) :
      Tends client work (.waiting request)
        (.step (.table (.complete request (.cancelled .timeout))) next)
  | forget
      {request : Nat}
      {next : Unit → Program interface Ending}
      (goesOn : Tends client work (.waiting request) (next ())) :
      Tends client work (.gaveUp request) (.step (.table .dropCompleted) next)

/-- How a call with its answer leads a thread from one stage to the next. -/
inductive Stage.Next
    (client : Client)
    (work : Work) : Stage → (call : Call) → call.Answer → Stage → Prop where
  | idle
      {call : Call}
      {answer : call.Answer}
      (isIdle : call.IsIdle) :
      Next client work (.holding []) call answer (.holding [])
  | openRequest
      {request : Request Wire.Response}
      {index : Nat}
      (isFresh : request.IsFresh) :
      Next client work (.holding []) (.table (.openRequest request)) index
        (.opened index none)
  | takeCorrelation {request : Nat} {number : UInt32} :
      Next client work (.opened request none) (.table .takeCorrelation) number
        (.opened request (some number))
  | register
      {number : UInt32}
      {entry : Pending}
      (isRouted :
        work.operation?.map (·.route client.settings.partitionCount) =
          some entry.operation) :
      Next client work (.opened entry.request (some number))
        (.table (.register number entry)) () (.sending number entry)
  | sent {number : UInt32} {entry : Pending} :
      Next client work (.sending number entry)
        (.send (entry.operation.encode number client.channel)) (.ok ())
        (.waiting entry.request)
  | refused {number : UInt32} {entry : Pending} {error : Error} :
      Next client work (.sending number entry)
        (.send (entry.operation.encode number client.channel)) (.error error)
        (.failing number entry)
  | retract {number : UInt32} {entry : Pending} {taken : Option Pending} :
      Next client work (.failing number entry) (.table (.takeEntry number))
        taken (.holding [entry.request])
  | take
      {call : Call}
      {answer : call.Answer}
      (isTaking : call.IsTaking) :
      Next client work (.holding []) call answer
        (.holding ((takenIn call answer).map Pending.request))
  | complete
      {request : Nat}
      {rest : List Nat}
      {outcome : Request.Outcome Wire.Response}
      {won : Bool} :
      Next client work (.holding (request :: rest))
        (.table (.complete request outcome)) won (.holding rest)
  | byHand
      {request : Nat}
      {outcome : Request.Outcome Wire.Response}
      {won : Bool}
      (isHandled : work.handled? = some request) :
      Next client work (.holding []) (.table (.complete request outcome)) won
        (.holding [])
  | look {request : Nat} {now : Instant} :
      Next client work (.waiting request) .readClock now (.waiting request)
  | answered
      {request : Nat}
      {limit : Duration}
      {outcome : Request.Outcome Wire.Response} :
      Next client work (.waiting request) (.awaitUntil request limit)
        (some outcome) (.holding [])
  | unanswered {request : Nat} {limit : Duration} :
      Next client work (.waiting request) (.awaitUntil request limit) none
        (.waiting request)
  | awaited {request : Nat} {outcome : Request.Outcome Wire.Response} :
      Next client work (.waiting request) (.awaitForever request) outcome
        (.holding [])
  | gaveUp {request : Nat} :
      Next client work (.waiting request)
        (.table (.complete request (.cancelled .timeout))) true
        (.gaveUp request)
  | late {request : Nat} :
      Next client work (.waiting request)
        (.table (.complete request (.cancelled .timeout))) false
        (.waiting request)
  | forget {request : Nat} :
      Next client work (.gaveUp request) (.table .dropCompleted) ()
        (.waiting request)

/-- Only a request that is fresh is opened. -/
theorem Stage.Next.isFresh_of_openRequest
    {client : Client}
    {work : Work}
    {stage later : Stage}
    {request : Request Wire.Response}
    {index : Nat}
    (next :
      stage.Next client work (.table (.openRequest request)) index later) :
    request.IsFresh := by
  cases next with
  | idle isIdle => exact isIdle.elim
  | take isTaking => exact isTaking.elim
  | openRequest isFresh => exact isFresh

namespace Tends

variable {client : Client} {work : Work} {stage : Stage}

/-- A program that has ended looks after what it has handed to its caller. -/
theorem of_done
    {ending : Ending}
    (tends : Tends client work stage (.done ending)) :
    stage = .holding [] ∨
      (∃ operation timeout, work = .single (.issue operation timeout)) ∧
        ∃ handle,
          stage = .waiting handle.request ∧
            ending = .issued (.ok handle) := by
  cases tends with
  | done => exact .inl rfl
  | issued handle issues => exact .inr ⟨issues, handle, rfl, rfl⟩

/-- A work completes requests only with outcomes that it may give. -/
theorem gives
    {request : Nat}
    {outcome : Request.Outcome Wire.Response}
    {next : Bool → Program interface Ending}
    (tends :
      Tends client work stage
        (.step (.table (.complete request outcome)) next)) :
    work.Gives outcome := by
  cases tends with
  | idle isIdle => exact isIdle.elim
  | take isTaking => exact isTaking.elim
  | complete gives | byHand _ gives => exact gives
  | giveUp => exact nofun

/-- A work registers requests for its own operation only. -/
theorem isRouted
    {number : UInt32}
    {entry : Pending}
    {next : Unit → Program interface Ending}
    (tends :
      Tends client work stage
        (.step (.table (.register number entry)) next)) :
    work.operation?.map (·.route client.settings.partitionCount) =
      some entry.operation := by
  cases tends with
  | idle isIdle => exact isIdle.elim
  | take isTaking => exact isTaking.elim
  | register isRouted => exact isRouted

/-- A work hands over only the frame of the entry that it has registered. -/
theorem of_send
    {frame : Bytes}
    {next : Except Error Unit → Program interface Ending}
    (tends : Tends client work stage (.step (.send frame) next)) :
    ∃ number entry,
      stage.sent? = some (number, entry) ∧
        frame = entry.operation.encode number client.channel := by
  cases tends with
  | idle isIdle => exact isIdle.elim
  | take isTaking => exact isTaking.elim
  | send => exact ⟨_, _, rfl, rfl⟩

/-- Whatever a call is answered, the program goes on at a next stage. -/
theorem next
    {call : Call}
    {next : call.Answer → Program interface Ending}
    (tends : Tends client work stage (.step call next))
    (answer : call.Answer) :
    ∃ later,
      stage.Next client work call answer later ∧
        Tends client work later (next answer) := by
  cases tends with
  | idle isIdle goesOn => exact ⟨_, .idle isIdle, goesOn answer⟩
  | openRequest _ isFresh goesOn =>
      exact ⟨_, .openRequest isFresh, goesOn answer⟩
  | takeCorrelation _ goesOn => exact ⟨_, .takeCorrelation, goesOn answer⟩
  | register isRouted goesOn => exact ⟨_, .register isRouted, goesOn⟩
  | send sent refused =>
      cases answer with
      | ok _ => exact ⟨_, .sent, sent⟩
      | error error => exact ⟨_, .refused, refused error⟩
  | retract goesOn => exact ⟨_, .retract, goesOn answer⟩
  | take isTaking goesOn => exact ⟨_, .take isTaking, goesOn answer⟩
  | complete _ goesOn => exact ⟨_, .complete, goesOn answer⟩
  | byHand isHandled _ goesOn => exact ⟨_, .byHand isHandled, goesOn answer⟩
  | look goesOn => exact ⟨_, .look, goesOn answer⟩
  | awaitUntil answered unanswered =>
      cases answer with
      | none => exact ⟨_, .unanswered, unanswered⟩
      | some outcome => exact ⟨_, .answered, answered outcome⟩
  | awaitForever answered => exact ⟨_, .awaited, answered answer⟩
  | giveUp won lost =>
      cases (answer : Bool) with
      | false => exact ⟨_, .late, lost⟩
      | true => exact ⟨_, .gaveUp, won⟩
  | forget goesOn => exact ⟨_, .forget, goesOn⟩

/-- A program opens only requests that nobody has claimed. -/
theorem of_openRequest
    {request : Request Wire.Response}
    {next : Nat → Program interface Ending}
    (tends :
      Tends client work stage (.step (.table (.openRequest request)) next)) :
    request.IsFresh := by
  obtain ⟨later, moves, -⟩ := tends.next (0 : Nat)
  exact moves.isFresh_of_openRequest

/-- Only a work with an operation opens requests. -/
theorem isSome_of_openRequest
    {request : Request Wire.Response}
    {next : Nat → Program interface Ending}
    (tends :
      Tends client work stage (.step (.table (.openRequest request)) next)) :
    work.operation?.isSome := by
  cases tends with
  | idle isIdle => exact isIdle.elim
  | take isTaking => exact isTaking.elim
  | openRequest mayOpen => exact mayOpen

/-- What is left of a work sends only what the work has registered before. -/
theorem left
    {program left : Program interface Ending}
    {exchanges : List (Exchange interface)}
    (tends : Tends client work stage program)
    (follows : Follows program exchanges left) :
    ∃ later,
      Tends client work later left ∧
        ∀ number entry,
          later.sent? = some (number, entry) →
          stage.sent? = some (number, entry) ∨
            work.operation?.map (·.route client.settings.partitionCount) =
                some entry.operation ∧
              ⟨.table (.register number entry), ()⟩ ∈ exchanges := by
  induction follows generalizing stage with
  | start => exact ⟨stage, tends, fun _ _ => .inl⟩
  | @next call _ answer _ _ _ inductionHypothesis =>
      obtain ⟨between, moves, goesOn⟩ := tends.next answer
      obtain ⟨later, left, sendsLater⟩ := inductionHypothesis goesOn
      refine ⟨later, left, fun number entry isSent => ?_⟩
      rcases sendsLater number entry isSent with sent | ⟨isRouted, member⟩
      · cases moves with
        | register isRouted =>
            cases sent
            exact .inr ⟨isRouted, .head _⟩
        | refused => exact .inl sent
        | _ => cases sent
      · exact .inr ⟨isRouted, .tail _ member⟩

end Tends

section Parts

variable {work : Work}

/-- Issuing looks after the request until the caller gets the handle. -/
theorem tends_issue
    (client : Client)
    {operation : Wire.Operation}
    (sends : work.operation? = some operation)
    (timeout : Duration)
    {continuation : Except Error Handle → Program interface Ending}
    (issued : ∀ handle,
      Tends client work (.waiting handle.request) (continuation (.ok handle)))
    (failed : ∀ error,
      Tends client work (.holding []) (continuation (.error error))) :
    Tends client work (.holding [])
      (Program.bind (client.issue operation timeout).run continuation) := by
  have mayOpen : work.operation?.isSome := Option.isSome_of_eq_some sends
  have isRouted :
      work.operation?.map (·.route client.settings.partitionCount) =
        some (operation.route client.settings.partitionCount) :=
    congrArg _ sends
  rw [issue_bind]
  refine .idle trivial fun context => .idle trivial fun now => ?_
  cases created : Request.create timeout now context with
  | error fault => exact failed _
  | ok request =>
      have isFresh := Request.isFresh_of_create created
      refine .openRequest mayOpen isFresh fun index => ?_
      refine .takeCorrelation mayOpen fun number => ?_
      refine @Tends.register client work number ⟨_, index⟩ _ isRouted ?_
      refine .send (issued ⟨index, _⟩) fun error => ?_
      exact .retract fun taken => .complete nofun fun won => failed error

/-- Waiting looks after the request of the handle until it has an outcome. -/
theorem tends_awaitHandle
    {client : Client}
    (handle : Handle)
    {continuation : Except Error Wire.Response → Program interface Ending}
    (answered : ∀ result,
      Tends client work (.holding []) (continuation result)) :
    Tends client work (.waiting handle.request)
      (Program.bind (awaitHandle handle).run continuation) := by
  unfold awaitHandle
  cases handle.deadline? with
  | none => exact .awaitForever fun outcome => answered _
  | some deadline =>
      refine .look fun now => ?_
      refine .awaitUntil (fun outcome => answered _) ?_
      refine .giveUp ?_ ?_
      · exact .forget (.awaitForever fun outcome => answered _)
      · exact .awaitForever fun outcome => answered _

/-- An attempt looks after its own request. -/
theorem tends_attempt
    (client : Client)
    {operation : Wire.Operation}
    (sends : work.operation? = some operation)
    (timeout : Duration)
    (policy : TransientPolicy)
    (remaining : Duration)
    {again : Attempt Wire.Response}
    {continuation : Except Error Wire.Response → Program interface Ending}
    (ended : ∀ result, Tends client work (.holding []) (continuation result))
    (resent :
      Tends client work (.holding []) (Program.bind again.run continuation)) :
    Tends client work (.holding [])
      (Program.bind
        (ExceptT.run do
          let handle ← client.issue operation remaining
          let result ← ExceptT.lift (awaitHandle handle).run
          match judge operation timeout policy result with
          | .finished result => conclude result
          | .sendAgain => again)
        continuation) := by
  rw [run_bind, Program.bind_assoc]
  refine tends_issue client sends remaining ?_ fun error => ended _
  intro handle
  change
    Tends client work (.waiting handle.request)
      (Program.bind
        (ExceptT.run
          (ExceptT.lift (awaitHandle handle).run >>= fun result => _))
        continuation)
  rw [run_bind, Program.bind_assoc]
  change
    Tends client work (.waiting handle.request)
      (Program.bind
        (Program.bind (awaitHandle handle).run fun result =>
          .done (Except.ok result))
        _)
  rw [Program.bind_assoc]
  refine tends_awaitHandle handle fun result => ?_
  change
    Tends client work (.holding [])
      (Program.bind
        (ExceptT.run
          (match judge operation timeout policy result with
          | .finished result => conclude result
          | .sendAgain => again))
        continuation)
  cases judge operation timeout policy result with
  | finished result => exact ended result
  | sendAgain => exact resent

/-- The attempts of an execution look after one request at a time. -/
theorem tends_attempts
    (client : Client)
    {operation : Wire.Operation}
    (sends : work.operation? = some operation)
    (timeout : Duration)
    (policy : TransientPolicy)
    (deadline : Option Instant)
    (rounds : Nat)
    {continuation : Except Error Wire.Response → Program interface Ending}
    (ended : ∀ result, Tends client work (.holding []) (continuation result)) :
    Tends client work (.holding [])
      (Program.bind
        (client.attempts operation timeout policy deadline rounds).run
        continuation) := by
  induction rounds with
  | zero => exact .idle trivial fun impossible => nomatch impossible
  | succ rounds inductionHypothesis =>
      have trying : ∀ remaining : Duration,
          Tends client work (.holding [])
            (Program.bind
              (ExceptT.run do
                let handle ← client.issue operation remaining
                let result ← ExceptT.lift (awaitHandle handle).run
                match judge operation timeout policy result with
                | .finished result => conclude result
                | .sendAgain =>
                    let _ : Unit ←
                      perform (.sleep (resendDelay.shorter remaining))
                    client.attempts operation timeout policy deadline rounds)
              continuation) :=
        fun remaining =>
          tends_attempt client sends timeout policy remaining ended
            (.idle trivial fun _ => inductionHypothesis)
      cases deadline with
      | none =>
          change
            Tends client work (.holding [])
              (Program.bind (ExceptT.run (if timeout.isZero then _ else _)) _)
          split
          · exact ended _
          · exact trying timeout
      | some deadline =>
          refine .idle trivial fun now => ?_
          change
            Tends client work (.holding [])
              (Program.bind
                (ExceptT.run
                  (if (now.remainingUntil deadline).isZero then _ else _))
                _)
          split
          · exact ended _
          · exact trying _

theorem withTable_bind
    {First Second : Type}
    (program : Program tableInterface First)
    (continuation : First → Program tableInterface Second) :
    withTable (Program.bind program continuation) =
      Program.bind (withTable program) fun result =>
        withTable (continuation result) := by
  induction program with
  | done result => rfl
  | step call next inductionHypothesis =>
      exact congrArg (@Program.step interface _ (.table call))
        (funext fun answer => inductionHypothesis answer)

theorem tends_cancelAll
    {client : Client}
    (reason : Cancellation)
    (entries : List Pending)
    (ending : Ending) :
    Tends client work (.holding (entries.map Pending.request))
      (Program.bind (withTable (cancelAll reason entries)) fun _ =>
        .done ending) := by
  induction entries with
  | nil => exact .done ending
  | cons entry rest inductionHypothesis =>
      exact .complete nofun fun won => inductionHypothesis

theorem tends_settle
    (client : Client)
    (declares : work.declaresSuccess)
    (entry : Pending)
    (frame : Bytes) :
    Tends client work (.holding [entry.request])
      (Program.bind (withTable (client.settle entry frame)) fun result =>
        .done (Ending.received result)) := by
  unfold settle
  cases verdict entry.operation frame client.channel with
  | ok response => exact .complete (fun _ => declares) fun won => .done _
  | error error =>
      refine .complete nofun fun won => ?_
      cases error <;> exact .done _

end Parts

/-- Every work looks after the requests that it opens. -/
theorem tends_program (client : Client) (work : Work) :
    Tends client work (.holding []) (work.program client) := by
  cases work with
  | execution operation timeout policy =>
      refine .idle trivial fun now => .idle trivial fun rounds => ?_
      exact
        tends_attempts client rfl timeout policy (now.after? timeout) rounds
          fun result => .done (.awaited result)
  | single activity =>
      cases activity with
      | issue operation timeout =>
          exact
            tends_issue client rfl timeout
              (fun handle => .issued handle ⟨_, _, rfl⟩) fun error => .done _
      | receive frame =>
          change
            Tends _ _ _
              (Program.bind (withTable (client.receive frame)) fun result =>
                .done (Ending.received result))
          unfold Client.receive
          cases Wire.Header.parse frame with
          | error fault => exact .done _
          | ok header =>
              refine .take trivial fun taken => ?_
              cases taken with
              | none => exact .done _
              | some entry => exact tends_settle client rfl entry frame
      | expire now =>
          refine .take trivial fun expired => ?_
          change
            Tends _ _ _
              (Program.bind
                (withTable
                  (Program.bind (cancelAll .timeout expired) fun _ =>
                    .done expired.length))
                fun count => .done (Ending.expired count))
          rw [withTable_bind, Program.bind_assoc]
          exact tends_cancelAll .timeout expired (.expired expired.length)
      | shutdown =>
          exact .take trivial fun drained =>
            tends_cancelAll .shutdown drained .shutdown
      | await handle =>
          change
            Tends _ _ _ (Program.bind (awaitHandle handle).run fun result =>
              .done (Ending.awaited result))
          unfold awaitHandle
          cases handle.deadline? with
          | none => exact .idle trivial fun outcome => .done _
          | some deadline =>
              refine .idle trivial fun now => .idle trivial fun answered => ?_
              cases answered with
              | some outcome => exact .done _
              | none =>
                  refine .byHand rfl nofun fun won => ?_
                  cases won with
                  | false => exact .idle trivial fun outcome => .done _
                  | true =>
                      exact .idle trivial fun _ =>
                        .idle trivial fun outcome => .done _
      | complete request outcome =>
          exact .byHand rfl (fun _ => rfl) fun won => .done _

/-- An execution returns what it has waited for. -/
theorem Work.awaited_of_execution
    {client : Client}
    {operation : Wire.Operation}
    {timeout : Duration}
    {policy : TransientPolicy}
    {exchanges : List (Exchange interface)}
    {ending : Ending}
    (follows :
      Follows ((execution operation timeout policy).program client) exchanges
        (.done ending)) :
    ∃ result, ending = .awaited result := by
  obtain ⟨first, second, result, -, -, ended⟩ := Follows.of_bind follows
  cases (Follows.of_done ended).2
  exact ⟨result, rfl⟩

/-- What is owed at a stage; one who waits for a request owes it nothing. -/
def Stage.duty : Stage → Duty
  | .holding requests => .holding requests
  | .opened request number => .opened request number
  | .sending number entry => .sending entry.request number
  | .failing number entry => .failing entry.request number
  | .waiting _ | .gaveUp _ => .holding []

theorem Call.IsIdle.isQuiet
    {call : Call}
    (isIdle : call.IsIdle) : call.IsQuiet := by
  cases call with
  | table call =>
      cases call <;> first | exact isIdle.elim | trivial
  | _ => trivial

/-- The program of an activity meets what it owes. -/
theorem Tends.abides
    {client : Client}
    {activity : Activity}
    {stage : Stage}
    {program : Program interface Ending}
    (tends : Tends client (.single activity) stage program) :
    Abides activity.issues stage.duty program := by
  have issues : (Work.single activity).operation?.isSome →
      activity.issues = true := by
    cases activity <;> first | exact fun _ => rfl | exact nofun
  induction tends with
  | done | issued => exact .done _
  | idle isIdle _ goesOn => exact .quiet isIdle.isQuiet goesOn
  | openRequest mayOpen isFresh _ goesOn =>
      exact .openRequest (issues mayOpen) isFresh.isSettled goesOn
  | takeCorrelation mayOpen _ goesOn =>
      exact .takeCorrelation (issues mayOpen) goesOn
  | register isRouted _ goesOn =>
      obtain ⟨_, isOwn, -⟩ := Option.map_eq_some_iff.mp isRouted
      have mayOpen := issues (Option.isSome_of_eq_some isOwn)
      exact .register mayOpen rfl goesOn
  | send _ _ sent refused => exact .send sent refused
  | retract _ goesOn => exact .retract goesOn
  | take isTaking _ goesOn => exact .take isTaking goesOn
  | complete _ _ goesOn => exact .complete goesOn
  | byHand _ _ _ goesOn => exact .quiet trivial goesOn
  | look _ goesOn => exact .quiet trivial goesOn
  | awaitUntil _ _ answered unanswered =>
      refine .quiet trivial fun answer => ?_
      cases answer with
      | none => exact unanswered
      | some outcome => exact answered outcome
  | awaitForever _ answered => exact .quiet trivial answered
  | giveUp _ _ won lost =>
      refine .quiet trivial fun hasWon => ?_
      cases hasWon with
      | false => exact lost
      | true => exact won
  | forget _ goesOn => exact .quiet trivial fun _ => goesOn

/-- Every activity meets what it owes. -/
theorem Activity.abides_program (client : Client) (activity : Activity) :
    Abides activity.issues (.holding []) (activity.program client) :=
  (tends_program client (.single activity)).abides

end ClusterClient.Client
