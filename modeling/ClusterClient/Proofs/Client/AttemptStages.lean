import ClusterClient.Proofs.Client.GuardedWrites

namespace ClusterClient.Client

/-!
# What one attempt of an execution does

An execution is cut into attempts. Each of them sends at most one frame, and
ends when the connection refuses the frame or when an outcome has been waited
for. Whether the operation may be sent again is decided by that end alone.
-/

/-! What has been sent, how attempts have ended and when there were pauses. -/

/-- How an attempt ends: its frame is refused, or there is an outcome. -/
inductive AttemptEnd where
  | refused (error : Error)
  | answered (outcome : Request.Outcome Wire.Response)

/-- The frame that a call sends. -/
def frameOf? : Exchange interface → Option Bytes
  | ⟨.send frame, _⟩ => some frame
  | _ => none

/-- The end of an attempt that a call brings. -/
def endOf? (exchange : Exchange interface) : Option AttemptEnd :=
  match refusalOf? exchange with
  | some error => some (.refused error)
  | none => (awaitedOf? exchange).map .answered

/-- The pause that a call makes. -/
def pauseOf? : Exchange interface → Option Duration
  | ⟨.sleep delay, _⟩ => some delay
  | _ => none

/-- The frames that were sent, in their order. -/
def frames (exchanges : List (Exchange interface)) : List Bytes :=
  exchanges.filterMap frameOf?

/-- How the attempts ended, in their order. -/
def attemptEnds (exchanges : List (Exchange interface)) : List AttemptEnd :=
  exchanges.filterMap endOf?

/-- The pauses that were made, in their order. -/
def pauses (exchanges : List (Exchange interface)) : List Duration :=
  exchanges.filterMap pauseOf?

@[simp] theorem frames_append (first second : List (Exchange interface)) :
    frames (first ++ second) = frames first ++ frames second :=
  List.filterMap_append ..

@[simp] theorem attemptEnds_append (first second : List (Exchange interface)) :
    attemptEnds (first ++ second) = attemptEnds first ++ attemptEnds second :=
  List.filterMap_append ..

@[simp] theorem pauses_append (first second : List (Exchange interface)) :
    pauses (first ++ second) = pauses first ++ pauses second :=
  List.filterMap_append ..

/-- Where a frame is sent, there are frames. -/
theorem frames_ne_nil
    {before after : List (Exchange interface)}
    {frame : Bytes}
    {answer : Except Error Unit} :
    frames (before ++ ⟨.send frame, answer⟩ :: after) ≠ [] := by
  rw [frames_append]
  exact List.append_ne_nil_of_right_ne_nil _ (List.cons_ne_nil _ _)

/-- Nothing was sent, no attempt has ended and there was no pause. -/
structure IsSilent (exchanges : List (Exchange interface)) : Prop where
  frames : frames exchanges = []
  ends : attemptEnds exchanges = []
  pauses : pauses exchanges = []

theorem IsSilent.append
    {first second : List (Exchange interface)}
    (isFirst : IsSilent first)
    (isSecond : IsSilent second) : IsSilent (first ++ second) where
  frames := by rw [frames_append, isFirst.frames, isSecond.frames]; rfl
  ends := by rw [attemptEnds_append, isFirst.ends, isSecond.ends]; rfl
  pauses := by rw [pauses_append, isFirst.pauses, isSecond.pauses]; rfl

namespace AttemptEnd

/-- The server reported a condition that may be over soon. -/
def IsTransient (ended : AttemptEnd) : Prop :=
  ∃ status context,
    ended = .answered (.failed (.status status context)) ∧
      (status = .temporaryFailure ∨ status = .busy ∨ status = .notMyVbucket)

/-- The operation is sent again after such an end, if time remains. -/
def MayResend
    (operation : Wire.Operation)
    (policy : TransientPolicy)
    (ended : AttemptEnd) : Prop :=
  ended.IsTransient ∧ operation.isIdempotent ∧ policy = .resend

/--
What an execution returns when it ends with an attempt. A request that was
cancelled because time ran out has exceeded the timeout of the execution.
-/
def result
    (timeout : Duration)
    (ended : AttemptEnd) : Except Error Wire.Response :=
  match ended with
  | .refused error => .error error
  | .answered outcome =>
      match outcome.toResult with
      | .error (.cancelled .timeout) => .error (.timeout timeout)
      | other => other

end AttemptEnd

theorem isTemporary_iff {status : Wire.Status} :
    status.isTemporary ↔
      status = .temporaryFailure ∨ status = .busy ∨ status = .notMyVbucket := by
  cases status <;> simp [Wire.Status.isTemporary]

/-- An outcome is judged by whether the operation may be sent again after it. -/
theorem judge_toResult
    (operation : Wire.Operation)
    (timeout : Duration)
    (policy : TransientPolicy)
    (outcome : Request.Outcome Wire.Response) :
    (AttemptEnd.MayResend operation policy (.answered outcome) ∧
        judge operation timeout policy outcome.toResult = .sendAgain) ∨
      (¬ AttemptEnd.MayResend operation policy (.answered outcome) ∧
        judge operation timeout policy outcome.toResult =
          .finished ((AttemptEnd.answered outcome).result timeout)) := by
  by_cases resends : AttemptEnd.MayResend operation policy (.answered outcome)
  · obtain ⟨⟨status, context, same, temporary⟩, idempotent, resend⟩ := resends
    cases same
    refine
      .inl ⟨⟨⟨status, context, rfl, temporary⟩, idempotent, resend⟩, if_pos ?_⟩
    exact ⟨isTemporary_iff.mpr temporary, resend, idempotent⟩
  · refine .inr ⟨resends, ?_⟩
    unfold judge AttemptEnd.result
    split
    · rename_i status context isStatus
      have isFailure : outcome = .failed (.status status context) := by
        cases outcome <;> simp_all [Request.Outcome.toResult]
      subst isFailure
      rw [if_neg]
      · rfl
      · rintro ⟨temporary, resend, idempotent⟩
        exact
          resends
            ⟨⟨status, context, rfl, isTemporary_iff.mp temporary⟩, idempotent,
              resend⟩
    · rename_i isTimeout
      simp only [isTimeout]
    · simp only

/-! What one attempt does. -/

/-- The frame that an issue sends under a number. -/
def issuedFrame
    (client : Client)
    (operation : Wire.Operation)
    (number : UInt32) : Bytes :=
  (operation.route client.settings.partitionCount).encode number client.channel

/--
What an attempt has done: it has sent nothing yet, or it has sent the frame of
its operation under some number, and it has ended or not.
-/
inductive Tries
    (client : Client)
    (operation : Wire.Operation) :
    List (Exchange interface) → Option AttemptEnd → Prop where
  | silent
      {exchanges : List (Exchange interface)}
      (isSilent : IsSilent exchanges) :
      Tries client operation exchanges none
  | sent
      {first rest : List (Exchange interface)}
      {number : UInt32}
      {answer : Except Error Unit}
      {ended : Option AttemptEnd}
      (isFirst : IsSilent first)
      (noFrame : frames rest = [])
      (noPause : pauses rest = [])
      (ends :
        attemptEnds
            (⟨.send (issuedFrame client operation number), answer⟩ :: rest) =
          ended.toList) :
      Tries client operation
        (first ++
          ⟨.send (issuedFrame client operation number), answer⟩ :: rest)
        ended

namespace Tries

variable {client : Client} {operation : Wire.Operation}
variable {attempt : List (Exchange interface)} {ended : Option AttemptEnd}

theorem ends (tries : Tries client operation attempt ended) :
    attemptEnds attempt = ended.toList := by
  cases tries with
  | silent isSilent => exact isSilent.ends
  | sent isFirst _ _ ends =>
      rw [attemptEnds_append, isFirst.ends, ends]
      rfl

theorem noPause (tries : Tries client operation attempt ended) :
    pauses attempt = [] := by
  cases tries with
  | silent isSilent => exact isSilent.pauses
  | sent isFirst _ noPause _ =>
      rw [pauses_append, isFirst.pauses]
      exact noPause

/-- An attempt sends at most one frame. -/
theorem cases_frames (tries : Tries client operation attempt ended) :
    (frames attempt = [] ∧ ended = none) ∨
      ∃ number, frames attempt = [issuedFrame client operation number] := by
  cases tries with
  | silent isSilent => exact .inl ⟨isSilent.frames, rfl⟩
  | @sent first rest number answer _ isFirst noFrame =>
      refine .inr ⟨number, ?_⟩
      rw [frames_append, isFirst.frames]
      exact congrArg (List.cons (issuedFrame client operation number)) noFrame

/-- An attempt that has ended has sent its frame. -/
theorem frames_of_ended
    {last : AttemptEnd}
    (tries : Tries client operation attempt (some last)) :
    ∃ number, frames attempt = [issuedFrame client operation number] := by
  rcases tries.cases_frames with ⟨-, impossible⟩ | sent
  · cases impossible
  · exact sent

/-- Nothing else happens in an attempt before it sends its frame. -/
theorem isSilent_before_send
    {before after : List (Exchange interface)}
    {frame : Bytes}
    {answer : Except Error Unit}
    (tries :
      Tries client operation (before ++ ⟨.send frame, answer⟩ :: after) ended) :
    IsSilent before := by
  generalize cut : before ++ ⟨.send frame, answer⟩ :: after = attempt at tries
  cases tries with
  | silent isSilent =>
      rw [← cut] at isSilent
      exact (frames_ne_nil isSilent.frames).elim
  | @sent first rest _ _ _ isFirst noFrame =>
      rcases List.append_eq_append_iff.mp cut with
        ⟨between, rfl, atSend⟩ | ⟨between, rfl, atSend⟩
      · cases between with
        | nil => rwa [List.append_nil] at isFirst
        | cons exchange between =>
            cases atSend
            exact (frames_ne_nil isFirst.frames).elim
      · cases between with
        | nil => rwa [List.append_nil]
        | cons exchange between =>
            cases atSend
            exact (frames_ne_nil noFrame).elim

end Tries

/-- An attempt whose frame is refused has ended. -/
theorem tries_of_refused
    {first rest : List (Exchange interface)}
    (client : Client)
    (operation : Wire.Operation)
    (isFirst : IsSilent first)
    (number : UInt32)
    (error : Error)
    (isRest : IsSilent rest) :
    Tries client operation
      (first ++
        ⟨.send (issuedFrame client operation number), .error error⟩ :: rest)
      (some (.refused error)) := by
  apply Tries.sent isFirst isRest.frames isRest.pauses
  change .refused error :: attemptEnds rest = [.refused error]
  rw [isRest.ends]

variable {client : Client} {operation : Wire.Operation} {timeout : Duration}
variable {exchanges : List (Exchange interface)}

/-- How far an issue has come. -/
inductive IssueStage
    (client : Client)
    (operation : Wire.Operation) :
    List (Exchange interface) →
    Program interface (Except Error Handle) → Prop where
  | silent
      {exchanges : List (Exchange interface)}
      {left : Program interface (Except Error Handle)}
      (isSilent : IsSilent exchanges)
      (underway : IsUnderway left) :
      IssueStage client operation exchanges left
  | accepted
      {first : List (Exchange interface)}
      (isFirst : IsSilent first)
      (number : UInt32)
      (handle : Handle) :
      IssueStage client operation
        (first ++ [⟨.send (issuedFrame client operation number), .ok ()⟩])
        (.done (.ok handle))
  | refused
      {first rest : List (Exchange interface)}
      {left : Program interface (Except Error Handle)}
      (isFirst : IsSilent first)
      (number : UInt32)
      (error : Error)
      (isRest : IsSilent rest)
      (goesOn : IsUnderway left ∨ left = .done (.error error)) :
      IssueStage client operation
        (first ++
          ⟨.send (issuedFrame client operation number), .error error⟩ :: rest)
        left

/-- An issue with some time left sends one frame and takes note of the answer. -/
theorem issueStage_of_follows
    {left : Program interface (Except Error Handle)}
    (positive : timeout.isZero = false)
    (follows : Follows (client.issue operation timeout).run exchanges left) :
    IssueStage client operation exchanges left := by
  have issued :
      Follows ((Activity.issue operation timeout).program client) exchanges
        (left.bind fun result => .done (.issued result)) :=
    follows.bind_left _
  have underway : ∀ {call : Call} {next},
      (left.bind fun result => .done (Ending.issued result)) =
        .step call next →
      call ≠ .never → IsUnderway left :=
    fun due goesOn => .of_map ⟨_, _, due, goesOn⟩
  rw [Activity.program_issue] at issued
  rcases issued.of_step with ⟨rfl, due⟩ | ⟨context, _, rfl, afterContext⟩
  · exact .silent ⟨rfl, rfl, rfl⟩ (underway due nofun)
  rcases afterContext.of_step with ⟨rfl, due⟩ | ⟨now, _, rfl, afterClock⟩
  · exact .silent ⟨rfl, rfl, rfl⟩ (underway due nofun)
  obtain ⟨request, created⟩ := Request.exists_create positive now context
  rw [created] at afterClock
  rcases afterClock.of_step with ⟨rfl, due⟩ | ⟨index, _, rfl, afterOpening⟩
  · exact .silent ⟨rfl, rfl, rfl⟩ (underway due nofun)
  rcases afterOpening.of_step with ⟨rfl, due⟩ | ⟨number, _, rfl, afterNumber⟩
  · exact .silent ⟨rfl, rfl, rfl⟩ (underway due nofun)
  rcases afterNumber.of_step with ⟨rfl, due⟩ | ⟨_, _, rfl, afterRegistering⟩
  · exact .silent ⟨rfl, rfl, rfl⟩ (underway due nofun)
  rcases afterRegistering.of_step with ⟨rfl, due⟩ | ⟨sent, _, rfl, afterSending⟩
  · exact .silent ⟨rfl, rfl, rfl⟩ (underway due nofun)
  let routed := operation.route client.settings.partitionCount
  have isFirst :
      IsSilent
        [⟨.table (.newContext routed.name (some routed.key.id)), context⟩,
          ⟨.readClock, now⟩,
          ⟨.table (.openRequest request), index⟩,
          ⟨.table .takeCorrelation, number⟩,
          ⟨.table (.register number ⟨routed, index⟩), ()⟩] :=
    ⟨rfl, rfl, rfl⟩
  cases sent with
  | ok _ =>
      obtain ⟨rfl, due⟩ := afterSending.of_done
      obtain ⟨result, rfl, same⟩ := eq_done_of_map due
      cases same
      exact .accepted isFirst number _
  | error error =>
      rcases afterSending.of_step with ⟨rfl, due⟩ | ⟨taken, _, rfl, afterTaking⟩
      · exact .refused isFirst number error ⟨rfl, rfl, rfl⟩ (.inl (underway due nofun))
      rcases afterTaking.of_step with ⟨rfl, due⟩ | ⟨won, _, rfl, afterCompleting⟩
      · exact .refused isFirst number error ⟨rfl, rfl, rfl⟩ (.inl (underway due nofun))
      obtain ⟨rfl, due⟩ := afterCompleting.of_done
      obtain ⟨result, rfl, same⟩ := eq_done_of_map due
      cases same
      exact .refused isFirst number error ⟨rfl, rfl, rfl⟩ (.inr rfl)

/-- How far waiting for a handle has come. -/
inductive AwaitStage :
    List (Exchange interface) →
    Program interface (Except Error Wire.Response) → Prop where
  | silent
      {exchanges : List (Exchange interface)}
      {left : Program interface (Except Error Wire.Response)}
      (isSilent : IsSilent exchanges)
      (underway : IsUnderway left) :
      AwaitStage exchanges left
  | answered
      {exchanges : List (Exchange interface)}
      {outcome : Request.Outcome Wire.Response}
      (noFrame : frames exchanges = [])
      (noPause : pauses exchanges = [])
      (ends : attemptEnds exchanges = [.answered outcome]) :
      AwaitStage exchanges (.done outcome.toResult)

theorem AwaitStage.behind
    {first second : List (Exchange interface)}
    {left : Program interface (Except Error Wire.Response)}
    (stage : AwaitStage second left)
    (isFirst : IsSilent first) : AwaitStage (first ++ second) left := by
  cases stage with
  | silent isSilent underway =>
      exact .silent (isFirst.append isSilent) underway
  | answered noFrame noPause ends =>
      apply AwaitStage.answered
      · rw [frames_append, isFirst.frames, noFrame]; rfl
      · rw [pauses_append, isFirst.pauses, noPause]; rfl
      · rw [attemptEnds_append, isFirst.ends, ends]; rfl

section Waiting

variable {left : Program interface (Except Error Wire.Response)}

theorem awaitStage_awaitForever
    {request : Nat}
    (follows :
      Follows
        (do
          let outcome ← perform (.awaitForever request)
          conclude (Request.Outcome.toResult outcome) :
          Attempt Wire.Response).run
        exchanges left) : AwaitStage exchanges left := by
  rcases Follows.of_step follows with ⟨rfl, rfl⟩ | ⟨outcome, _, rfl, ended⟩
  · exact .silent ⟨rfl, rfl, rfl⟩ ⟨_, _, rfl, nofun⟩
  · obtain ⟨rfl, rfl⟩ := Follows.of_done ended
    exact .answered rfl rfl rfl

theorem awaitStage_giveUp
    {request : Nat}
    (follows : Follows (giveUp request).run exchanges left) :
    AwaitStage exchanges left := by
  rcases Follows.of_step follows with ⟨rfl, rfl⟩ | ⟨won, _, rfl, dropping⟩
  · exact .silent ⟨rfl, rfl, rfl⟩ ⟨_, _, rfl, nofun⟩
  have isFirst :
      IsSilent [⟨.table (.complete request (.cancelled .timeout)), won⟩] :=
    ⟨rfl, rfl, rfl⟩
  cases won with
  | false => exact (awaitStage_awaitForever dropping).behind isFirst
  | true =>
      rcases Follows.of_step dropping with ⟨rfl, rfl⟩ | ⟨_, _, rfl, waiting⟩
      · exact .silent isFirst ⟨_, _, rfl, nofun⟩
      have isSecond : IsSilent [⟨.table .dropCompleted, ()⟩] := ⟨rfl, rfl, rfl⟩
      exact
        ((awaitStage_awaitForever waiting).behind isSecond).behind isFirst

/-- Waiting for a handle sends nothing and gets one outcome. -/
theorem awaitStage_awaitHandle
    {handle : Handle}
    (follows : Follows (awaitHandle handle).run exchanges left) :
    AwaitStage exchanges left := by
  unfold awaitHandle at follows
  split at follows
  · exact awaitStage_awaitForever follows
  rename_i deadline _
  rcases Follows.of_step follows with ⟨rfl, rfl⟩ | ⟨now, _, rfl, waiting⟩
  · exact .silent ⟨rfl, rfl, rfl⟩ ⟨_, _, rfl, nofun⟩
  rcases Follows.of_step waiting with ⟨rfl, rfl⟩ | ⟨answer, _, rfl, ended⟩
  · exact .silent ⟨rfl, rfl, rfl⟩ ⟨_, _, rfl, nofun⟩
  cases answer with
  | some outcome =>
      obtain ⟨rfl, rfl⟩ := Follows.of_done ended
      exact .answered rfl rfl rfl
  | none =>
      have isFirst :
          IsSilent
            [⟨.readClock, now⟩,
              ⟨.awaitUntil handle.request (now.remainingUntil deadline),
                none⟩] :=
        ⟨rfl, rfl, rfl⟩
      exact (awaitStage_giveUp ended).behind isFirst

end Waiting

/--
How far an execution has come in one attempt: the attempt is under way, or it
has ended and so has the execution, or the operation may be sent again.
-/
inductive AttemptStage
    (client : Client)
    (operation : Wire.Operation)
    (timeout : Duration)
    (policy : TransientPolicy)
    (again : Attempt Wire.Response) :
    List (Exchange interface) →
    Program interface (Except Error Wire.Response) → Prop where
  | underway
      {attempt : List (Exchange interface)}
      {ended : Option AttemptEnd}
      {left : Program interface (Except Error Wire.Response)}
      (tries : Tries client operation attempt ended)
      (underway : IsUnderway left) :
      AttemptStage client operation timeout policy again attempt left
  | ended
      {attempt : List (Exchange interface)}
      {last : AttemptEnd}
      (tries : Tries client operation attempt (some last))
      (isFinal : ¬ last.MayResend operation policy) :
      AttemptStage client operation timeout policy again attempt
        (.done (last.result timeout))
  | again
      {attempt rest : List (Exchange interface)}
      {last : AttemptEnd}
      {left : Program interface (Except Error Wire.Response)}
      (tries : Tries client operation attempt (some last))
      (resends : last.MayResend operation policy)
      (goesOn : Follows again.run rest left) :
      AttemptStage client operation timeout policy again (attempt ++ rest) left

section Attempting

variable {policy : TransientPolicy} {again : Attempt Wire.Response}
variable {left : Program interface (Except Error Wire.Response)}

/-- An attempt whose frame was taken waits for the outcome of its request. -/
theorem attemptStage_of_accepted
    {first second : List (Exchange interface)}
    {handle : Handle}
    (isFirst : IsSilent first)
    (number : UInt32)
    (follows :
      Follows
        (ExceptT.run do
          let result ← ExceptT.lift (awaitHandle handle).run
          match judge operation timeout policy result with
          | .finished result => conclude result
          | .sendAgain => again)
        second left) :
    AttemptStage client operation timeout policy again
      (first ++ [⟨.send (issuedFrame client operation number), .ok ()⟩] ++
        second)
      left := by
  have sent : ∀ {waited : List (Exchange interface)}
      (ended : Option AttemptEnd),
      frames waited = [] →
      pauses waited = [] →
      attemptEnds waited = ended.toList →
      Tries client operation
        (first ++ [⟨.send (issuedFrame client operation number), .ok ()⟩] ++
          waited)
        ended := by
    intro waited ended noFrame noPause ends
    rw [List.append_assoc]
    exact .sent isFirst noFrame noPause ends
  rcases cases_attempt follows with
    ⟨_, _, awaiting, rfl⟩ | ⟨_, awaiting, -⟩ |
    ⟨waited, rest, result, rfl, awaiting, judging⟩
  · rcases cases_lift awaiting with ⟨_, _, awaiting, due⟩ | ⟨_, due, -⟩
    · cases awaitStage_awaitHandle awaiting with
      | silent isSilent underway =>
          have tries := sent none isSilent.frames isSilent.pauses isSilent.ends
          rw [due]
          exact .underway tries ((underway.bind _).bind _)
    · cases due
  · obtain ⟨_, impossible, -⟩ := follows_lift awaiting
    cases impossible
  · obtain ⟨_, same, awaiting⟩ := follows_lift awaiting
    cases same
    generalize ended : Program.done result = left at awaiting
    cases awaitStage_awaitHandle awaiting with
    | silent _ underway => exact (underway.ne_done _ ended.symm).elim
    | @answered outcome noFrame noPause ends =>
        cases ended
        have tries := sent (some _) noFrame noPause ends
        rcases judge_toResult operation timeout policy outcome with
          ⟨resends, judged⟩ | ⟨isFinal, judged⟩
        · rw [judged] at judging
          rw [← List.append_assoc]
          exact .again tries resends judging
        · rw [judged] at judging
          obtain ⟨rfl, rfl⟩ := Follows.of_done judging
          rw [List.append_nil]
          exact .ended tries isFinal

/-- One attempt issues the operation and waits for its outcome. -/
theorem attemptStage_of_follows
    {remaining : Duration}
    (positive : remaining.isZero = false)
    (follows :
      Follows
        (ExceptT.run do
          let handle ← client.issue operation remaining
          let result ← ExceptT.lift (awaitHandle handle).run
          match judge operation timeout policy result with
          | .finished result => conclude result
          | .sendAgain => again)
        exchanges left) :
    AttemptStage client operation timeout policy again exchanges left := by
  rcases cases_attempt follows with
    ⟨call, next, issuing, rfl⟩ | ⟨error, issuing, rfl⟩ |
    ⟨sending, second, handle, rfl, issuing, waiting⟩
  · cases issueStage_of_follows positive issuing with
    | silent isSilent underway =>
        exact .underway (.silent isSilent) (underway.bind _)
    | refused isFirst number error isRest goesOn =>
        have tries :=
          tries_of_refused client operation isFirst number error isRest
        obtain underway | ended := goesOn
        · exact .underway tries (underway.bind _)
        · cases ended
  · cases issueStage_of_follows positive issuing with
    | silent _ underway => exact (underway.ne_done _ rfl).elim
    | refused isFirst number error isRest goesOn =>
        have tries :=
          tries_of_refused client operation isFirst number error isRest
        obtain underway | ended := goesOn
        · exact (underway.ne_done _ rfl).elim
        · cases ended
          refine .ended tries ?_
          rintro ⟨⟨_, _, impossible, _⟩, _⟩
          cases impossible
  · cases issueStage_of_follows positive issuing with
    | silent _ underway => exact (underway.ne_done _ rfl).elim
    | refused _ _ _ _ goesOn =>
        obtain underway | ended := goesOn
        · exact (underway.ne_done _ rfl).elim
        · cases ended
    | accepted isFirst number =>
        exact attemptStage_of_accepted isFirst number waiting

end Attempting

end ClusterClient.Client
