import ClusterClient.Proofs.Client.AnswerBodies
import ClusterClient.Proofs.Client.Resends
import ClusterClient.Proofs.Client.Tending

namespace ClusterClient.Client

/-!
# Where successes come from

A request succeeds only because a frame was received that answers its operation,
or because somebody with its handle says so. All other works complete requests
with failures and cancellations. An execution that returns a response has waited
for the success of a request that it has registered itself, so the response is
the verdict on a frame that somebody has received.
-/

/-! What an execution has learnt when it returns a response. -/

/-- Somebody has waited for a request and was told that it has succeeded. -/
def HasLearnt
    (exchanges : List (Exchange interface))
    (request : Nat)
    (response : Wire.Response) : Prop :=
  ⟨.awaitForever request, .succeeded response⟩ ∈ exchanges ∨
    ∃ limit,
      ⟨.awaitUntil request limit, some (.succeeded response)⟩ ∈ exchanges

theorem HasLearnt.mono
    {some more : List (Exchange interface)}
    {request : Nat}
    {response : Wire.Response}
    (learnt : HasLearnt some request response)
    (among : some ⊆ more) : HasLearnt more request response :=
  learnt.imp (among ·) fun ⟨limit, member⟩ => ⟨limit, among member⟩

theorem eq_succeeded_of_toResult
    {outcome : Request.Outcome Wire.Response}
    {response : Wire.Response}
    (isResult : outcome.toResult = .ok response) :
    outcome = .succeeded response := by
  cases outcome with
  | succeeded value =>
      cases isResult
      rfl
  | failed error => cases isResult
  | cancelled reason => cases isResult

section Executions

variable {client : Client} {operation : Wire.Operation} {timeout : Duration}
variable {policy : TransientPolicy} {exchanges : List (Exchange interface)}
variable {request : Nat} {response : Wire.Response}

theorem hasLearnt_of_awaitForever
    (follows :
      Follows
        (do
          let outcome ← perform (.awaitForever request)
          conclude (Request.Outcome.toResult outcome) :
          Attempt Wire.Response).run
        exchanges (.done (.ok response))) :
    HasLearnt exchanges request response := by
  obtain ⟨outcome, _, rfl, ended⟩ := Follows.of_step_done follows
  obtain ⟨rfl, isResult⟩ := ended.of_done
  obtain rfl := eq_succeeded_of_toResult (Program.done.inj isResult).symm
  exact .inl (.head _)

/-- Who waits for a handle and returns a response was told of the success. -/
theorem hasLearnt_of_awaitHandle
    {handle : Handle}
    (follows :
      Follows (awaitHandle handle).run exchanges (.done (.ok response))) :
    HasLearnt exchanges handle.request response := by
  unfold awaitHandle at follows
  split at follows
  · exact hasLearnt_of_awaitForever follows
  obtain ⟨now, _, rfl, waiting⟩ := Follows.of_step_done follows
  obtain ⟨answer, _, rfl, ended⟩ := Follows.of_step_done waiting
  cases answer with
  | some outcome =>
      obtain ⟨rfl, isResult⟩ := ended.of_done
      obtain rfl := eq_succeeded_of_toResult (Program.done.inj isResult).symm
      exact .inr ⟨_, .tail _ (.head _)⟩
  | none =>
      obtain ⟨won, _, rfl, dropping⟩ := Follows.of_step_done ended
      cases won with
      | false =>
          exact
            (hasLearnt_of_awaitForever dropping).mono
              fun _ member => .tail _ (.tail _ (.tail _ member))
      | true =>
          obtain ⟨_, _, rfl, waits⟩ := Follows.of_step_done dropping
          exact
            (hasLearnt_of_awaitForever waits).mono
              fun _ member => .tail _ (.tail _ (.tail _ (.tail _ member)))

/-- An execution that has returned has made the calls of its attempts. -/
theorem Work.follows_of_execution
    {result : Except Error Wire.Response}
    (follows :
      Follows ((execution operation timeout policy).program client) exchanges
        (.done (.awaited result))) :
    Follows (client.executeWithin operation timeout policy).run exchanges
      (.done result) := by
  obtain ⟨first, _, _, rfl, executed, ended⟩ := Follows.of_bind follows
  obtain ⟨rfl, same⟩ := Follows.of_done ended
  cases same
  rwa [List.append_nil]

/-- An execution that ends with a response was answered with this response. -/
theorem eq_ok_of_judge
    {result : Except Error Wire.Response}
    (judged :
      judge operation timeout policy result = .finished (.ok response)) :
    result = .ok response := by
  unfold judge at judged
  split at judged
  · split at judged <;> cases judged
  · cases judged
  · cases judged
    rfl

/-- A request of an operation was registered and, as was learnt, succeeded. -/
def HasFetched
    (client : Client)
    (operation : Wire.Operation)
    (exchanges : List (Exchange interface))
    (response : Wire.Response) : Prop :=
  let routed := operation.route client.settings.partitionCount
  ∃ number request,
    ⟨.table (.register number ⟨routed, request⟩), ()⟩ ∈ exchanges ∧
      HasLearnt exchanges request response

theorem HasFetched.mono
    {some more : List (Exchange interface)}
    (fetched : HasFetched client operation some response)
    (among : some ⊆ more) : HasFetched client operation more response := by
  obtain ⟨number, request, isRegistered, learnt⟩ := fetched
  exact ⟨number, request, among isRegistered, learnt.mono among⟩

/-- An attempt that returns a response has fetched it, or another one has. -/
theorem hasFetched_of_attempt
    {remaining : Duration}
    {again : Attempt Wire.Response}
    (follows :
      Follows
        (ExceptT.run do
          let handle ← client.issue operation remaining
          let result ← ExceptT.lift (awaitHandle handle).run
          match judge operation timeout policy result with
          | .finished result => conclude result
          | .sendAgain => again)
        exchanges (.done (.ok response))) :
    HasFetched client operation exchanges response ∨
      ∃ rest,
        rest ⊆ exchanges ∧ Follows again.run rest (.done (.ok response)) := by
  rcases follows_attempt follows with
    ⟨_, -, impossible⟩ | ⟨issuing, _, handle, rfl, issues, waits⟩
  · cases impossible
  rcases follows_attempt waits with
    ⟨_, -, impossible⟩ | ⟨awaiting, rest, result, rfl, awaits, judging⟩
  · cases impossible
  obtain ⟨_, same, awaited⟩ := follows_lift awaits
  cases same
  cases judged : judge operation timeout policy result with
  | finished result =>
      rw [judged] at judging
      cases (Follows.of_done judging).2
      obtain rfl := eq_ok_of_judge judged
      obtain ⟨number, isRegistered, -⟩ :=
        Activity.follows_issued (issues.bind_left _)
      refine .inl ⟨number, handle.request, ?_, ?_⟩
      · exact List.mem_append_left _ isRegistered
      · refine (hasLearnt_of_awaitHandle awaited).mono fun _ member => ?_
        exact List.mem_append_right _ (List.mem_append_left _ member)
  | sendAgain =>
      rw [judged] at judging
      refine .inr ⟨rest, fun _ member => ?_, judging⟩
      exact List.mem_append_right _ (List.mem_append_right _ member)

/-- Attempts that return a response have fetched it. -/
theorem hasFetched_of_attempts
    {deadline : Option Instant}
    {rounds : Nat}
    (follows :
      Follows (client.attempts operation timeout policy deadline rounds).run
        exchanges (.done (.ok response))) :
    HasFetched client operation exchanges response := by
  induction rounds generalizing exchanges with
  | zero =>
      obtain ⟨impossible, -⟩ := Follows.of_step_done follows
      cases impossible
  | succ rounds inductionHypothesis =>
      rcases follows_attempt follows with
        ⟨_, -, impossible⟩ | ⟨check, trying, remaining, rfl, -, tries⟩
      · cases impossible
      split at tries
      · cases (Follows.of_done tries).2
      have fetchedTrying : HasFetched client operation trying response := by
        rcases hasFetched_of_attempt tries with fetched | ⟨_, among, again⟩
        · exact fetched
        · obtain ⟨_, later, rfl, goesOn⟩ := Follows.of_step_done again
          exact
            (inductionHypothesis goesOn).mono
              fun _ member => among (.tail _ member)
      exact fetchedTrying.mono (List.subset_append_right _ _)

/-- An execution that returns a response has fetched it. -/
theorem hasFetched_of_executeWithin
    (follows :
      Follows (client.executeWithin operation timeout policy).run exchanges
        (.done (.ok response))) :
    HasFetched client operation exchanges response := by
  obtain ⟨now, _, rfl, limited⟩ := Follows.of_step_done follows
  obtain ⟨rounds, _, rfl, tries⟩ := Follows.of_step_done limited
  exact
    (hasFetched_of_attempts tries).mono
      fun _ member => .tail _ (.tail _ member)

end Executions

section Runs

variable {Thread : Type} [DecidableEq Thread]
variable {client : Client} {works : Thread → Work}
variable {history later : ClientHistory Thread}
variable {current : Thread → Program interface Ending} {final : Traffic}
variable {request : Nat} {response : Wire.Response}

/--
Somebody has received a frame that answers the operation which was registered
for a request under the number of the frame.
-/
def WasAnswered
    (client : Client)
    (works : Thread → Work)
    (history : ClientHistory Thread)
    (request : Nat)
    (response : Wire.Response) : Prop :=
  ∃ receiver frame header entry,
    works receiver = .single (.receive frame) ∧
      Wire.Header.parse frame = .ok header ∧
      (header.correlation, entry) ∈ registrations history ∧
      entry.request = request ∧
      verdict entry.operation frame client.channel = .ok response

omit [DecidableEq Thread] in
theorem WasAnswered.mono
    (answered : WasAnswered client works history request response)
    (isPrefix : history <+: later) :
    WasAnswered client works later request response := by
  obtain ⟨receiver, frame, header, entry, receives, parsed, registered, rest⟩ :=
    answered
  exact
    ⟨receiver, frame, header, entry, receives, parsed,
      ClientRun.registrations_mono isPrefix registered, rest⟩

/-- A request is completed with a success by its answer or by hand. -/
theorem ClientRun.wasAnswered_of_completing
    (run :
      ClientRun (fun thread => (works thread).program client) .empty history
        current final)
    {thread : Thread}
    {next : Bool → Program interface Ending}
    (due :
      current thread =
        .step (.table (.complete request (.succeeded response))) next) :
    WasAnswered client works history request response ∨
      works thread = .single (.complete request (.succeeded response)) := by
  have follows := run.follows thread
  obtain ⟨stage, tends⟩ := ClientRun.exists_tends run thread
  rw [due] at follows tends
  rcases Work.of_declaresSuccess (tends.gives rfl) with
    ⟨frame, receives⟩ | ⟨other, outcome, byHand⟩
  · rw [receives] at follows
    obtain ⟨header, entry, parsed, isEntry, exchanged, isOutcome⟩ :=
      Activity.follows_receiving follows
    -- The entry was in the table when it was taken, so it had been registered.
    obtain ⟨_, _, tookIt⟩ := turn_of_mem_exchangesBy exchanged
    obtain ⟨sooner, _, _, isSooner, reached, -, found⟩ := run.split tookIt
    obtain ⟨_, -, tended⟩ := ClientRun.tended reached
    have registered :=
      tended.inTable (KeyedList.mem_of_find? (semantics_table found).1.symm)
    exact
      .inl ⟨thread, frame, header, entry, receives, parsed,
        registrations_mono isSooner registered, isEntry,
        outcomeOf_eq_succeeded_iff.mp isOutcome.symm⟩
  · rw [byHand] at follows
    rcases Follows.of_step follows with ⟨-, due⟩ | ⟨won, _, -, ended⟩
    · cases due
      exact .inr byHand
    · cases ended.of_done.2

/-- A request has succeeded by its answer or by hand. -/
theorem ClientRun.wasAnswered_of_succeeded
    (run :
      ClientRun (fun thread => (works thread).program client) .empty history
        current final)
    (succeeded : final.outcome? request = some (.succeeded response)) :
    WasAnswered client works history request response ∨
      ∃ thread,
        works thread = .single (.complete request (.succeeded response)) := by
  induction run with
  | start => cases succeeded
  | @turn history current before after thread call next answer run due answered
      inductionHypothesis =>
      have stays :
          before.outcome? request = some (.succeeded response) →
          WasAnswered client works
              (history ++ [.turn thread call answer before after]) request
              response ∨
            ∃ thread,
              works thread =
                .single (.complete request (.succeeded response)) :=
        fun succeededBefore =>
          (inductionHypothesis succeededBefore).imp_left
            (·.mono (List.prefix_append _ _))
      rcases requests_step answered with
        same | ⟨opened, isOpening, -⟩ | ⟨index, outcome, isCompletion, isAfter⟩
      · exact stays (by rwa [Traffic.outcome?, same] at succeeded)
      · subst isOpening
        obtain ⟨stage, tends⟩ := ClientRun.exists_tends run thread
        rw [due] at tends
        have isFresh := tends.of_openRequest
        obtain ⟨_, rfl⟩ := semantics_table answered
        exact
          stays
            (outcome?_openRequest isFresh.isSettled isFresh.not_isCompleted
              succeeded)
      · subst isCompletion isAfter
        rcases outcome?_complete succeeded with before | ⟨rfl, rfl⟩
        · exact stays before
        · have completing := ClientRun.wasAnswered_of_completing run due
          refine completing.imp ?_ fun byHand => ⟨_, byHand⟩
          exact (·.mono (List.prefix_append _ _))
  | outside _ change => exact change.elim

/-- Who was told of a success was told so while the request had succeeded. -/
theorem ClientRun.exists_succeeded_of_hasLearnt
    {programs : Thread → Program interface Ending}
    {first : Traffic}
    (run : ClientRun programs first history current final)
    {thread : Thread}
    (learnt : HasLearnt (exchangesBy thread history) request response) :
    ∃ earlier previous reached,
      earlier <+: history ∧
        ClientRun programs first earlier previous reached ∧
        reached.outcome? request = some (.succeeded response) := by
  rcases learnt with member | ⟨limit, member⟩
  · obtain ⟨_, _, took⟩ := turn_of_mem_exchangesBy member
    obtain ⟨earlier, previous, _, isPrefix, reached, -, answered⟩ :=
      run.split took
    exact ⟨earlier, previous, _, isPrefix, reached, answered.2⟩
  · obtain ⟨_, _, took⟩ := turn_of_mem_exchangesBy member
    obtain ⟨earlier, previous, _, isPrefix, reached, -, answered⟩ :=
      run.split took
    exact ⟨earlier, previous, _, isPrefix, reached, answered.2 _ rfl⟩

/--
An execution that returns a response returns the verdict on a frame that
somebody has received, and the frame carries the number of a request that the
execution has registered.
-/
theorem ClientRun.exists_frame_of_execution
    (run :
      ClientRun (fun thread => (works thread).program client) .empty history
        current final)
    (notByHand : ∀ thread request response,
      works thread ≠ .single (.complete request (.succeeded response)))
    {thread : Thread}
    {operation : Wire.Operation}
    {timeout : Duration}
    {policy : TransientPolicy}
    (executes : works thread = .execution operation timeout policy)
    (returned : current thread = .done (.awaited (.ok response))) :
    let routed := operation.route client.settings.partitionCount
    ∃ receiver frame header request,
      works receiver = .single (.receive frame) ∧
        Wire.Header.parse frame = .ok header ∧
        ⟨.table (.register header.correlation ⟨routed, request⟩), ()⟩ ∈
          exchangesBy thread history ∧
        verdict routed frame client.channel = .ok response := by
  intro routed
  have follows := run.follows thread
  rw [executes, returned] at follows
  obtain ⟨number, request, isRegistered, learnt⟩ :=
    hasFetched_of_executeWithin (Work.follows_of_execution follows)
  obtain ⟨earlier, previous, reached, isPrefix, before, succeeded⟩ :=
    ClientRun.exists_succeeded_of_hasLearnt run learnt
  rcases ClientRun.wasAnswered_of_succeeded before succeeded with
    answered | ⟨other, byHand⟩
  · obtain ⟨receiver, frame, header, entry, receives, parsed, registered,
      isRequest, answers⟩ := answered.mono isPrefix
    -- Both registrations are for the one request, so they are the same.
    obtain ⟨_, -, tended⟩ := ClientRun.tended run
    obtain ⟨_, _, took⟩ := turn_of_mem_exchangesBy isRegistered
    have ownRegistration :=
      mem_registrations_iff.mpr ⟨thread, _, _, took⟩
    have same :=
      tended.toFiled.eq_of_request_eq registered ownRegistration isRequest
    cases same
    exact
      ⟨receiver, frame, header, request, receives, parsed, isRegistered,
        answers⟩
  · exact (notByHand other request response byHand).elim

end Runs

end ClusterClient.Client
