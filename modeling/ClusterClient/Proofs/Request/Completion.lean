import ClusterClient.Proofs.Request.Standing

namespace ClusterClient.Request

/-!
# A request is completed exactly once

Programs that complete and observe one request take their steps in any order.
By induction on the run every step keeps the standing of the threads, and the
main statement collects what this means for the callers: who has won, what the
observers see meanwhile, and what everybody has got in the end.
-/

variable {Value Thread : Type}
variable [DecidableEq Thread]

/-- Runs of programs on one request. -/
abbrev RequestRun {Value Thread : Type} [DecidableEq Thread] :=
  @Run (interface Value) Thread (Request Value) (Ending Value) _
    machine.semantics (fun _ _ => False)

variable {roles : Thread → Role Value}
variable {previous current : Thread → Program (interface Value) (Ending Value)}
variable {request middle final : Request Value}
variable {history : History (interface Value) Thread (Request Value)}

/-- A run keeps everybody's standing, and keeps what is published. -/
theorem Standing.run
    {claims : List Thread}
    {published : Option (Outcome Value)}
    (isFresh : request.IsFresh)
    (standing : Standing roles request claims published previous middle)
    (run : RequestRun previous middle history current final) :
    ∃ later,
      Standing roles request (claims ++ claimsIn history) later current final ∧
        (published = none ∨ later = published) := by
  induction run with
  | start => exact ⟨published, by simpa [claimsIn] using standing, .inr rfl⟩
  | turn _ due answered inductionHypothesis =>
      obtain ⟨meanwhile, standing, kept⟩ := inductionHypothesis
      obtain ⟨later, stands, stays⟩ := standing.turn isFresh due answered
      refine ⟨later, ?_, ?_⟩
      · rw [claimsIn_append, claimsIn_singleton, ← List.append_assoc]
        exact stands
      · rcases kept with isNone | rfl
        · exact .inl isNone
        · exact stays
  | outside _ change => exact change.elim

theorem standing_of_run
    (isFresh : request.IsFresh)
    (run :
      RequestRun (fun thread => (roles thread).program) request history current
        final) :
    ∃ published,
      Standing roles request (claimsIn history) published current final := by
  have initially :
      Standing roles request [] none (fun thread => (roles thread).program)
        request := by
    refine .unclaimed fun thread => ?_
    cases roles thread with
    | complete outcome => exact .waiting
    | observe questions => exact .watching (.asking rfl (witnessed_nil none))
  obtain ⟨published, standing, -⟩ := initially.run isFresh run
  exact ⟨published, standing⟩

/-- A completed request stays completed, with the same outcome. -/
theorem completed_stays
    {earlier later : History (interface Value) Thread (Request Value)}
    (isFresh : request.IsFresh)
    (first :
      RequestRun (fun thread => (roles thread).program) request earlier previous
        middle)
    (second : RequestRun previous middle later current final)
    (completed : middle.status ≠ .incomplete) :
    final.status = middle.status ∧
      final.slot.outcome = middle.slot.outcome := by
  obtain ⟨published, standing⟩ := standing_of_run isFresh first
  obtain ⟨outcome, rfl⟩ := standing.exists_published isFresh completed
  obtain ⟨later, stands, stays⟩ := standing.run isFresh second
  obtain rfl := stays.resolve_left nofun
  obtain ⟨-, stored, shown⟩ := standing.of_published
  obtain ⟨-, storedLater, shownLater⟩ := stands.of_published
  exact ⟨shownLater.trans shown.symm, storedLater.trans stored.symm⟩

/-- Whoever reads the reason of a cancellation reads that of the winner. -/
theorem reason_of_read
    (isFresh : request.IsFresh)
    (run :
      RequestRun (fun thread => (roles thread).program) request history current
        final)
    {thread : Thread}
    {questions : List Question}
    {answer : Option Cancellation}
    {before after : Request Value}
    (observes : roles thread = .observe questions)
    (member : .turn thread .readReason answer before after ∈ history) :
    ∃ winner reason,
      IsWonBy roles (claimsIn history) winner (.cancelled reason) ∧
        answer = some reason := by
  obtain ⟨earlier, previous, next, isPrefix, reached, due, answered⟩ :=
    run.split member
  obtain ⟨published, standing⟩ := standing_of_run isFresh reached
  have watching := standing.watching observes
  rw [due] at watching
  obtain ⟨reason, rfl⟩ := watching.exists_reason
  obtain ⟨⟨winner, isWinner, completes⟩, -⟩ := standing.of_published
  refine ⟨winner, reason, ⟨?_, completes⟩, ?_⟩
  · obtain ⟨rest, rfl⟩ := isPrefix
    obtain ⟨later, standing⟩ := standing_of_run isFresh run
    have atMostOne := standing.length_claims_le
    rw [claimsIn_append, isWinner] at atMostOne ⊢
    simpa using atMostOne
  · cases answered
    exact (standing.presents isFresh).reason reason rfl

/--
The question for the reason, asked on its own, is answered with the reason of
the winner if the phase that is read first is that of a cancelled request, and
with none otherwise.
-/
theorem reason_observed
    (isFresh : request.IsFresh)
    (run :
      RequestRun (fun thread => (roles thread).program) request history current
        final)
    {thread : Thread}
    {result : Option Cancellation}
    (observes : roles thread = .observe [.reason])
    (ended : current thread = .done (.observed [.reason result])) :
    ∃ (phase : Phase) (rest : List (Exchange (interface Value))),
      exchangesBy thread history = ⟨.readPhase, phase⟩ :: rest ∧
        ∀ reason,
          result = some reason ↔
            phase.status = .cancelled ∧
              ∃ winner,
                IsWonBy roles (claimsIn history) winner
                  (.cancelled reason) := by
  have follows := run.follows thread
  simp only [observes, Role.program] at follows
  rw [observing_reason, ended] at follows
  obtain ⟨phase, rest, exchanged, goesOn⟩ := follows.of_step_done
  refine ⟨phase, rest, exchanged, fun reason => ?_⟩
  change Follows (ite (Phase.status phase = .cancelled) _ _) _ _ at goesOn
  split at goesOn
  · rename_i cancelled
    obtain ⟨answer, last, rfl, ends⟩ := goesOn.of_step_done
    cases ends.of_done.2
    obtain ⟨before, after, member⟩ :
        ∃ before after,
          .turn thread .readReason result before after ∈ history :=
      turn_of_mem_exchangesBy (by simp [exchanged])
    obtain ⟨winner, winning, won, rfl⟩ :=
      reason_of_read isFresh run observes member
    constructor
    · intro same
      cases same
      exact ⟨cancelled, winner, won⟩
    · rintro ⟨-, other, also⟩
      cases won.unique also
      rfl
  · rename_i notCancelled
    cases goesOn.of_done.2
    simp [notCancelled]

/--
Whatever the order of the steps, at most one call claims a request, and a
request that looks completed holds the outcome of that call. From the first
answer on that an incomplete request does not give, all answers to an observer
are those that go with this outcome; in particular a request looks cancelled
exactly when there is a reason to be read, that of the winner. A completed
request stays as it is. When all completing calls have returned, exactly one has
won, and every observer ends, or has ended, with its outcome.
-/
theorem completes_exactly_once
    {timeout : Duration}
    {createdAt : Instant}
    {context : Context}
    {earlier later : History (interface Value) Thread (Request Value)}
    (created : create timeout createdAt context = .ok request)
    (first :
      RequestRun (fun thread => (roles thread).program) request earlier previous
        middle)
    (second : RequestRun previous middle later current final) :
    (claimsIn (earlier ++ later)).length ≤ 1 ∧
      (final.status ≠ .incomplete →
        ∃ winner outcome,
          IsWonBy roles (claimsIn (earlier ++ later)) winner outcome ∧
            final.slot.outcome = some outcome ∧
            final.status = outcome.phase.status) ∧
      (∀ thread questions observations,
        roles thread = .observe questions →
        current thread = .done (.observed observations) →
        observations.map Observation.question = questions ∧
          ∀ before first after,
            observations = before ++ first :: after →
            ¬ first.Shows none →
            ∃ winner outcome,
              IsWonBy roles (claimsIn (earlier ++ later)) winner outcome ∧
                ∀ observation ∈ first :: after,
                  observation.Shows (some outcome)) ∧
      (∀ reason,
        final.cancellation? = some reason ↔
          final.status = .cancelled ∧
            ∃ winner,
              IsWonBy roles (claimsIn (earlier ++ later)) winner
                (.cancelled reason)) ∧
      (∀ thread result,
        roles thread = .observe [.reason] →
        current thread = .done (.observed [.reason result]) →
        ∃ (phase : Phase) (rest : List (Exchange (interface Value))),
          exchangesBy thread (earlier ++ later) = ⟨.readPhase, phase⟩ :: rest ∧
            ∀ reason,
              result = some reason ↔
                phase.status = .cancelled ∧
                  ∃ winner,
                    IsWonBy roles (claimsIn (earlier ++ later)) winner
                      (.cancelled reason)) ∧
      (middle.status ≠ .incomplete →
        final.status = middle.status ∧
          final.slot.outcome = middle.slot.outcome) ∧
      ((∃ thread outcome, roles thread = .complete outcome) →
        (∀ thread outcome,
          roles thread = .complete outcome →
          ∃ ending, current thread = .done ending) →
        ∃ winner outcome,
          IsWonBy roles (claimsIn (earlier ++ later)) winner outcome ∧
            (∀ thread other,
              roles thread = .complete other →
              current thread = .done (.completed (thread = winner))) ∧
            ∀ thread questions,
              roles thread = .observe questions →
              ∃ observations,
                machine.run (current thread) final =
                    some (.observed observations, final) ∧
                  observations.map Observation.question = questions ∧
                  ∀ result,
                    .result result ∈ observations →
                    result = outcome.toResult) := by
  have isFresh := isFresh_of_create created
  have run := first.append second
  obtain ⟨published, standing⟩ := standing_of_run isFresh run
  have presents := standing.presents isFresh
  refine ⟨standing.length_claims_le, ?_, ?_, ?_, ?_, ?_, ?_⟩
  · intro completed
    obtain ⟨outcome, rfl⟩ := standing.exists_published isFresh completed
    obtain ⟨⟨winner, won⟩, held⟩ := standing.of_published
    exact ⟨winner, outcome, won, held⟩
  · intro thread questions observations observes ended
    have watching := standing.watching observes
    rw [ended] at watching
    obtain ⟨_, same, asked, witnessed⟩ := watching.of_done
    cases same
    refine ⟨asked, ?_⟩
    rintro before first after rfl completed
    have shows := witnessed.shows_of_not_none completed
    cases published with
    | none => exact absurd (shows first (by simp)) completed
    | some outcome =>
        obtain ⟨⟨winner, won⟩, -⟩ := standing.of_published
        exact ⟨winner, outcome, won, shows⟩
  · exact standing.cancellation?_eq_some_iff isFresh
  · intro thread result observes ended
    exact reason_observed isFresh run observes ended
  · exact completed_stays isFresh first second
  · intro completes ended
    obtain ⟨winner, outcome, won, rfl, unlocked, returned⟩ :=
      standing.of_ended completes ended
    refine ⟨winner, outcome, won, returned, ?_⟩
    intro thread questions observes
    obtain ⟨observations, runs, asked, witnessed⟩ :=
      (standing.watching observes).run presents unlocked
    refine ⟨observations, runs, asked, ?_⟩
    intro result waited
    obtain ⟨_, same, rfl⟩ := witnessed.result waited
    cases same
    rfl

/-- Four threads: two complete a request, and two observe it. -/
inductive Party where
  | succeeder
  | canceller
  | watcher
  | asker
  deriving DecidableEq

/-- What the four threads do. -/
def racing : Party → Role Nat
  | .succeeder => .complete (.succeeded 7)
  | .canceller => .complete (.cancelled .timeout)
  | .watcher => .observe [.status, .outcome, .result]
  | .asker => .observe [.reason]

/-- A request that nobody has claimed. -/
def unclaimed : Request Nat where
  timeout := .ofMilliseconds 2500
  createdAt := ⟨0⟩
  context := ⟨1, "get", none⟩
  phase := .incomplete
  reason := none
  slot := .empty

/-- The canceller goes up to the publication, between two other threads. -/
def cancelling : Replay (interface Nat) Party (Request Nat) (Ending Nat) :=
  machine.replay
    [.canceller, .succeeder, .watcher, .canceller, .canceller, .canceller,
      .canceller]
    (fun party => (racing party).program) unclaimed

/-- The slot is still locked for the first turn of the watcher. -/
def cancelled : Replay (interface Nat) Party (Request Nat) (Ending Nat) :=
  machine.replay [.watcher, .asker, .canceller, .watcher, .asker]
    cancelling.programs cancelling.state

/-- The canceller wins, and the watcher is about to get its outcome. -/
theorem completes_exactly_once_race :
    cancelling.state.status = .cancelled ∧
      cancelled.state.status = cancelling.state.status ∧
      ∃ winner outcome,
        IsWonBy racing (claimsIn (cancelling.history ++ cancelled.history))
            winner outcome ∧
          (∀ party other,
            racing party = .complete other →
            cancelled.programs party = .done (.completed (party = winner))) ∧
          ∃ observations,
            machine.run (cancelled.programs .watcher) cancelled.state =
                some (.observed observations, cancelled.state) ∧
              ∀ result,
                .result result ∈ observations → result = outcome.toResult := by
  have created :
      create (.ofMilliseconds 2500) ⟨0⟩ ⟨1, "get", none⟩ = .ok unclaimed := rfl
  have first :
      RequestRun (fun party => (racing party).program) unclaimed
        cancelling.history cancelling.programs cancelling.state :=
    Run.replay machine _ _ _
  have second :
      RequestRun cancelling.programs cancelling.state cancelled.history
        cancelled.programs cancelled.state :=
    Run.replay machine _ _ _
  obtain ⟨-, -, -, -, -, stays, whenReturned⟩ :=
    completes_exactly_once created first second
  obtain ⟨winner, outcome, won, returned, observed⟩ :=
    whenReturned ⟨.canceller, _, rfl⟩ fun party outcome completes => by
      cases party with
      | succeeder | canceller => exact ⟨_, rfl⟩
      | watcher | asker => cases completes
  obtain ⟨observations, runs, -, results⟩ := observed .watcher _ rfl
  exact
    ⟨rfl, (stays (by decide)).1, winner, outcome, won, returned, observations,
      runs, results⟩

end ClusterClient.Request
