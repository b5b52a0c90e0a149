import ClusterClient.Proofs.Request.Observations

namespace ClusterClient.Request

/-!
# Completing calls beside each other

Any number of threads complete a request, each with its own outcome, while any
number of others observe it. The first completing call to claim the request
goes through a fixed sequence of stages, and at each of them it alone decides
what the request holds. All other completing calls return at once, and an
observer sees the outcome of the winner from the stage on at which it is
published. So the program that every thread has left and what the request holds
go together, and each step of a thread keeps it so.
-/

variable {Value Thread : Type}

/-- What a thread does with a request. -/
inductive Role (Value : Type) where
  | complete (outcome : Outcome Value)
  | observe (questions : List Question)

/-- The program of a thread. -/
def Role.program : Role Value → Program (interface Value) (Ending Value)
  | .complete outcome => do return .completed (← Request.complete outcome)
  | .observe questions => observing [] questions

/-- The thread that claimed the request in a moment. -/
def claimant? :
    Moment (interface Value) Thread (Request Value) → Option Thread
  | .turn thread .claim claimed _ _ =>
      match (claimed : Bool) with
      | true => some thread
      | false => none
  | _ => none

/-- The threads whose claims succeeded, in their order. -/
def claimsIn
    (history : History (interface Value) Thread (Request Value)) :
    List Thread :=
  history.filterMap claimant?

theorem claimsIn_append
    (earlier later : History (interface Value) Thread (Request Value)) :
    claimsIn (earlier ++ later) = claimsIn earlier ++ claimsIn later :=
  List.filterMap_append

theorem claimsIn_singleton
    (moment : Moment (interface Value) Thread (Request Value)) :
    claimsIn [moment] = (claimant? moment).toList := by
  cases claims : claimant? moment <;> simp [claimsIn, claims]

theorem claimant?_of_ne_claim
    {thread : Thread}
    {call : Call Value}
    (other : call ≠ .claim)
    (answer : call.Answer)
    (before after : Request Value) :
    claimant? (.turn thread call answer before after) = none := by
  cases call with
  | claim => exact absurd rfl other
  | recordReason | lockSlot | storeOutcome | publish | unlockSlot | readPhase
  | readReason | readOutcome | awaitOutcome => rfl

/-! ## The stages of the winner -/

/-- What the call that claimed the request does next. -/
inductive Stage where
  | recording
  | locking
  | storing
  | publishing
  | unlocking
  | ended
  deriving DecidableEq

namespace Stage

/-- What is left to do for the call that claimed the request, up to a result. -/
def rest
    {Result : Type}
    (outcome : Outcome Value)
    (result : Result)
    (stage : Stage) : Program (interface Value) Result :=
  let ended := .done result
  let unlocking := .step .unlockSlot fun _ => ended
  let publishing := .step (.publish outcome.phase) fun _ => unlocking
  let storing :=
    .step (.storeOutcome outcome) fun stored =>
      match (stored : Bool) with
      | true => publishing
      | false => unlocking
  let locking := .step .lockSlot fun _ => storing
  match stage with
  | .recording =>
      match outcome.reason? with
      | none => locking
      | some reason => .step (.recordReason reason) fun _ => locking
  | .locking => locking
  | .storing => storing
  | .publishing => publishing
  | .unlocking => unlocking
  | .ended => ended

/-- What the request holds at a stage. -/
def request
    (outcome : Outcome Value)
    (fresh : Request Value) : Stage → Request Value
  | .recording => { fresh with phase := .completing }
  | .locking =>
      { fresh with phase := .completing, reason := outcome.reason? }
  | .storing =>
      { fresh with
        phase := .completing
        reason := outcome.reason?
        slot := ⟨none, true⟩ }
  | .publishing =>
      { fresh with
        phase := .completing
        reason := outcome.reason?
        slot := ⟨some outcome, true⟩ }
  | .unlocking =>
      { fresh with
        phase := outcome.phase
        reason := outcome.reason?
        slot := ⟨some outcome, true⟩ }
  | .ended =>
      { fresh with
        phase := outcome.phase
        reason := outcome.reason?
        slot := ⟨some outcome, false⟩ }

/-- What the observers see at a stage. -/
def published
    (outcome : Outcome Value) : Stage → Option (Outcome Value)
  | .recording | .locking | .storing | .publishing => none
  | .unlocking | .ended => some outcome

end Stage

/-- A completing call claims the request, and then it has won or lost. -/
theorem complete_bind
    {Result : Type}
    (outcome : Outcome Value)
    (result : Bool → Result) :
    (Program.bind (complete outcome) fun won => .done (result won)) =
      .step .claim fun claimed =>
        match (claimed : Bool) with
        | true => Stage.recording.rest outcome (result true)
        | false => .done (result false) :=
  Program.step_congr fun claimed => by
    cases claimed with
    | false => rfl
    | true =>
        -- Only a cancellation has a reason to record before it takes the lock.
        cases outcome with
        | succeeded | failed =>
            exact Program.step_congr fun _ =>
              Program.step_congr fun stored => by cases stored <;> rfl
        | cancelled reason =>
            exact Program.step_congr fun _ => Program.step_congr fun _ =>
              Program.step_congr fun stored => by cases stored <;> rfl

theorem Role.program_complete (outcome : Outcome Value) :
    (Role.complete outcome).program =
      .step .claim fun claimed =>
        match (claimed : Bool) with
        | true => Stage.recording.rest outcome (.completed true)
        | false => .done (.completed false) :=
  complete_bind outcome Ending.completed

/-- Nothing has happened to the request yet. -/
def IsFresh (request : Request Value) : Prop :=
  request.phase = .incomplete ∧ request.reason = none ∧ request.slot = .empty

theorem IsFresh.isSettled
    {request : Request Value}
    (isFresh : request.IsFresh) : request.IsSettled := by
  obtain ⟨timeout, createdAt, context, phase, reason, slot⟩ := request
  obtain ⟨rfl, rfl, rfl⟩ := isFresh
  exact ⟨rfl, nofun, fun _ => ⟨rfl, rfl⟩⟩

/-- A settled request that nobody has claimed is fresh. -/
theorem IsSettled.isFresh
    {request : Request Value}
    (settled : request.IsSettled)
    (incomplete : request.phase = .incomplete) : request.IsFresh := by
  obtain ⟨timeout, createdAt, context, phase, reason, outcome, locked⟩ :=
    request
  obtain ⟨unlocked, -, fresh⟩ := settled
  obtain ⟨noOutcome, noReason⟩ := fresh incomplete
  simp only at unlocked noOutcome noReason
  subst unlocked noOutcome noReason
  exact ⟨incomplete, rfl, rfl⟩

theorem IsFresh.not_isCompleted
    {request : Request Value}
    (isFresh : request.IsFresh) : ¬ request.isCompleted := by
  rw [isCompleted, status, isFresh.1]
  exact Bool.false_ne_true

theorem isFresh_of_create
    {timeout : Duration}
    {createdAt : Instant}
    {context : Context}
    {request : Request Value}
    (created : create timeout createdAt context = .ok request) :
    request.IsFresh := by
  unfold create at created
  split at created
  · cases created
  · cases created
    exact ⟨rfl, rfl, rfl⟩

variable {fresh : Request Value}

theorem Stage.presents
    (isFresh : fresh.IsFresh)
    (outcome : Outcome Value)
    (stage : Stage) :
    (stage.request outcome fresh).Presents (stage.published outcome) := by
  obtain ⟨timeout, createdAt, context, phase, reason, slot⟩ := fresh
  obtain ⟨rfl, rfl, rfl⟩ := isFresh
  constructor
  · cases stage <;> cases outcome <;> rfl
  · cases stage <;> simp [request, published, Slot.empty]
  · cases stage <;> simp +contextual [request, published, Outcome.reason?]

theorem Stage.phase_ne_incomplete
    (outcome : Outcome Value)
    (fresh : Request Value)
    (stage : Stage) :
    (stage.request outcome fresh).phase ≠ .incomplete := by
  cases stage <;> cases outcome <;> simp [request, Outcome.phase]

/-- A request looks completed from the stage on at which its outcome is seen. -/
theorem Stage.isCompleted_iff
    (isFresh : fresh.IsFresh)
    (outcome : Outcome Value)
    (stage : Stage) :
    (stage.request outcome fresh).isCompleted ↔
      stage.published outcome ≠ none := by
  obtain ⟨timeout, createdAt, context, phase, reason, slot⟩ := fresh
  obtain ⟨rfl, rfl, rfl⟩ := isFresh
  cases stage <;> cases outcome <;>
    simp [request, published, Outcome.phase, isCompleted, status, Phase.status]

/-- An outcome that can be read is published. -/
theorem Stage.published_of_readable
    (isFresh : fresh.IsFresh)
    {outcome : Outcome Value}
    {stage : Stage}
    (stored : (stage.request outcome fresh).slot.outcome ≠ none)
    (unlocked : (stage.request outcome fresh).slot.locked = false) :
    stage.published outcome ≠ none := by
  have empty : fresh.slot.outcome = none := by
    rw [isFresh.2.2]
    rfl
  cases stage with
  | recording | locking => exact absurd empty stored
  | storing => exact absurd rfl stored
  | publishing | unlocking => cases unlocked
  | ended => exact Option.some_ne_none outcome

theorem Stage.isSettled_ended
    (fresh : Request Value)
    (outcome : Outcome Value) :
    (Stage.ended.request outcome fresh).IsSettled := by
  refine ⟨rfl, ?_, fun incomplete => ?_⟩
  · cases outcome <;> simp [request, Outcome.phase]
  · exact absurd incomplete (Stage.phase_ne_incomplete outcome fresh .ended)

/-- Nobody stands in the way of the winner. -/
theorem Stage.run_rest
    {Result : Type}
    (isFresh : fresh.IsFresh)
    (outcome : Outcome Value)
    (result : Result)
    (stage : Stage) :
    machine.run (stage.rest outcome result) (stage.request outcome fresh) =
      some (result, Stage.ended.request outcome fresh) := by
  obtain ⟨timeout, createdAt, context, phase, reason, slot⟩ := fresh
  obtain ⟨rfl, rfl, rfl⟩ := isFresh
  cases stage <;> cases outcome <;> rfl

theorem Stage.exists_step
    {Result : Type}
    {stage : Stage}
    (notEnded : stage ≠ .ended)
    (outcome : Outcome Value)
    (result : Result) :
    ∃ call next, stage.rest outcome result = .step call next := by
  cases stage with
  | recording => cases outcome <;> exact ⟨_, _, rfl⟩
  | locking | storing | publishing | unlocking => exact ⟨_, _, rfl⟩
  | ended => exact absurd rfl notEnded

/-- Each step of the winner leads to a later stage. -/
theorem Stage.turn
    {fresh after : Request Value}
    {outcome : Outcome Value}
    {stage : Stage}
    {Result : Type}
    {result : Result}
    {call : Call Value}
    {next : call.Answer → Program (interface Value) Result}
    {answer : call.Answer}
    (isFresh : fresh.IsFresh)
    (due : stage.rest outcome result = .step call next)
    (answered :
      machine call (stage.request outcome fresh) = some (answer, after)) :
    call ≠ .claim ∧
      ∃ later : Stage,
        next answer = later.rest outcome result ∧
          after = later.request outcome fresh ∧
          (stage.published outcome = none ∨
            later.published outcome = stage.published outcome) := by
  obtain ⟨timeout, createdAt, context, phase, reason, slot⟩ := fresh
  obtain ⟨rfl, rfl, rfl⟩ := isFresh
  cases stage with
  | recording =>
      cases outcome with
      | succeeded | failed =>
          -- There is no reason to record, so this step takes the lock already.
          cases due
          cases answered
          exact ⟨nofun, .storing, rfl, rfl, .inl rfl⟩
      | cancelled reason =>
          cases due
          cases answered
          exact ⟨nofun, .locking, rfl, rfl, .inl rfl⟩
  | locking =>
      cases due
      cases answered
      exact ⟨nofun, .storing, rfl, rfl, .inl rfl⟩
  | storing =>
      cases due
      cases answered
      exact ⟨nofun, .publishing, rfl, rfl, .inl rfl⟩
  | publishing =>
      cases due
      cases answered
      exact ⟨nofun, .unlocking, rfl, rfl, .inl rfl⟩
  | unlocking =>
      cases due
      cases answered
      exact ⟨nofun, .ended, rfl, rfl, .inr rfl⟩
  | ended => cases due

theorem Stage.eq_ended_of_done
    {Result : Type}
    {outcome : Outcome Value}
    {stage : Stage}
    {result ending : Result}
    (due : stage.rest outcome result = .done ending) :
    stage = .ended ∧ ending = result := by
  cases stage with
  | ended =>
      cases due
      exact ⟨rfl, rfl⟩
  | recording => cases outcome <;> cases due
  | locking | storing | publishing | unlocking => cases due

/-! ## Everybody else -/

/--
What a thread that has not claimed the request may be about to do, given the
claims and the published outcome. Only after a claim can another call have lost.
-/
inductive Aside
    (claims : List Thread)
    (published : Option (Outcome Value)) :
    Role Value → Program (interface Value) (Ending Value) → Prop where
  | waiting {outcome : Outcome Value} :
      Aside claims published (.complete outcome)
        (Role.complete outcome).program
  | lost {outcome : Outcome Value} (claimed : claims ≠ []) :
      Aside claims published (.complete outcome) (.done (.completed false))
  | watching
      {questions : List Question}
      {program : Program (interface Value) (Ending Value)}
      (watching : Watching published questions program) :
      Aside claims published (.observe questions) program

/-- A completing call that has returned beside the winner has lost. -/
theorem Aside.of_done
    {claims : List Thread}
    {published : Option (Outcome Value)}
    {outcome : Outcome Value}
    {ending : Ending Value}
    (aside : Aside claims published (.complete outcome) (.done ending)) :
    claims ≠ [] ∧ ending = .completed false := by
  generalize due : (.done ending : Program (interface Value) _) = program
    at aside
  cases aside with
  | waiting =>
      rw [Role.program_complete] at due
      cases due
  | lost claimed =>
      cases due
      exact ⟨claimed, rfl⟩

/-- Claims and a published outcome may come up meanwhile. -/
theorem Aside.mono
    {claims more : List Thread}
    {published later : Option (Outcome Value)}
    {role : Role Value}
    {program : Program (interface Value) (Ending Value)}
    (aside : Aside claims published role program)
    (grows : claims ≠ [] → more ≠ [])
    (stays : published = none ∨ later = published) :
    Aside more later role program := by
  cases aside with
  | waiting => exact .waiting
  | lost claimed => exact .lost (grows claimed)
  | watching watching =>
      rcases stays with rfl | rfl
      · exact .watching (watching.publish later)
      · exact .watching watching

theorem Aside.read
    {claims : List Thread}
    {published : Option (Outcome Value)}
    {questions : List Question}
    {request after : Request Value}
    {call : Call Value}
    {next : call.Answer → Program (interface Value) (Ending Value)}
    {answer : call.Answer}
    (presents : request.Presents published)
    (watching : Watching published questions (.step call next))
    (answered : machine call request = some (answer, after)) :
    after = request ∧
      (∀ thread : Thread,
        claimant? (.turn thread call answer request after) = none) ∧
      Aside claims published (.observe questions) (next answer) := by
  have reads := watching.isReading
  have noClaim : call ≠ .claim := by
    rintro rfl
    cases reads
  exact
    ⟨eq_of_isReading reads answered,
      fun thread => claimant?_of_ne_claim noClaim answer request after,
      .watching (watching.turn presents answered)⟩

/-- Once the request is claimed, the steps of all others change nothing. -/
theorem Aside.turn
    {claims : List Thread}
    {published : Option (Outcome Value)}
    {role : Role Value}
    {request after : Request Value}
    {call : Call Value}
    {next : call.Answer → Program (interface Value) (Ending Value)}
    {answer : call.Answer}
    (presents : request.Presents published)
    (claimed : claims ≠ [])
    (taken : request.phase ≠ .incomplete)
    (aside : Aside claims published role (.step call next))
    (answered : machine call request = some (answer, after)) :
    after = request ∧
      (∀ thread : Thread,
        claimant? (.turn thread call answer request after) = none) ∧
      Aside claims published role (next answer) := by
  generalize due : (.step call next : Program (interface Value) _) = program
    at aside
  cases aside with
  | waiting =>
      rw [Role.program_complete] at due
      cases due
      rw [machine, if_neg taken] at answered
      cases answered
      exact ⟨rfl, fun _ => rfl, .lost claimed⟩
  | lost => cases due
  | watching watching =>
      subst due
      exact Aside.read presents watching answered

/-- As long as nobody has claimed the request, a step claims it or reads. -/
theorem Aside.turn_of_fresh
    {role : Role Value}
    {fresh after : Request Value}
    {call : Call Value}
    {next : call.Answer → Program (interface Value) (Ending Value)}
    {answer : call.Answer}
    (isFresh : fresh.IsFresh)
    (presents : fresh.Presents none)
    (aside : Aside ([] : List Thread) none role (.step call next))
    (answered : machine call fresh = some (answer, after)) :
    (∃ outcome,
      role = .complete outcome ∧
        (∀ thread : Thread,
          claimant? (.turn thread call answer fresh after) = some thread) ∧
        next answer = Stage.recording.rest outcome (.completed true) ∧
        after = Stage.recording.request outcome fresh) ∨
      after = fresh ∧
        (∀ thread : Thread,
          claimant? (.turn thread call answer fresh after) = none) ∧
        Aside ([] : List Thread) none role (next answer) := by
  generalize due : (.step call next : Program (interface Value) _) = program
    at aside
  cases aside with
  | @waiting outcome =>
      rw [Role.program_complete] at due
      cases due
      rw [machine, if_pos isFresh.1] at answered
      cases answered
      exact .inl ⟨outcome, rfl, fun _ => rfl, rfl, rfl⟩
  | lost claimed => exact absurd rfl claimed
  | watching watching =>
      subst due
      exact .inr (Aside.read presents watching answered)

/-! ## All threads together -/

/-- The one thread that has claimed the request completes it in this way. -/
def IsWonBy
    (roles : Thread → Role Value)
    (claims : List Thread)
    (winner : Thread)
    (outcome : Outcome Value) : Prop :=
  claims = [winner] ∧ roles winner = .complete outcome

theorem IsWonBy.unique
    {roles : Thread → Role Value}
    {claims : List Thread}
    {winner other : Thread}
    {outcome second : Outcome Value}
    (won : IsWonBy roles claims winner outcome)
    (also : IsWonBy roles claims other second) : outcome = second := by
  obtain ⟨rfl, completes⟩ := won
  obtain ⟨same, otherCompletes⟩ := also
  cases same
  cases completes.symm.trans otherCompletes
  rfl

/--
How all threads stand: either nobody has claimed the request, which is as
fresh as in the beginning, or one of them has and everybody else stands aside.
-/
inductive Standing
    (roles : Thread → Role Value)
    (fresh : Request Value) :
    List Thread → Option (Outcome Value) →
    (Thread → Program (interface Value) (Ending Value)) →
    Request Value → Prop where
  | unclaimed
      {current : Thread → Program (interface Value) (Ending Value)}
      (aside : ∀ thread, Aside ([] : List Thread) none (roles thread)
        (current thread)) :
      Standing roles fresh [] none current fresh
  | claimed
      {current : Thread → Program (interface Value) (Ending Value)}
      {winner : Thread}
      {outcome : Outcome Value}
      {stage : Stage}
      (completes : roles winner = .complete outcome)
      (due : current winner = stage.rest outcome (.completed true))
      (aside : ∀ thread, thread ≠ winner →
        Aside [winner] (stage.published outcome) (roles thread)
          (current thread)) :
      Standing roles fresh [winner] (stage.published outcome) current
        (stage.request outcome fresh)

namespace Standing

variable {roles : Thread → Role Value}
variable {fresh before after : Request Value}
variable {claims : List Thread}
variable {published : Option (Outcome Value)}
variable {current : Thread → Program (interface Value) (Ending Value)}
variable {thread : Thread}

theorem presents
    (isFresh : fresh.IsFresh)
    (standing : Standing roles fresh claims published current before) :
    before.Presents published := by
  cases standing with
  | unclaimed =>
      obtain ⟨incomplete, -, empty⟩ := isFresh
      refine ⟨?_, fun _ => by rw [empty]; rfl, nofun⟩
      rw [status, incomplete]
      rfl
  | claimed => exact Stage.presents isFresh _ _

/-- What is published is the outcome of the winner, with its phase. -/
theorem of_published
    {outcome : Outcome Value}
    (standing : Standing roles fresh claims (some outcome) current before) :
    (∃ winner, IsWonBy roles claims winner outcome) ∧
      before.slot.outcome = some outcome ∧
      before.status = outcome.phase.status := by
  generalize isPublished : some outcome = published at standing
  cases standing with
  | unclaimed => cases isPublished
  | @claimed current winner _ stage completes =>
      cases stage with
      | recording | locking | storing | publishing => cases isPublished
      | unlocking | ended =>
          cases isPublished
          exact ⟨⟨winner, rfl, completes⟩, rfl, rfl⟩

theorem length_claims_le
    (standing : Standing roles fresh claims published current before) :
    claims.length ≤ 1 := by
  cases standing <;> simp

theorem watching
    {questions : List Question}
    (standing : Standing roles fresh claims published current before)
    (observes : roles thread = .observe questions) :
    Watching published questions (current thread) := by
  have aside : Aside claims published (roles thread) (current thread) := by
    cases standing with
    | unclaimed aside => exact aside thread
    | claimed completes due aside =>
        refine aside thread ?_
        rintro rfl
        rw [completes] at observes
        cases observes
  rw [observes] at aside
  cases aside with
  | watching watching => exact watching

theorem exists_published
    (isFresh : fresh.IsFresh)
    (standing : Standing roles fresh claims published current before)
    (completed : before.status ≠ .incomplete) :
    ∃ outcome, published = some outcome := by
  rw [(standing.presents isFresh).status] at completed
  cases published with
  | none => exact absurd rfl completed
  | some outcome => exact ⟨outcome, rfl⟩

/-- There is a reason to be read exactly while the request looks cancelled. -/
theorem cancellation?_eq_some_iff
    (isFresh : fresh.IsFresh)
    (standing : Standing roles fresh claims published current before)
    (reason : Cancellation) :
    before.cancellation? = some reason ↔
      before.status = .cancelled ∧
        ∃ winner, IsWonBy roles claims winner (.cancelled reason) := by
  have presents := standing.presents isFresh
  rw [presents.cancellation?_eq]
  constructor
  · intro isReason
    have isPublished : published = some (.cancelled reason) := by
      rcases published with _ | _ | _ | other <;> cases isReason
      rfl
    subst isPublished
    obtain ⟨won, -, cancelled⟩ := standing.of_published
    exact ⟨cancelled, won⟩
  · rintro ⟨cancelled, winner, won⟩
    obtain ⟨other, rfl⟩ := presents.exists_reason cancelled
    obtain ⟨⟨_, also⟩, -⟩ := standing.of_published
    cases won.unique also
    rfl

variable [DecidableEq Thread]

/-- When the completing calls have returned, one of them has won. -/
theorem of_ended
    (standing : Standing roles fresh claims published current before)
    (completes : ∃ thread outcome, roles thread = .complete outcome)
    (ended : ∀ thread outcome,
      roles thread = .complete outcome →
      ∃ ending, current thread = .done ending) :
    ∃ winner outcome,
      IsWonBy roles claims winner outcome ∧
        published = some outcome ∧
        before.slot.locked = false ∧
        ∀ thread other,
          roles thread = .complete other →
          current thread = .done (.completed (thread = winner)) := by
  cases standing with
  | unclaimed aside =>
      obtain ⟨thread, outcome, completes⟩ := completes
      obtain ⟨ending, isEnded⟩ := ended thread outcome completes
      have asideNow := aside thread
      rw [completes, isEnded] at asideNow
      exact absurd rfl asideNow.of_done.1
  | @claimed current winner outcome stage isComplete due aside =>
      obtain ⟨ending, isEnded⟩ := ended winner outcome isComplete
      rw [due] at isEnded
      obtain ⟨rfl, rfl⟩ := Stage.eq_ended_of_done isEnded
      refine ⟨winner, outcome, ⟨rfl, isComplete⟩, rfl, rfl, ?_⟩
      intro thread other completes
      by_cases own : thread = winner
      · subst own
        simpa using due.trans isEnded
      · have asideNow := aside thread own
        obtain ⟨ending, isEnded⟩ := ended thread other completes
        rw [completes, isEnded] at asideNow
        rw [isEnded, asideNow.of_done.2]
        simp [own]

/-- One more step keeps everybody's standing, and keeps what is published. -/
theorem turn
    {call : Call Value}
    {next : call.Answer → Program (interface Value) (Ending Value)}
    {answer : call.Answer}
    (isFresh : fresh.IsFresh)
    (standing : Standing roles fresh claims published current before)
    (due : current thread = .step call next)
    (answered : machine call before = some (answer, after)) :
    ∃ later,
      Standing roles fresh
          (claims ++
            (claimant? (.turn thread call answer before after)).toList)
          later (Function.update current thread (next answer)) after ∧
        (published = none ∨ later = published) := by
  have presents := standing.presents isFresh
  cases standing with
  | unclaimed aside =>
      have asideNow := aside thread
      rw [due] at asideNow
      rcases asideNow.turn_of_fresh isFresh presents answered with
        ⟨outcome, completes, claims, goesOn, rfl⟩ | ⟨rfl, noClaim, goesOn⟩
      · -- This is the first claim, so nobody else has lost or seen anything.
        rw [claims]
        refine ⟨_, .claimed completes (by rw [Function.update_self, goesOn]) ?_,
          .inl rfl⟩
        intro other notWinner
        rw [Function.update_of_ne notWinner]
        exact (aside other).mono (absurd rfl) (.inl rfl)
      · rw [noClaim]
        refine ⟨none, .unclaimed ?_, .inl rfl⟩
        exact
          (Function.forall_update_iff current fun other program =>
            Aside [] none (roles other) program).mpr
              ⟨goesOn, fun other _ => aside other⟩
  | @claimed current winner outcome stage completes isDue aside =>
      by_cases own : thread = winner
      · subst own
        rw [isDue] at due
        obtain ⟨noClaim, later, goesOn, rfl, stays⟩ :=
          Stage.turn isFresh due answered
        rw [claimant?_of_ne_claim noClaim]
        refine ⟨_, .claimed completes (by rw [Function.update_self, goesOn]) ?_,
          stays⟩
        intro other notWinner
        rw [Function.update_of_ne notWinner]
        exact (aside other notWinner).mono id stays
      · have asideNow := aside thread own
        rw [due] at asideNow
        obtain ⟨rfl, noClaim, goesOn⟩ :=
          asideNow.turn presents (by simp)
            (Stage.phase_ne_incomplete outcome fresh stage) answered
        rw [noClaim]
        refine ⟨_, .claimed completes ?_ ?_, .inr rfl⟩
        · rw [Function.update_of_ne (Ne.symm own), isDue]
        · exact
            (Function.forall_update_iff current fun other program =>
              other ≠ winner → Aside [winner] _ (roles other) program).mpr
                ⟨fun _ => goesOn, fun other _ => aside other⟩

end Standing

end ClusterClient.Request
