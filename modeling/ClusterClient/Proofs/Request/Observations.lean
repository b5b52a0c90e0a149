import ClusterClient.Proofs.Trace
import ClusterClient.Request.Lifecycle

namespace ClusterClient.Request

/-!
# What observers find out about a request

An observer asks questions about a request, one after the other, while others
complete it. What a request answers depends on its published outcome alone: as
long as there is none it looks incomplete, and once there is one every question
is answered from it. Since a published outcome stays, the answers that an
observer gets fall into two parts, those from before the outcome was published
and those from after it.
-/

variable {Value : Type}

/-- What an observer can ask about a request. -/
inductive Question where
  | status
  | outcome
  | reason
  | result
  deriving Repr, DecidableEq

/-- An answer that an observer got. -/
inductive Observation (Value : Type) where
  | status (status : Status)
  | outcome (outcome : Option (Outcome Value))
  | reason (reason : Option Cancellation)
  | result (result : Except Error Value)

/-- The question that was answered. -/
def Observation.question : Observation Value → Question
  | .status _ => .status
  | .outcome _ => .outcome
  | .reason _ => .reason
  | .result _ => .result

/-- Ask a question. -/
def Question.program :
    Question → Program (interface Value) (Observation Value)
  | .status => do return .status (← observeStatus)
  | .outcome => do return .outcome (← observeOutcome)
  | .reason => do return .reason (← observeReason)
  | .result => do return .result (← await)

/--
The answer to a question, given the published outcome. Without one there is no
result to wait for.
-/
def Question.answer?
    (published : Option (Outcome Value)) :
    Question → Option (Observation Value)
  | .status =>
      some (.status (published.elim .incomplete (·.phase.status)))
  | .outcome => some (.outcome published)
  | .reason => some (.reason (published.bind Outcome.reason?))
  | .result => published.map fun outcome => .result outcome.toResult

theorem Observation.question_of_answer?
    {published : Option (Outcome Value)}
    {question : Question}
    {observation : Observation Value}
    (answered : question.answer? published = some observation) :
    observation.question = question := by
  cases question with
  | status | outcome | reason =>
      cases answered
      rfl
  | result =>
      obtain ⟨outcome, -, same⟩ := Option.map_eq_some_iff.mp answered
      cases same
      rfl

/-- An observation is the answer that goes with a published outcome. -/
def Observation.Shows
    (published : Option (Outcome Value))
    (observation : Observation Value) : Prop :=
  observation.question.answer? published = some observation

/-- The call only reads the request. -/
def Call.isReading : Call Value → Bool
  | .readPhase | .readReason | .readOutcome | .awaitOutcome => true
  | _ => false

/-- The outcome is read only while nobody holds the lock of the slot. -/
theorem of_readOutcome
    {request after : Request Value}
    {answer : Option (Outcome Value)}
    (answered : machine .readOutcome request = some (answer, after)) :
    request.slot.locked = false ∧
      request.slot.outcome = answer ∧ after = request := by
  simp only [machine] at answered
  split at answered
  · cases answered
  · rename_i unlocked
    cases answered
    exact ⟨by simpa using unlocked, rfl, rfl⟩

/-- A waiter goes on once there is an outcome and nobody holds the lock. -/
theorem of_awaitOutcome
    {request after : Request Value}
    {answer : Outcome Value}
    (answered : machine .awaitOutcome request = some (answer, after)) :
    request.slot.locked = false ∧
      request.slot.outcome = some answer ∧ after = request := by
  simp only [machine] at answered
  split at answered
  · cases answered
  · rename_i unlocked
    split at answered
    · cases answered
    · rename_i outcome stored
      cases answered
      exact ⟨by simpa using unlocked, stored, rfl⟩

theorem eq_of_isReading
    {request after : Request Value}
    {call : Call Value}
    {answer : call.Answer}
    (reads : call.isReading)
    (answered : machine call request = some (answer, after)) :
    after = request := by
  cases call with
  | readPhase | readReason =>
      cases answered
      rfl
  | readOutcome => exact (of_readOutcome answered).2.2
  | awaitOutcome => exact (of_awaitOutcome answered).2.2
  | claim | recordReason | lockSlot | storeOutcome | publish | unlockSlot =>
      cases reads

/-- Nothing that reads is refused once there is an outcome. -/
theorem exists_answer_of_isReading
    {request : Request Value}
    {call : Call Value}
    {outcome : Outcome Value}
    (reads : call.isReading)
    (unlocked : request.slot.locked = false)
    (stored : request.slot.outcome = some outcome) :
    ∃ answer, machine call request = some (answer, request) := by
  cases call with
  | readPhase | readReason => exact ⟨_, rfl⟩
  | readOutcome => exact ⟨some outcome, by simp [machine, unlocked, stored]⟩
  | awaitOutcome => exact ⟨outcome, by simp [machine, unlocked, stored]⟩
  | claim | recordReason | lockSlot | storeOutcome | publish | unlockSlot =>
      cases reads

/-- A request presents a published outcome, or none, to its observers. -/
structure Presents
    (request : Request Value)
    (published : Option (Outcome Value)) : Prop where
  status :
    request.status = published.elim .incomplete (·.phase.status)
  outcome : request.slot.locked = false → request.slot.outcome = published
  reason :
    ∀ reason, published = some (.cancelled reason) →
      request.reason = some reason

/-- Only a published cancellation looks cancelled. -/
theorem Presents.exists_reason
    {request : Request Value}
    {published : Option (Outcome Value)}
    (presents : request.Presents published)
    (cancelled : request.status = .cancelled) :
    ∃ reason, published = some (.cancelled reason) := by
  rw [presents.status] at cancelled
  rcases published with _ | _ | _ | reason
  · cases cancelled
  · cases cancelled
  · cases cancelled
  · exact ⟨reason, rfl⟩

theorem Presents.cancellation?_eq
    {request : Request Value}
    {published : Option (Outcome Value)}
    (presents : request.Presents published) :
    request.cancellation? = published.bind Outcome.reason? := by
  unfold cancellation? isCancelled
  rw [presents.status]
  rcases published with _ | _ | _ | reason
  · rfl
  · rfl
  · rfl
  · exact presents.reason reason rfl

/--
The answers of an observer up to now: those from before the outcome was
published, and then those from after it.
-/
def Witnessed
    (published : Option (Outcome Value))
    (past : List (Observation Value)) : Prop :=
  ∃ early late,
    past = early ++ late ∧
      (∀ observation ∈ early, observation.Shows none) ∧
      ∀ observation ∈ late, observation.Shows published

theorem witnessed_nil (published : Option (Outcome Value)) :
    Witnessed published [] :=
  ⟨[], [], by simp⟩

theorem Witnessed.concat
    {published : Option (Outcome Value)}
    {past : List (Observation Value)}
    {observation : Observation Value}
    (witnessed : Witnessed published past)
    (shows : observation.Shows published) :
    Witnessed published (past ++ [observation]) := by
  obtain ⟨early, late, rfl, before, after⟩ := witnessed
  refine ⟨early, late ++ [observation], List.append_assoc .., before, ?_⟩
  simpa [or_imp, forall_and] using ⟨after, shows⟩

/-- An outcome may be published after any number of observations. -/
theorem Witnessed.publish
    {past : List (Observation Value)}
    (witnessed : Witnessed none past)
    (published : Option (Outcome Value)) : Witnessed published past := by
  obtain ⟨early, late, rfl, before, after⟩ := witnessed
  refine ⟨early ++ late, [], by simp, ?_, by simp⟩
  simpa [or_imp, forall_and] using ⟨before, after⟩

/--
From the first observation on that an incomplete request does not give, all
show the published outcome.
-/
theorem Witnessed.shows_of_not_none
    {published : Option (Outcome Value)}
    {before after : List (Observation Value)}
    {first : Observation Value}
    (witnessed : Witnessed published (before ++ first :: after))
    (completed : ¬ first.Shows none) :
    ∀ observation ∈ first :: after, observation.Shows published := by
  obtain ⟨early, late, split, incomplete, shows⟩ := witnessed
  have inLate : ∃ skipped, late = skipped ++ first :: after := by
    rcases List.append_eq_append_iff.mp split with
      ⟨skipped, isEarly, rest⟩ | ⟨skipped, -, isLate⟩
    · cases skipped with
      | nil => exact ⟨[], by simpa using rest.symm⟩
      | cons head tail =>
          have same : first = head := by
            simp only [List.cons_append, List.cons.injEq] at rest
            exact rest.1
          refine absurd (incomplete first ?_) completed
          simp [isEarly, same]
    · exact ⟨skipped, isLate⟩
  obtain ⟨skipped, rfl⟩ := inLate
  intro observation member
  exact shows observation (List.mem_append_right skipped member)

/-- Whoever waited got the result of the published outcome. -/
theorem Witnessed.result
    {published : Option (Outcome Value)}
    {past : List (Observation Value)}
    {result : Except Error Value}
    (witnessed : Witnessed published past)
    (waited : .result result ∈ past) :
    ∃ outcome, published = some outcome ∧ result = outcome.toResult := by
  obtain ⟨early, late, rfl, before, after⟩ := witnessed
  rcases List.mem_append.mp waited with isEarly | isLate
  · cases before _ isEarly
  · obtain ⟨outcome, isPublished, same⟩ :=
      Option.map_eq_some_iff.mp (after _ isLate)
    cases same
    exact ⟨outcome, isPublished, rfl⟩

/-- How a call on a request has ended. -/
inductive Ending (Value : Type) where
  | completed (won : Bool)
  | observed (observations : List (Observation Value))

/-- Ask the questions that are left, after some observations. -/
def observing
    (past : List (Observation Value)) :
    List Question → Program (interface Value) (Ending Value)
  | [] => .done (.observed past)
  | question :: rest => do
      let observation ← question.program
      observing (past ++ [observation]) rest

/-- An observer reads the reason only of a request that looks cancelled. -/
theorem observing_reason
    (past : List (Observation Value))
    (rest : List Question) :
    observing past (.reason :: rest) =
      .step .readPhase fun phase : Phase =>
        if phase.status = .cancelled then
          .step .readReason fun reason =>
            observing (past ++ [.reason reason]) rest
        else
          observing (past ++ [.reason none]) rest :=
  Program.step_congr fun phase => by cases phase <;> rfl

/--
What an observer may be about to do: ask the next question, or read the reason
of a cancellation that it has seen.
-/
inductive Watching
    (published : Option (Outcome Value))
    (questions : List Question) :
    Program (interface Value) (Ending Value) → Prop where
  | asking
      {past : List (Observation Value)}
      {rest : List Question}
      (asked : past.map Observation.question ++ rest = questions)
      (witnessed : Witnessed published past) :
      Watching published questions (observing past rest)
  | reading
      {past : List (Observation Value)}
      {rest : List Question}
      {reason : Cancellation}
      (asked :
        past.map Observation.question ++ .reason :: rest = questions)
      (witnessed : Witnessed published past)
      (cancelled : published = some (.cancelled reason)) :
      Watching published questions
        (.step .readReason fun reason =>
          observing (past ++ [.reason reason]) rest)

theorem Watching.publish
    {questions : List Question}
    {program : Program (interface Value) (Ending Value)}
    (watching : Watching none questions program)
    (published : Option (Outcome Value)) :
    Watching published questions program := by
  cases watching with
  | asking asked witnessed => exact .asking asked (witnessed.publish published)
  | reading _ _ cancelled => cases cancelled

/-- After an answer that shows the published outcome an observer goes on. -/
theorem Watching.answered
    {published : Option (Outcome Value)}
    {questions rest : List Question}
    {past : List (Observation Value)}
    {question : Question}
    {observation : Observation Value}
    (asked : past.map Observation.question ++ question :: rest = questions)
    (witnessed : Witnessed published past)
    (answered : question.answer? published = some observation) :
    Watching published questions (observing (past ++ [observation]) rest) := by
  have isQuestion := Observation.question_of_answer? answered
  refine .asking (by simpa [isQuestion] using asked) (witnessed.concat ?_)
  rw [Observation.Shows, isQuestion]
  exact answered

/-- A step of an observer reads, and it remains an observer. -/
theorem Watching.turn
    {published : Option (Outcome Value)}
    {questions : List Question}
    {request after : Request Value}
    {call : Call Value}
    {next : call.Answer → Program (interface Value) (Ending Value)}
    {answer : call.Answer}
    (presents : request.Presents published)
    (watching : Watching published questions (.step call next))
    (answered : machine call request = some (answer, after)) :
    Watching published questions (next answer) := by
  generalize due : (.step call next : Program (interface Value) _) = program
    at watching
  cases watching with
  | @asking past rest asked witnessed =>
      cases rest with
      | nil => cases due
      | cons question rest =>
          cases question with
          | status =>
              cases due
              cases answered
              refine .answered asked witnessed ?_
              rw [Question.answer?, ← presents.status]
              rfl
          | outcome =>
              cases due
              obtain ⟨unlocked, stored, -⟩ := of_readOutcome answered
              refine .answered asked witnessed ?_
              rw [← stored, presents.outcome unlocked]
              rfl
          | reason =>
              rw [observing_reason] at due
              cases due
              cases answered
              change Watching published questions (ite ..)
              -- The reason is read in a step of its own, with turns of others
              -- in between, so what was seen has to be kept until then.
              split
              · rename_i cancelled
                obtain ⟨reason, isCancelled⟩ := presents.exists_reason cancelled
                exact .reading asked witnessed isCancelled
              · rename_i notCancelled
                refine .answered asked witnessed ?_
                rw [Question.answer?, ← presents.cancellation?_eq,
                  cancellation?, isCancelled, status,
                  if_neg (by simpa using notCancelled)]
          | result =>
              cases due
              obtain ⟨unlocked, stored, -⟩ := of_awaitOutcome answered
              refine .answered asked witnessed ?_
              rw [← presents.outcome unlocked, stored]
              rfl
  | reading asked witnessed cancelled =>
      cases due
      cases answered
      refine .answered asked witnessed ?_
      rw [presents.reason _ cancelled, cancelled]
      rfl

theorem Watching.isReading
    {published : Option (Outcome Value)}
    {questions : List Question}
    {call : Call Value}
    {next : call.Answer → Program (interface Value) (Ending Value)}
    (watching : Watching published questions (.step call next)) :
    call.isReading := by
  generalize due : (.step call next : Program (interface Value) _) = program
    at watching
  cases watching with
  | @asking past rest =>
      rcases rest with _ | ⟨_ | _ | _ | _, rest⟩ <;> cases due <;> rfl
  | reading =>
      cases due
      rfl

/-- Whoever is about to read the reason has seen a cancellation. -/
theorem Watching.exists_reason
    {published : Option (Outcome Value)}
    {questions : List Question}
    {next :
      Option Cancellation → Program (interface Value) (Ending Value)}
    (watching : Watching published questions (.step .readReason next)) :
    ∃ reason, published = some (.cancelled reason) := by
  generalize due : (.step .readReason next : Program (interface Value) _) =
    program at watching
  cases watching with
  | @asking past rest =>
      rcases rest with _ | ⟨_ | _ | _ | _, rest⟩ <;> cases due
  | @reading _ _ reason _ _ cancelled => exact ⟨reason, cancelled⟩

/-- An observer that has ended has an answer to each question. -/
theorem Watching.of_done
    {published : Option (Outcome Value)}
    {questions : List Question}
    {ending : Ending Value}
    (watching : Watching published questions (.done ending)) :
    ∃ observations,
      ending = .observed observations ∧
        observations.map Observation.question = questions ∧
        Witnessed published observations := by
  generalize due : (.done ending : Program (interface Value) _) = program
    at watching
  cases watching with
  | @asking past rest asked witnessed =>
      rcases rest with _ | ⟨_ | _ | _ | _, rest⟩ <;> cases due
      exact ⟨past, rfl, by simpa using asked, witnessed⟩
  | reading => cases due

/-- Once there is an outcome no observer is held up. -/
theorem Watching.run
    {questions : List Question}
    {request : Request Value}
    {outcome : Outcome Value}
    {program : Program (interface Value) (Ending Value)}
    (presents : request.Presents (some outcome))
    (unlocked : request.slot.locked = false)
    (watching : Watching (some outcome) questions program) :
    ∃ observations,
      machine.run program request =
          some (.observed observations, request) ∧
        observations.map Observation.question = questions ∧
        Witnessed (some outcome) observations := by
  induction program with
  | done ending =>
      obtain ⟨observations, rfl, asked, witnessed⟩ := watching.of_done
      exact ⟨observations, rfl, asked, witnessed⟩
  | step call next inductionHypothesis =>
      obtain ⟨answer, answered⟩ :=
        exists_answer_of_isReading watching.isReading unlocked
          (presents.outcome unlocked)
      obtain ⟨observations, runs, witnessed⟩ :=
        inductionHypothesis answer (watching.turn presents answered)
      refine ⟨observations, ?_, witnessed⟩
      rw [Machine.run, answered]
      exact runs

end ClusterClient.Request
