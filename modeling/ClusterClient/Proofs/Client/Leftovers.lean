import ClusterClient.Proofs.Client.Abandoned
import ClusterClient.Proofs.Client.Tending

namespace ClusterClient.Client.Stepwise

/-!
# What is left of an execution

An execution that has ended has no entry in the table, whoever has completed its
requests: a response, an expiry, a shutdown or the execution itself. All of them
are completed, but for one whose frame the connection has refused: the execution
does not wait for that one. Somebody else who has taken its entry may still be
in the middle of completing it, and then nobody stands in the way.

The threads take their steps as they are spelled out, so others may come in
between the claim of a request and the publication of its outcome.
-/

variable {Thread : Type} [DecidableEq Thread]
variable {client : Client} {works : Thread → Work}
variable {stages : Thread → Stage} {insides : Thread → Inside}
variable {thread : Thread} {later : Stage} {inside goesOn : Inside}
variable {action : Action} {answer : action.Answer}

/-! ## All accounts together -/

/-- Each step keeps the account of who looks after the entries. -/
theorem tended_turn
    {history : History actions Thread State}
    {touched : Nat → Prop}
    {before after : State}
    (tended :
      Tended (registrations (log history)) (openings (log history)) touched
        stages before.traffic)
    (completers : Completers insides before.traffic)
    (givingUp : GivingUp stages insides before.traffic)
    (touches : ∀ request,
      (works thread).handled? = some request → touched request)
    (isInside : insides thread = inside)
    (moves :
      Moves client (works thread) before.traffic after.traffic (stages thread)
        inside action answer later goesOn) :
    let moment := .turn thread action answer before after
    Tended (registrations (log (history ++ [moment])))
      (openings (log (history ++ [moment]))) touched
      (Function.update stages thread later) after.traffic := by
  intro moment
  cases moves with
  | whole isPlain next answered =>
      rw [log_whole, registrations_concat, openings_concat]
      exact tended.turn completers.keepsOutcomes next isPlain answered
  | @claimed _ index outcome request next found incomplete isAfter =>
      rw [log_other history rfl, isAfter]
      exact
        tended.complete next
          (claims_setRequest found
            (Request.Stage.phase_ne_incomplete outcome request .recording))
          nofun fun _ isHandled => touches index isHandled
  | @lost _ index outcome next claimed same =>
      rw [log_other history rfl, same]
      have claims : before.traffic.Claims index before.traffic := by
        refine ⟨rfl, rfl, fun other => (or_iff_left_of_imp ?_).symm⟩
        rintro ⟨rfl, -⟩
        exact claimed
      exact tended.complete next claims (fun _ => .of_same rfl (.refl _)) nofun
  | goesOn isFresh found stays isAfter =>
      rw [log_other history rfl, Function.update_eq_self, isAfter]
      exact
        tended.remains
          (shrinks_setRequest found (Request.Stage.phase_ne_incomplete _ _ _)
            (Request.Stage.phase_ne_incomplete _ _ _))
  | locked _ same =>
      rw [log_other history rfl, Function.update_eq_self, same]
      exact tended
  | examined isAfter =>
      rw [log_other history rfl, Function.update_eq_self, isAfter]
      exact tended.remains (.of_same rfl List.filter_sublist)
  | unlocked next same =>
      rw [log_other history rfl, same]
      refine tended.clear (.of_same rfl (.refl _)) next ?_
      intro request isGivenUp entry member isRequest
      cases givingUp.clears isInside isGivenUp member isRequest

/-- A thread has claimed a request. -/
def HasClaimed
    (history : History actions Thread State)
    (thread : Thread)
    (request : Nat) : Prop :=
  ∃ before after,
    .turn thread (.request request .claim) true before after ∈ history

omit [DecidableEq Thread] in
theorem HasClaimed.append
    {history : History actions Thread State}
    {request : Nat}
    (claimed : HasClaimed history thread request)
    (later : History actions Thread State) :
    HasClaimed (history ++ later) thread request := by
  obtain ⟨before, after, member⟩ := claimed
  exact ⟨before, after, List.mem_append_left later member⟩

omit [DecidableEq Thread] in
/-- Whoever is completing a request was completing it, or claims it now. -/
theorem completing_of_moves
    {work : Work}
    {before after : Traffic}
    {stage : Stage}
    (moves :
      Moves client work before after stage inside action answer later goesOn)
    {request : Nat}
    (isCompleting : goesOn.completing? = some request) :
    inside.completing? = some request ∨
      (⟨action, answer⟩ : Exchange actions) =
        ⟨.request request .claim, true⟩ := by
  cases moves with
  | whole | lost | locked | examined | unlocked => cases isCompleting
  | claimed =>
      cases isCompleting
      exact .inr rfl
  | goesOn =>
      obtain ⟨outcome, step, isInside⟩ :=
        Inside.exists_of_completing? isCompleting
      obtain ⟨rfl, -, -⟩ := Inside.eq_of_afterClaim_eq isInside
      exact .inl rfl

/-- A request that its handle may complete. -/
def IsHandled (works : Thread → Work) (request : Nat) : Prop :=
  ∃ thread, (works thread).handled? = some request

/-- Everything that is known of the threads between two steps of a run. -/
structure Account
    (client : Client)
    (works : Thread → Work)
    (history : History actions Thread State)
    (current : Thread → Program actions Ending)
    (stages : Thread → Stage)
    (insides : Thread → Inside)
    (final : State) : Prop where
  positions : ∀ thread,
    Position client (works thread) (stages thread) (insides thread)
      (current thread)
  tended :
    Tended (registrations (log history)) (openings (log history))
      (IsHandled works) stages final.traffic
  completers : Completers insides final.traffic
  claimed : ∀ {thread request},
    (insides thread).completing? = some request →
    HasClaimed history thread request
  givingUp : GivingUp stages insides final.traffic
  refusing : Refusing client (log history) stages final.traffic

variable {history : History actions Thread State}
variable {current : Thread → Program actions Ending} {final : State}

/-- In every run of works that are spelled out the account is kept. -/
theorem StepRun.account
    (run :
      StepRun (fun thread => spelled ((works thread).program client)) .empty
        history current final) :
    ∃ stages insides,
      Account client works history current stages insides final := by
  induction run with
  | start =>
      refine ⟨fun _ => .holding [], fun _ => .nothing, ?_, ?_, ?_, ?_, ?_, ?_⟩
      · exact fun thread => .nothing (tends_program client (works thread))
      · exact .empty _
      · exact .empty
      · exact nofun
      · exact ⟨nofun, nofun⟩
      · exact .empty
  | @turn history current before after thread action next answer _ due answered
      inductionHypothesis =>
      obtain ⟨stages, insides, account⟩ := inductionHypothesis
      obtain ⟨positions, tended, completers, claimed, givingUp, refusing⟩ :=
        account
      have position := positions thread
      rw [due] at position
      obtain ⟨later, goesOn, moves, isPosition⟩ :=
        position.turn (completers.meets thread) answered
      refine
        ⟨Function.update stages thread later,
          Function.update insides thread goesOn, ?_, ?_, ?_, ?_, ?_, ?_⟩
      · intro other
        by_cases own : other = thread
        · subst own
          simp only [Function.update_self]
          exact isPosition
        · simp only [Function.update_of_ne own]
          exact positions other
      · exact
          tended_turn tended completers givingUp
            (fun request isHandled => ⟨thread, isHandled⟩) rfl moves
      · exact completers.turn rfl moves
      · intro other request isCompleting
        rcases found_of_update Inside.completing? isCompleting with
          ⟨rfl, isNew⟩ | ⟨-, wasCompleting⟩
        · rcases completing_of_moves moves isNew with wasCompleting | claims
          · exact (claimed wasCompleting).append _
          · cases claims
            exact ⟨before, after, List.mem_concat_self⟩
        · exact (claimed wasCompleting).append _
      · exact givingUp.turn tended.apart rfl moves
      · exact refusing.turn completers moves
  | outside _ change => exact change.elim

/--
A thread is in the middle of completing a request: it has claimed the request,
and its own next steps complete it, whatever anybody else does.
-/
structure IsCompleting
    (history : History actions Thread State)
    (current : Thread → Program actions Ending)
    (state : State)
    (thread : Thread)
    (request : Nat) : Prop where
  claimed : HasClaimed history thread request
  goesOn : ∃ following later after,
    StepRun current state following later after ∧
      (∀ moment ∈ following, moment.thread? = some thread) ∧
      after.traffic.HasCompleted request

namespace Account

/-- A thread whose steps have ended is in the middle of nothing. -/
theorem inside_of_returned
    (account : Account client works history current stages insides final)
    {ending : Ending}
    (returned : current thread = .done ending) :
    insides thread = .nothing := by
  have position := account.positions thread
  rw [returned] at position
  exact position.of_done.1

/-- An execution that has returned looks after nothing. -/
theorem holding_of_returned
    (account : Account client works history current stages insides final)
    {operation : Wire.Operation}
    {timeout : Duration}
    {policy : TransientPolicy}
    {ending : Ending}
    (executes : works thread = .execution operation timeout policy)
    (returned : current thread = .done ending) :
    stages thread = .holding [] := by
  have position := account.positions thread
  rw [returned, executes] at position
  rcases position.of_done.2.of_done with isIdle | ⟨⟨_, _, issues⟩, -⟩
  · exact isIdle
  · cases issues

/-- Whoever is completing a request can go through with it alone. -/
theorem isCompleting
    (account : Account client works history current stages insides final)
    {request : Nat}
    (isCompleting : (insides thread).completing? = some request) :
    IsCompleting history current final thread request where
  claimed := account.claimed isCompleting
  goesOn := by
    obtain ⟨outcome, step, isInside⟩ :=
      Inside.exists_of_completing? isCompleting
    obtain ⟨fresh, isFresh, found⟩ :=
      account.completers.meets thread _ _ _ isInside
    have position := account.positions thread
    rw [isInside] at position
    generalize due : current thread = program at position
    cases position with
    | completing notEnded tends =>
        -- No whole call is left to be answered.
        have ends :=
          run_within (fun _ _ => none) (step.rest outcome true) found
        rw [Request.Stage.run_rest isFresh] at ends
        obtain ⟨following, run, isOwn⟩ := Run.alone_bind ends due
        refine
          ⟨following, _, _, run.mono (semantics_of_machine ?_), isOwn, ?_⟩
        · intro call before answer after isAnswer
          cases isAnswer
        · refine ⟨_, by rw [getElem?_setRequest found, if_pos rfl], ?_⟩
          exact
            (Request.Stage.isCompleted_iff isFresh outcome _).mpr
              (Option.some_ne_none outcome)

end Account

namespace StepRun

/--
Executions leave no entry behind. Consider any run of activities and executions
on one client, spelled out in steps, however many numbers it takes. When an
execution has returned, and nobody else works on its requests through their
handles, no entry of the table refers to any request that it has opened. Every
such request is completed, unless the connection has refused its frame and
another thread had claimed the request already: then this thread is completing
it, and nobody stands in its way.
-/
theorem executions_leave_no_entry_behind
    (run :
      StepRun (fun thread => spelled ((works thread).program client)) .empty
        history current final)
    {thread : Thread}
    {operation : Wire.Operation}
    {timeout : Duration}
    {policy : TransientPolicy}
    {ending : Ending}
    (executes : works thread = .execution operation timeout policy)
    (returned : current thread = .done ending)
    (untouched : ∀ other request,
      (works other).handled? = some request →
      (thread, request) ∉ openings (log history)) :
    ∀ request,
      (thread, request) ∈ openings (log history) →
      (∀ entry ∈ final.traffic.table, entry.2.request ≠ request) ∧
        (final.traffic.HasCompleted request ∨
          WasRefused client (log history) thread request ∧
            ∃ other,
              other ≠ thread ∧
                IsCompleting history current final other request) := by
  intro request isOpening
  obtain ⟨stages, insides, account⟩ := run.account
  have tended := account.tended
  have isIdle : stages thread = .holding [] :=
    account.holding_of_returned executes returned
  have claimed : final.traffic.IsClaimed request := by
    rcases tended.kept isOpening with isOwn | isHeld | claimed
    · rw [isIdle] at isOwn
      cases isOwn
    · rw [isIdle] at isHeld
      cases isHeld
    · exact claimed
  constructor
  · rintro entry member rfl
    rcases tended.left member claimed with ⟨other, isGivenUp⟩ | handled
    · have isOwn := Stage.own?_of_gaveUp? isGivenUp
      rw [tended.eq_of_openings (tended.owns isOwn) isOpening, isIdle]
        at isGivenUp
      cases isGivenUp
    · obtain ⟨other, isHandled⟩ := handled
      exact untouched other _ isHandled isOpening
  · rcases account.refusing.opened isOpening with isOwn | completed | refused
    · rw [isIdle] at isOwn
      cases isOwn
    · exact .inl completed
    · have completing := account.completers.hasCompleted_or_completing claimed
      refine completing.imp_right ?_
      rintro ⟨other, isCompleting⟩
      refine ⟨refused, other, ?_, account.isCompleting isCompleting⟩
      rintro rfl
      rw [account.inside_of_returned returned] at isCompleting
      cases isCompleting

/-- The connection refuses every frame, and an execution makes one round. -/
def refusingAnswer : Machine interface Traffic :=
    fun call traffic =>
  match call with
  | .send _ => some (.error (.transport .outboundClosed), traffic)
  | call => ClientRun.oneRoundAnswer call traffic

theorem semantics_of_refusingAnswer
    (call : Call)
    (before : Traffic)
    (answer : call.Answer)
    (after : Traffic)
    (answered : refusingAnswer call before = some (answer, after)) :
    Client.semantics call before answer after := by
  cases call with
  | send =>
      cases answered
      rfl
  | _ =>
      exact ClientRun.semantics_of_oneRoundAnswer _ before answer after answered

/-- Two threads: one executes an operation, one shuts the client down. -/
inductive Racer where
  | executor
  | closer
  deriving DecidableEq

/-- What the two threads do. -/
def racing : Racer → Work
  | .executor =>
      .execution (.get ⟨"race", .default, 0, by decide, by decide⟩)
        (.ofMilliseconds 2500) .resend
  | .closer => .single .shutdown

/--
The shutdown claims the request before its frame is refused, and then takes no
step for a while.
-/
def overtaken : Replay actions Racer State Ending :=
  (machine refusingAnswer).replay
    (List.replicate 8 .executor ++ [.closer, .closer] ++
      List.replicate 3 .executor)
    (fun racer => spelled ((racing racer).program ClientRun.closingClient))
    .empty

theorem run_overtaken :
    StepRun
      (fun racer => spelled ((racing racer).program ClientRun.closingClient))
      .empty overtaken.history overtaken.programs overtaken.state :=
  (Run.replay (machine refusingAnswer) _ _ _).mono
    (semantics_of_machine semantics_of_refusingAnswer)

/-- The execution has lost the race, and the shutdown completes its request. -/
theorem executions_leave_no_entry_behind_overtaken :
    openings (log overtaken.history) = [(.executor, 0)] ∧
      (∀ entry ∈ overtaken.state.traffic.table, entry.2.request ≠ 0) ∧
      WasRefused ClientRun.closingClient (log overtaken.history) .executor 0 ∧
      ∃ other,
        other ≠ .executor ∧
          IsCompleting overtaken.history overtaken.programs overtaken.state
            other 0 := by
  have opened : openings (log overtaken.history) = [(.executor, 0)] := rfl
  have untouched : ∀ other request,
      (racing other).handled? = some request →
      (.executor, request) ∉ openings (log overtaken.history) := by
    intro other request isHandled
    cases other <;> cases isHandled
  obtain ⟨noEntry, completed | refused⟩ :=
    executions_leave_no_entry_behind run_overtaken
      (show racing .executor = .execution _ _ _ from rfl) rfl untouched 0
      (by rw [opened]; exact List.mem_singleton.mpr rfl)
  · obtain ⟨request, found, isCompleted⟩ := completed
    cases found
    cases isCompleted
  · exact ⟨opened, noEntry, refused⟩

/--
An execution may return before its request is completed: its frame was refused
after a shutdown had claimed the request.
-/
theorem overtaken_execution_returns_first :
    StepRun
        (fun racer => spelled ((racing racer).program ClientRun.closingClient))
        .empty overtaken.history overtaken.programs overtaken.state ∧
      overtaken.programs .executor =
        .done (.awaited (.error (.transport .outboundClosed))) ∧
      (.executor, 0) ∈ openings (log overtaken.history) ∧
      (∀ other request, (racing other).handled? ≠ some request) ∧
      ∃ request,
        overtaken.state.traffic.requests[0]? = some request ∧
          ¬ request.isCompleted ∧ request.slot.outcome = none := by
  refine ⟨run_overtaken, rfl, List.mem_singleton.mpr rfl, ?_, _, rfl, ?_, rfl⟩
  · intro other request isHandled
    cases other <;> cases isHandled
  · decide

end StepRun

end ClusterClient.Client.Stepwise
