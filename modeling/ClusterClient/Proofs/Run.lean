import ClusterClient.Program
import Mathlib.Logic.Function.Basic

namespace ClusterClient

/-!
# Runs of programs beside each other

Every thread has a program, and in a run the threads take their steps in any
order. A step is one call with one of the answers that the call may get, and
between two steps the surroundings may change the state on their own. A run
keeps its history: one moment for every step, with the state before and after
it, the latest last.

Facts about all runs are proved by induction on the run, so what has to be
shown is what one more moment preserves. Replaying a schedule on a machine
gives one of its runs.
-/

/-- The answers that a call may get in a state, and what each leaves behind. -/
abbrev Semantics (interface : Interface) (State : Type) :=
  (call : interface.Call) → State → interface.Answer call → State → Prop

/-- A machine gives its one answer, or none. -/
def Machine.semantics
    {interface : Interface}
    {State : Type}
    (machine : Machine interface State) : Semantics interface State :=
  fun call state answer later => machine call state = some (answer, later)

/-- One step of a run, by a thread or by the surroundings. -/
inductive Moment (interface : Interface) (Thread State : Type) where
  | turn
      (thread : Thread)
      (call : interface.Call)
      (answer : interface.Answer call)
      (before after : State)
  | outside (before after : State)

namespace Moment

variable {interface : Interface} {Thread State : Type}

/-- The thread that took a step. -/
def thread? : Moment interface Thread State → Option Thread
  | .turn thread .. => some thread
  | .outside .. => none

/-- The state before a step. -/
def before : Moment interface Thread State → State
  | .turn _ _ _ before _ => before
  | .outside before _ => before

/-- The state after a step. -/
def after : Moment interface Thread State → State
  | .turn _ _ _ _ after => after
  | .outside _ after => after

@[simp] theorem thread?_turn
    (thread : Thread)
    (call : interface.Call)
    (answer : interface.Answer call)
    (before after : State) :
    (turn thread call answer before after).thread? = some thread := rfl

@[simp] theorem thread?_outside (before after : State) :
    (outside before after : Moment interface Thread State).thread? =
      none := rfl

@[simp] theorem before_turn
    (thread : Thread)
    (call : interface.Call)
    (answer : interface.Answer call)
    (before after : State) :
    (turn thread call answer before after).before = before := rfl

@[simp] theorem before_outside (before after : State) :
    (outside before after : Moment interface Thread State).before =
      before := rfl

@[simp] theorem after_turn
    (thread : Thread)
    (call : interface.Call)
    (answer : interface.Answer call)
    (before after : State) :
    (turn thread call answer before after).after = after := rfl

@[simp] theorem after_outside (before after : State) :
    (outside before after : Moment interface Thread State).after =
      after := rfl

end Moment

/-- What happened in a run, the latest last. -/
abbrev History (interface : Interface) (Thread State : Type) :=
  List (Moment interface Thread State)

/--
The runs from given programs and a given state: their histories, the programs
that are left, and the states they end in.
-/
inductive Run
    {interface : Interface}
    {Thread State Result : Type}
    [DecidableEq Thread]
    (semantics : Semantics interface State)
    (surroundings : State → State → Prop)
    (programs : Thread → Program interface Result)
    (state : State) :
    History interface Thread State →
    (Thread → Program interface Result) → State → Prop where
  | start : Run semantics surroundings programs state [] programs state
  | turn
      {history : History interface Thread State}
      {current : Thread → Program interface Result}
      {before after : State}
      {thread : Thread}
      {call : interface.Call}
      {next : interface.Answer call → Program interface Result}
      {answer : interface.Answer call} :
      Run semantics surroundings programs state history current before →
      current thread = .step call next →
      semantics call before answer after →
      Run semantics surroundings programs state
        (history ++ [.turn thread call answer before after])
        (Function.update current thread (next answer)) after
  | outside
      {history : History interface Thread State}
      {current : Thread → Program interface Result}
      {before after : State} :
      Run semantics surroundings programs state history current before →
      surroundings before after →
      Run semantics surroundings programs state
        (history ++ [.outside before after]) current after

/-- What comes of replaying a schedule. -/
structure Replay (interface : Interface) (Thread State Result : Type) where
  history : History interface Thread State
  programs : Thread → Program interface Result
  state : State

/--
Replay a schedule on a machine. Turns of ended and of blocked programs pass.
-/
def Machine.replay
    {interface : Interface}
    {Thread State Result : Type}
    [DecidableEq Thread]
    (machine : Machine interface State) :
    List Thread → (Thread → Program interface Result) → State →
    Replay interface Thread State Result
  | [], programs, state => ⟨[], programs, state⟩
  | thread :: rest, programs, state =>
      match programs thread with
      | .done _ => machine.replay rest programs state
      | .step call next =>
          match machine call state with
          | none => machine.replay rest programs state
          | some (answer, later) =>
              let replayed :=
                machine.replay rest
                  (Function.update programs thread (next answer)) later
              { replayed with
                history :=
                  .turn thread call answer state later :: replayed.history }

namespace Run

variable {interface : Interface} {Thread State Result : Type}
variable [DecidableEq Thread]
variable {semantics : Semantics interface State}
variable {surroundings : State → State → Prop}
variable {programs current later : Thread → Program interface Result}
variable {state middle final : State}
variable {history following : History interface Thread State}

/-- A run may go on where another one has ended. -/
theorem append
    (first :
      Run semantics surroundings programs state history current middle)
    (second :
      Run semantics surroundings current middle following later final) :
    Run semantics surroundings programs state
      (history ++ following) later final := by
  induction second with
  | start => simpa using first
  | turn _ due answered inductionHypothesis =>
      rw [← List.append_assoc]
      exact .turn inductionHypothesis due answered
  | outside _ change inductionHypothesis =>
      rw [← List.append_assoc]
      exact .outside inductionHypothesis change

/-- Answers that are allowed may be given. -/
theorem mono
    {stronger : Semantics interface State}
    (allowed : ∀ call before answer after,
      stronger call before answer after → semantics call before answer after)
    (run : Run stronger surroundings programs state history current final) :
    Run semantics surroundings programs state history current final := by
  induction run with
  | start => exact .start
  | turn _ due answered inductionHypothesis =>
      exact .turn inductionHypothesis due (allowed _ _ _ _ answered)
  | outside _ change inductionHypothesis =>
      exact .outside inductionHypothesis change

/-- A thread that took no step still has its program. -/
theorem program_of_idle
    (run :
      Run semantics surroundings programs state history current final)
    {thread : Thread}
    (idle : ∀ moment ∈ history, moment.thread? ≠ some thread) :
    current thread = programs thread := by
  induction run with
  | start => rfl
  | turn _ _ _ inductionHypothesis =>
      simp only [List.mem_append, List.mem_singleton, or_imp, forall_and,
        forall_eq] at idle
      obtain ⟨idleBefore, otherTurn⟩ := idle
      have other : thread ≠ _ := fun same => otherTurn (congrArg some same.symm)
      rw [Function.update_of_ne other]
      exact inductionHypothesis idleBefore
  | outside _ _ inductionHypothesis =>
      simp only [List.mem_append, List.mem_singleton, or_imp, forall_and,
        forall_eq] at idle
      exact inductionHypothesis idle.1

/-- A thread that has ended takes no further step. -/
theorem done_stays
    (run :
      Run semantics surroundings programs state history current final)
    {thread : Thread}
    {result : Result}
    (ended : programs thread = .done result) :
    current thread = .done result ∧
      ∀ moment ∈ history, moment.thread? ≠ some thread := by
  induction run with
  | start => exact ⟨ended, by simp⟩
  | @turn _ current _ _ turning _ _ _ _ due _ inductionHypothesis =>
      obtain ⟨stillEnded, idle⟩ := inductionHypothesis
      have other : thread ≠ turning := by
        intro same
        subst same
        rw [stillEnded] at due
        cases due
      refine ⟨by rw [Function.update_of_ne other]; exact stillEnded, ?_⟩
      intro moment member
      rcases List.mem_append.mp member with earlier | last
      · exact idle moment earlier
      · rw [List.mem_singleton.mp last]
        simpa using other.symm
  | outside _ _ inductionHypothesis =>
      refine ⟨inductionHypothesis.1, ?_⟩
      intro moment member
      rcases List.mem_append.mp member with earlier | last
      · exact inductionHypothesis.2 moment earlier
      · rw [List.mem_singleton.mp last]
        simp

/--
A program that a machine runs to its end may do so undisturbed, whatever its
thread does afterwards.
-/
theorem alone_bind
    {machine : Machine interface State}
    {Part : Type}
    {program : Program interface Part}
    {continuation : Part → Program interface Result}
    {result : Part}
    (ends : machine.run program state = some (result, final))
    {thread : Thread}
    (due : programs thread = program.bind continuation) :
    ∃ history,
      Run machine.semantics surroundings programs state history
          (Function.update programs thread (continuation result)) final ∧
        ∀ moment ∈ history, moment.thread? = some thread := by
  induction program generalizing programs state with
  | done =>
      cases ends
      have same :
          Function.update programs thread (continuation result) = programs :=
        Function.update_eq_iff.mpr ⟨due.symm, fun _ _ => rfl⟩
      refine ⟨[], ?_, List.forall_mem_nil _⟩
      rw [same]
      exact .start
  | step call next inductionHypothesis =>
      unfold Machine.run at ends
      split at ends
      · cases ends
      · rename_i answer later answered
        obtain ⟨history, goesOn, isOwn⟩ :=
          inductionHypothesis answer ends
            (Function.update_self thread _ programs)
        rw [Function.update_idem] at goesOn
        exact
          ⟨_, (Run.start.turn due answered).append goesOn,
            List.forall_mem_cons.mpr ⟨rfl, isOwn⟩⟩

/-- A program that a machine runs to its end may do so undisturbed. -/
theorem alone
    {machine : Machine interface State}
    {program : Program interface Result}
    {result : Result}
    (ends : machine.run program state = some (result, final))
    {thread : Thread}
    (due : programs thread = program) :
    ∃ history,
      Run machine.semantics surroundings programs state history
        (Function.update programs thread (.done result)) final := by
  obtain ⟨history, run, -⟩ :=
    alone_bind ends (due.trans (Program.bind_done program).symm)
  exact ⟨history, run⟩

/-- Programs whose results are changed take the steps of the programs. -/
theorem of_map
    {Changed : Type}
    {change : Thread → Result → Changed}
    {changed : Thread → Program interface Changed}
    (run :
      Run semantics surroundings
        (fun thread =>
          (programs thread).bind fun result => .done (change thread result))
        state history changed final) :
    ∃ current,
      Run semantics surroundings programs state history current final ∧
        ∀ thread,
          changed thread =
            (current thread).bind fun result =>
              .done (change thread result) := by
  induction run with
  | start => exact ⟨programs, .start, fun _ => rfl⟩
  | @turn history changed before after thread call next answer _ due answered
      inductionHypothesis =>
      obtain ⟨current, run, same⟩ := inductionHypothesis
      have isDue := due.symm.trans (same thread)
      cases ahead : current thread with
      | done result =>
          rw [ahead] at isDue
          cases isDue
      | step own goesOn =>
          rw [ahead] at isDue
          cases isDue
          refine ⟨_, run.turn ahead answered, fun other => ?_⟩
          by_cases isOwn : other = thread
          · subst isOwn
            rw [Function.update_self, Function.update_self]
          · rw [Function.update_of_ne isOwn, Function.update_of_ne isOwn]
            exact same other
  | outside _ change inductionHypothesis =>
      obtain ⟨current, run, same⟩ := inductionHypothesis
      exact ⟨current, run.outside change, same⟩

/-- Replaying a schedule on a machine is a run. -/
theorem replay
    (machine : Machine interface State)
    (schedule : List Thread)
    (programs : Thread → Program interface Result)
    (state : State) :
    Run machine.semantics surroundings programs state
      (machine.replay schedule programs state).history
      (machine.replay schedule programs state).programs
      (machine.replay schedule programs state).state := by
  induction schedule generalizing programs state with
  | nil => exact .start
  | cons thread rest inductionHypothesis =>
      unfold Machine.replay
      split
      · exact inductionHypothesis programs state
      · rename_i call next due
        split
        · exact inductionHypothesis programs state
        · rename_i answer later answered
          exact
            (Run.start.turn due answered).append
              (inductionHypothesis (Function.update programs thread (next answer))
                later)

end Run

end ClusterClient
