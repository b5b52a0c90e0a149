namespace ClusterClient

/-!
# Programs of atomic calls

Code that runs beside other code is written as a program: a tree whose nodes
are calls and whose branches are the possible answers. Each call is one atomic
step of the machine that answers it. Running a program alone takes all of its
steps in a row; running several programs beside each other takes their steps in
the order that a schedule picks.

A machine may refuse a call for now, as a lock that is held refuses a second
holder. Such a program is blocked and may go on later.
-/

/-- The calls that a program can make, and the type of the answer to each. -/
structure Interface where
  Call : Type
  Answer : Call → Type

/-- A tree of calls with a result at the end of every branch. -/
inductive Program (interface : Interface) (Result : Type) where
  | done (result : Result)
  | step
      (call : interface.Call)
      (next : interface.Answer call → Program interface Result)

namespace Program

variable {interface : Interface} {Result Later : Type}

/-- Go on with another program after the result of the first. -/
def bind
    (program : Program interface Result)
    (continuation : Result → Program interface Later) :
    Program interface Later :=
  match program with
  | .done result => continuation result
  | .step call next => .step call fun answer => bind (next answer) continuation

instance : Monad (Program interface) where
  pure := .done
  bind := bind

/-- The program that makes one call and returns its answer. -/
def perform (call : interface.Call) :
    Program interface (interface.Answer call) :=
  .step call .done

@[simp] theorem done_bind
    (result : Result)
    (continuation : Result → Program interface Later) :
    (Program.done result : Program interface Result) >>= continuation =
      continuation result := rfl

@[simp] theorem pure_eq_done (result : Result) :
    (pure result : Program interface Result) = .done result := rfl

@[simp] theorem step_bind
    (call : interface.Call)
    (next : interface.Answer call → Program interface Result)
    (continuation : Result → Program interface Later) :
    (Program.step call next) >>= continuation =
      .step call fun answer => next answer >>= continuation := rfl

/-- Programs that make the same call and go on in the same way are equal. -/
theorem step_congr
    {call : interface.Call}
    {next other : interface.Answer call → Program interface Result}
    (same : ∀ answer, next answer = other answer) :
    Program.step call next = .step call other :=
  congrArg (Program.step call) (funext same)

/-- Ending with the result that was reached changes nothing. -/
theorem bind_done (program : Program interface Result) :
    bind program .done = program := by
  induction program with
  | done result => rfl
  | step call next inductionHypothesis =>
      simp only [bind]
      congr 1
      funext answer
      exact inductionHypothesis answer

/-- Programs may be regrouped. -/
theorem bind_assoc
    {Last : Type}
    (program : Program interface Result)
    (second : Result → Program interface Later)
    (third : Later → Program interface Last) :
    bind (bind program second) third =
      bind program fun result => bind (second result) third := by
  induction program with
  | done result => rfl
  | step call next inductionHypothesis =>
      simp only [bind]
      congr 1
      funext answer
      exact inductionHypothesis answer

/-- Answer every call of a program in another monad. -/
def interpret
    {Context : Type → Type}
    [Monad Context]
    (answerCall : (call : interface.Call) →
      Context (interface.Answer call)) :
    Program interface Result → Context Result
  | .done result => pure result
  | .step call next => do
      let answer ← answerCall call
      interpret answerCall (next answer)

end Program

/-- A machine answers calls one at a time, or refuses a call for now. -/
abbrev Machine (interface : Interface) (State : Type) :=
  (call : interface.Call) → State → Option (interface.Answer call × State)

namespace Machine

variable {interface : Interface} {State Result : Type}

/-- Run a program alone; none when it is blocked. -/
def run
    (machine : Machine interface State) :
    Program interface Result → State → Option (Result × State)
  | .done result, state => some (result, state)
  | .step call next, state =>
      match machine call state with
      | none => none
      | some (answer, later) => run machine (next answer) later

/-- A program is run by answering its first call and going on from there. -/
theorem run_step
    {machine : Machine interface State}
    {call : interface.Call}
    {state later : State}
    {answer : interface.Answer call}
    (answered : machine call state = some (answer, later))
    (next : interface.Answer call → Program interface Result) :
    machine.run (.step call next) state = machine.run (next answer) later := by
  simp only [run, answered]

/-- A program that goes on with another one is run up to its result first. -/
theorem run_bind
    {Later : Type}
    (machine : Machine interface State)
    (program : Program interface Result)
    (continuation : Result → Program interface Later)
    (state : State) :
    machine.run (program.bind continuation) state =
      (machine.run program state).bind fun ended =>
        machine.run (continuation ended.1) ended.2 := by
  induction program generalizing state with
  | done result => rfl
  | step call next inductionHypothesis =>
      simp only [Program.bind, run]
      cases machine call state with
      | none => rfl
      | some answered => exact inductionHypothesis answered.1 answered.2

/-- Take one step of a program, if it has one and is not blocked. -/
def advance
    (machine : Machine interface State) :
    Program interface Result → State →
    Option (Program interface Result × State)
  | .done _, _ => none
  | .step call next, state =>
      (machine call state).map fun answered =>
        (next answered.1, answered.2)

/--
Run programs beside each other: the schedule names the program that takes the
next step. Turns of finished, blocked or absent programs pass.
-/
def runSchedule
    (machine : Machine interface State) :
    (schedule : List Nat) →
    List (Program interface Result) → State →
    List (Program interface Result) × State
  | [], programs, state => (programs, state)
  | turn :: rest, programs, state =>
      match programs[turn]? with
      | none => runSchedule machine rest programs state
      | some program =>
          match advance machine program state with
          | none => runSchedule machine rest programs state
          | some (later, next) =>
              runSchedule machine rest (programs.set turn later) next

end Machine

/-- A machine that never refuses a call. -/
abbrev TotalMachine (interface : Interface) (State : Type) :=
  (call : interface.Call) → State → interface.Answer call × State

namespace TotalMachine

variable {interface : Interface} {State Result : Type}

/-- Run a program alone. -/
def run
    (machine : TotalMachine interface State) :
    Program interface Result → State → Result × State
  | .done result, state => (result, state)
  | .step call next, state =>
      let (answer, later) := machine call state
      run machine (next answer) later

/-- A machine that never refuses is a machine. -/
def toMachine
    (machine : TotalMachine interface State) : Machine interface State :=
  fun call state => some (machine call state)

/-- A program run alone is never blocked by a machine that never refuses. -/
theorem run_toMachine
    (machine : TotalMachine interface State)
    (program : Program interface Result)
    (state : State) :
    machine.toMachine.run program state = some (machine.run program state) := by
  induction program generalizing state with
  | done result => rfl
  | step call next inductionHypothesis =>
      simp only [Machine.run, TotalMachine.run, toMachine]
      exact inductionHypothesis _ _

/-- A program that goes on with another one is run up to its result first. -/
theorem run_bind
    {Later : Type}
    (machine : TotalMachine interface State)
    (program : Program interface Result)
    (continuation : Result → Program interface Later)
    (state : State) :
    machine.run (program.bind continuation) state =
      machine.run (continuation (machine.run program state).1)
        (machine.run program state).2 := by
  induction program generalizing state with
  | done result => rfl
  | step call next inductionHypothesis =>
      simp only [Program.bind, TotalMachine.run]
      exact inductionHypothesis _ _

end TotalMachine

/-- The result of a program that has ended. -/
def Program.result?
    {interface : Interface}
    {Result : Type} :
    Program interface Result → Option Result
  | .done result => some result
  | .step .. => none

end ClusterClient
