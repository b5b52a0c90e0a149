import ClusterClient.Proofs.Run

namespace ClusterClient

/-!
# What one thread has done

The calls of a thread in a run, with the answers that they got, lead from the
program of the thread to what is left of it. So what a thread has done and what
it will do next can be read off its program, whatever the other threads do.
-/

/-- A call with its answer. -/
structure Exchange (interface : Interface) where
  call : interface.Call
  answer : interface.Answer call

/-- A program that gets some answers to its calls goes on as another program. -/
inductive Follows
    {interface : Interface}
    {Result : Type} :
    Program interface Result → List (Exchange interface) →
    Program interface Result → Prop where
  | start (program : Program interface Result) : Follows program [] program
  | next
      {call : interface.Call}
      {next : interface.Answer call → Program interface Result}
      {answer : interface.Answer call}
      {exchanges : List (Exchange interface)}
      {final : Program interface Result}
      (follows : Follows (next answer) exchanges final) :
      Follows (.step call next) (⟨call, answer⟩ :: exchanges) final

theorem Follows.of_done
    {interface : Interface}
    {Result : Type}
    {result : Result}
    {exchanges : List (Exchange interface)}
    {final : Program interface Result}
    (follows : Follows (.done result) exchanges final) :
    exchanges = [] ∧ final = .done result := by
  cases follows
  exact ⟨rfl, rfl⟩

/-- A program that is about to make a call has not made it, or goes on. -/
theorem Follows.of_step
    {interface : Interface}
    {Result : Type}
    {call : interface.Call}
    {next : interface.Answer call → Program interface Result}
    {exchanges : List (Exchange interface)}
    {final : Program interface Result}
    (follows : Follows (.step call next) exchanges final) :
    (exchanges = [] ∧ final = .step call next) ∨
      ∃ answer rest,
        exchanges = ⟨call, answer⟩ :: rest ∧
          Follows (next answer) rest final := by
  cases follows with
  | start => exact .inl ⟨rfl, rfl⟩
  | next follows => exact .inr ⟨_, _, rfl, follows⟩

/-- A program that has ended after a call has got an answer to it. -/
theorem Follows.of_step_done
    {interface : Interface}
    {Result : Type}
    {call : interface.Call}
    {next : interface.Answer call → Program interface Result}
    {exchanges : List (Exchange interface)}
    {result : Result}
    (follows : Follows (.step call next) exchanges (.done result)) :
    ∃ answer rest,
      exchanges = ⟨call, answer⟩ :: rest ∧
        Follows (next answer) rest (.done result) := by
  rcases follows.of_step with ⟨-, due⟩ | answered
  · cases due
  · exact answered

/-- A program that is left may follow one more answer. -/
theorem Follows.snoc
    {interface : Interface}
    {Result : Type}
    {program : Program interface Result}
    {exchanges : List (Exchange interface)}
    {call : interface.Call}
    {next : interface.Answer call → Program interface Result}
    (follows : Follows program exchanges (.step call next))
    (answer : interface.Answer call) :
    Follows program (exchanges ++ [⟨call, answer⟩]) (next answer) := by
  generalize due : (.step call next : Program interface Result) = left at follows
  induction follows with
  | start program =>
      subst due
      exact .next (.start _)
  | next _ inductionHypothesis => exact .next (inductionHypothesis due)

/-- A program has made the same calls when another one comes after it. -/
theorem Follows.bind_left
    {interface : Interface}
    {Result Later : Type}
    {program left : Program interface Result}
    {exchanges : List (Exchange interface)}
    (follows : Follows program exchanges left)
    (continuation : Result → Program interface Later) :
    Follows (program.bind continuation) exchanges (left.bind continuation) := by
  induction follows with
  | start => exact .start _
  | next _ inductionHypothesis => exact .next inductionHypothesis

/-- One program after another has made the calls of both. -/
theorem Follows.bind
    {interface : Interface}
    {Result Later : Type}
    {program : Program interface Result}
    {continuation : Result → Program interface Later}
    {first second : List (Exchange interface)}
    {result : Result}
    {final : Program interface Later}
    (follows : Follows program first (.done result))
    (goesOn : Follows (continuation result) second final) :
    Follows (program.bind continuation) (first ++ second) final := by
  generalize ended : Program.done result = left at follows
  induction follows with
  | start =>
      subst ended
      exact goesOn
  | next _ inductionHypothesis => exact .next (inductionHypothesis ended)

/--
One program after another is still in the first one, or has ended it and goes on
with the second one.
-/
theorem Follows.cases_bind
    {interface : Interface}
    {Result Later : Type}
    {program : Program interface Result}
    {continuation : Result → Program interface Later}
    {exchanges : List (Exchange interface)}
    {left : Program interface Later}
    (follows : Follows (program.bind continuation) exchanges left) :
    (∃ call next,
      Follows program exchanges (.step call next) ∧
        left = (Program.step call next).bind continuation) ∨
      ∃ first second result,
        exchanges = first ++ second ∧
          Follows program first (.done result) ∧
          Follows (continuation result) second left := by
  induction program generalizing exchanges with
  | done result => exact .inr ⟨[], exchanges, result, rfl, .start _, follows⟩
  | step call next inductionHypothesis =>
      rcases Follows.of_step follows with
        ⟨rfl, due⟩ | ⟨answer, rest, rfl, goesOn⟩
      · exact .inl ⟨call, next, .start _, due⟩
      · rcases inductionHypothesis answer goesOn with
          ⟨later, following, before, due⟩ |
          ⟨first, second, result, rfl, before, after⟩
        · exact .inl ⟨later, following, .next before, due⟩
        · exact .inr ⟨_, second, result, rfl, .next before, after⟩

/-- The calls of one program after another are those of the two. -/
theorem Follows.of_bind
    {interface : Interface}
    {Result Later : Type}
    {program : Program interface Result}
    {continuation : Result → Program interface Later}
    {exchanges : List (Exchange interface)}
    {final : Later}
    (follows : Follows (program.bind continuation) exchanges (.done final)) :
    ∃ first second result,
      exchanges = first ++ second ∧
        Follows program first (.done result) ∧
        Follows (continuation result) second (.done final) := by
  rcases follows.cases_bind with ⟨call, next, -, due⟩ | ended
  · cases due
  · exact ended

variable {interface : Interface} {Thread State Result : Type}
variable [DecidableEq Thread]

/-- The exchange of a thread in a moment. -/
def Moment.exchangeBy?
    (thread : Thread) :
    Moment interface Thread State → Option (Exchange interface)
  | .turn other call answer _ _ =>
      if other = thread then some ⟨call, answer⟩ else none
  | .outside .. => none

/-- The exchanges of a thread, in their order. -/
def exchangesBy
    (thread : Thread)
    (history : History interface Thread State) : List (Exchange interface) :=
  history.filterMap (Moment.exchangeBy? thread)

theorem exchangesBy_concat_own
    (thread : Thread)
    (history : History interface Thread State)
    (call : interface.Call)
    (answer : interface.Answer call)
    (before after : State) :
    exchangesBy thread (history ++ [.turn thread call answer before after]) =
      exchangesBy thread history ++ [⟨call, answer⟩] := by
  simp [exchangesBy, Moment.exchangeBy?]

theorem exchangesBy_concat_other
    {thread : Thread}
    (history : History interface Thread State)
    {moment : Moment interface Thread State}
    (other : moment.thread? ≠ some thread) :
    exchangesBy thread (history ++ [moment]) = exchangesBy thread history := by
  cases moment with
  | turn turning call answer before after =>
      have differs : turning ≠ thread := by simpa using other
      simp [exchangesBy, Moment.exchangeBy?, differs]
  | outside before after =>
      simp [exchangesBy, Moment.exchangeBy?]

/-- An exchange of a thread took place in a moment of the thread. -/
theorem turn_of_mem_exchangesBy
    {thread : Thread}
    {history : History interface Thread State}
    {call : interface.Call}
    {answer : interface.Answer call}
    (member : ⟨call, answer⟩ ∈ exchangesBy thread history) :
    ∃ before after, .turn thread call answer before after ∈ history := by
  obtain ⟨moment, inHistory, exchanged⟩ := List.mem_filterMap.mp member
  cases moment with
  | turn other otherCall otherAnswer before after =>
      simp only [Moment.exchangeBy?] at exchanged
      split at exchanged
      · rename_i same
        cases exchanged
        subst same
        exact ⟨before, after, inHistory⟩
      · cases exchanged
  | outside => cases exchanged

/-- A moment of a thread is one of its exchanges. -/
theorem mem_exchangesBy_of_turn
    {thread : Thread}
    {history : History interface Thread State}
    {call : interface.Call}
    {answer : interface.Answer call}
    {before after : State}
    (member : .turn thread call answer before after ∈ history) :
    ⟨call, answer⟩ ∈ exchangesBy thread history :=
  List.mem_filterMap.mpr ⟨_, member, if_pos rfl⟩

namespace Run

variable {semantics : Semantics interface State}
variable {surroundings : State → State → Prop}
variable {programs current : Thread → Program interface Result}
variable {state final : State}
variable {history : History interface Thread State}

/-- The exchanges of a thread lead to what is left of its program. -/
theorem follows
    (run :
      Run semantics surroundings programs state history current final)
    (thread : Thread) :
    Follows (programs thread) (exchangesBy thread history)
      (current thread) := by
  induction run with
  | start => exact .start _
  | @turn history current before after turning call next answer run due
      answered inductionHypothesis =>
      by_cases own : turning = thread
      · subst own
        rw [due] at inductionHypothesis
        rw [Function.update_self, exchangesBy_concat_own]
        exact inductionHypothesis.snoc answer
      · rw [Function.update_of_ne (Ne.symm own),
          exchangesBy_concat_other history (by simpa using own)]
        exact inductionHypothesis
  | outside run step inductionHypothesis =>
      rw [exchangesBy_concat_other _ (by simp)]
      exact inductionHypothesis

/-- A run can be taken back to before any of its turns, which comes next. -/
theorem split_turn
    (run :
      Run semantics surroundings programs state history current final)
    {thread : Thread}
    {call : interface.Call}
    {answer : interface.Answer call}
    {before after : State}
    (member : .turn thread call answer before after ∈ history) :
    ∃ earlier previous next,
      earlier ++ [.turn thread call answer before after] <+: history ∧
        Run semantics surroundings programs state earlier previous before ∧
        previous thread = .step call next ∧
        semantics call before answer after := by
  induction run with
  | start => cases member
  | turn run due answered inductionHypothesis =>
      rcases List.mem_append.mp member with isEarlier | isLast
      · obtain ⟨earlier, previous, next, isPrefix, split⟩ :=
          inductionHypothesis isEarlier
        exact
          ⟨earlier, previous, next, isPrefix.trans (List.prefix_append _ _),
            split⟩
      · cases List.mem_singleton.mp isLast
        exact ⟨_, _, _, List.prefix_rfl, run, due, answered⟩
  | outside run step inductionHypothesis =>
      rcases List.mem_append.mp member with isEarlier | isLast
      · obtain ⟨earlier, previous, next, isPrefix, split⟩ :=
          inductionHypothesis isEarlier
        exact
          ⟨earlier, previous, next, isPrefix.trans (List.prefix_append _ _),
            split⟩
      · cases List.mem_singleton.mp isLast

/-- A run can be taken back to before any of its turns. -/
theorem split
    (run :
      Run semantics surroundings programs state history current final)
    {thread : Thread}
    {call : interface.Call}
    {answer : interface.Answer call}
    {before after : State}
    (member : .turn thread call answer before after ∈ history) :
    ∃ earlier previous next,
      earlier <+: history ∧
        Run semantics surroundings programs state earlier previous before ∧
        previous thread = .step call next ∧
        semantics call before answer after := by
  obtain ⟨earlier, previous, next, isPrefix, split⟩ := run.split_turn member
  exact
    ⟨earlier, previous, next, (List.prefix_append _ _).trans isPrefix, split⟩

end Run

end ClusterClient
