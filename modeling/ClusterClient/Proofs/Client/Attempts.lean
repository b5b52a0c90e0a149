import ClusterClient.Client.Call
import ClusterClient.Proofs.Trace

namespace ClusterClient.Client

/-!
# What attempts have done

An attempt is a program that may fail. What is left of it after some calls tells
whether it is still under way, has failed, or has succeeded and goes on with
what comes after it.
-/

/-- A program that has not ended, and has not run out of its allowance either. -/
def IsUnderway {Result : Type} (left : Program interface Result) : Prop :=
  ∃ call next, left = .step call next ∧ call ≠ .never

variable {Result Later : Type} {exchanges : List (Exchange interface)}

theorem IsUnderway.bind
    {left : Program interface Result}
    (underway : IsUnderway left)
    (continuation : Result → Program interface Later) :
    IsUnderway (left.bind continuation) := by
  obtain ⟨call, next, rfl, goesOn⟩ := underway
  exact ⟨call, _, rfl, goesOn⟩

/-- A program whose result is only changed is under way while the whole is. -/
theorem IsUnderway.of_map
    {left : Program interface Result}
    {change : Result → Later}
    (underway : IsUnderway (left.bind fun result => .done (change result))) :
    IsUnderway left := by
  obtain ⟨call, next, due, goesOn⟩ := underway
  cases left with
  | done result => cases due
  | step call next =>
      cases due
      exact ⟨call, next, rfl, goesOn⟩

/-- A program whose changed result is known has ended. -/
theorem eq_done_of_map
    {left : Program interface Result}
    {change : Result → Later}
    {changed : Later}
    (ended : (left.bind fun result => .done (change result)) = .done changed) :
    ∃ result, left = .done result ∧ change result = changed := by
  cases left with
  | done result =>
      cases ended
      exact ⟨result, rfl, rfl⟩
  | step call next => cases ended

theorem IsUnderway.ne_done
    {left : Program interface Result}
    (underway : IsUnderway left)
    (result : Result) : left ≠ .done result := by
  obtain ⟨call, next, rfl, -⟩ := underway
  exact nofun

theorem IsUnderway.ne_never
    {left : Program interface Result}
    (underway : IsUnderway left)
    (next : Empty → Program interface Result) : left ≠ .step .never next := by
  obtain ⟨call, next, rfl, goesOn⟩ := underway
  rintro ⟨⟩
  exact goesOn rfl

/-- A program that is part of an attempt cannot fail it. -/
theorem cases_lift
    {program : Program interface Result}
    {left : Program interface (Except Error Result)}
    (follows :
      Follows (ExceptT.lift program : Attempt Result).run exchanges left) :
    (∃ call next,
      Follows program exchanges (.step call next) ∧
        left = (Program.step call next).bind fun value => .done (.ok value)) ∨
      ∃ value,
        left = .done (.ok value) ∧ Follows program exchanges (.done value) := by
  rcases follows.cases_bind with
    ⟨call, next, before, due⟩ | ⟨first, second, value, rfl, before, after⟩
  · exact .inl ⟨call, next, before, due⟩
  · obtain ⟨rfl, same⟩ := Follows.of_done after
    rw [List.append_nil]
    exact .inr ⟨value, same, before⟩

/-- A program that is part of an attempt and has ended has not failed it. -/
theorem follows_lift
    {program : Program interface Result}
    {result : Except Error Result}
    (follows :
      Follows (ExceptT.lift program : Attempt Result).run exchanges
        (.done result)) :
    ∃ value,
      result = .ok value ∧ Follows program exchanges (.done value) := by
  rcases cases_lift follows with ⟨call, next, -, due⟩ | ⟨value, same, ended⟩
  · cases due
  · cases same
    exact ⟨value, rfl, ended⟩

/-- What comes after an attempt, if it has succeeded. -/
def onSuccess
    (continuation : Result → Attempt Later) :
    Except Error Result → Program interface (Except Error Later)
  | .error error => .done (.error error)
  | .ok value => (continuation value).run

/-- An attempt comes before what comes after it, unless it fails. -/
theorem run_bind
    (attempt : Attempt Result)
    (continuation : Result → Attempt Later) :
    (attempt >>= continuation).run =
      Program.bind attempt.run (onSuccess continuation) := by
  refine congrArg (Program.bind attempt.run) (funext fun result => ?_)
  cases result <;> rfl

/-- An attempt is under way, has failed, or goes on with what comes after it. -/
theorem cases_attempt
    {attempt : Attempt Result}
    {continuation : Result → Attempt Later}
    {left : Program interface (Except Error Later)}
    (follows : Follows (attempt >>= continuation).run exchanges left) :
    (∃ call next,
      Follows attempt.run exchanges (.step call next) ∧
        left = (Program.step call next).bind (onSuccess continuation)) ∨
      (∃ error,
        Follows attempt.run exchanges (.done (.error error)) ∧
          left = .done (.error error)) ∨
      ∃ first second value,
        exchanges = first ++ second ∧
          Follows attempt.run first (.done (.ok value)) ∧
          Follows (continuation value).run second left := by
  rw [run_bind] at follows
  rcases follows.cases_bind with
    ⟨call, next, before, due⟩ | ⟨first, second, result, rfl, before, after⟩
  · exact .inl ⟨call, next, before, due⟩
  · cases result with
    | error error =>
        obtain ⟨rfl, same⟩ := Follows.of_done after
        rw [List.append_nil]
        exact .inr (.inl ⟨error, before, same⟩)
    | ok value => exact .inr (.inr ⟨first, second, value, rfl, before, after⟩)

/-- An attempt that has ended has failed at once or has succeeded so far. -/
theorem follows_attempt
    {attempt : Attempt Result}
    {continuation : Result → Attempt Later}
    {result : Except Error Later}
    (follows :
      Follows (attempt >>= continuation).run exchanges (.done result)) :
    (∃ error,
      Follows attempt.run exchanges (.done (.error error)) ∧
        result = .error error) ∨
      ∃ first second value,
        exchanges = first ++ second ∧
          Follows attempt.run first (.done (.ok value)) ∧
          Follows (continuation value).run second (.done result) := by
  rcases cases_attempt follows with
    ⟨call, next, -, due⟩ | ⟨error, failed, same⟩ | goesOn
  · cases due
  · cases same
    exact .inl ⟨error, failed, rfl⟩
  · exact .inr goesOn

/-- An attempt whose result is changed makes the calls of the attempt. -/
theorem follows_map
    {attempt : Attempt Result}
    {change : Result → Later}
    {result : Except Error Later}
    (follows :
      Follows
        (ExceptT.run do
          let value ← attempt
          return change value)
        exchanges (.done result)) :
    ∃ before,
      Follows attempt.run exchanges (.done before) ∧
        result = before.map change := by
  rcases follows_attempt follows with
    ⟨error, failing, rfl⟩ | ⟨first, second, value, rfl, before, returning⟩
  · exact ⟨.error error, failing, rfl⟩
  · obtain ⟨rfl, same⟩ := Follows.of_done returning
    cases same
    rw [List.append_nil]
    exact ⟨.ok value, before, rfl⟩

end ClusterClient.Client
