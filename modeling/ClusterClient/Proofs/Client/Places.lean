import ClusterClient.Proofs.Client.Stepwise

namespace ClusterClient.Client.Stepwise

/-!
# Where threads stand between two steps

Between two steps a thread is about to make one of the calls of its work, or it
is in the middle of completing a request or of clearing the table. `Moves` lists
the steps that a thread may take from each of these places, with what the step
does. A request that somebody is in the middle of completing is at the stage of
that thread, and all others are settled.
-/

/-- What a thread is in the middle of. -/
inductive Inside where
  | nothing
  | completing
      (index : Nat)
      (outcome : Request.Outcome Wire.Response)
      (step : Request.Stage)
  | clearing (entries : List (UInt32 × Pending))

namespace Inside

/-- The request that a thread is in the middle of completing. -/
def completing? : Inside → Option Nat
  | .completing index _ _ => some index
  | _ => none

/-- Whoever has claimed a request is completing it up to the last step. -/
def afterClaim
    (index : Nat)
    (outcome : Request.Outcome Wire.Response) : Request.Stage → Inside
  | .ended => .nothing
  | step => .completing index outcome step

theorem completing?_afterClaim
    {index : Nat}
    {outcome : Request.Outcome Wire.Response}
    {step : Request.Stage}
    (notEnded : step ≠ .ended) :
    (afterClaim index outcome step).completing? = some index := by
  cases step <;> first | rfl | exact absurd rfl notEnded

theorem eq_of_afterClaim_eq
    {index other : Nat}
    {outcome given : Request.Outcome Wire.Response}
    {step later : Request.Stage}
    (same :
      afterClaim index outcome step = .completing other given later) :
    index = other ∧ outcome = given ∧ step = later := by
  cases step <;> cases same <;> exact ⟨rfl, rfl, rfl⟩

end Inside

/--
What is left of the steps of a thread, by what it is in the middle of. Whoever
has claimed a request goes on as one who has completed it.
-/
inductive Position
    (client : Client)
    (work : Work) : Stage → Inside → Program actions Ending → Prop where
  | nothing
      {stage : Stage}
      {program : Program interface Ending}
      (tends : Tends client work stage program) :
      Position client work stage .nothing (spelled program)
  | completing
      {stage : Stage}
      {index : Nat}
      {outcome : Request.Outcome Wire.Response}
      {step : Request.Stage}
      {next : Bool → Program interface Ending}
      (notEnded : step ≠ .ended)
      (tends : Tends client work stage (next true)) :
      Position client work stage (.completing index outcome step)
        (Program.bind (within index (step.rest outcome true)) fun won =>
          spelled (next won))
  | clearing
      {stage : Stage}
      {entries : List (UInt32 × Pending)}
      {next : Unit → Program interface Ending}
      (tends :
        Tends client work stage (.step (.table .dropCompleted) next)) :
      Position client work stage (.clearing entries)
        (Program.bind (examineAll entries) fun _ =>
          @Program.step actions _ .unlockTable fun _ => spelled (next ()))

/-- The steps from each place, what they do, and where they lead. -/
inductive Moves
    (client : Client)
    (work : Work)
    (before after : Traffic) :
    Stage → Inside → (action : Action) → action.Answer → Stage → Inside →
    Prop where
  | whole
      {stage later : Stage}
      {call : Call}
      {answer : call.Answer}
      (isPlain : call.isPlain)
      (next : stage.Next client work call answer later)
      (answered : Client.semantics call before answer after)
      (readable : ∀ index,
        waitedFor? call answer = some index → isReadable before index) :
      Moves client work before after stage .nothing (.whole call) answer later
        .nothing
  | claimed
      {stage later : Stage}
      {index : Nat}
      {outcome : Request.Outcome Wire.Response}
      {request : Request Wire.Response}
      (next :
        stage.Next client work (.table (.complete index outcome)) true later)
      (found : before.requests[index]? = some request)
      (incomplete : request.phase = .incomplete)
      (isAfter :
        after =
          setRequest before index
            (Request.Stage.recording.request outcome request)) :
      Moves client work before after stage .nothing (.request index .claim) true
        later (.afterClaim index outcome .recording)
  | lost
      {stage later : Stage}
      {index : Nat}
      {outcome : Request.Outcome Wire.Response}
      (next :
        stage.Next client work (.table (.complete index outcome)) false later)
      (claimed : before.IsClaimed index)
      (same : after = before) :
      Moves client work before after stage .nothing (.request index .claim)
        false later .nothing
  | goesOn
      {stage : Stage}
      {index : Nat}
      {outcome : Request.Outcome Wire.Response}
      {step later : Request.Stage}
      {fresh : Request Wire.Response}
      {call : Request.Call Wire.Response}
      {answer : call.Answer}
      (isFresh : fresh.IsFresh)
      (found : before.requests[index]? = some (step.request outcome fresh))
      (stays :
        step.published outcome = none ∨
          later.published outcome = step.published outcome)
      (isAfter :
        after = setRequest before index (later.request outcome fresh)) :
      Moves client work before after stage (.completing index outcome step)
        (.request index call) answer stage (.afterClaim index outcome later)
  | locked
      {stage : Stage}
      {entries : List (UInt32 × Pending)}
      (isTable : entries.Perm before.table)
      (same : after = before) :
      Moves client work before after stage .nothing .lockTable entries stage
        (.clearing entries)
  | examined
      {stage : Stage}
      {number : UInt32}
      {entry : Pending}
      {rest : List (UInt32 × Pending)}
      (isAfter : after = clear before [(number, entry)]) :
      Moves client work before after stage (.clearing ((number, entry) :: rest))
        (.examine number entry) () stage (.clearing rest)
  | unlocked
      {stage later : Stage}
      (next : stage.Next client work (.table .dropCompleted) () later)
      (same : after = before) :
      Moves client work before after stage (.clearing []) .unlockTable () later
        .nothing

/-- No step takes back that a request is completed. -/
theorem Moves.hasCompleted
    {client : Client}
    {work : Work}
    {before after : Traffic}
    {stage later : Stage}
    {inside goesOn : Inside}
    {action : Action}
    {answer : action.Answer}
    (moves :
      Moves client work before after stage inside action answer later goesOn)
    {index : Nat}
    (completed : before.HasCompleted index) : after.HasCompleted index := by
  cases moves with
  | whole _ _ answered => exact completed.step answered
  | claimed _ found incomplete isAfter =>
      obtain ⟨request, isRequest, isCompleted⟩ := completed
      subst isAfter
      refine ⟨request, ?_, isCompleted⟩
      rw [getElem?_setRequest found, if_neg ?_]
      · exact isRequest
      · rintro rfl
        cases found.symm.trans isRequest
        rw [Request.isCompleted, Request.status, incomplete] at isCompleted
        cases isCompleted
  | @goesOn _ outcome _ later _ _ _ isFresh found stays isAfter =>
      obtain ⟨request, isRequest, isCompleted⟩ := completed
      subst isAfter
      unfold Traffic.HasCompleted
      rw [getElem?_setRequest found]
      split
      · rename_i same
        subst same
        cases found.symm.trans isRequest
        refine ⟨_, rfl, (later.isCompleted_iff isFresh outcome).mpr ?_⟩
        have published :=
          (Request.Stage.isCompleted_iff isFresh _ _).mp isCompleted
        rw [stays.resolve_left published]
        exact published
      · exact ⟨request, isRequest, isCompleted⟩
  | lost _ _ same | locked _ same | unlocked _ same =>
      rw [same]
      exact completed
  | examined isAfter =>
      rw [isAfter]
      exact completed

/-- What a thread is in the middle of, the requests are at the same stage of. -/
def Inside.Meets (inside : Inside) (traffic : Traffic) : Prop :=
  ∀ index outcome step,
    inside = .completing index outcome step →
    ∃ fresh : Request Wire.Response,
      fresh.IsFresh ∧
        traffic.requests[index]? = some (step.request outcome fresh)

namespace Position

variable {client : Client} {work : Work} {stage : Stage} {inside : Inside}

/-- A thread whose steps have ended is in the middle of nothing. -/
theorem of_done
    {ending : Ending}
    (position : Position client work stage inside (.done ending)) :
    inside = .nothing ∧ Tends client work stage (.done ending) := by
  generalize due : (.done ending : Program actions Ending) = program
    at position
  cases position with
  | nothing tends =>
      rw [of_spelled_done due.symm] at tends
      exact ⟨rfl, tends⟩
  | @completing index outcome step _ notEnded =>
      obtain ⟨call, next, isStep⟩ :=
        Request.Stage.exists_step notEnded outcome true
      rw [isStep] at due
      cases due
  | @clearing entries =>
      cases entries <;> cases due

/-- Whoever has claimed a request goes on as one who has completed it. -/
theorem of_rest
    {next : Bool → Program interface Ending}
    (tends : Tends client work stage (next true))
    (index : Nat)
    (outcome : Request.Outcome Wire.Response)
    (step : Request.Stage) :
    Position client work stage (.afterClaim index outcome step)
      (Program.bind (within index (step.rest outcome true)) fun won =>
        spelled (next won)) := by
  cases step with
  | ended => exact .nothing tends
  | recording | locking | storing | publishing | unlocking =>
      exact .completing nofun tends

section Turn

variable {before after : State} {action : Action} {answer : action.Answer}
variable {next : action.Answer → Program actions Ending}

/-- Whoever is about to complete a request claims it, or finds it claimed. -/
theorem turn_of_claim
    {index : Nat}
    {outcome : Request.Outcome Wire.Response}
    {goesOn : Bool → Program interface Ending}
    (tends :
      Tends client work stage
        (.step (.table (.complete index outcome)) goesOn))
    (due :
      .step action next =
        spelled (.step (.table (.complete index outcome)) goesOn))
    (answered : semantics action before answer after) :
    ∃ later inside,
      Moves client work before.traffic after.traffic stage .nothing action
          answer later inside ∧
        Position client work later inside (next answer) := by
  cases due.trans (spelled_complete index outcome goesOn)
  obtain ⟨request, claimed, found, turns, isAfter⟩ := answered
  have isAfter := congrArg State.traffic isAfter
  by_cases incomplete : request.phase = .incomplete
  · rw [Request.machine, if_pos incomplete] at turns
    cases turns
    obtain ⟨later, moves, tendsLater⟩ := tends.next true
    exact
      ⟨_, _, .claimed moves found incomplete isAfter,
        .of_rest tendsLater index outcome .recording⟩
  · rw [Request.machine, if_neg incomplete] at turns
    cases turns
    obtain ⟨later, moves, tendsLater⟩ := tends.next false
    rw [setRequest_of_found found] at isAfter
    exact
      ⟨_, _, .lost moves ⟨request, found, incomplete⟩ isAfter,
        .nothing tendsLater⟩

/-- Whoever is in the middle of nothing takes the first step of a call. -/
theorem turn_of_nothing
    {program : Program interface Ending}
    (tends : Tends client work stage program)
    (due : .step action next = spelled program)
    (answered : semantics action before answer after) :
    ∃ later inside,
      Moves client work before.traffic after.traffic stage .nothing action
          answer later inside ∧
        Position client work later inside (next answer) := by
  cases program with
  | done => cases due
  | step call goesOn =>
      cases isPlain : call.isPlain with
      | true =>
          cases due.trans (spelled_of_isPlain isPlain goesOn)
          obtain ⟨isAnswer, -, admits⟩ := answered
          obtain ⟨later, moves, tendsLater⟩ := tends.next answer
          refine
            ⟨later, .nothing, .whole isPlain moves isAnswer ?_,
              .nothing tendsLater⟩
          intro index isWaitedFor
          unfold State.admits at admits
          rw [isWaitedFor] at admits
          exact (Bool.and_eq_true_iff.mp admits).2
      | false =>
          rcases Call.of_not_isPlain isPlain with ⟨index, outcome, rfl⟩ | rfl
          · exact turn_of_claim tends due answered
          · cases due.trans (spelled_dropCompleted goesOn)
            obtain ⟨-, isTable, rfl⟩ := answered
            exact ⟨_, _, .locked isTable rfl, .clearing tends⟩

/-- Whoever is completing a request takes it to the next stage. -/
theorem turn_of_completing
    {index : Nat}
    {outcome : Request.Outcome Wire.Response}
    {step : Request.Stage}
    {goesOn : Bool → Program interface Ending}
    (notEnded : step ≠ .ended)
    (tends : Tends client work stage (goesOn true))
    (meets : (Inside.completing index outcome step).Meets before.traffic)
    (due :
      .step action next =
        Program.bind (within index (step.rest outcome true)) fun won =>
          spelled (goesOn won))
    (answered : semantics action before answer after) :
    ∃ later inside,
      Moves client work before.traffic after.traffic stage
          (.completing index outcome step) action answer later inside ∧
        Position client work later inside (next answer) := by
  obtain ⟨call, rest, isStep⟩ :=
    Request.Stage.exists_step notEnded outcome true
  rw [isStep] at due
  cases due
  obtain ⟨request, held, found, turns, isAfter⟩ := answered
  obtain ⟨fresh, isFresh, isAtStage⟩ := meets index outcome step rfl
  cases found.symm.trans isAtStage
  obtain ⟨-, later, isRest, rfl, stays⟩ :=
    Request.Stage.turn isFresh isStep turns
  refine
    ⟨stage, _,
      .goesOn isFresh isAtStage stays (congrArg State.traffic isAfter), ?_⟩
  change
    Position _ _ _ _
      (Program.bind (within index (rest _)) fun won => spelled _)
  rw [isRest]
  exact .of_rest tends index outcome later

/-- Whoever is clearing the table looks at the next entry, or lets go of it. -/
theorem turn_of_clearing
    {entries : List (UInt32 × Pending)}
    {goesOn : Unit → Program interface Ending}
    (tends :
      Tends client work stage (.step (.table .dropCompleted) goesOn))
    (due :
      .step action next =
        Program.bind (examineAll entries) fun _ =>
          @Program.step actions _ .unlockTable fun _ => spelled (goesOn ()))
    (answered : semantics action before answer after) :
    ∃ later inside,
      Moves client work before.traffic after.traffic stage (.clearing entries)
          action answer later inside ∧
        Position client work later inside (next answer) := by
  cases entries with
  | nil =>
      cases due
      cases answered
      obtain ⟨later, moves, tendsLater⟩ := tends.next ()
      exact ⟨_, _, .unlocked moves rfl, .nothing tendsLater⟩
  | cons first rest =>
      cases due
      cases answered
      exact ⟨_, _, .examined rfl, .clearing tends⟩

/-- Whatever a step is answered, its thread moves from one place to another. -/
theorem turn
    (position : Position client work stage inside (.step action next))
    (meets : inside.Meets before.traffic)
    (answered : semantics action before answer after) :
    ∃ later goesOn,
      Moves client work before.traffic after.traffic stage inside action answer
          later goesOn ∧
        Position client work later goesOn (next answer) := by
  generalize due : (.step action next : Program actions Ending) = program
    at position
  cases position with
  | nothing tends => exact turn_of_nothing tends due answered
  | completing notEnded tends =>
      exact turn_of_completing notEnded tends meets due answered
  | clearing tends => exact turn_of_clearing tends due answered

end Turn

end Position

/-! ## Who is in the middle of completing what -/

variable {Thread : Type}
variable {insides : Thread → Inside} {traffic before after : Traffic}
variable {thread : Thread} {index : Nat}

/-- Every request is settled, or one thread alone is completing it. -/
structure Completers
    (insides : Thread → Inside)
    (traffic : Traffic) : Prop where
  alone : ∀ {first second index},
    (insides first).completing? = some index →
    (insides second).completing? = some index → first = second
  meets : ∀ thread, (insides thread).Meets traffic
  settled : ∀ {index request},
    traffic.requests[index]? = some request →
    (∀ thread, (insides thread).completing? ≠ some index) →
    request.IsSettled

theorem Inside.exists_of_completing?
    {inside : Inside}
    (isCompleting : inside.completing? = some index) :
    ∃ outcome step, inside = .completing index outcome step := by
  cases inside with
  | completing =>
      cases isCompleting
      exact ⟨_, _, rfl⟩
  | nothing | clearing => cases isCompleting

namespace Completers

theorem empty : Completers (fun _ : Thread => .nothing) .empty where
  alone isFirst := nomatch isFirst
  meets _ _ _ _ isInside := nomatch isInside
  settled found := nomatch found

/-- A request is settled, or at the stage of the one who completes it. -/
theorem settled_or_completing
    (completers : Completers insides traffic)
    {request : Request Wire.Response}
    (found : traffic.requests[index]? = some request) :
    request.IsSettled ∨
      ∃ thread outcome step fresh,
        insides thread = .completing index outcome step ∧
          fresh.IsFresh ∧ request = step.request outcome fresh := by
  by_cases somebody : ∃ thread, (insides thread).completing? = some index
  · obtain ⟨thread, isCompleting⟩ := somebody
    obtain ⟨outcome, step, isInside⟩ :=
      Inside.exists_of_completing? isCompleting
    obtain ⟨fresh, isFresh, atStage⟩ :=
      completers.meets thread index outcome step isInside
    cases found.symm.trans atStage
    exact .inr ⟨thread, outcome, step, fresh, isInside, isFresh, rfl⟩
  · exact .inl (completers.settled found (not_exists.mp somebody))

/-- Only a request that is claimed has an outcome. -/
theorem keepsOutcomes
    (completers : Completers insides traffic) : traffic.KeepsOutcomes := by
  intro index outcome isOutcome
  obtain ⟨request, found, inSlot⟩ := Option.bind_eq_some_iff.mp isOutcome
  refine ⟨request, found, fun incomplete => ?_⟩
  rcases completers.settled_or_completing found with
    settled | ⟨_, given, step, fresh, -, -, rfl⟩
  · rw [(settled.2.2 incomplete).1] at inSlot
    cases inSlot
  · exact Request.Stage.phase_ne_incomplete given fresh step incomplete

/-- Whoever can read an outcome finds the request completed. -/
theorem hasCompleted_of_outcome
    (completers : Completers insides traffic)
    {outcome : Request.Outcome Wire.Response}
    (isOutcome : traffic.outcome? index = some outcome)
    (readable : isReadable traffic index) : traffic.HasCompleted index := by
  obtain ⟨request, found, isClaimed⟩ := completers.keepsOutcomes _ _ isOutcome
  obtain ⟨other, isFound, inSlot⟩ := Option.bind_eq_some_iff.mp isOutcome
  cases isFound.symm.trans found
  refine ⟨request, found, ?_⟩
  rcases completers.settled_or_completing found with
    settled | ⟨_, given, step, fresh, -, isFresh, rfl⟩
  · exact settled.isCompleted_iff.mpr isClaimed
  · refine (step.isCompleted_iff isFresh given).mpr ?_
    refine Request.Stage.published_of_readable isFresh ?_ ?_
    · rw [inSlot]
      exact Option.some_ne_none outcome
    · simpa [isReadable, found] using readable

/-- A claimed request is completed, or somebody is completing it. -/
theorem hasCompleted_or_completing
    (completers : Completers insides traffic)
    (claimed : traffic.IsClaimed index) :
    traffic.HasCompleted index ∨
      ∃ thread, (insides thread).completing? = some index := by
  obtain ⟨request, found, isClaimed⟩ := claimed
  rcases completers.settled_or_completing found with
    settled | ⟨thread, _, _, _, isInside, -⟩
  · exact .inl ⟨request, found, settled.isCompleted_iff.mpr isClaimed⟩
  · exact .inr ⟨thread, by rw [isInside]; rfl⟩

/-- A request that was just opened is settled. -/
theorem grow
    (completers : Completers insides before)
    {opened : Request Wire.Response}
    (isFresh : opened.IsFresh)
    (isAfter : after.requests = before.requests ++ [opened]) :
    Completers insides after where
  alone := completers.alone
  meets thread index outcome step isInside := by
    obtain ⟨fresh, isFresh, found⟩ :=
      completers.meets thread index outcome step isInside
    have inside := (List.getElem?_eq_some_iff.mp found).1
    refine ⟨fresh, isFresh, ?_⟩
    rw [isAfter, List.getElem?_append_left inside]
    exact found
  settled found nobody := by
    rw [isAfter, List.getElem?_append] at found
    split at found
    · exact completers.settled found nobody
    · obtain ⟨isZero, isOpened⟩ := List.getElem?_eq_some_iff.mp found
      simp only [List.length_singleton, Nat.lt_one_iff] at isZero
      simp only [isZero, List.getElem_cons_zero] at isOpened
      rw [← isOpened]
      exact isFresh.isSettled

variable [DecidableEq Thread]

/-- A thread that is completing nothing changes no request. -/
theorem aside
    (completers : Completers insides before)
    (sameRequests : after.requests = before.requests)
    {inside : Inside}
    (was : (insides thread).completing? = none)
    (is : inside.completing? = none) :
    Completers (Function.update insides thread inside) after := by
  have same : ∀ other,
      (Function.update insides thread inside other).completing? =
        (insides other).completing? := by
    intro other
    by_cases own : other = thread
    · rw [own, Function.update_self, was, is]
    · rw [Function.update_of_ne own]
  refine ⟨?_, ?_, ?_⟩
  · intro first second index isFirst isSecond
    rw [same] at isFirst isSecond
    exact completers.alone isFirst isSecond
  · intro other index outcome step isInside
    rw [sameRequests]
    by_cases own : other = thread
    · rw [own, Function.update_self] at isInside
      rw [isInside] at is
      cases is
    · rw [Function.update_of_ne own] at isInside
      exact completers.meets other index outcome step isInside
  · intro index request found nobody
    rw [sameRequests] at found
    exact completers.settled found fun other => by
      rw [← same]
      exact nobody other

/-- The one thread that completes a request takes it to a later stage. -/
theorem advance
    (completers : Completers insides before)
    {request fresh : Request Wire.Response}
    (found : before.requests[index]? = some request)
    (isFresh : fresh.IsFresh)
    (was :
      (insides thread).completing? = none ∨
        (insides thread).completing? = some index)
    (others : ∀ other,
      (insides other).completing? = some index → other = thread)
    (outcome : Request.Outcome Wire.Response)
    (later : Request.Stage) :
    Completers
      (Function.update insides thread (.afterClaim index outcome later))
      (setRequest before index (later.request outcome fresh)) := by
  have is : ∀ other,
      (Inside.afterClaim index outcome later).completing? = some other →
      other = index := by
    intro other isCompleting
    obtain ⟨given, step, isInside⟩ := Inside.exists_of_completing? isCompleting
    exact (Inside.eq_of_afterClaim_eq isInside).1.symm
  refine ⟨?_, ?_, ?_⟩
  · intro first second target isFirst isSecond
    rcases found_of_update Inside.completing? isFirst with
      ⟨rfl, isNew⟩ | ⟨firstOther, firstWas⟩
    · rcases found_of_update Inside.completing? isSecond with
        ⟨rfl, -⟩ | ⟨secondOther, secondWas⟩
      · rfl
      · rw [is target isNew] at secondWas
        exact absurd (others second secondWas) secondOther
    · rcases found_of_update Inside.completing? isSecond with
        ⟨rfl, isNew⟩ | ⟨-, secondWas⟩
      · rw [is target isNew] at firstWas
        exact absurd (others first firstWas) firstOther
      · exact completers.alone firstWas secondWas
  · intro other target given step isInside
    rw [getElem?_setRequest found]
    by_cases own : other = thread
    · rw [own, Function.update_self] at isInside
      obtain ⟨rfl, rfl, rfl⟩ := Inside.eq_of_afterClaim_eq isInside
      exact ⟨fresh, isFresh, if_pos rfl⟩
    · rw [Function.update_of_ne own] at isInside
      have differs : target ≠ index := by
        rintro rfl
        exact own (others other (by rw [isInside]; rfl))
      rw [if_neg differs]
      exact completers.meets other target given step isInside
  · intro target held isHeld nobody
    rw [getElem?_setRequest found] at isHeld
    by_cases same : target = index
    · subst same
      rw [if_pos rfl] at isHeld
      cases isHeld
      have ended : later = .ended := by
        by_contra notEnded
        have notOwn := nobody thread
        rw [Function.update_self] at notOwn
        exact notOwn (Inside.completing?_afterClaim notEnded)
      subst ended
      exact Request.Stage.isSettled_ended fresh outcome
    · rw [if_neg same] at isHeld
      refine completers.settled isHeld fun other isCompleting => ?_
      by_cases own : other = thread
      · subst own
        rcases was with none | isIndex
        · rw [none] at isCompleting
          cases isCompleting
        · rw [isIndex] at isCompleting
          cases isCompleting
          exact same rfl
      · refine nobody other ?_
        rw [Function.update_of_ne own]
        exact isCompleting

variable {client : Client} {work : Work} {stage later : Stage}
variable {inside goesOn : Inside} {action : Action} {answer : action.Answer}

/-- Each step keeps what the threads are in the middle of completing. -/
theorem turn
    (completers : Completers insides before)
    (isInside : insides thread = inside)
    (moves :
      Moves client work before after stage inside action answer later goesOn) :
    Completers (Function.update insides thread goesOn) after := by
  have own := congrArg Inside.completing? isInside
  cases moves with
  | whole isPlain next answered =>
      rcases requests_step answered with
        same | ⟨request, rfl, isAfter⟩ | ⟨_, _, rfl, -⟩
      · exact completers.aside same own rfl
      · rw [← isInside, Function.update_eq_self]
        exact completers.grow next.isFresh_of_openRequest isAfter
      · cases isPlain
  | claimed next found incomplete isAfter =>
      subst isAfter
      -- Nobody is completing a request that is not claimed.
      rcases completers.settled_or_completing found with
        settled | ⟨_, given, step, fresh, -, -, rfl⟩
      · refine
          completers.advance found (settled.isFresh incomplete) (.inl own) ?_ _
            _
        intro other isCompleting
        obtain ⟨given, step, isOther⟩ :=
          Inside.exists_of_completing? isCompleting
        obtain ⟨fresh, -, atStage⟩ := completers.meets other _ _ _ isOther
        cases found.symm.trans atStage
        exact
          absurd incomplete (Request.Stage.phase_ne_incomplete given fresh step)
      · exact
          absurd incomplete (Request.Stage.phase_ne_incomplete given fresh step)
  | goesOn isFresh found stays isAfter =>
      subst isAfter
      exact
        completers.advance found isFresh (.inr own)
          (fun other isCompleting => completers.alone isCompleting own) _ _
  | lost _ _ same | locked _ same | unlocked _ same =>
      subst same
      exact completers.aside rfl own rfl
  | examined isAfter =>
      have sameRequests : after.requests = before.requests := by
        rw [isAfter]
        rfl
      exact completers.aside sameRequests own rfl

end Completers

end ClusterClient.Client.Stepwise
