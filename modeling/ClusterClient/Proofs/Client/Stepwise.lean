import ClusterClient.Proofs.Client.Openings

namespace ClusterClient.Client.Stepwise

/-!
# Clients step by step

A call that completes a request takes several steps: it claims the request,
records the reason of a cancellation, and stores and publishes the outcome under
the lock of the slot. A call that clears the table of completed requests looks
at one entry after the other while it holds the lock of the table. Here the
programs of a client are spelled out in such steps, so that other threads may
come in between any two of them.

Alone, a call that is spelled out does what it does in one step.
-/

/-- A client, and whether somebody holds the lock of its table. -/
structure State where
  traffic : Traffic
  locked : Bool
  deriving DecidableEq

/-- What is done in one step. -/
inductive Action where
  | whole (call : Call)
  | request (index : Nat) (call : Request.Call Wire.Response)
  | lockTable
  | examine (number : UInt32) (entry : Pending)
  | unlockTable

/-- What each step returns; whoever locks the table gets its entries. -/
def Action.Answer : Action → Type
  | .whole call => call.Answer
  | .request _ call => call.Answer
  | .lockTable => List (UInt32 × Pending)
  | .examine .. | .unlockTable => Unit

/-- Programs of a client that are spelled out. -/
abbrev actions : Interface := ⟨Action, Action.Answer⟩

/-- Take one step. -/
def perform (action : Action) : Program actions action.Answer :=
  @Program.perform actions action

/-- Work on one of the requests. -/
def within
    {Result : Type}
    (index : Nat) :
    Program (Request.interface Wire.Response) Result →
      Program actions Result :=
  Program.interpret fun call => perform (.request index call)

/-- Look at entries, one after the other. -/
def examineAll : List (UInt32 × Pending) → Program actions Unit
  | [] => .done ()
  | (number, entry) :: rest =>
      .step (.examine number entry) fun _ => examineAll rest

/-- Clear the table of completed requests under its lock. -/
def dropCompleted : Program actions Unit :=
  .step .lockTable fun entries =>
    Program.bind (examineAll entries) fun _ =>
      .step .unlockTable fun _ => .done ()

/-- The steps of a call. -/
def spell : (call : Call) → Program actions call.Answer
  | .table (.complete index outcome) => within index (Request.complete outcome)
  | .table .dropCompleted => dropCompleted
  | call => perform (.whole call)

/-- The steps of a program. -/
def spelled
    {Result : Type} : Program interface Result → Program actions Result :=
  Program.interpret spell

/-! ## What each step does -/

/-- Of some entries, those of completed requests leave the table. -/
def clear
    (traffic : Traffic)
    (entries : List (UInt32 × Pending)) : Traffic :=
  { traffic with
    table :=
      traffic.table.filter fun filed =>
        !(traffic.isCompleted filed.2 && filed ∈ entries) }

/-- Entries may be looked at together or apart. -/
theorem clear_clear
    (traffic : Traffic)
    (first rest : List (UInt32 × Pending)) :
    clear (clear traffic first) rest = clear traffic (first ++ rest) := by
  change
    { traffic with table := List.filter _ (List.filter _ traffic.table) } =
      { traffic with table := List.filter _ traffic.table }
  rw [List.filter_filter]
  congr 1
  refine List.filter_congr fun filed _ => ?_
  change
    (!(traffic.isCompleted filed.2 && _) && _) =
      !(traffic.isCompleted filed.2 && _)
  cases traffic.isCompleted filed.2 with
  | false => rfl
  | true => simp [Bool.and_comm]

/-- Looking at all entries clears the table of completed requests. -/
theorem clear_table (traffic : Traffic) :
    clear traffic traffic.table =
      (Traffic.machine .dropCompleted traffic).2 := by
  change
    { traffic with table := List.filter _ traffic.table } =
      { traffic with table := List.filter _ traffic.table }
  congr 1
  refine List.filter_congr fun filed member => ?_
  simp [member]

/-- A request is in another state. -/
def setRequest
    (traffic : Traffic)
    (index : Nat)
    (request : Request Wire.Response) : Traffic :=
  { traffic with requests := traffic.requests.set index request }

/-- The call needs the lock of the table for a moment. -/
def usesTable : Call → Bool
  | .table (.register ..) | .table (.takeEntry _) | .table (.takeExpired _)
  | .table .takeAll => true
  | _ => false

/-- The request whose outcome a waiter gets. -/
def waitedFor? : (call : Call) → call.Answer → Option Nat
  | .awaitUntil index _, some _ => some index
  | .awaitForever index, _ => some index
  | _, _ => none

/-- Nobody holds the lock of the slot of a request. -/
def isReadable (traffic : Traffic) (index : Nat) : Bool :=
  traffic.requests[index]?.all fun request => !request.slot.locked

/-- No lock that is held stands in the way of a call. -/
def State.admits
    (state : State)
    (call : Call)
    (answer : call.Answer) : Bool :=
  !(usesTable call && state.locked) &&
    (waitedFor? call answer).all (isReadable state.traffic)

/--
The answers that a step may get. Whole calls are answered as ever when no lock
stands in the way, a request answers its own steps, and the entries of a table
come in any order.
-/
def semantics : Semantics actions State :=
  fun action before answer after =>
    match action, answer with
    | .whole call, answer =>
        Client.semantics call before.traffic answer after.traffic ∧
          after.locked = before.locked ∧ before.admits call answer
    | .request index call, answer =>
        ∃ request later,
          before.traffic.requests[index]? = some request ∧
            Request.machine call request = some (answer, later) ∧
            after =
              { before with traffic := setRequest before.traffic index later }
    | .lockTable, answer =>
        before.locked = false ∧ answer.Perm before.traffic.table ∧
          after = { before with locked := true }
    | .examine number entry, _ =>
        after =
          { before with traffic := clear before.traffic [(number, entry)] }
    | .unlockTable, _ => after = { before with locked := false }

/-- Runs of programs on a client that are spelled out. -/
abbrev StepRun {Thread : Type} [DecidableEq Thread] :=
  @Run actions Thread State Ending _ semantics (fun _ _ => False)

/-- A client at rest without requests. -/
def State.empty : State := ⟨.empty, false⟩

/-- Answer steps as a connection answers whole calls. -/
def machine (connection : Machine interface Traffic) : Machine actions State :=
  fun action state =>
    match action with
    | .whole call =>
        (connection call state.traffic).bind fun answered =>
          if state.admits call answered.1 then
            some (answered.1, { state with traffic := answered.2 })
          else
            none
    | .request index call =>
        state.traffic.requests[index]?.bind fun request =>
          (Request.machine call request).map fun answered =>
            (answered.1,
              { state with
                traffic := setRequest state.traffic index answered.2 })
    | .lockTable =>
        if state.locked then
          none
        else
          some (state.traffic.table, { state with locked := true })
    | .examine number entry =>
        some ((),
          { state with traffic := clear state.traffic [(number, entry)] })
    | .unlockTable => some ((), { state with locked := false })

/-- The answers of the machine are among those that a step may get. -/
theorem semantics_of_machine
    {connection : Machine interface Traffic}
    (allowed : ∀ call before answer after,
      connection call before = some (answer, after) →
      Client.semantics call before answer after)
    (action : Action)
    (before : State)
    (answer : action.Answer)
    (after : State)
    (answered : machine connection action before = some (answer, after)) :
    semantics action before answer after := by
  cases action with
  | whole call =>
      obtain ⟨⟨given, later⟩, isGiven, admitted⟩ :=
        Option.bind_eq_some_iff.mp answered
      obtain ⟨admits, same⟩ := Option.ite_none_right_eq_some.mp admitted
      cases same
      exact ⟨allowed _ _ _ _ isGiven, rfl, admits⟩
  | request index call =>
      obtain ⟨request, found, isMapped⟩ := Option.bind_eq_some_iff.mp answered
      obtain ⟨⟨given, later⟩, turns, same⟩ := Option.map_eq_some_iff.mp isMapped
      cases same
      exact ⟨request, later, found, turns, rfl⟩
  | lockTable =>
      obtain ⟨unlocked, same⟩ := Option.ite_none_left_eq_some.mp answered
      cases same
      exact ⟨Bool.eq_false_iff.mpr unlocked, .refl _, rfl⟩
  | examine | unlockTable =>
      cases answered
      rfl

/-! ## Requests in other states -/

section SetRequest

variable {traffic : Traffic} {index : Nat} {request : Request Wire.Response}

theorem setRequest_of_found
    (found : traffic.requests[index]? = some request) :
    setRequest traffic index request = traffic := by
  obtain ⟨inside, isRequest⟩ := List.getElem?_eq_some_iff.mp found
  unfold setRequest
  rw [← isRequest, List.set_getElem_self]

theorem setRequest_setRequest (first second : Request Wire.Response) :
    setRequest (setRequest traffic index first) index second =
      setRequest traffic index second := by
  simp [setRequest]

theorem getElem?_setRequest
    (found : traffic.requests[index]? = some request)
    (later : Request Wire.Response)
    (other : Nat) :
    (setRequest traffic index later).requests[other]? =
      if other = index then some later else traffic.requests[other]? := by
  have inside := (List.getElem?_eq_some_iff.mp found).1
  unfold setRequest
  rw [List.getElem?_set]
  by_cases same : other = index
  · rw [if_pos same, if_pos same.symm, if_pos inside]
  · rw [if_neg same, if_neg (Ne.symm same)]

theorem isClaimed_setRequest
    (found : traffic.requests[index]? = some request)
    {later : Request Wire.Response}
    (claimed : later.phase ≠ .incomplete)
    (other : Nat) :
    (setRequest traffic index later).IsClaimed other ↔
      traffic.IsClaimed other ∨ other = index := by
  unfold Traffic.IsClaimed
  rw [getElem?_setRequest found]
  by_cases same : other = index
  · rw [if_pos same]
    exact iff_of_true ⟨later, rfl, claimed⟩ (.inr same)
  · rw [if_neg same]
    exact (or_iff_left same).symm

/-- A request that is claimed in another state was claimed now or before. -/
theorem claims_setRequest
    (found : traffic.requests[index]? = some request)
    {later : Request Wire.Response}
    (claimed : later.phase ≠ .incomplete) :
    traffic.Claims index (setRequest traffic index later) where
  sameTable := rfl
  sameLength := List.length_set
  claims other := by
    have inside := (List.getElem?_eq_some_iff.mp found).1
    rw [isClaimed_setRequest found claimed, and_iff_left inside]

/-- A claimed request that stays claimed may be in another state. -/
theorem shrinks_setRequest
    (found : traffic.requests[index]? = some request)
    (wasClaimed : request.phase ≠ .incomplete)
    {later : Request Wire.Response}
    (claimed : later.phase ≠ .incomplete) :
    traffic.Shrinks (setRequest traffic index later) where
  fewer := .refl _
  sameLength := List.length_set
  sameClaims other := by
    rw [isClaimed_setRequest found claimed]
    refine or_iff_left_of_imp ?_
    rintro rfl
    exact ⟨request, found, wasClaimed⟩

end SetRequest

/-! ## Calls that take their steps in a row -/

section Alone

variable (connection : Machine interface Traffic)

/-- A program on one request does what it does to the request alone. -/
theorem run_within
    {Result : Type}
    {index : Nat}
    (program : Program (Request.interface Wire.Response) Result)
    {state : State}
    {request : Request Wire.Response}
    (found : state.traffic.requests[index]? = some request) :
    (machine connection).run (within index program) state =
      (Request.machine.run program request).map fun ended =>
        (ended.1,
          { state with
            traffic := setRequest state.traffic index ended.2 }) := by
  induction program generalizing state request with
  | done result =>
      change
        some (result, state) =
          some (result,
            { state with traffic := setRequest state.traffic index request })
      rw [setRequest_of_found found]
  | step call next inductionHypothesis =>
      have isAnswered :
          machine connection (.request index call) state =
            (Request.machine call request).map fun answered =>
              (answered.1,
                { state with
                  traffic := setRequest state.traffic index answered.2 }) := by
        change (state.traffic.requests[index]?.bind _) = _
        rw [found]
        rfl
      change
        (machine connection).run
            (@Program.step actions _ (.request index call) fun answer =>
              within index (next answer))
            state =
          _
      cases turns : Request.machine call request with
      | none =>
          rw [turns] at isAnswered
          simp only [Machine.run, isAnswered, turns]
          rfl
      | some answered =>
          rw [turns] at isAnswered
          rw [Machine.run_step turns, Machine.run_step isAnswered]
          have later :
              (setRequest state.traffic index answered.2).requests[index]? =
                some answered.2 := by
            rw [getElem?_setRequest found, if_pos rfl]
          rw [inductionHypothesis answered.1 later]
          simp only [setRequest_setRequest]

/-- Nobody stands in the way of completing a request alone. -/
theorem run_complete
    {request : Request Wire.Response}
    (settled : request.IsSettled)
    (outcome : Request.Outcome Wire.Response) :
    Request.machine.run (Request.complete outcome) request =
      some (request.finish outcome) := by
  obtain ⟨timeout, createdAt, context, phase, reason, stored, locked⟩ := request
  obtain ⟨unlocked, unclaimed, fresh⟩ := settled
  simp only at unlocked unclaimed fresh
  subst unlocked
  cases phase with
  | incomplete =>
      obtain ⟨rfl, rfl⟩ := fresh rfl
      cases outcome <;> rfl
  | completing => exact absurd rfl unclaimed
  | succeeded | failed | cancelled => rfl

/-- Completing a request alone does what it does in one step. -/
theorem run_spell_complete
    {state : State}
    {index : Nat}
    {request : Request Wire.Response}
    (found : state.traffic.requests[index]? = some request)
    (settled : request.IsSettled)
    (outcome : Request.Outcome Wire.Response) :
    (machine connection).run (spell (.table (.complete index outcome))) state =
      some ((state.traffic.complete index outcome).1,
        { state with
          traffic := (state.traffic.complete index outcome).2 }) := by
  have alone := run_within connection (Request.complete outcome) found
  rw [run_complete settled] at alone
  refine alone.trans ?_
  simp [Traffic.complete, found, setRequest]

/-- Of the entries that are looked at, those of completed requests leave. -/
theorem run_examineAll
    (entries : List (UInt32 × Pending))
    (state : State) :
    (machine connection).run (examineAll entries) state =
      some ((), { state with traffic := clear state.traffic entries }) := by
  induction entries generalizing state with
  | nil =>
      change some ((), state) = _
      simp [clear]
  | cons first rest inductionHypothesis =>
      change
        (machine connection).run (examineAll rest)
            { state with traffic := clear state.traffic [first] } =
          _
      rw [inductionHypothesis]
      simp only [clear_clear, List.singleton_append]

/-- Clearing the table alone does what it does in one step. -/
theorem run_spell_dropCompleted
    {state : State}
    (unlocked : state.locked = false) :
    (machine connection).run (spell (.table .dropCompleted)) state =
      some ((),
        { state with
          traffic := (Traffic.machine .dropCompleted state.traffic).2 }) := by
  obtain ⟨traffic, locked⟩ := state
  cases unlocked
  change
    (machine connection).run
        (Program.bind (examineAll traffic.table) fun _ =>
          @Program.step actions _ .unlockTable fun _ => .done ())
        ⟨traffic, true⟩ =
      _
  rw [Machine.run_bind, run_examineAll, ← clear_table]
  rfl

/-- A call that neither completes nor clears anything is one step. -/
theorem spell_of_isPlain
    {call : Call}
    (isPlain : call.isPlain) : spell call = perform (.whole call) := by
  cases call with
  | table call =>
      cases call with
      | complete | dropCompleted => cases isPlain
      | _ => rfl
  | _ => rfl

/-- Nothing stands in the way when nobody is in the middle of anything. -/
theorem admits_of_settled
    {state : State}
    (settled : state.traffic.IsSettled)
    (unlocked : state.locked = false)
    (call : Call)
    (answer : call.Answer) : state.admits call answer := by
  have readable : ∀ index, isReadable state.traffic index := by
    intro index
    unfold isReadable
    cases found : state.traffic.requests[index]? with
    | none => rfl
    | some request => simp [(settled _ _ found).1]
  unfold State.admits
  rw [unlocked, Bool.and_false]
  cases waitedFor? call answer with
  | none => rfl
  | some index => exact readable index

/--
Alone, a call that is spelled out does what it does in one step. Only a request
that was opened can be completed.
-/
theorem run_spell
    (answers : ∀ call traffic,
      connection (.table call) traffic = some (Traffic.machine call traffic))
    {state : State}
    (settled : state.traffic.IsSettled)
    (unlocked : state.locked = false)
    {call : Call}
    (opened : ∀ index outcome,
      call = .table (.complete index outcome) →
      index < state.traffic.requests.length) :
    (machine connection).run (spell call) state =
      (connection call state.traffic).map fun answered =>
        (answered.1, { state with traffic := answered.2 }) := by
  cases isPlain : call.isPlain with
  | true =>
      rw [spell_of_isPlain isPlain]
      have isAnswered :
          machine connection (.whole call) state =
            (connection call state.traffic).map fun answered =>
              (answered.1, { state with traffic := answered.2 }) := by
        change (connection call state.traffic).bind _ = _
        cases connection call state.traffic with
        | none => rfl
        | some answered =>
            exact if_pos (admits_of_settled settled unlocked call answered.1)
      change
        (machine connection).run (@Program.step actions _ (.whole call) .done)
            state =
          _
      unfold Machine.run
      rw [isAnswered]
      cases connection call state.traffic <;> rfl
  | false =>
      rcases Call.of_not_isPlain isPlain with ⟨index, outcome, rfl⟩ | rfl
      · rw [answers]
        have found := List.getElem?_eq_getElem (opened index outcome rfl)
        exact run_spell_complete connection found (settled _ _ found) outcome
      · rw [answers]
        exact run_spell_dropCompleted connection unlocked

end Alone

/-! ## The first step of a program -/

theorem spelled_of_isPlain
    {Result : Type}
    {call : Call}
    (isPlain : call.isPlain)
    (next : call.Answer → Program interface Result) :
    spelled (.step call next) =
      @Program.step actions _ (.whole call) fun answer =>
        spelled (next answer) := by
  change Program.bind (spell call) (fun answer => spelled (next answer)) = _
  rw [spell_of_isPlain isPlain]
  rfl

/-- A completion first claims its request. -/
theorem spelled_complete
    {Result : Type}
    (index : Nat)
    (outcome : Request.Outcome Wire.Response)
    (next : Bool → Program interface Result) :
    spelled (.step (.table (.complete index outcome)) next) =
      @Program.step actions _ (.request index .claim) fun claimed =>
        match (claimed : Bool) with
        | true =>
            Program.bind
              (within index (Request.Stage.recording.rest outcome true))
              fun won => spelled (next won)
        | false => spelled (next false) := by
  have claims :=
    (Program.bind_done (Request.complete outcome)).symm.trans
      (Request.complete_bind outcome id)
  change
    Program.bind (within index (Request.complete outcome)) (fun won =>
      spelled (next won)) = _
  rw [claims]
  refine Program.step_congr fun claimed => ?_
  cases claimed <;> rfl

/-- Clearing the table first locks it. -/
theorem spelled_dropCompleted
    {Result : Type}
    (next : Unit → Program interface Result) :
    spelled (.step (.table .dropCompleted) next) =
      @Program.step actions _ .lockTable fun entries =>
        Program.bind (examineAll entries) fun _ =>
          .step .unlockTable fun _ => spelled (next ()) := by
  change Program.bind dropCompleted (fun _ => spelled (next ())) = _
  refine Program.step_congr fun entries => ?_
  exact Program.bind_assoc (examineAll entries) _ _

/-- A program ends when its steps do. -/
theorem of_spelled_done
    {Result : Type}
    {program : Program interface Result}
    {result : Result}
    (ended : spelled program = .done result) : program = .done result := by
  cases program with
  | done =>
      cases ended
      rfl
  | step call next =>
      cases isPlain : call.isPlain with
      | true => cases (spelled_of_isPlain isPlain next).symm.trans ended
      | false =>
          rcases Call.of_not_isPlain isPlain with ⟨index, outcome, rfl⟩ | rfl
          · cases (spelled_complete index outcome next).symm.trans ended
          · cases (spelled_dropCompleted next).symm.trans ended

/-! ## The whole calls of a run -/

variable {Thread : Type}

/-- A whole call in a moment of a run. -/
def wholeCall? :
    Moment actions Thread State → Option (ClientMoment Thread)
  | .turn thread (.whole call) answer before after =>
      some (.turn thread call answer before.traffic after.traffic)
  | _ => none

/-- What a run did in whole calls. -/
def log (history : History actions Thread State) : ClientHistory Thread :=
  history.filterMap wholeCall?

theorem log_whole
    (history : History actions Thread State)
    (thread : Thread)
    {call : Call}
    (answer : call.Answer)
    (before after : State) :
    log (history ++ [.turn thread (.whole call) answer before after]) =
      log history ++
        [.turn thread call answer before.traffic after.traffic] := by
  simp [log, wholeCall?]

theorem log_other
    (history : History actions Thread State)
    {moment : Moment actions Thread State}
    (notWhole : wholeCall? moment = none) :
    log (history ++ [moment]) = log history := by
  simp [log, notWhole]

end ClusterClient.Client.Stepwise
