import ClusterClient.Proofs.Client.Tending
import Mathlib.Data.Set.Card

namespace ClusterClient.Client

/-!
# How many requests are in flight

When no thread is in the middle of an activity, the table has one entry for each
request that was issued and is not completed. Besides these it has the entries
of requests that were completed through their handles: a handle completes its
request and leaves the table alone.
-/

variable {Thread : Type}

/-- Every thread has ended its activity, or has not begun it. -/
def IsAtRest
    (history : ClientHistory Thread)
    (current : Thread → Program interface Ending) : Prop :=
  ∀ thread,
    (∃ ending, current thread = .done ending) ∨
      ∀ moment ∈ history, moment.thread? ≠ some thread

/-- The requests that an issue has returned and that are not completed. -/
def outstanding
    (current : Thread → Program interface Ending)
    (traffic : Traffic) : Set Nat :=
  {request |
    (∃ thread handle,
      current thread = .done (.issued (.ok handle)) ∧
        handle.request = request) ∧
      ¬ traffic.HasCompleted request}

/-- The entries of requests that are completed. -/
def Traffic.leftovers (traffic : Traffic) : List (UInt32 × Pending) :=
  traffic.table.filter fun entry => traffic.isCompleted entry.2

theorem exists_moment_of_openings
    {history : ClientHistory Thread}
    {thread : Thread}
    {request : Nat}
    (isOpening : (thread, request) ∈ openings history) :
    ∃ moment ∈ history, moment.thread? = some thread := by
  obtain ⟨moment, member, opened⟩ := List.mem_filterMap.mp isOpening
  refine ⟨moment, member, ?_⟩
  cases moment with
  | turn other call answer before after =>
      obtain ⟨index, -, same⟩ := Option.map_eq_some_iff.mp opened
      cases same
      rfl
  | outside => cases opened

theorem exists_moment_of_takings
    {history : ClientHistory Thread}
    {thread : Thread}
    {entry : Pending}
    (took : (thread, entry) ∈ takings history) :
    ∃ moment ∈ history, moment.thread? = some thread := by
  obtain ⟨moment, member, taken⟩ := List.mem_flatMap.mp took
  refine ⟨moment, member, ?_⟩
  cases moment with
  | turn other call answer before after =>
      obtain ⟨index, -, same⟩ := List.mem_map.mp taken
      cases same
      rfl
  | outside => cases taken

/-- Only an issue returns a handle. -/
theorem Activity.issue_of_issued
    {client : Client}
    {activity : Activity}
    {exchanges : List (Exchange interface)}
    {result : Except Error Handle}
    (follows :
      Follows (activity.program client) exchanges (.done (.issued result))) :
    ∃ operation timeout, activity = .issue operation timeout := by
  cases activity with
  | issue operation timeout => exact ⟨operation, timeout, rfl⟩
  | receive | expire | shutdown | await | complete =>
      obtain ⟨_, _, _, -, -, returned⟩ := Follows.of_bind follows
      cases (Follows.of_done returned).2

variable [DecidableEq Thread]
variable {client : Client} {works : Thread → Work} {touched : Nat → Prop}
variable {activities : Thread → Activity}
variable {history : ClientHistory Thread}
variable {current : Thread → Program interface Ending} {final : Traffic}

omit [DecidableEq Thread] in
/--
At rest, a thread looks after a request only when it has issued it, and nobody
has given a request up.
-/
theorem Tended.issued_of_own
    {stages : Thread → Stage}
    (tended :
      Tended (registrations history) (openings history) touched stages final)
    (tends : ∀ thread,
      Tends client (works thread) (stages thread) (current thread))
    (atRest : IsAtRest history current)
    {thread : Thread}
    {request : Nat}
    (isOwn : (stages thread).own? = some request) :
    (stages thread).gaveUp? = none ∧
      ∃ handle,
        current thread = .done (.issued (.ok handle)) ∧
          handle.request = request := by
  rcases atRest thread with ⟨ending, ended⟩ | idle
  · have tendsNow := tends thread
    rw [ended] at tendsNow
    rcases tendsNow.of_done with isIdle | ⟨-, handle, waits, isIssued⟩
    · rw [isIdle] at isOwn
      cases isOwn
    · rw [waits] at isOwn ⊢
      rw [isIssued] at ended
      exact ⟨rfl, handle, ended, Option.some.inj isOwn⟩
  · obtain ⟨moment, member, byThread⟩ :=
      exists_moment_of_openings (tended.owns isOwn)
    exact (idle moment member byThread).elim

omit [DecidableEq Thread] in
/-- At rest, what is left of a completed request was completed by hand. -/
theorem Tended.handled_of_leftover
    {stages : Thread → Stage}
    (tended :
      Tended (registrations history) (openings history) touched stages final)
    (settled : final.IsSettled)
    (tends : ∀ thread,
      Tends client (works thread) (stages thread) (current thread))
    (atRest : IsAtRest history current)
    {entry : UInt32 × Pending}
    (isLeft : entry ∈ final.leftovers) : touched entry.2.request := by
  obtain ⟨inTable, isCompleted⟩ := List.mem_filter.mp isLeft
  have completed := Traffic.isCompleted_iff.mp isCompleted
  rcases tended.left inTable (settled.isClaimed_iff.mpr completed) with
    ⟨thread, isGivenUp⟩ | handled
  · have isOwn := Stage.own?_of_gaveUp? isGivenUp
    rw [(tended.issued_of_own tends atRest isOwn).1] at isGivenUp
    cases isGivenUp
  · exact handled

omit [DecidableEq Thread] in
/-- Each outstanding request has one entry, and the other entries are left. -/
theorem Tended.pendingCount_eq
    {stages : Thread → Stage}
    (tended :
      Tended (registrations history) (openings history) touched stages final)
    (isOutstanding : ∀ entry ∈ final.table,
      ¬ final.HasCompleted entry.2.request →
      entry.2.request ∈ outstanding current final)
    (inTable : ∀ request ∈ outstanding current final,
      ∃ entry ∈ final.table, entry.2.request = request) :
    final.pendingCount =
      (outstanding current final).ncard + final.leftovers.length := by
  let remaining := final.table.filter fun entry => !final.isCompleted entry.2
  have mem_remaining : ∀ {entry},
      entry ∈ remaining ↔
        entry ∈ final.table ∧ ¬ final.HasCompleted entry.2.request := by
    intro entry
    rw [List.mem_filter, ← Traffic.isCompleted_iff, Bool.not_eq_true,
      Bool.not_eq_true']
  have once : (remaining.map (·.2.request)).Nodup :=
    (List.filter_sublist.map _).nodup tended.tableOnce
  have same :
      outstanding current final =
        ((remaining.map (·.2.request)).toFinset : Set Nat) := by
    ext request
    rw [Finset.mem_coe, List.mem_toFinset, List.mem_map]
    constructor
    · intro member
      obtain ⟨entry, isEntry, rfl⟩ := inTable request member
      exact ⟨entry, mem_remaining.mpr ⟨isEntry, member.2⟩, rfl⟩
    · rintro ⟨entry, member, rfl⟩
      obtain ⟨isEntry, incomplete⟩ := mem_remaining.mp member
      exact isOutstanding entry isEntry incomplete
  have counted : (outstanding current final).ncard = remaining.length := by
    rw [same, Set.ncard_coe_finset, List.toFinset_card_of_nodup once,
      List.length_map]
  rw [counted, Nat.add_comm]
  exact List.length_eq_length_filter_add _

namespace ClientRun

/-- What was completed by hand is completed. -/
theorem hasCompleted_of_handled
    (run :
      ClientRun (fun thread => (works thread).program client) .empty history
        current final)
    {request : Nat}
    (handled : WasHandled works history request) :
    final.HasCompleted request := by
  induction run with
  | start =>
      obtain ⟨_, _, _, _, -, member⟩ := handled
      cases member
  | @turn history current before after thread call next answer run due answered
      inductionHypothesis =>
      obtain ⟨other, outcome, _, _, isHandled, member⟩ := handled
      rcases List.mem_append.mp member with isEarlier | isLast
      · have wasCompleted :=
          inductionHypothesis ⟨other, outcome, _, _, isHandled, isEarlier⟩
        exact wasCompleted.step answered
      · cases List.mem_singleton.mp isLast
        exact (ClientRun.settled run).hasCompleted_of_won answered
  | outside _ change => exact change.elim

/-- At rest, a request that is outstanding is in the table. -/
theorem exists_entry_of_outstanding
    (run :
      ClientRun (fun thread => (activities thread).program client) .empty
        history current final)
    (room : numbersGiven history < 2 ^ 32)
    (atRest : IsAtRest history current)
    {request : Nat}
    (isOutstanding : request ∈ outstanding current final) :
    ∃ entry ∈ final.table, entry.2.request = request := by
  obtain ⟨⟨thread, handle, ended, rfl⟩, incomplete⟩ := isOutstanding
  have follows := run.follows thread
  rw [ended] at follows
  obtain ⟨operation, timeout, issues⟩ := Activity.issue_of_issued follows
  rw [issues] at follows
  obtain ⟨number, registered, -⟩ := Activity.follows_issued follows
  obtain ⟨registering, kept, registered⟩ := turn_of_mem_exchangesBy registered
  have isFrame :
      IsFrameOf client activities history thread handle.request _ :=
    ⟨operation, timeout, number, registering, kept, issues, registered, rfl⟩
  obtain ⟨opened, found, cared⟩ := waiting_or_held run room isFrame
  have notCompleted : ¬ opened.isCompleted :=
    fun completed => incomplete ⟨opened, found, completed⟩
  rcases cared notCompleted with ⟨⟨entry, waits, isRequest⟩, -⟩ | ⟨held, -⟩
  · exact ⟨_, KeyedList.mem_of_find? waits, isRequest⟩
  · -- A holder would still have to complete the request.
    obtain ⟨holder, ⟨⟨entry, took, -⟩, willComplete⟩, -⟩ := held
    rcases atRest holder with ⟨ending, ended⟩ | idle
    · rw [ended] at willComplete
      cases willComplete
    · obtain ⟨moment, member, byHolder⟩ := exists_moment_of_takings took
      exact (idle moment member byHolder).elim

/--
The number of requests in flight. Consider a run of activities that takes fewer
than `2 ^ 32` numbers, when no thread is in the middle of one. The table has one
entry for each request that was issued and is not completed, and the entries
that are left of completed requests. The latter were completed through their
handles; so if nobody completes a request in this way, the number is that of the
issued requests that are not completed, and no entry belongs to another request.
-/
theorem entries_are_outstanding_or_left
    (run :
      ClientRun (fun thread => (activities thread).program client) .empty
        history current final)
    (room : numbersGiven history < 2 ^ 32)
    (atRest : IsAtRest history current) :
    let works := fun thread => Work.single (activities thread)
    final.pendingCount =
        (outstanding current final).ncard + final.leftovers.length ∧
      (∀ entry ∈ final.leftovers,
        WasHandled works history entry.2.request) ∧
      ((∀ request, ¬ WasHandled works history request) →
        final.pendingCount = (outstanding current final).ncard ∧
          ∀ entry ∈ final.table,
            entry.2.request ∈ outstanding current final) := by
  intro works
  have worked :
      ClientRun (fun thread => (works thread).program client) .empty history
        current final :=
    run
  have settled := worked.settled
  obtain ⟨stages, tends, tended⟩ := worked.tended
  have isLeft : ∀ entry ∈ final.leftovers,
      WasHandled works history entry.2.request :=
    fun entry => tended.handled_of_leftover settled tends atRest
  have isOutstanding : ∀ entry ∈ final.table,
      ¬ final.HasCompleted entry.2.request →
      entry.2.request ∈ outstanding current final := by
    intro entry inTable incomplete
    rcases tended.tended inTable with ⟨thread, isOwn⟩ | handled
    · obtain ⟨-, handle, ended, isRequest⟩ :=
        tended.issued_of_own tends atRest isOwn
      exact ⟨⟨thread, handle, ended, isRequest⟩, incomplete⟩
    · have completed := hasCompleted_of_handled run handled
      exact (incomplete completed).elim
  have total :=
    tended.pendingCount_eq isOutstanding fun request member =>
      exists_entry_of_outstanding run room atRest member
  refine ⟨total, isLeft, ?_⟩
  intro nobody
  have none : final.leftovers = [] :=
    List.eq_nil_iff_forall_not_mem.mpr fun entry member =>
      nobody _ (isLeft entry member)
  constructor
  · rw [total, none]
    rfl
  · intro entry inTable
    refine isOutstanding entry inTable fun completed => ?_
    have member : entry ∈ final.leftovers :=
      List.mem_filter.mpr ⟨inTable, Traffic.isCompleted_iff.mpr completed⟩
    rw [none] at member
    cases member

/-- Three threads: two issue, and one cancels the first request. -/
inductive Caller where
  | first
  | second
  | canceller
  deriving DecidableEq

/-- What the three threads do. -/
def calling : Caller → Activity
  | .first =>
      .issue (.get ⟨"first", .default, 0, by decide, by decide⟩)
        (.ofMilliseconds 2500)
  | .second =>
      .issue (.get ⟨"second", .default, 0, by decide, by decide⟩)
        (.ofMilliseconds 2500)
  | .canceller => .complete 0 (.cancelled .callerRequested)

/-- What comes of a schedule of the three threads. -/
def called (schedule : List Caller) : Replay interface Caller Traffic Ending :=
  (promptAnswer (.ok ())).replay schedule
    (fun caller => (calling caller).program closingClient) .empty

theorem run_called (schedule : List Caller) :
    ClientRun (fun caller => (calling caller).program closingClient) .empty
      (called schedule).history (called schedule).programs
      (called schedule).state :=
  (Run.replay (promptAnswer (.ok ())) schedule _ _).mono
    (semantics_of_promptAnswer (.ok ()))

/-- Of two issued requests one is outstanding, and one is left. -/
theorem entries_are_outstanding_or_left_cancelled :
    let mixed :=
      called (List.replicate 6 .first ++ List.replicate 6 .second ++ [.canceller])
    mixed.state.pendingCount = 2 ∧
      mixed.state.leftovers.length = 1 ∧
      (outstanding mixed.programs mixed.state).ncard = 1 := by
  intro mixed
  have atRest : IsAtRest mixed.history mixed.programs := by
    intro caller
    cases caller <;> exact .inl ⟨_, rfl⟩
  have count : mixed.state.pendingCount = 2 := rfl
  have left : mixed.state.leftovers.length = 1 := by decide
  have total :=
    (entries_are_outstanding_or_left (run_called _) (by decide) atRest).1
  refine ⟨count, left, ?_⟩
  change
    mixed.state.pendingCount =
      (outstanding mixed.programs mixed.state).ncard +
        mixed.state.leftovers.length at total
  omega

/-- A request that its caller cancels stays in the table when all have ended. -/
theorem cancelled_request_stays_in_table :
    let cancelled := called (List.replicate 6 .first ++ [.canceller])
    ClientRun (fun caller => (calling caller).program closingClient) .empty
        cancelled.history cancelled.programs cancelled.state ∧
      numbersGiven cancelled.history < 2 ^ 32 ∧
      IsAtRest cancelled.history cancelled.programs ∧
      cancelled.state.pendingCount = 1 ∧
      outstanding cancelled.programs cancelled.state = ∅ := by
  intro cancelled
  refine ⟨run_called _, by decide, ?_, rfl, ?_⟩
  · intro caller
    cases caller with
    | first | canceller => exact .inl ⟨_, rfl⟩
    | second => exact .inr (by decide)
  · refine Set.eq_empty_iff_forall_notMem.mpr ?_
    rintro request ⟨⟨caller, handle, ended, rfl⟩, incomplete⟩
    apply incomplete
    cases caller with
    | first =>
        cases ended
        exact ⟨_, rfl, by decide⟩
    | second => cases ended
    | canceller => cases ended

end ClientRun

end ClusterClient.Client
