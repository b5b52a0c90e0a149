import ClusterClient.Proofs.Client.Correlations

namespace ClusterClient.Client

/-!
# What was opened, registered and completed

Two accounts relate what was registered and opened on a client to its table and
to the stages of its threads: no request is registered twice, and every request
was opened by one thread, which alone looks after it. They hold however many
numbers have been given out: a number that comes a second time only throws the
entry out that was under it.

Of the requests the accounts need to know only which are claimed. So the same
accounts are kept whether a request is completed in one step or claimed first
and completed later.
-/

variable {Thread : Type}

/-! What was opened, and what was completed by hand. -/

/-- The request that a call has opened. -/
def openedIn : (call : Call) → call.Answer → Option Nat
  | .table (.openRequest _), index => some index
  | _, _ => none

/-- The request that was opened in a moment, with the thread that opened it. -/
def opening? : ClientMoment Thread → Option (Thread × Nat)
  | .turn thread call answer _ _ => (openedIn call answer).map (thread, ·)
  | .outside .. => none

/-- The requests that were opened, each with the thread that opened it. -/
def openings (history : ClientHistory Thread) : List (Thread × Nat) :=
  history.filterMap opening?

@[simp] theorem openings_concat
    (history : ClientHistory Thread)
    (thread : Thread)
    (call : Call)
    (answer : call.Answer)
    (before after : Traffic) :
    openings (history ++ [.turn thread call answer before after]) =
      openings history ++ ((openedIn call answer).map (thread, ·)).toList := by
  simp only [openings, List.filterMap_append]
  cases opened : openedIn call answer <;> simp [opening?, opened]

/-- A request was completed by a work that had its handle. -/
def WasHandled
    (works : Thread → Work)
    (history : ClientHistory Thread)
    (request : Nat) : Prop :=
  ∃ thread outcome before after,
    (works thread).handled? = some request ∧
      .turn thread (.table (.complete request outcome)) true before after ∈
        history

theorem WasHandled.append
    {works : Thread → Work}
    {history : ClientHistory Thread}
    {request : Nat}
    (handled : WasHandled works history request)
    (later : ClientHistory Thread) :
    WasHandled works (history ++ later) request := by
  obtain ⟨thread, outcome, before, after, isHandled, member⟩ := handled
  exact
    ⟨thread, outcome, before, after, isHandled,
      List.mem_append_left later member⟩

/-- The call neither completes a request nor clears the table. -/
def Call.isPlain : Call → Bool
  | .table (.complete ..) | .table .dropCompleted => false
  | _ => true

theorem Call.of_not_isPlain
    {call : Call}
    (notPlain : call.isPlain = false) :
    (∃ index outcome, call = .table (.complete index outcome)) ∨
      call = .table .dropCompleted := by
  cases call with
  | table call =>
      cases call with
      | complete index outcome => exact .inl ⟨index, outcome, rfl⟩
      | dropCompleted => exact .inr rfl
      | _ => cases notPlain
  | _ => cases notPlain

theorem Call.IsIdle.plain
    {call : Call}
    (isIdle : call.IsIdle)
    (answer : call.Answer) :
    registeredIn call = none ∧ openedIn call answer = none := by
  cases call with
  | table call => cases call <;> first | exact ⟨rfl, rfl⟩ | exact isIdle.elim
  | _ => exact ⟨rfl, rfl⟩

theorem Call.IsTaking.opens_nothing
    {call : Call}
    (isTaking : call.IsTaking)
    (answer : call.Answer) : openedIn call answer = none := by
  cases call with
  | table call => cases call <;> first | rfl | exact isTaking.elim
  | _ => rfl

/-- An idle call leaves the requests as they are. -/
theorem Call.IsIdle.sameRequests
    {call : Call}
    {answer : call.Answer}
    {before after : Traffic}
    (isIdle : call.IsIdle)
    (answered : semantics call before answer after) :
    after.requests = before.requests := by
  rcases requests_step answered with
    same | ⟨request, isOpening, -⟩ | ⟨index, outcome, isCompletion, -⟩
  · exact same
  · subst isOpening
    exact isIdle.elim
  · subst isCompletion
    exact isIdle.elim

namespace Traffic

/-- A request is completed. -/
def HasCompleted (traffic : Traffic) (index : Nat) : Prop :=
  ∃ request, traffic.requests[index]? = some request ∧ request.isCompleted

/-- A request is completed, or somebody is in the middle of completing it. -/
def IsClaimed (traffic : Traffic) (index : Nat) : Prop :=
  ∃ request,
    traffic.requests[index]? = some request ∧ request.phase ≠ .incomplete

/-- Nobody is in the middle of completing a request. -/
def IsSettled (traffic : Traffic) : Prop :=
  ∀ (index : Nat) (request : Request Wire.Response),
    traffic.requests[index]? = some request → request.IsSettled

/-- Only the outcome of a request that was claimed is in its slot. -/
def KeepsOutcomes (traffic : Traffic) : Prop :=
  ∀ index outcome,
    traffic.outcome? index = some outcome → traffic.IsClaimed index

/-- Entries may leave the table, and no request is opened or claimed. -/
structure Shrinks (before after : Traffic) : Prop where
  fewer : after.table.Sublist before.table
  sameLength : after.requests.length = before.requests.length
  sameClaims : ∀ index, after.IsClaimed index ↔ before.IsClaimed index

/-- One request is claimed, if it was not before, and nothing else happens. -/
structure Claims (before : Traffic) (index : Nat) (after : Traffic) : Prop where
  sameTable : after.table = before.table
  sameLength : after.requests.length = before.requests.length
  claims : ∀ other,
    after.IsClaimed other ↔
      before.IsClaimed other ∨
        (other = index ∧ index < before.requests.length)

variable {traffic before after : Traffic} {index : Nat}

theorem isCompleted_iff {entry : Pending} :
    traffic.isCompleted entry ↔ traffic.HasCompleted entry.request := by
  unfold isCompleted HasCompleted
  cases traffic.requests[entry.request]? <;> simp

/-- When nobody is in the middle, what is claimed is completed. -/
theorem IsSettled.isClaimed_iff (settled : traffic.IsSettled) :
    traffic.IsClaimed index ↔ traffic.HasCompleted index := by
  constructor
  · rintro ⟨request, found, claimed⟩
    exact ⟨request, found, (settled _ _ found).isCompleted_iff.mpr claimed⟩
  · rintro ⟨request, found, completed⟩
    exact ⟨request, found, (settled _ _ found).isCompleted_iff.mp completed⟩

theorem IsSettled.keepsOutcomes
    (settled : traffic.IsSettled) : traffic.KeepsOutcomes := by
  intro index outcome isOutcome
  obtain ⟨request, found, inSlot⟩ := Option.bind_eq_some_iff.mp isOutcome
  refine ⟨request, found, fun incomplete => ?_⟩
  rw [((settled _ _ found).2.2 incomplete).1] at inSlot
  cases inSlot

theorem HasCompleted.step
    {call : Call}
    {answer : call.Answer}
    (completed : before.HasCompleted index)
    (answered : semantics call before answer after) :
    after.HasCompleted index := by
  obtain ⟨request, found, isCompleted⟩ := completed
  exact ⟨request, completed_step answered found isCompleted, isCompleted⟩

theorem Shrinks.of_same
    (sameRequests : after.requests = before.requests)
    (fewer : after.table.Sublist before.table) : before.Shrinks after where
  fewer := fewer
  sameLength := congrArg List.length sameRequests
  sameClaims index := by
    unfold IsClaimed
    rw [sameRequests]

/-- Opening a request that is not claimed claims nothing. -/
theorem isClaimed_openRequest_iff
    {request : Request Wire.Response}
    (isFresh : request.IsFresh) :
    (Traffic.machine (.openRequest request) traffic).2.IsClaimed index ↔
      traffic.IsClaimed index := by
  constructor
  · rintro ⟨other, found, claimed⟩
    rcases old_or_new_of_openRequest found with wasFound | ⟨-, isRequest⟩
    · exact ⟨other, wasFound, claimed⟩
    · rw [isRequest] at claimed
      exact (claimed isFresh.1).elim
  · rintro ⟨other, found, claimed⟩
    have inside := (List.getElem?_eq_some_iff.mp found).1
    refine ⟨other, ?_, claimed⟩
    change (traffic.requests ++ [request])[index]? = some other
    rw [List.getElem?_append_left inside]
    exact found

/-- A completion in one step claims its request. -/
theorem IsSettled.claims_complete
    (settled : traffic.IsSettled)
    (index : Nat)
    (outcome : Request.Outcome Wire.Response) :
    traffic.Claims index (traffic.complete index outcome).2 where
  sameTable := table_complete traffic index outcome
  sameLength := length_complete traffic index outcome
  claims other := by
    unfold IsClaimed
    rw [getElem?_complete]
    by_cases same : other = index
    · subst same
      rw [if_pos rfl]
      constructor
      · rintro ⟨_, found, -⟩
        obtain ⟨_, wasFound, -⟩ := Option.map_eq_some_iff.mp found
        exact .inr ⟨rfl, (List.getElem?_eq_some_iff.mp wasFound).1⟩
      · intro claimed
        have inside : other < traffic.requests.length := by
          rcases claimed with ⟨_, found, -⟩ | ⟨-, inside⟩
          · exact (List.getElem?_eq_some_iff.mp found).1
          · exact inside
        have found := List.getElem?_eq_getElem inside
        obtain ⟨isSettled, completed⟩ := (settled _ _ found).finish outcome
        refine ⟨_, by rw [found]; rfl, ?_⟩
        exact isSettled.isCompleted_iff.mp completed
    · rw [if_neg same]
      simp [same]

/-- A completion that was too late has changed nothing. -/
theorem IsSettled.complete_of_lost
    {outcome : Request.Outcome Wire.Response}
    (settled : traffic.IsSettled)
    (lost : (traffic.complete index outcome).1 = false) :
    (traffic.complete index outcome).2.requests = traffic.requests := by
  unfold complete at lost ⊢
  cases found : traffic.requests[index]? with
  | none => rfl
  | some request =>
      simp only [found] at lost ⊢
      by_cases incomplete : request.phase = .incomplete
      · rw [Request.finish_of_incomplete (settled _ _ found) incomplete] at lost
        cases lost
      · rw [Request.finish_of_not_incomplete incomplete outcome]
        obtain ⟨inside, isRequest⟩ := List.getElem?_eq_some_iff.mp found
        rw [← isRequest]
        exact List.set_getElem_self inside

/-- Whoever has won has completed the request. -/
theorem IsSettled.hasCompleted_of_won
    {outcome : Request.Outcome Wire.Response}
    (settled : before.IsSettled)
    (answered :
      semantics (.table (.complete index outcome)) before true after) :
    after.HasCompleted index := by
  obtain ⟨won, rfl⟩ := semantics_table answered
  cases found : before.requests[index]? with
  | none =>
      have lost : (before.complete index outcome).1 = false := by
        unfold complete
        rw [found]
      cases won.trans lost
  | some request =>
      refine ⟨_, ?_, ((settled _ _ found).finish outcome).2⟩
      change (before.complete index outcome).2.requests[index]? = _
      rw [getElem?_complete, if_pos rfl, found]
      rfl

/-- Nobody is in the middle of anything after a step of a program. -/
theorem IsSettled.step
    {call : Call}
    {answer : call.Answer}
    {work : Work}
    {client : Client}
    {stage : Stage}
    {next : call.Answer → Program interface Ending}
    (settled : before.IsSettled)
    (tends : Tends client work stage (.step call next))
    (answered : semantics call before answer after) : after.IsSettled := by
  intro index request found
  rcases requests_step answered with
    same | ⟨opened, isOpening, -⟩ | ⟨target, outcome, -, isAfter⟩
  · rw [same] at found
    exact settled _ _ found
  · subst isOpening
    obtain ⟨-, rfl⟩ := semantics_table answered
    rcases old_or_new_of_openRequest found with wasFound | ⟨-, isRequest⟩
    · exact settled _ _ wasFound
    · rw [isRequest]
      exact tends.of_openRequest.isSettled
  · rw [isAfter, getElem?_complete] at found
    split at found
    · obtain ⟨old, wasFound, isRequest⟩ := Option.map_eq_some_iff.mp found
      rw [← isRequest]
      exact ((settled _ _ wasFound).finish outcome).1
    · exact settled _ _ found

end Traffic

variable [DecidableEq Thread]
variable {registered : List (UInt32 × Pending)}
variable {opened : List (Thread × Nat)}
variable {stages : Thread → Stage} {stage : Stage}
variable {thread : Thread} {before after : Traffic}

/-! The accounts of what was registered and of what was opened. -/

/-- The table holds what was registered, and no request was registered twice. -/
structure Filed
    (registered : List (UInt32 × Pending))
    (traffic : Traffic) : Prop where
  ordered : KeyedList.IsOrdered traffic.table
  inTable : ∀ {entry}, entry ∈ traffic.table → entry ∈ registered
  once : (registered.map (·.2.request)).Nodup
  known : ∀ {entry},
    entry ∈ registered → entry.2.request < traffic.requests.length

namespace Filed

/-- What was registered for one request was registered under one number. -/
theorem eq_of_request_eq
    (filed : Filed registered before)
    {first second : UInt32 × Pending}
    (isFirst : first ∈ registered)
    (isSecond : second ∈ registered)
    (same : first.2.request = second.2.request) : first = second :=
  List.inj_on_of_nodup_map filed.once isFirst isSecond same

/-- A request has at most one entry. -/
theorem tableOnce (filed : Filed registered before) :
    (before.table.map (·.2.request)).Nodup := by
  have noDuplicates : before.table.Nodup :=
    filed.ordered.imp fun earlier same => by
      rw [same] at earlier
      exact absurd earlier (UInt32.lt_irrefl _)
  refine List.Nodup.map_on ?_ noDuplicates
  intro first isFirst second isSecond same
  exact
    filed.eq_of_request_eq (filed.inTable isFirst) (filed.inTable isSecond) same

/-- Taking entries out and opening or completing requests keeps the account. -/
theorem fewer
    (filed : Filed registered before)
    (fewer : after.table.Sublist before.table)
    (longer : before.requests.length ≤ after.requests.length) :
    Filed registered after where
  ordered := filed.ordered.sublist fewer
  inTable member := filed.inTable (fewer.subset member)
  once := filed.once
  known member := Nat.lt_of_lt_of_le (filed.known member) longer

theorem register
    (filed : Filed registered before)
    {number : UInt32}
    {entry : Pending}
    (inside : entry.request < before.requests.length)
    (unregistered : entry.request ∉ registered.map (·.2.request)) :
    Filed (registered ++ [(number, entry)])
      (Traffic.machine (.register number entry) before).2 := by
  refine ⟨filed.ordered.insert number entry, ?_, ?_, ?_⟩
  · intro other member
    rcases KeyedList.mem_insert member with isNew | isOld
    · rw [isNew]
      exact List.mem_concat_self
    · exact List.mem_append_left _ (filed.inTable isOld)
  · rw [List.map_append, List.nodup_append_comm]
    exact List.nodup_cons.mpr ⟨unregistered, filed.once⟩
  · intro other member
    rcases List.mem_append.mp member with isEarlier | isLast
    · exact filed.known isEarlier
    · rw [List.mem_singleton.mp isLast]
      exact inside

end Filed

/-- Every request was opened by one thread, which alone looks after it. -/
structure Opened
    (opened : List (Thread × Nat))
    (stages : Thread → Stage)
    (traffic : Traffic) : Prop where
  openedOnce : (opened.map Prod.snd).Nodup
  openedKnown : ∀ {thread request},
    (thread, request) ∈ opened → request < traffic.requests.length
  owns : ∀ {thread request},
    (stages thread).own? = some request → (thread, request) ∈ opened

namespace Opened

omit [DecidableEq Thread] in
theorem eq_of_openings
    (account : Opened opened stages before)
    {first second : Thread}
    {request : Nat}
    (isFirst : (first, request) ∈ opened)
    (isSecond : (second, request) ∈ opened) : first = second :=
  congrArg Prod.fst
    (List.inj_on_of_nodup_map account.openedOnce isFirst isSecond rfl)

omit [DecidableEq Thread] in
/-- No two threads look after one request. -/
theorem apart
    (account : Opened opened stages before)
    {first second : Thread}
    {request : Nat}
    (isFirst : (stages first).own? = some request)
    (isSecond : (stages second).own? = some request) : first = second :=
  account.eq_of_openings (account.owns isFirst) (account.owns isSecond)

/-- A thread that takes up no request keeps the account. -/
theorem kept
    (account : Opened opened stages before)
    (longer : before.requests.length ≤ after.requests.length)
    (kept : stage.own? = none ∨ stage.own? = (stages thread).own?) :
    Opened opened (Function.update stages thread stage) after where
  openedOnce := account.openedOnce
  openedKnown member := Nat.lt_of_lt_of_le (account.openedKnown member) longer
  owns isOwn := account.owns (found_of_update_kept _ kept isOwn)

theorem openRequest
    (account : Opened opened stages before)
    (request : Request Wire.Response) :
    Opened (opened ++ [(thread, before.requests.length)])
      (Function.update stages thread (.opened before.requests.length none))
      (Traffic.machine (.openRequest request) before).2 := by
  have longer :
      (Traffic.machine (.openRequest request) before).2.requests.length =
        before.requests.length + 1 := by
    simp [Traffic.machine]
  refine ⟨?_, ?_, ?_⟩
  · rw [List.map_append, List.nodup_append_comm]
    refine List.nodup_cons.mpr ⟨?_, account.openedOnce⟩
    intro member
    obtain ⟨⟨other, index⟩, isOpened, isLength⟩ := List.mem_map.mp member
    have bound := account.openedKnown isOpened
    simp only at isLength
    omega
  · rw [longer]
    intro other index member
    rcases List.mem_append.mp member with isEarlier | isLast
    · have bound := account.openedKnown isEarlier
      omega
    · cases List.mem_singleton.mp isLast
      omega
  · intro other index isOwn
    rcases found_of_update _ isOwn with ⟨own, isNew⟩ | ⟨-, wasOwn⟩
    · cases isNew
      rw [own]
      exact List.mem_concat_self
    · exact List.mem_append_left _ (account.owns wasOwn)

end Opened

end ClusterClient.Client
