import ClusterClient.Proofs.Client.Correlations

namespace ClusterClient.Client

/-!
# Fresh numbers

A number is given out again after `2 ^ 32` others. So a request is registered
under a number that nobody waits under, as long as no request waits for so many
numbers. One that does may lose its place in the table while it is not
completed, and then nothing that looks for it there finds it.
-/

namespace ClientRun

variable {Thread : Type} [DecidableEq Thread]
variable {client : Client} {activities : Thread → Activity}
variable {history : ClientHistory Thread}
variable {programs current : Thread → Program interface Ending}
variable {final : Traffic}

/-- The next number moves on when a number is taken, and only then. -/
theorem nextCorrelation_step
    {call : Call}
    {answer : call.Answer}
    {before after : Traffic}
    (answered : semantics call before answer after) :
    after.nextCorrelation =
      before.nextCorrelation + if takesNumber call then 1 else 0 := by
  cases call with
  | table call =>
      obtain ⟨-, rfl⟩ := semantics_table answered
      cases call with
      | takeCorrelation => rfl
      | complete index outcome =>
          exact
            (Traffic.nextCorrelation_complete ..).trans (UInt32.add_zero _).symm
      | newContext | openRequest | register | takeEntry | takeExpired | takeAll
      | dropCompleted => exact (UInt32.add_zero _).symm
  | readClock | send | sleep | allowance =>
      cases answered
      exact (UInt32.add_zero _).symm
  | awaitUntil | awaitForever =>
      cases answered.1
      exact (UInt32.add_zero _).symm
  | never => exact nomatch answer

/-- The next number tells how many were given out, up to `2 ^ 32` of them. -/
theorem nextCorrelation_eq
    (run : ClientRun programs .empty history current final) :
    final.nextCorrelation = UInt32.ofNat (numbersGiven history + 1) := by
  induction run with
  | start => rfl
  | @turn history _ before _ _ call _ _ _ _ answered inductionHypothesis =>
      rw [nextCorrelation_step answered, inductionHypothesis,
        numbersGiven_concat]
      cases takesNumber call with
      | false => exact UInt32.add_zero _
      | true => exact (UInt32.ofNat_add _ 1).symm
  | outside _ change => exact change.elim

omit [DecidableEq Thread] in
/-- Fewer numbers were given out before one was taken. -/
theorem numbersGiven_lt_of_taking
    {earlier : ClientHistory Thread}
    {thread : Thread}
    {number : UInt32}
    {before after : Traffic}
    (isPrefix :
      earlier ++
          [.turn thread (.table .takeCorrelation) number before after] <+:
        history) :
    numbersGiven earlier < numbersGiven history := by
  have oneMore :=
    numbersGiven_concat earlier thread (.table .takeCorrelation) number before
      after
  exact Nat.le_trans (Nat.le_of_eq oneMore.symm) (numbersGiven_mono isPrefix)

/-- A thread took a number when some had been given out before. -/
def IsTakenAt
    (history : ClientHistory Thread)
    (thread : Thread)
    (number : UInt32)
    (given : Nat) : Prop :=
  ∃ earlier before after,
    earlier ++ [.turn thread (.table .takeCorrelation) number before after] <+:
        history ∧
      numbersGiven earlier = given

namespace IsTakenAt

variable {thread other : Thread} {number : UInt32} {given later : Nat}

omit [DecidableEq Thread] in
theorem mono
    {earlier : ClientHistory Thread}
    (taken : IsTakenAt earlier thread number given)
    (isPrefix : earlier <+: history) :
    IsTakenAt history thread number given := by
  obtain ⟨sooner, before, after, isSooner, isGiven⟩ := taken
  exact ⟨sooner, before, after, isSooner.trans isPrefix, isGiven⟩

omit [DecidableEq Thread] in
theorem lt_numbersGiven
    (taken : IsTakenAt history thread number given) :
    given < numbersGiven history := by
  obtain ⟨earlier, before, after, isPrefix, rfl⟩ := taken
  exact numbersGiven_lt_of_taking isPrefix

omit [DecidableEq Thread] in
/-- Two threads did not take their numbers at once. -/
theorem ne
    (taken : IsTakenAt history thread number given)
    (otherTaken : IsTakenAt history other number later)
    (differs : thread ≠ other) : given ≠ later := by
  obtain ⟨first, _, _, isFirst, rfl⟩ := taken
  obtain ⟨second, _, _, isSecond, rfl⟩ := otherTaken
  rcases List.prefix_or_prefix_of_prefix isFirst isSecond with
    firstSooner | secondSooner
  · rcases List.prefix_concat_iff.mp firstSooner with same | sooner
    · cases (List.append_inj' same rfl).2
      exact absurd rfl differs
    · exact Nat.ne_of_lt (numbersGiven_lt_of_taking sooner)
  · rcases List.prefix_concat_iff.mp secondSooner with same | sooner
    · cases (List.append_inj' same rfl).2
      exact absurd rfl differs
    · exact Nat.ne_of_gt (numbersGiven_lt_of_taking sooner)

end IsTakenAt

/-- A number that was taken is the next one after those given out before. -/
theorem exists_isTakenAt
    (run : ClientRun programs .empty history current final)
    {thread : Thread}
    {number : UInt32}
    {before after : Traffic}
    (member :
      .turn thread (.table .takeCorrelation) number before after ∈ history) :
    ∃ given,
      IsTakenAt history thread number given ∧
        number = UInt32.ofNat (given + 1) := by
  obtain ⟨earlier, previous, next, isPrefix, reached, -, answered⟩ :=
    run.split_turn member
  exact
    ⟨_, ⟨earlier, before, after, isPrefix, rfl⟩,
      (semantics_table answered).1.trans (nextCorrelation_eq reached)⟩

/-- A thread that is about to register a request has taken the number for it. -/
theorem exists_isTakenAt_of_register
    (run :
      ClientRun (fun thread => (activities thread).program client) .empty
        history current final)
    {thread : Thread}
    {number : UInt32}
    {entry : Pending}
    {next : Unit → Program interface Ending}
    (due : current thread = .step (.table (.register number entry)) next) :
    ∃ given,
      IsTakenAt history thread number given ∧
        number = UInt32.ofNat (given + 1) := by
  obtain ⟨operation, timeout, issues, -⟩ := issue_of_registering run due
  have follows := run.follows thread
  rw [due, issues] at follows
  obtain ⟨before, after, took⟩ :=
    turn_of_mem_exchangesBy (Activity.follows_registering follows).1
  exact exists_isTakenAt run took

/-- Numbers are alike only after `2 ^ 32` of them. -/
theorem apart_of_ofNat_eq
    {first second : Nat}
    (same : UInt32.ofNat (first + 1) = UInt32.ofNat (second + 1))
    (differs : first ≠ second) :
    first + 2 ^ 32 ≤ second ∨ second + 2 ^ 32 ≤ first := by
  have sameRest := congrArg UInt32.toNat same
  rw [UInt32.toNat_ofNat', UInt32.toNat_ofNat'] at sameRest
  omega

/--
Whoever finds the number of its request in the table has taken it `2 ^ 32`
numbers before or after the one who waits there, however long the run is.
-/
theorem apart_of_register
    (run :
      ClientRun (fun thread => (activities thread).program client) .empty
        history current final)
    {thread : Thread}
    {number : UInt32}
    {entry waiting : Pending}
    {next : Unit → Program interface Ending}
    (due : current thread = .step (.table (.register number entry)) next)
    (found : KeyedList.find? number final.table = some waiting) :
    ∃ sender before after own theirs,
      .turn sender (.table (.register number waiting)) () before after ∈
          history ∧
        IsTakenAt history thread number own ∧
        IsTakenAt history sender number theirs ∧
        (own + 2 ^ 32 ≤ theirs ∨ theirs + 2 ^ 32 ≤ own) := by
  have registered :=
    mem_registrations_of_mem_table run (KeyedList.mem_of_find? found)
  obtain ⟨sender, before, after, registers⟩ :=
    mem_registrations_iff.mp registered
  obtain ⟨earlier, previous, goesOn, isPrefix, reached, wasDue, -⟩ :=
    run.split registers
  obtain ⟨own, isTaken, isOwn⟩ := exists_isTakenAt_of_register run due
  obtain ⟨theirs, wasTaken, isTheirs⟩ :=
    exists_isTakenAt_of_register reached wasDue
  have isTheirTaking := wasTaken.mono isPrefix
  -- An issue registers once, so the one who waits is somebody else's.
  have differs : thread ≠ sender := by
    rintro rfl
    obtain ⟨operation, timeout, issues, -⟩ := issue_of_registering run due
    have follows := run.follows thread
    rw [due, issues] at follows
    exact
      (Activity.follows_registering follows).2 number waiting
        (mem_exchangesBy_of_turn registers)
  exact
    ⟨sender, before, after, own, theirs, registers, isTaken, isTheirTaking,
      apart_of_ofNat_eq (isOwn.symm.trans isTheirs)
        (isTaken.ne isTheirTaking differs)⟩

/-- While numbers have not run out, nobody waits under a new number. -/
theorem fresh_of_register
    (run :
      ClientRun (fun thread => (activities thread).program client) .empty
        history current final)
    (room : numbersGiven history < 2 ^ 32)
    {thread : Thread}
    {number : UInt32}
    {entry : Pending}
    {next : Unit → Program interface Ending}
    (due : current thread = .step (.table (.register number entry)) next) :
    KeyedList.find? number final.table = none := by
  cases found : KeyedList.find? number final.table with
  | none => rfl
  | some waiting =>
      obtain ⟨sender, _, _, own, theirs, -, isOwn, isTheirs, apart⟩ :=
        apart_of_register run due found
      have ownBound := isOwn.lt_numbersGiven
      have theirBound := isTheirs.lt_numbersGiven
      omega

/--
However long a run is, a number that is about to be registered is found in the
table only if it was taken `2 ^ 32` numbers before or after the one who waits
there took it, and a receiver changes only a request whose frame carried the
number of the response. While numbers have not run out, nobody waits under a
new number, no two requests have frames with one number, and a request that is
not completed waits under the number of its frame, or else one thread took it
and will complete it.
-/
theorem numbers_are_fresh
    (run :
      ClientRun (fun thread => (activities thread).program client) .empty
        history current final) :
    (∀ thread number entry next waiting,
      current thread = .step (.table (.register number entry)) next →
      KeyedList.find? number final.table = some waiting →
      ∃ sender before after own theirs,
        .turn sender (.table (.register number waiting)) () before after ∈
            history ∧
          IsTakenAt history thread number own ∧
          IsTakenAt history sender number theirs ∧
          (own + 2 ^ 32 ≤ theirs ∨ theirs + 2 ^ 32 ≤ own)) ∧
      (∀ receiver response call answer before after index,
        activities receiver = .receive response →
        .turn receiver call answer before after ∈ history →
        after.requests[index]? ≠ before.requests[index]? →
        ∃ header sender frame,
          Wire.Header.parse response = .ok header ∧
            IsFrameOf client activities history sender index frame ∧
            correlationOf frame = header.correlation) ∧
      (numbersGiven history < 2 ^ 32 →
        (∀ thread number entry next,
          current thread = .step (.table (.register number entry)) next →
          KeyedList.find? number final.table = none) ∧
        (∀ sender request frame other otherRequest otherFrame,
          IsFrameOf client activities history sender request frame →
          IsFrameOf client activities history other otherRequest otherFrame →
          correlationOf frame = correlationOf otherFrame →
          request = otherRequest) ∧
        ∀ sender index frame,
          IsFrameOf client activities history sender index frame →
          ∃ request,
            final.requests[index]? = some request ∧
              (¬ request.isCompleted →
                Xor (final.IsWaiting (correlationOf frame) index)
                  (∃! holder, IsHeldBy history current index holder))) := by
  refine ⟨?_, ?_, fun room => ⟨?_, ?_, ?_⟩⟩
  · intro thread number entry next waiting due found
    exact apart_of_register run due found
  · intro receiver response call answer before after index receives member
      changes
    exact of_received_change run receives member changes
  · intro thread number entry next due
    exact fresh_of_register run room due
  · intro sender request frame other otherRequest otherFrame isFrame isOther
      same
    exact eq_of_correlationOf_eq run room isFrame isOther same
  · intro sender index frame isFrame
    exact waiting_or_held run room isFrame

/-- The read is about to be registered. -/
def aboutToRegister : Replay interface Party Traffic Ending :=
  (promptAnswer (.ok ())).replay (List.replicate 4 .issuer)
    (fun party => (closing party).program closingClient) .empty

/-- Nobody waits under the number of the read. -/
theorem numbers_are_fresh_read :
    ∃ entry next,
      aboutToRegister.programs .issuer =
          .step (.table (.register 1 entry)) next ∧
        KeyedList.find? 1 aboutToRegister.state.table = none := by
  have run :
      ClientRun (fun party => (closing party).program closingClient) .empty
        aboutToRegister.history aboutToRegister.programs
        aboutToRegister.state :=
    (Run.replay (promptAnswer (.ok ())) _ _ _).mono
      (semantics_of_promptAnswer (.ok ()))
  have fresh := (numbers_are_fresh run).2.2 (by decide)
  exact ⟨_, _, rfl, fresh.1 .issuer 1 _ _ rfl⟩

section RunningOut

variable (client : Client) (operation : Wire.Operation) (timeout : Duration)

/-- The request that an issue opens while the clock stands. -/
def openedIn (traffic : Traffic) : Request Wire.Response where
  timeout := timeout
  createdAt := ⟨0⟩
  context :=
    let routed := operation.route client.settings.partitionCount
    (traffic.identities.newContext routed.name (some routed.key.id)).1
  phase := .incomplete
  reason := none
  slot := .empty

/-- What an issue leaves behind when it has registered its request. -/
def registeredAfter (traffic : Traffic) : Traffic where
  nextCorrelation := traffic.nextCorrelation + 1
  table :=
    KeyedList.insert traffic.nextCorrelation
      ⟨operation.route client.settings.partitionCount, traffic.requests.length⟩
      traffic.table
  requests := traffic.requests ++ [openedIn client operation timeout traffic]
  identities :=
    let routed := operation.route client.settings.partitionCount
    (traffic.identities.newContext routed.name (some routed.key.id)).2

/-- What an issue leaves behind when its frame was refused. -/
def refusedAfter (traffic : Traffic) (error : Error) : Traffic :=
  let registered := registeredAfter client operation timeout traffic
  let retracted : Traffic :=
    { registered with
      table :=
        KeyedList.erase traffic.nextCorrelation registered.table }
  (retracted.complete traffic.requests.length (.failed error)).2

variable {client operation timeout}

theorem create_openedIn
    (positive : timeout.isZero = false)
    (traffic : Traffic) :
    let routed := operation.route client.settings.partitionCount
    Request.create timeout ⟨0⟩
        (traffic.identities.newContext routed.name (some routed.key.id)).1 =
      .ok (openedIn client operation timeout traffic) := by
  intro routed
  unfold Request.create
  rw [positive]
  rfl

theorem run_issue_of_sent
    (positive : timeout.isZero = false)
    (traffic : Traffic) :
    ∃ ending,
      (promptAnswer (.ok ())).run
          ((Activity.issue operation timeout).program client) traffic =
        some (ending, registeredAfter client operation timeout traffic) := by
  rw [Activity.program_issue]
  simp only [Machine.run, promptAnswer, Traffic.machine]
  rw [create_openedIn positive]
  exact ⟨_, rfl⟩

theorem run_issue_of_refused
    (positive : timeout.isZero = false)
    (traffic : Traffic)
    (error : Error) :
    ∃ ending,
      (promptAnswer (.error error)).run
          ((Activity.issue operation timeout).program client) traffic =
        some (ending, refusedAfter client operation timeout traffic error) := by
  rw [Activity.program_issue]
  simp only [Machine.run, promptAnswer, Traffic.machine]
  rw [create_openedIn positive]
  exact ⟨_, rfl⟩

/-- After some issues the first request still waits, under the first number. -/
structure Outlasts (count : Nat) (traffic : Traffic) : Prop where
  table : ∃ entry, traffic.table = [(1, entry)] ∧ entry.request = 0
  next : traffic.nextCorrelation = UInt32.ofNat (count + 1)
  length : traffic.requests.length = count
  waiting : ∃ request,
    traffic.requests[0]? = some request ∧ ¬ request.isCompleted

theorem Outlasts.first :
    Outlasts 1 (registeredAfter client operation timeout .empty) where
  table := ⟨_, rfl, rfl⟩
  next := rfl
  length := rfl
  waiting := ⟨_, rfl, Bool.false_ne_true⟩

/-- The first request outlasts an issue that is refused. -/
theorem Outlasts.refused
    {count : Nat}
    {traffic : Traffic}
    (outlasts : Outlasts count traffic)
    (positive : 0 < count)
    (other : UInt32.ofNat (count + 1) ≠ 1)
    (error : Error) :
    Outlasts (count + 1)
      (refusedAfter client operation timeout traffic error) where
  table := by
    obtain ⟨entry, isTable, isFirst⟩ := outlasts.table
    refine ⟨entry, ?_, isFirst⟩
    unfold refusedAfter
    rw [Traffic.table_complete]
    change
      KeyedList.erase traffic.nextCorrelation
        (KeyedList.insert traffic.nextCorrelation _ traffic.table) = _
    rw [isTable, outlasts.next, KeyedList.erase_insert]
    intro place member isNumber
    rw [List.mem_singleton.mp member] at isNumber
    exact other isNumber.symm
  next := by
    unfold refusedAfter
    rw [Traffic.nextCorrelation_complete]
    change traffic.nextCorrelation + 1 = _
    rw [outlasts.next]
    exact (UInt32.ofNat_add _ 1).symm
  length := by
    unfold refusedAfter
    rw [Traffic.length_complete]
    change (traffic.requests ++ [_]).length = _
    rw [List.length_append, outlasts.length]
    rfl
  waiting := by
    obtain ⟨request, found, incomplete⟩ := outlasts.waiting
    refine ⟨request, ?_, incomplete⟩
    have inside := (List.getElem?_eq_some_iff.mp found).1
    unfold refusedAfter
    rw [Traffic.getElem?_complete, outlasts.length,
      if_neg (Nat.ne_of_lt positive)]
    change (traffic.requests ++ [_])[0]? = _
    rw [List.getElem?_append_left inside]
    exact found

/--
The first request may outlast every issue after it while numbers have not run
out: all of them are refused.
-/
theorem exists_outlasting
    (positive : timeout.isZero = false)
    {count : Nat}
    (room : count < 2 ^ 32) :
    ∃ (history : ClientHistory Nat) (current : Nat → Program interface Ending)
        (traffic : Traffic),
      ClientRun (fun _ => (Activity.issue operation timeout).program client)
          .empty history current traffic ∧
        (∀ thread ≤ count, ∃ ending, current thread = .done ending) ∧
        (∀ thread, count < thread →
          current thread = (Activity.issue operation timeout).program client) ∧
        Outlasts (count + 1) traffic := by
  induction count with
  | zero =>
      let issuing : Nat → Program interface Ending :=
        fun _ => (Activity.issue operation timeout).program client
      obtain ⟨ending, ends⟩ :=
        run_issue_of_sent positive .empty
      obtain ⟨history, run⟩ :=
        Run.alone ends (rfl : issuing 0 = _)
      refine
        ⟨history, _, _, run.mono (semantics_of_promptAnswer _), ?_, ?_, .first⟩
      · intro thread isFirst
        rw [Nat.le_zero.mp isFirst]
        exact ⟨ending, Function.update_self ..⟩
      · intro thread later
        exact Function.update_of_ne (Nat.ne_of_gt later) ..
  | succ count inductionHypothesis =>
      obtain ⟨earlier, previous, traffic, reached, ended, idle, outlasts⟩ :=
        inductionHypothesis (by omega)
      obtain ⟨ending, ends⟩ :=
        run_issue_of_refused positive traffic (.invalidArgument .zeroTimeout)
      obtain ⟨history, run⟩ :=
        Run.alone ends (idle (count + 1) (Nat.lt_succ_self count))
      have other : UInt32.ofNat (count + 1 + 1) ≠ 1 := by
        intro isFirst
        have same := congrArg UInt32.toNat isFirst
        rw [UInt32.toNat_ofNat'] at same
        change (count + 1 + 1) % 2 ^ 32 = 1 at same
        omega
      refine
        ⟨_, _, _, reached.append (run.mono (semantics_of_promptAnswer _)), ?_, ?_,
          outlasts.refused (Nat.succ_pos count) other _⟩
      · intro thread bound
        by_cases isLast : thread = count + 1
        · rw [isLast, Function.update_self]
          exact ⟨ending, rfl⟩
        · rw [Function.update_of_ne isLast]
          exact ended thread (by omega)
      · intro thread later
        rw [Function.update_of_ne (Nat.ne_of_gt later)]
        exact idle thread (by omega)

/--
Numbers run out: one more issue takes the place of a request that has waited for
`2 ^ 32` numbers. Then the request is neither completed nor in the table, and
everybody who has begun has ended.
-/
theorem exists_displaced
    (positive : timeout.isZero = false) :
    ∃ (earlier later : ClientHistory Nat)
        (previous current : Nat → Program interface Ending)
        (middle final : Traffic),
      ClientRun (fun _ => (Activity.issue operation timeout).program client)
          .empty earlier previous middle ∧
        ClientRun previous middle later current final ∧
        middle.IsWaiting 1 0 ∧
        (∃ request,
          final.requests[0]? = some request ∧ ¬ request.isCompleted) ∧
        (∀ place ∈ final.table, place.2.request ≠ 0) ∧
        ∀ thread,
          (∃ ending, current thread = .done ending) ∨
            current thread =
              (Activity.issue operation timeout).program client := by
  obtain ⟨earlier, previous, middle, reached, ended, idle, outlasts⟩ :=
    @exists_outlasting client operation timeout positive (2 ^ 32 - 1)
      (by decide)
  obtain ⟨entry, isTable, isFirst⟩ := outlasts.table
  obtain ⟨request, found, incomplete⟩ := outlasts.waiting
  obtain ⟨ending, ends⟩ := run_issue_of_sent positive middle
  obtain ⟨later, run⟩ := Run.alone ends (idle (2 ^ 32) (by decide))
  refine
    ⟨earlier, later, previous, _, middle, _, reached,
      run.mono (semantics_of_promptAnswer _), ⟨entry, ?_, isFirst⟩,
      ⟨request, ?_, incomplete⟩, ?_, ?_⟩
  · rw [isTable]
    rfl
  · have inside := (List.getElem?_eq_some_iff.mp found).1
    change (middle.requests ++ [_])[0]? = _
    rw [List.getElem?_append_left inside]
    exact found
  · intro place member
    have startsOver : middle.nextCorrelation = 1 := outlasts.next
    change
      place ∈ KeyedList.insert middle.nextCorrelation _ middle.table at member
    rw [isTable, startsOver] at member
    rw [List.mem_singleton.mp member]
    change middle.requests.length ≠ 0
    rw [outlasts.length]
    decide
  · intro thread
    by_cases isLast : thread = 2 ^ 32
    · rw [isLast, Function.update_self]
      exact .inl ⟨ending, rfl⟩
    · rw [Function.update_of_ne isLast]
      by_cases begun : thread ≤ 2 ^ 32 - 1
      · exact .inl (ended thread begun)
      · exact .inr (idle thread (by omega))

/--
A read that never expires is displaced by the last of `2 ^ 32` other reads,
whose frames were all refused but the last one's.
-/
theorem first_request_is_displaced :
    let issuing : Program interface Ending :=
      (Activity.issue (.get ⟨"a", .default, 0, by decide, by decide⟩)
        Duration.longest).program closingClient
    ∃ (earlier later : ClientHistory Nat)
        (previous current : Nat → Program interface Ending)
        (middle final : Traffic),
      ClientRun (fun _ => issuing) .empty earlier previous middle ∧
        ClientRun previous middle later current final ∧
        middle.IsWaiting 1 0 ∧
        (∃ request,
          final.requests[0]? = some request ∧ ¬ request.isCompleted) ∧
        (∀ place ∈ final.table, place.2.request ≠ 0) ∧
        ∀ thread,
          (∃ ending, current thread = .done ending) ∨
            current thread = issuing :=
  exists_displaced (by decide)

end RunningOut

end ClientRun

end ClusterClient.Client
