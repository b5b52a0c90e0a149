import ClusterClient.Proofs.Client.Accounts
import ClusterClient.Proofs.Client.Traces
import ClusterClient.Proofs.Client.Works
import ClusterClient.Proofs.Wire.HeaderFields

namespace ClusterClient.Client

/-!
# Every request is accounted for

In a run of activities every step keeps the three accounts. So while numbers
have not run out, a request that is not completed is in the table under the
number of its frame or in the hands of one thread that will complete it, a
response completes only the request whose number it carries, an outcome never
changes, and a shutdown that nobody issues beside leaves nothing incomplete.
-/

variable {Thread : Type} [DecidableEq Thread]
variable {history : ClientHistory Thread} {duties : Thread → Duty}
variable {thread : Thread} {call : Call} {answer : call.Answer}
variable {before after : Traffic}

theorem semantics_table
    {call : TableCall}
    {answer : call.Answer}
    {before after : Traffic}
    (answered : semantics (.table call) before answer after) :
    answer = (Traffic.machine call before).1 ∧
      after = (Traffic.machine call before).2 :=
  ⟨(congrArg Prod.fst answered).symm, (congrArg Prod.snd answered).symm⟩

/-- A step changes the requests only by opening one or by completing one. -/
theorem requests_step
    (answered : semantics call before answer after) :
    after.requests = before.requests ∨
      (∃ request,
        call = .table (.openRequest request) ∧
          after.requests = before.requests ++ [request]) ∨
      ∃ index outcome,
        call = .table (.complete index outcome) ∧
          after = (before.complete index outcome).2 := by
  cases call with
  | table call =>
      obtain ⟨-, isAfter⟩ := semantics_table answered
      subst isAfter
      cases call with
      | openRequest request => exact .inr (.inl ⟨request, rfl, rfl⟩)
      | complete index outcome => exact .inr (.inr ⟨index, outcome, rfl, rfl⟩)
      | newContext | takeCorrelation | register | takeEntry | takeExpired
      | takeAll | dropCompleted => exact .inl rfl
  | readClock | send | sleep | allowance =>
      cases answered
      exact .inl rfl
  | awaitUntil | awaitForever =>
      cases answered.1
      exact .inl rfl
  | never => exact nomatch answer

/-- A step leaves completed requests as they are. -/
theorem completed_step
    (answered : semantics call before answer after)
    {index : Nat}
    {request : Request Wire.Response}
    (found : before.requests[index]? = some request)
    (completed : request.isCompleted) :
    after.requests[index]? = some request := by
  rcases requests_step answered with
    same | ⟨opened, -, isAfter⟩ | ⟨target, outcome, -, isAfter⟩
  · rw [same]
    exact found
  · have inside := (List.getElem?_eq_some_iff.mp found).1
    rw [isAfter, List.getElem?_append_left inside]
    exact found
  · rw [isAfter, Traffic.getElem?_complete, found]
    split
    · rw [Option.map_some, Request.finish_of_isCompleted completed]
    · rfl

/-- Only registering puts an entry into the table. -/
theorem table_step
    (answered : semantics call before answer after)
    (registers : registeredIn call = none) :
    after.table.Sublist before.table := by
  cases call with
  | table call =>
      obtain ⟨-, isAfter⟩ := semantics_table answered
      subst isAfter
      cases call with
      | register => cases registers
      | takeEntry number => exact KeyedList.erase_sublist number before.table
      | takeExpired | dropCompleted => exact List.filter_sublist
      | takeAll => exact List.nil_sublist _
      | complete index outcome =>
          change (before.complete index outcome).2.table.Sublist _
          rw [Traffic.table_complete]
      | newContext | openRequest | takeCorrelation => exact .refl _
  | readClock | send | sleep | allowance =>
      cases answered
      exact .refl _
  | awaitUntil | awaitForever =>
      cases answered.1
      exact .refl _
  | never => exact nomatch answer

/-- An entry was in the table before, or the step has registered it. -/
theorem mem_table_step
    (answered : semantics call before answer after)
    {entry : UInt32 × Pending}
    (member : entry ∈ after.table) :
    entry ∈ before.table ∨ call = .table (.register entry.1 entry.2) := by
  cases registers : registeredIn call with
  | none => exact .inl ((table_step answered registers).subset member)
  | some registered =>
      cases call with
      | table call =>
          cases call with
          | register number filed =>
              obtain ⟨-, rfl⟩ := semantics_table answered
              rcases KeyedList.mem_insert member with rfl | wasThere
              · exact .inr rfl
              · exact .inl wasThere
          | _ => cases registers
      | _ => cases registers

/-- A step of a thread that meets what it owes keeps the accounts. -/
theorem Accounts.turn
    {Result : Type}
    {opens : Bool}
    (accounts : Accounts history duties before)
    (room :
      numbersGiven (history ++ [.turn thread call answer before after]) <
        2 ^ 32)
    {next : call.Answer → Program interface Result}
    (abides : Abides opens (duties thread) (.step call next))
    (answered : semantics call before answer after) :
    ∃ duty,
      Abides opens duty (next answer) ∧
        Accounts (history ++ [.turn thread call answer before after])
          (Function.update duties thread duty) after := by
  generalize owed : duties thread = duty at abides
  cases abides with
  | quiet isQuiet goesOn =>
      by_cases completes :
          ∃ request outcome, call = .table (.complete request outcome)
      · obtain ⟨request, outcome, isCompletion⟩ := completes
        subst isCompletion
        obtain ⟨isAnswer, isAfter⟩ := semantics_table answered
        subst isAnswer isAfter
        exact ⟨_, goesOn _, accounts.complete outcome owed nofun⟩
      · have noCompletion : ∀ request outcome,
            call ≠ .table (.complete request outcome) := by
          intro request outcome isCompletion
          exact completes ⟨request, outcome, isCompletion⟩
        obtain ⟨gives, registers, takesNothing⟩ := isQuiet.plain answer
        have leaves := Traffic.Leaves.quiet isQuiet noCompletion answered
        refine ⟨_, goesOn answer,
          accounts.leaves answer gives registers leaves rfl ?_ (.inl rfl) ?_ ?_⟩
        · rw [owed]
          rfl
        · intro held holds
          rw [owed] at holds
          cases holds
          rfl
        · rw [takesNothing]
          exact nofun
  | @take _ _ isTaking goesOn =>
      obtain ⟨gives, registers⟩ := isTaking.plain
      have leaves :=
        Traffic.Leaves.take accounts.owned.ordered isTaking answered
      refine ⟨_, goesOn answer,
        accounts.leaves answer gives registers leaves rfl ?_ (.inl rfl) ?_ ?_⟩
      · rw [owed]
        rfl
      · intro held holds
        rw [owed] at holds
        cases holds
        rfl
      · intro entry taken
        exact ⟨_, rfl, List.mem_map.mpr ⟨entry, taken, rfl⟩⟩
  | openRequest mayOpen settled goesOn =>
      cases answered
      exact ⟨_, goesOn _, accounts.openRequest settled owed⟩
  | takeCorrelation mayOpen goesOn =>
      rw [numbersGiven_concat] at room
      cases answered
      exact ⟨_, goesOn _, accounts.takeCorrelation room owed⟩
  | @register request entry number _ mayOpen isOwn goesOn =>
      cases answered
      subst isOwn
      exact ⟨_, goesOn, accounts.register entry owed⟩
  | @send request number frame _ sent refused =>
      have same : after = before := answered
      subst same
      have leaves :
          after.Leaves (takenIn (.send frame) answer) after :=
        ⟨.ofSame rfl, rfl, rfl⟩
      have noTaking : ∀ {entry : Pending} {duty : Duty},
          entry ∈ takenIn (.send frame) answer →
          ∃ held, duty = .holding held ∧ entry.request ∈ held := nofun
      have sending : ∀ {held}, duties thread = .holding held → held = [] := by
        intro held holds
        rw [owed] at holds
        cases holds
      have opened : (duties thread).opened? = none := by
        rw [owed]
        rfl
      cases answer with
      | ok _ =>
          exact ⟨_, sent,
            accounts.leaves _ rfl rfl leaves rfl opened (.inl rfl) sending
              noTaking⟩
      | error error =>
          refine ⟨_, refused error,
            accounts.leaves _ rfl rfl leaves rfl opened (.inr ?_) sending
              noTaking⟩
          rw [owed]
          rfl
  | @retract request number _ goesOn =>
      have isTaking : Call.IsTaking (.table (.takeEntry number)) := trivial
      have leaves :=
        Traffic.Leaves.take accounts.owned.ordered isTaking answered
      refine ⟨_, goesOn answer,
        accounts.leaves answer rfl rfl leaves rfl ?_ (.inl rfl) ?_ ?_⟩
      · rw [owed]
        rfl
      · intro held holds
        rw [owed] at holds
        cases holds
      · intro entry taken
        refine ⟨_, rfl, List.mem_singleton.mpr ?_⟩
        have isSent : (duties thread).registered? = some (request, number) := by
          rw [owed]
          rfl
        obtain ⟨operation, registered⟩ := accounts.owned.registered isSent
        obtain ⟨isAnswer, -⟩ := semantics_table answered
        subst isAnswer
        have found := Option.mem_toList.mp taken
        have inTable := KeyedList.mem_of_find? found
        have same :=
          List.inj_on_of_nodup_map accounts.numbered.once
            (accounts.owned.inTable inTable) registered rfl
        exact congrArg (·.2.request) same
  | @complete request rest outcome _ goesOn =>
      obtain ⟨isAnswer, isAfter⟩ := semantics_table answered
      subst isAnswer isAfter
      refine ⟨_, goesOn _, accounts.complete outcome owed ?_⟩
      intro other member
      exact List.mem_cons.mp member

theorem registration?_eq_some_iff
    {Thread : Type}
    {moment : ClientMoment Thread}
    {number : UInt32}
    {entry : Pending} :
    registration? moment = some (number, entry) ↔
      ∃ thread before after,
        moment =
          .turn thread (.table (.register number entry)) () before after := by
  constructor
  · intro isRegistration
    cases moment with
    | outside => cases isRegistration
    | turn thread call answer before after =>
        cases call with
        | table call =>
            cases call with
            | register =>
                cases isRegistration
                exact ⟨thread, before, after, rfl⟩
            | _ => cases isRegistration
        | _ => cases isRegistration
  · rintro ⟨thread, before, after, isTurn⟩
    rw [isTurn]
    rfl

theorem mem_registrations_iff
    {Thread : Type}
    {history : ClientHistory Thread}
    {number : UInt32}
    {entry : Pending} :
    (number, entry) ∈ registrations history ↔
      ∃ thread before after,
        .turn thread (.table (.register number entry)) () before after ∈
          history := by
  constructor
  · intro registered
    obtain ⟨moment, member, isRegistration⟩ := List.mem_filterMap.mp registered
    obtain ⟨thread, before, after, isTurn⟩ :=
      registration?_eq_some_iff.mp isRegistration
    rw [isTurn] at member
    exact ⟨thread, before, after, member⟩
  · rintro ⟨thread, before, after, member⟩
    exact List.mem_filterMap.mpr ⟨_, member, rfl⟩

/-- The correlation number that a frame carries. -/
def correlationOf (frame : Bytes) : UInt32 :=
  (Wire.Header.ofBytes frame).correlation

/--
The frame of a request: the one that is made of the operation and of the number
that a thread registered the request with.
-/
def IsFrameOf
    (client : Client)
    (activities : Thread → Activity)
    (history : ClientHistory Thread)
    (thread : Thread)
    (request : Nat)
    (frame : Bytes) : Prop :=
  ∃ operation timeout number before after,
    let routed := operation.route client.settings.partitionCount
    activities thread = .issue operation timeout ∧
      .turn thread (.table (.register number ⟨routed, request⟩)) () before
          after ∈
        history ∧
      frame = routed.encode number client.channel

/-- A request waits in the table under a number. -/
def Traffic.IsWaiting
    (traffic : Traffic)
    (number : UInt32)
    (request : Nat) : Prop :=
  ∃ entry,
    KeyedList.find? number traffic.table = some entry ∧
      entry.request = request

/-- A thread took the entry of a request, and will complete the request. -/
def IsHeldBy
    (history : ClientHistory Thread)
    (current : Thread → Program interface Ending)
    (request : Nat)
    (holder : Thread) : Prop :=
  (∃ entry, (holder, entry) ∈ takings history ∧ entry.request = request) ∧
    WillComplete request (current holder)

/-- Runs of programs on one client. -/
abbrev ClientRun {Thread : Type} [DecidableEq Thread] :=
  @Run interface Thread Traffic Ending _ semantics (fun _ _ => False)

namespace ClientRun

variable {client : Client} {activities : Thread → Activity}
variable {earlier later : ClientHistory Thread}
variable {programs previous current : Thread → Program interface Ending}
variable {middle final : Traffic}

theorem numbersGiven_mono
    {Thread : Type}
    {earlier history : ClientHistory Thread}
    (isPrefix : earlier <+: history) :
    numbersGiven earlier ≤ numbersGiven history :=
  isPrefix.sublist.countP_le

/-- What was registered stays on record. -/
theorem registrations_mono
    {Thread : Type}
    {earlier history : ClientHistory Thread}
    (isPrefix : earlier <+: history) :
    registrations earlier ⊆ registrations history :=
  (isPrefix.sublist.filterMap registration?).subset

/-- In every run of activities the accounts are kept. -/
theorem accounts
    (run :
      ClientRun (fun thread => (activities thread).program client) .empty
        history current final)
    (room : numbersGiven history < 2 ^ 32) :
    ∃ duties,
      (∀ thread,
        Abides (activities thread).issues (duties thread) (current thread)) ∧
        Accounts history duties final := by
  induction run with
  | start =>
      exact
        ⟨fun _ => .holding [],
          fun thread => (activities thread).abides_program client, .empty⟩
  | @turn history current before after thread call next answer _ due answered
      inductionHypothesis =>
      have roomBefore :=
        Nat.lt_of_le_of_lt (numbersGiven_mono (List.prefix_append history _)) room
      obtain ⟨duties, abides, accounts⟩ := inductionHypothesis roomBefore
      have abidesNow := abides thread
      rw [due] at abidesNow
      obtain ⟨duty, goesOn, kept⟩ := accounts.turn room abidesNow answered
      refine ⟨Function.update duties thread duty, ?_, kept⟩
      intro other
      by_cases own : other = thread
      · subst own
        rw [Function.update_self, Function.update_self]
        exact goesOn
      · rw [Function.update_of_ne own, Function.update_of_ne own]
        exact abides other
  | outside _ change => exact change.elim

/-- Whatever is in the table was registered. -/
theorem mem_registrations_of_mem_table
    {programs current : Thread → Program interface Ending}
    (run : ClientRun programs .empty history current final)
    {place : UInt32 × Pending}
    (member : place ∈ final.table) : place ∈ registrations history := by
  induction run with
  | start => cases member
  | turn _ _ answered inductionHypothesis =>
      rw [registrations_concat]
      rcases mem_table_step answered member with wasThere | rfl
      · exact List.mem_append_left _ (inductionHypothesis wasThere)
      · exact List.mem_concat_self
  | outside _ change => exact change.elim

/-- Only an issue is about to register anything, and only its own operation. -/
theorem issue_of_registering
    (run :
      ClientRun (fun thread => (activities thread).program client) .empty
        history current final)
    {number : UInt32}
    {entry : Pending}
    {next : Unit → Program interface Ending}
    (due : current thread = .step (.table (.register number entry)) next) :
    ∃ operation timeout,
      activities thread = .issue operation timeout ∧
        entry.operation = operation.route client.settings.partitionCount := by
  have follows := run.follows thread
  rw [due] at follows
  obtain ⟨stage, tends, -⟩ :=
    (tends_program client (.single (activities thread))).left follows
  have isRouted := tends.isRouted
  cases activity : activities thread with
  | issue operation timeout =>
      rw [activity] at isRouted
      exact ⟨operation, timeout, rfl, (Option.some.inj isRouted).symm⟩
  | receive | expire | shutdown | await | complete =>
      rw [activity] at isRouted
      cases isRouted

/-- Only an issue registers anything, and only its own operation. -/
theorem issue_of_register
    (run :
      ClientRun (fun thread => (activities thread).program client) .empty
        history current final)
    {number : UInt32}
    {entry : Pending}
    (member :
      .turn thread (.table (.register number entry)) () before after ∈
        history) :
    ∃ operation timeout,
      activities thread = .issue operation timeout ∧
        entry.operation = operation.route client.settings.partitionCount := by
  obtain ⟨earlier, previous, next, -, reached, due, -⟩ := run.split member
  exact issue_of_registering reached due

/-- Whatever was registered has a frame with the number it is under. -/
theorem isFrameOf_of_mem_registrations
    (run :
      ClientRun (fun thread => (activities thread).program client) .empty
        history current final)
    {number : UInt32}
    {entry : Pending}
    (registered : (number, entry) ∈ registrations history) :
    ∃ thread frame,
      IsFrameOf client activities history thread entry.request frame ∧
        correlationOf frame = number := by
  obtain ⟨thread, before, after, member⟩ := mem_registrations_iff.mp registered
  obtain ⟨operation, timeout, issues, isRouted⟩ :=
    issue_of_register run member
  obtain ⟨routed, request⟩ := entry
  simp only at isRouted
  subst isRouted
  exact
    ⟨thread, _, ⟨operation, timeout, number, before, after, issues, member, rfl⟩,
      Wire.correlation_encode ..⟩

omit [DecidableEq Thread] in
/-- A request was registered under the number of its frame. -/
theorem mem_registrations_of_isFrameOf
    {thread : Thread}
    {request : Nat}
    {frame : Bytes}
    (isFrame : IsFrameOf client activities history thread request frame) :
    ∃ operation,
      (correlationOf frame, ⟨operation, request⟩) ∈ registrations history := by
  obtain ⟨operation, timeout, number, before, after, -, member, isFrame⟩ :=
    isFrame
  refine ⟨operation.route client.settings.partitionCount, ?_⟩
  rw [isFrame, correlationOf, Wire.correlation_encode]
  exact mem_registrations_iff.mpr ⟨thread, before, after, member⟩

/-- Two requests have frames with different numbers. -/
theorem eq_of_correlationOf_eq
    (run :
      ClientRun (fun thread => (activities thread).program client) .empty
        history current final)
    (room : numbersGiven history < 2 ^ 32)
    {first second : Thread}
    {firstRequest secondRequest : Nat}
    {firstFrame secondFrame : Bytes}
    (isFirst :
      IsFrameOf client activities history first firstRequest firstFrame)
    (isSecond :
      IsFrameOf client activities history second secondRequest secondFrame)
    (sameNumber : correlationOf firstFrame = correlationOf secondFrame) :
    firstRequest = secondRequest := by
  obtain ⟨duties, -, accounts⟩ := accounts run room
  obtain ⟨firstOperation, inFirst⟩ := mem_registrations_of_isFrameOf isFirst
  obtain ⟨secondOperation, inSecond⟩ := mem_registrations_of_isFrameOf isSecond
  have same :=
    List.inj_on_of_nodup_map accounts.numbered.once inFirst inSecond sameNumber
  exact congrArg (·.2.request) same

/--
A request that an issue returned is waiting under the number of its frame or in
the hands of one thread, as long as it is not completed.
-/
theorem waiting_or_held
    (run :
      ClientRun (fun thread => (activities thread).program client) .empty
        history current final)
    (room : numbersGiven history < 2 ^ 32)
    {thread : Thread}
    {index : Nat}
    {frame : Bytes}
    (isFrame : IsFrameOf client activities history thread index frame) :
    ∃ request,
      final.requests[index]? = some request ∧
        (¬ request.isCompleted →
          Xor (final.IsWaiting (correlationOf frame) index)
            (∃! holder, IsHeldBy history current index holder)) := by
  obtain ⟨duties, abides, accounts⟩ := accounts run room
  obtain ⟨operation, registered⟩ := mem_registrations_of_isFrameOf isFrame
  have owned := accounts.owned
  have inside : index < final.requests.length := owned.known registered
  refine ⟨final.requests[index], List.getElem?_eq_getElem inside, ?_⟩
  intro incomplete
  have notBoth : ∀ {holder},
      IsHeldBy history current index holder →
      ¬ final.IsWaiting (correlationOf frame) index := by
    rintro holder ⟨⟨taken, took, isTaken⟩, -⟩ ⟨entry, found, isIndex⟩
    have apart := (List.nodup_append.mp owned.takenOnce).2.2
    refine apart index ?_ index ?_ rfl
    · exact List.mem_map.mpr ⟨_, KeyedList.mem_of_find? found, isIndex⟩
    · exact List.mem_map.mpr ⟨_, took, isTaken⟩
  have noTwo : ∀ {holder other},
      IsHeldBy history current index holder →
      IsHeldBy history current index other → other = holder := by
    rintro holder other ⟨⟨taken, took, isTaken⟩, -⟩
      ⟨⟨otherTaken, otherTook, isOtherTaken⟩, -⟩
    have once := (List.nodup_append.mp owned.takenOnce).2.1
    have same :=
      List.inj_on_of_nodup_map once otherTook took
        (isOtherTaken.trans isTaken.symm)
    exact congrArg Prod.fst same
  cases accounts.covered.cared (List.getElem?_eq_getElem inside) incomplete with
  | @opening owner opened =>
      exact
        absurd (List.mem_map.mpr ⟨_, registered, rfl⟩) (owned.opened opened).2
  | @waiting number entry inTable isIndex =>
      have same :=
        List.inj_on_of_nodup_map owned.once (owned.inTable inTable) registered
          isIndex
      have isNumber : number = correlationOf frame := congrArg Prod.fst same
      subst isNumber
      have waiting : final.IsWaiting (correlationOf frame) index :=
        ⟨entry, (KeyedList.find?_eq_some_iff_mem owned.ordered).mpr inTable,
          isIndex⟩
      refine .inl ⟨waiting, ?_⟩
      rintro ⟨holder, holds, -⟩
      exact notBoth holds waiting
  | @taken holder entry held took isIndex holds isHeld =>
      have abidesNow := abides holder
      rw [holds] at abidesNow
      have isHolder : IsHeldBy history current index holder :=
        ⟨⟨entry, took, isIndex⟩, abidesNow.willComplete isHeld⟩
      exact .inr ⟨⟨holder, isHolder, fun other => noTwo isHolder⟩,
        notBoth isHolder⟩

/-- A receiver changes only the request whose frame carried the number. -/
theorem of_received_change
    (run :
      ClientRun (fun thread => (activities thread).program client) .empty
        history current final)
    {thread : Thread}
    {response : Bytes}
    (receives : activities thread = .receive response)
    (member : .turn thread call answer before after ∈ history)
    {index : Nat}
    (changes : after.requests[index]? ≠ before.requests[index]?) :
    ∃ header sender frame,
      Wire.Header.parse response = .ok header ∧
        IsFrameOf client activities history sender index frame ∧
        correlationOf frame = header.correlation := by
  obtain ⟨earlier, previous, next, isPrefix, reached, due, answered⟩ :=
    run.split member
  have follows := reached.follows thread
  rw [due] at follows
  rcases requests_step answered with
    same | ⟨opened, isOpening, -⟩ | ⟨target, outcome, isCompletion, isAfter⟩
  · exact absurd (congrArg (·[index]?) same) changes
  · subst isOpening
    obtain ⟨stage, tends, -⟩ :=
      (tends_program client (.single (activities thread))).left follows
    have opens := tends.isSome_of_openRequest
    rw [receives] at opens
    cases opens
  · subst isCompletion isAfter
    have isTarget : index = target := by
      by_contra differs
      rw [Traffic.getElem?_complete, if_neg differs] at changes
      exact changes rfl
    rw [receives] at follows
    obtain ⟨header, entry, parsed, isEntry, exchanged, -⟩ :=
      Activity.follows_receiving follows
    -- The entry was in the table when it was taken, so it had been registered.
    obtain ⟨_, _, tookIt⟩ := turn_of_mem_exchangesBy exchanged
    obtain ⟨sooner, _, _, isSooner, reachedSooner, -, found⟩ :=
      reached.split tookIt
    have inTable := KeyedList.mem_of_find? (semantics_table found).1.symm
    have registered := mem_registrations_of_mem_table reachedSooner inTable
    have stays := registrations_mono (isSooner.trans isPrefix) registered
    obtain ⟨sender, frame, isFrame, carries⟩ :=
      isFrameOf_of_mem_registrations run stays
    rw [isEntry, ← isTarget] at isFrame
    exact ⟨header, sender, frame, parsed, isFrame, carries⟩

theorem completed_stays
    {programs : Thread → Program interface Ending}
    (run : ClientRun programs middle later current final)
    {index : Nat}
    {request : Request Wire.Response}
    (found : middle.requests[index]? = some request)
    (completed : request.isCompleted) :
    final.requests[index]? = some request := by
  induction run with
  | start => exact found
  | turn _ _ answered inductionHypothesis =>
      exact completed_step answered inductionHypothesis completed
  | outside _ change => exact change.elim

/-- A shutdown empties the table, and while nobody registers it stays empty. -/
theorem table_of_shutdown
    (run : ClientRun previous middle later current final)
    {closer : Thread}
    (closes : previous closer = Activity.shutdown.program client)
    (nobody : ∀ moment ∈ later, registration? moment = none) :
    current closer = Activity.shutdown.program client ∨ final.table = [] := by
  induction run with
  | start => exact .inl closes
  | @turn later current before after thread call next answer _ due answered
      inductionHypothesis =>
      simp only [List.mem_append, List.mem_singleton, or_imp, forall_and,
        forall_eq] at nobody
      obtain ⟨nobodyBefore, registers⟩ := nobody
      rcases inductionHypothesis nobodyBefore with waits | isEmpty
      · by_cases own : thread = closer
        · subst own
          cases due.symm.trans waits
          obtain ⟨-, isAfter⟩ := semantics_table answered
          subst isAfter
          exact .inr rfl
        · rw [Function.update_of_ne (Ne.symm own)]
          exact .inl waits
      · have fewer := table_step answered registers
        rw [isEmpty] at fewer
        exact .inr (List.sublist_nil.mp fewer)
  | outside _ change => exact change.elim

/--
Once a shutdown has ended that nobody issued beside or after, and everybody else
who took entries has ended as well, every request is completed.
-/
theorem completed_of_shutdown
    (first :
      ClientRun (fun thread => (activities thread).program client) .empty
        earlier previous middle)
    (second : ClientRun previous middle later current final)
    (room : numbersGiven (earlier ++ later) < 2 ^ 32)
    {closer : Thread}
    (closes : activities closer = .shutdown)
    (notBegun : ∀ moment ∈ earlier, moment.thread? ≠ some closer)
    (closed : ∃ ending, current closer = .done ending)
    (nobodyIssues : ∀ thread,
      (activities thread).issues →
      (∃ ending, previous thread = .done ending) ∨
        ∀ moment ∈ earlier ++ later, moment.thread? ≠ some thread)
    (handlersEnded : ∀ holder entry,
      (holder, entry) ∈ takings (earlier ++ later) →
      ∃ ending, current holder = .done ending)
    {index : Nat}
    {request : Request Wire.Response}
    (found : final.requests[index]? = some request) : request.isCompleted := by
  have run := first.append second
  obtain ⟨duties, abides, accounts⟩ := accounts run room
  have ownsNothing : ∀ {thread ending},
      current thread = .done ending → duties thread = .holding [] := by
    intro thread ending ended
    have abidesNow := abides thread
    rw [ended] at abidesNow
    exact abidesNow.eq_of_done
  have nobody : ∀ moment ∈ later, registration? moment = none := by
    intro moment member
    by_contra registers
    obtain ⟨⟨number, entry⟩, registers⟩ := Option.ne_none_iff_exists'.mp registers
    obtain ⟨thread, before, after, isTurn⟩ :=
      registration?_eq_some_iff.mp registers
    rw [isTurn] at member
    have inHistory := List.mem_append_right earlier member
    obtain ⟨operation, timeout, activity, -⟩ :=
      issue_of_register run inHistory
    have issues : (activities thread).issues := by
      rw [activity]
      rfl
    rcases nobodyIssues thread issues with ⟨ending, ended⟩ | idle
    · exact (second.done_stays ended).2 _ member rfl
    · exact idle _ inHistory rfl
  have isEmpty : final.table = [] := by
    have notStarted := first.program_of_idle notBegun
    rw [closes] at notStarted
    rcases table_of_shutdown second notStarted nobody with waits | isEmpty
    · obtain ⟨ending, ended⟩ := closed
      cases waits.symm.trans ended
    · exact isEmpty
  by_contra incomplete
  cases accounts.covered.cared found incomplete with
  | @opening owner opened =>
      have notDone : duties owner ≠ .holding [] := by
        intro nothing
        rw [nothing] at opened
        cases opened
      have abidesNow := abides owner
      have issues : (activities owner).issues := by
        cases owed : duties owner with
        | opened =>
            rw [owed] at abidesNow
            exact abidesNow.opens_of_opened
        | holding | sending | failing =>
            rw [owed] at opened
            cases opened
      rcases nobodyIssues owner issues with ⟨ending, ended⟩ | idle
      · exact notDone (ownsNothing (second.done_stays ended).1)
      · have notStarted := run.program_of_idle idle
        rw [notStarted] at abidesNow
        cases activity : activities owner with
        | issue operation timeout =>
            rw [activity, Activity.program_issue] at abidesNow
            exact notDone abidesNow.eq_of_quiet
        | receive | expire | shutdown | await | complete =>
            rw [activity] at issues
            cases issues
  | waiting inTable =>
      rw [isEmpty] at inTable
      cases inTable
  | taken took _ holds isHeld =>
      obtain ⟨ending, ended⟩ := handlersEnded _ _ took
      have nothing := holds.symm.trans (ownsNothing ended)
      cases nothing
      cases isHeld

/--
Every issued request is accounted for, in every run of activities that takes
fewer than `2 ^ 32` numbers. While a request that an issue returned is not
completed, it waits under the number of the frame that was sent for it, or else
one thread took it and will complete it. A receiver changes only the request
whose frame carried the number of the response, and no two requests have frames
with one number. A completed request stays as it is. When a shutdown has ended
that no issue was beside or after, and everybody else who took entries has
ended, every request is completed.
-/
theorem requests_are_accounted_for
    (first :
      ClientRun (fun thread => (activities thread).program client) .empty
        earlier previous middle)
    (second : ClientRun previous middle later current final)
    (room : numbersGiven (earlier ++ later) < 2 ^ 32) :
    (∀ thread operation timeout handle,
      activities thread = .issue operation timeout →
      current thread = .done (.issued (.ok handle)) →
      ∃ frame before after request,
        IsFrameOf client activities (earlier ++ later) thread handle.request
            frame ∧
          .turn thread (.send frame) (.ok ()) before after ∈
            earlier ++ later ∧
          final.requests[handle.request]? = some request ∧
          (¬ request.isCompleted →
            Xor (final.IsWaiting (correlationOf frame) handle.request)
              (∃! holder,
                IsHeldBy (earlier ++ later) current handle.request holder))) ∧
      (∀ thread response call answer before after index,
        activities thread = .receive response →
        .turn thread call answer before after ∈ earlier ++ later →
        after.requests[index]? ≠ before.requests[index]? →
        ∃ header sender frame,
          Wire.Header.parse response = .ok header ∧
            IsFrameOf client activities (earlier ++ later) sender index frame ∧
            correlationOf frame = header.correlation) ∧
      (∀ sender request frame other otherRequest otherFrame,
        IsFrameOf client activities (earlier ++ later) sender request frame →
        IsFrameOf client activities (earlier ++ later) other otherRequest
          otherFrame →
        correlationOf frame = correlationOf otherFrame →
        request = otherRequest) ∧
      (∀ (index : Nat) (request : Request Wire.Response),
        middle.requests[index]? = some request →
        request.isCompleted →
        final.requests[index]? = some request) ∧
      ∀ closer,
        activities closer = .shutdown →
        (∀ moment ∈ earlier, moment.thread? ≠ some closer) →
        (∃ ending, current closer = .done ending) →
        (∀ thread,
          (activities thread).issues →
          (∃ ending, previous thread = .done ending) ∨
            ∀ moment ∈ earlier ++ later, moment.thread? ≠ some thread) →
        (∀ holder entry,
          (holder, entry) ∈ takings (earlier ++ later) →
          ∃ ending, current holder = .done ending) →
        ∀ request ∈ final.requests, request.isCompleted := by
  have run := first.append second
  refine ⟨?_, ?_, ?_, ?_, ?_⟩
  · intro thread operation timeout handle issues ended
    have follows := run.follows thread
    rw [issues, ended] at follows
    obtain ⟨number, registered, sent⟩ := Activity.follows_issued follows
    obtain ⟨registering, kept, registered⟩ := turn_of_mem_exchangesBy registered
    obtain ⟨sending, left, sent⟩ := turn_of_mem_exchangesBy sent
    have isFrame :
        IsFrameOf client activities (earlier ++ later) thread handle.request _ :=
      ⟨operation, timeout, number, registering, kept, issues, registered, rfl⟩
    obtain ⟨request, found, cared⟩ := waiting_or_held run room isFrame
    exact ⟨_, sending, left, request, isFrame, sent, found, cared⟩
  · intro thread response call answer before after index receives member changes
    exact of_received_change run receives member changes
  · intro sender request frame other otherRequest otherFrame isFrame isOther same
    exact eq_of_correlationOf_eq run room isFrame isOther same
  · intro index request found completed
    exact completed_stays second found completed
  · intro closer closes notBegun closed nobodyIssues handlersEnded request member
    obtain ⟨index, found⟩ := List.mem_iff_getElem?.mp member
    exact
      completed_of_shutdown first second room closes notBegun closed
        nobodyIssues handlersEnded found

/-- A clock that stands still, and a connection with one answer. -/
def promptAnswer (sent : Except Error Unit) : Machine interface Traffic :=
    fun call traffic =>
  match call with
  | .table call => some (Traffic.machine call traffic)
  | .readClock => some ((⟨0⟩ : Instant), traffic)
  | .send _ => some (sent, traffic)
  | .awaitUntil request _ => some (traffic.outcome? request, traffic)
  | .awaitForever request =>
      (traffic.outcome? request).map fun outcome => (outcome, traffic)
  | .sleep _ => some ((), traffic)
  | .allowance => some ((0 : Nat), traffic)
  | .never => none

theorem semantics_of_promptAnswer
    (sent : Except Error Unit)
    (call : Call)
    (before : Traffic)
    (answer : call.Answer)
    (after : Traffic)
    (answered : promptAnswer sent call before = some (answer, after)) :
    semantics call before answer after := by
  cases call with
  | table call => exact Option.some.inj answered
  | readClock | send | sleep | allowance =>
      cases answered
      rfl
  | awaitUntil request limit =>
      cases answered
      exact ⟨rfl, fun outcome isOutcome => rfl⟩
  | awaitForever request =>
      obtain ⟨outcome, isOutcome, same⟩ := Option.map_eq_some_iff.mp answered
      cases same
      exact ⟨rfl, isOutcome⟩
  | never => exact nomatch answer

/-- An answer to every call, and one round for an execution. -/
def oneRoundAnswer : Machine interface Traffic :=
    fun call traffic =>
  match call with
  | .allowance => some ((1 : Nat), traffic)
  | call => promptAnswer (.ok ()) call traffic

theorem semantics_of_oneRoundAnswer
    (call : Call)
    (before : Traffic)
    (answer : call.Answer)
    (after : Traffic)
    (answered : oneRoundAnswer call before = some (answer, after)) :
    semantics call before answer after := by
  cases call with
  | allowance =>
      cases answered
      rfl
  | _ => exact semantics_of_promptAnswer (.ok ()) _ before answer after answered

/-- Three threads: one issues, one gets the response, one shuts down. -/
inductive Party where
  | issuer
  | receiver
  | closer
  deriving DecidableEq

/-- What the three threads do. -/
def closing : Party → Activity
  | .issuer =>
      .issue (.get ⟨"a", .default, 0, by decide, by decide⟩)
        (.ofMilliseconds 2500)
  | .receiver =>
      .receive
        [0x81, 0, 0, 0, 0, 0, 0, 0, 0, 0, 0, 0, 0, 0, 0, 1, 0, 0, 0, 0, 0, 0, 0,
          0]
  | .closer => .shutdown

def closingClient : Client := ofSettings (.ofBucket "default") .default

/-- The read is issued. -/
def issued : Replay interface Party Traffic Ending :=
  (promptAnswer (.ok ())).replay (List.replicate 6 .issuer)
    (fun party => (closing party).program closingClient) .empty

/-- The shutdown comes between the two steps of the receiver. -/
def closed : Replay interface Party Traffic Ending :=
  (promptAnswer (.ok ())).replay [.receiver, .closer, .receiver]
    issued.programs issued.state

/-- The response arrives, and the shutdown waits for nothing. -/
theorem requests_are_accounted_for_closing :
    closed.state.requests.length = 1 ∧
      ∀ request ∈ closed.state.requests, request.isCompleted := by
  have issuing :
      ClientRun (fun party => (closing party).program closingClient) .empty
        issued.history issued.programs issued.state :=
    (Run.replay (promptAnswer (.ok ())) (List.replicate 6 Party.issuer) _ _).mono
      (semantics_of_promptAnswer (.ok ()))
  have settling :
      ClientRun issued.programs issued.state closed.history closed.programs
        closed.state :=
    (Run.replay (promptAnswer (.ok ()))
      [Party.receiver, .closer, .receiver] _ _).mono
        (semantics_of_promptAnswer (.ok ()))
  have accounted :=
    requests_are_accounted_for issuing settling (by decide)
  refine
    ⟨rfl, accounted.2.2.2.2 .closer rfl (by decide) ⟨_, rfl⟩ ?_ ?_⟩
  · intro party issues
    cases party with
    | issuer => exact .inl ⟨_, rfl⟩
    | receiver | closer => cases issues
  · intro holder entry _
    cases holder with
    | issuer | receiver | closer => exact ⟨_, rfl⟩

end ClientRun

end ClusterClient.Client
