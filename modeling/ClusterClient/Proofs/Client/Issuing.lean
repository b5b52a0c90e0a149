import ClusterClient.Proofs.Client.Deliveries
import ClusterClient.Proofs.Client.Correlations

namespace ClusterClient.Client

/-!
# What an issue leaves behind

An issue registers its request before it hands the frame to the connection, so
that a response never comes too early, and takes the entry out again when the
connection refuses the frame. If nobody waited under the number, the table is
then as it was, and the request has failed with the error of the connection. The
number is used up all the same: the next frame carries another one.
-/

/-- What a connection says to a frame that it is handed. -/
abbrev Connection := Bytes → Except Error Unit

/--
A client that nobody else works on, with the frames that were handed to its
connection, the latest last.
-/
structure Station where
  traffic : Traffic
  offered : List Bytes
  deriving Repr, DecidableEq

/-- Issuing, step by step. -/
theorem issue_steps
    (client : Client)
    (operation : Wire.Operation)
    (timeout : Duration) :
    (client.issue operation timeout).run =
      let routed := operation.route client.settings.partitionCount
      .step (.table (.newContext routed.name (some routed.key.id)))
        fun context =>
      .step .readClock fun now =>
      match Request.create timeout now context with
      | .error fault => .done (.error (.invalidArgument fault))
      | .ok request =>
          .step (.table (.openRequest request)) fun (index : Nat) =>
          .step (.table .takeCorrelation) fun (correlation : UInt32) =>
          .step (.table (.register correlation ⟨routed, index⟩)) fun _ =>
          .step (.send (routed.encode correlation client.channel))
            fun (sent : Except Error Unit) =>
          match sent with
          | .ok () => .done (.ok ⟨index, request.deadline?⟩)
          | .error error =>
              .step (.table (.takeEntry correlation)) fun _ =>
              .step (.table (.complete index (.failed error))) fun _ =>
              .done (.error error) :=
  (Program.bind_done _).symm.trans
    (issue_bind client operation timeout fun result => .done result)

namespace Station

/-- The clock shows an instant, and the connection answers for itself. -/
def machine
    (now : Instant)
    (connection : Connection) : Machine interface Station :=
  fun call station =>
    match call with
    | .table call =>
        let (answer, traffic) := Traffic.machine call station.traffic
        some (answer, { station with traffic := traffic })
    | .readClock => some (now, station)
    | .send frame =>
        some
          (connection frame,
            { station with offered := station.offered ++ [frame] })
    | .awaitUntil .. | .awaitForever _ | .sleep _ | .allowance | .never => none

variable {client : Client} {operation : Wire.Operation} {timeout : Duration}
variable {now : Instant} {connection : Connection} {before : Station}
variable {request : Request Wire.Response}

/-- The context that an issue gives to its request, and the ids that remain. -/
def named
    (client : Client)
    (operation : Wire.Operation)
    (before : Station) : Request.Context × Request.Identities :=
  let routed := operation.route client.settings.partitionCount
  before.traffic.identities.newContext routed.name (some routed.key.id)

/-- The entry that an issue registers. -/
def entry
    (client : Client)
    (operation : Wire.Operation)
    (before : Station) : Pending :=
  ⟨operation.route client.settings.partitionCount,
    before.traffic.requests.length⟩

/-- The frame that an issue hands over, if it does. -/
def nextFrame
    (client : Client)
    (operation : Wire.Operation)
    (before : Station) : Bytes :=
  (operation.route client.settings.partitionCount).encode
    before.traffic.nextCorrelation client.channel

/-- The traffic of a station once an issue has registered its request. -/
def registered
    (client : Client)
    (operation : Wire.Operation)
    (request : Request Wire.Response)
    (before : Station) : Traffic where
  nextCorrelation := before.traffic.nextCorrelation + 1
  table :=
    KeyedList.insert before.traffic.nextCorrelation
      (before.entry client operation) before.traffic.table
  requests := before.traffic.requests ++ [request]
  identities := (before.named client operation).2

/-- The first step of an issue gives its request a name. -/
theorem machine_newContext (now : Instant) (connection : Connection) :
    let routed := operation.route client.settings.partitionCount
    machine now connection
        (.table (.newContext routed.name (some routed.key.id))) before =
      some
        ((before.named client operation).1,
          ⟨{ before.traffic with
              identities := (before.named client operation).2 },
            before.offered⟩) :=
  rfl

theorem run_issue_of_invalid
    {fault : ArgumentFault}
    (invalid :
      (Request.create timeout now (before.named client operation).1 :
          Except ArgumentFault (Request Wire.Response)) =
        .error fault) :
    (machine now connection).run (client.issue operation timeout).run before =
      some
        (.error (.invalidArgument fault),
          ⟨{ before.traffic with
              identities := (before.named client operation).2 },
            before.offered⟩) := by
  rw [issue_steps]
  refine (Machine.run_step (machine_newContext now connection) _).trans ?_
  refine (Machine.run_step rfl _).trans ?_
  rw [invalid]
  rfl

/-- What an issue does once it has a request. -/
theorem run_issue_of_created
    (created :
      Request.create timeout now (before.named client operation).1 =
        .ok request) :
    let number := before.traffic.nextCorrelation
    let frame := before.nextFrame client operation
    let index := before.traffic.requests.length
    let registered := before.registered client operation request
    let offered := before.offered ++ [frame]
    (machine now connection).run (client.issue operation timeout).run before =
      some
        (match connection frame with
        | .ok () => (.ok ⟨index, request.deadline?⟩, ⟨registered, offered⟩)
        | .error error =>
            let table := KeyedList.erase number registered.table
            let retracted : Traffic := { registered with table := table }
            (.error error,
              ⟨(retracted.complete index (.failed error)).2, offered⟩)) := by
  intro number frame index registered offered
  rw [issue_steps]
  refine (Machine.run_step (machine_newContext now connection) _).trans ?_
  refine (Machine.run_step rfl _).trans ?_
  rw [created]
  refine (Machine.run_step rfl _).trans ?_
  refine (Machine.run_step rfl _).trans ?_
  refine (Machine.run_step rfl _).trans ?_
  have sends :
      machine now connection (.send frame) ⟨registered, before.offered⟩ =
        some (connection frame, ⟨registered, offered⟩) :=
    rfl
  refine (Machine.run_step sends _).trans ?_
  cases connection frame with
  | ok _ => rfl
  | error error => rfl

/-- An issue without time does nothing but name its request. -/
theorem run_issue_of_zero (zero : timeout.isZero) :
    (machine now connection).run (client.issue operation timeout).run before =
      some
        (.error (.invalidArgument .zeroTimeout),
          ⟨{ before.traffic with
              identities := (before.named client operation).2 },
            before.offered⟩) := by
  apply run_issue_of_invalid
  rw [Request.create, if_pos zero]

/-- A frame that is taken leaves its request registered. -/
theorem run_issue_of_sent
    (created :
      Request.create timeout now (before.named client operation).1 =
        .ok request)
    (sent : connection (before.nextFrame client operation) = .ok ()) :
    (machine now connection).run (client.issue operation timeout).run before =
      some
        (.ok ⟨before.traffic.requests.length, request.deadline?⟩,
          ⟨before.registered client operation request,
            before.offered ++ [before.nextFrame client operation]⟩) := by
  rw [run_issue_of_created created, sent]

/-- A frame that is refused leaves its request failed and the table as it was. -/
theorem run_issue_of_refused
    (free :
      KeyedList.find? before.traffic.nextCorrelation before.traffic.table =
        none)
    (created :
      Request.create timeout now (before.named client operation).1 =
        .ok request)
    {error : Error}
    (refused : connection (before.nextFrame client operation) = .error error) :
    (machine now connection).run (client.issue operation timeout).run before =
      some
        (.error error,
          ⟨{ nextCorrelation := before.traffic.nextCorrelation + 1
             table := before.traffic.table
             requests :=
              before.traffic.requests ++ [request.endedWith (.failed error)]
             identities := (before.named client operation).2 },
            before.offered ++ [before.nextFrame client operation]⟩) := by
  obtain ⟨settled, incomplete⟩ := Request.create_eq_ok created
  have failed :
      (request.finish (.failed error)).2 =
        request.endedWith (.failed error) := by
    rw [settled.finish_eq, if_neg incomplete]
  have retracted :
      KeyedList.erase before.traffic.nextCorrelation
          (before.registered client operation request).table =
        before.traffic.table :=
    KeyedList.erase_insert (KeyedList.find?_eq_none_iff.mp free) _
  rw [run_issue_of_created created, refused]
  dsimp only
  rw [Traffic.complete_newest rfl, failed, retracted]
  rfl

/-- An issue hands over the frame under the next number, or nothing. -/
theorem offered_of_run_issue
    {result : Except Error Handle}
    {after : Station}
    (ran :
      (machine now connection).run (client.issue operation timeout).run
          before =
        some (result, after)) :
    after.offered = before.offered ∨
      after.offered =
        before.offered ++ [before.nextFrame client operation] := by
  cases created :
    (Request.create timeout now (before.named client operation).1 :
      Except ArgumentFault (Request Wire.Response))
  case error fault =>
    rw [run_issue_of_invalid created] at ran
    cases ran
    exact .inl rfl
  case ok request =>
    rw [run_issue_of_created created] at ran
    split at ran
    all_goals
      cases ran
      exact .inr rfl

/-- After a number was taken, no frame of an issue carries it next. -/
theorem correlationOf_ne_of_run_issue
    {earlier resumed final : Station}
    {other : Client}
    {next : Wire.Operation}
    {ended : Except Error Handle}
    {frame : Bytes}
    (isNext :
      resumed.traffic.nextCorrelation = earlier.traffic.nextCorrelation + 1)
    (ran :
      (machine now connection).run (other.issue next timeout).run resumed =
        some (ended, final))
    (offers : final.offered = resumed.offered ++ [frame]) :
    correlationOf frame ≠ correlationOf (earlier.nextFrame client operation) := by
  rcases offered_of_run_issue ran with same | handed
  · rw [same, List.self_eq_append_right] at offers
    cases offers
  · rw [handed, List.append_cancel_left_eq, List.singleton_inj] at offers
    simp only [← offers, correlationOf, nextFrame, Wire.correlation_encode,
      isNext]
    intro same
    exact absurd (UInt32.add_eq_left.mp same) (by decide)

end Station

/-! The statements. -/

/--
What an issue makes of a client whose next number is free, by what it returns.
An issue that fails leaves the table and every earlier request as they were. One
without time has done nothing else. One whose frame was refused returns the
error of the connection, and its request has failed with this error. An issue
that succeeds has added the entry of the operation whose frame it handed over,
and nothing else. Whether its frame was refused or taken, the next issue hands
over a frame with another number.
-/
structure IsIssue
    (client : Client)
    (operation : Wire.Operation)
    (timeout : Duration)
    (connection : Connection)
    (before : Station)
    (result : Except Error Handle)
    (after : Station) : Prop where
  failed : ∀ error,
    result = .error error →
    after.traffic.table = before.traffic.table ∧
      before.traffic.requests <+: after.traffic.requests
  zero :
    timeout.isZero →
    result = .error (.invalidArgument .zeroTimeout) ∧
      after.offered = before.offered ∧
      after.traffic.nextCorrelation = before.traffic.nextCorrelation ∧
      after.traffic.requests = before.traffic.requests
  refused : ∀ error,
    ¬ timeout.isZero →
    connection (before.nextFrame client operation) = .error error →
    result = .error error ∧
      after.offered =
        before.offered ++ [before.nextFrame client operation] ∧
      ∃ request,
        after.traffic.requests = before.traffic.requests ++ [request] ∧
          request.status = .failed ∧
          request.slot.outcome = some (.failed error)
  sent :
    ¬ timeout.isZero →
    connection (before.nextFrame client operation) = .ok () →
    ∃ handle, result = .ok handle
  registered : ∀ handle,
    result = .ok handle →
    ∃ entry request,
      entry.operation = operation.route client.settings.partitionCount ∧
        after.offered =
          before.offered ++
            [entry.operation.encode before.traffic.nextCorrelation
              client.channel] ∧
        after.traffic.table.Perm
          ((before.traffic.nextCorrelation, entry) :: before.traffic.table) ∧
        (∀ number,
          KeyedList.find? number after.traffic.table =
            if number = before.traffic.nextCorrelation then
              some entry
            else
              KeyedList.find? number before.traffic.table) ∧
        entry.request = before.traffic.requests.length ∧
        handle.request = before.traffic.requests.length ∧
        after.traffic.requests = before.traffic.requests ++ [request] ∧
        request.status = .incomplete
  renumbered :
    ¬ timeout.isZero →
    ∀ (resumed : Station) (other : Client) (next : Wire.Operation)
        (patience : Duration) (later : Instant) (line : Connection)
        (ended : Except Error Handle) (final : Station) (frame : Bytes),
      resumed.traffic.nextCorrelation = after.traffic.nextCorrelation →
      (Station.machine later line).run (other.issue next patience).run resumed =
        some (ended, final) →
      final.offered = resumed.offered ++ [frame] →
      correlationOf frame ≠ correlationOf (before.nextFrame client operation)

section Exits

variable {client : Client} {operation : Wire.Operation} {timeout : Duration}
variable {connection : Connection} {before : Station}
variable {request : Request Wire.Response}

theorem isIssue_of_zero
    (zero : timeout.isZero)
    {identities : Request.Identities} :
    IsIssue client operation timeout connection before
      (.error (.invalidArgument .zeroTimeout))
      ⟨{ before.traffic with identities := identities }, before.offered⟩ where
  failed _ _ := ⟨rfl, List.prefix_rfl⟩
  zero _ := ⟨rfl, rfl, rfl, rfl⟩
  refused _ positive := absurd zero positive
  sent positive := absurd zero positive
  registered := nofun
  renumbered positive := absurd zero positive

theorem isIssue_of_sent
    (free :
      KeyedList.find? before.traffic.nextCorrelation before.traffic.table =
        none)
    (positive : ¬ timeout.isZero)
    (sent : connection (before.nextFrame client operation) = .ok ())
    (incomplete : request.status = .incomplete) :
    IsIssue client operation timeout connection before
      (.ok ⟨before.traffic.requests.length, request.deadline?⟩)
      ⟨before.registered client operation request,
        before.offered ++ [before.nextFrame client operation]⟩ where
  failed := nofun
  zero zero := absurd zero positive
  refused _ _ refused := by
    rw [sent] at refused
    cases refused
  sent _ _ := ⟨_, rfl⟩
  registered := by
    rintro _ ⟨⟩
    refine
      ⟨before.entry client operation, request, rfl, rfl, ?_, ?_, rfl, rfl, rfl,
        incomplete⟩
    · exact KeyedList.insert_perm (KeyedList.find?_eq_none_iff.mp free) _
    · intro number
      exact KeyedList.find?_insert ..
  renumbered _ := by
    intro resumed other next patience later line ended final frame
    exact Station.correlationOf_ne_of_run_issue

theorem isIssue_of_refused
    (positive : ¬ timeout.isZero)
    {error : Error}
    (refused : connection (before.nextFrame client operation) = .error error)
    {identities : Request.Identities} :
    IsIssue client operation timeout connection before (.error error)
      ⟨{ nextCorrelation := before.traffic.nextCorrelation + 1
         table := before.traffic.table
         requests :=
          before.traffic.requests ++ [request.endedWith (.failed error)]
         identities := identities },
        before.offered ++ [before.nextFrame client operation]⟩ where
  failed _ _ := ⟨rfl, List.prefix_append ..⟩
  zero zero := absurd zero positive
  refused other _ isRefused := by
    rw [refused] at isRefused
    cases isRefused
    exact ⟨rfl, rfl, _, rfl, rfl, rfl⟩
  sent _ sent := by
    rw [refused] at sent
    cases sent
  registered := nofun
  renumbered _ := by
    intro resumed other next patience later line ended final frame
    exact Station.correlationOf_ne_of_run_issue

end Exits

/-- An issue that fails leaves no trace in the table. -/
theorem issue_leaves_no_trace
    (client : Client)
    (operation : Wire.Operation)
    (timeout : Duration)
    (now : Instant)
    (connection : Connection)
    {before : Station}
    (free :
      KeyedList.find? before.traffic.nextCorrelation before.traffic.table =
        none) :
    ∃ result after,
      (Station.machine now connection).run (client.issue operation timeout).run
          before =
        some (result, after) ∧
      IsIssue client operation timeout connection before result after := by
  by_cases zero : timeout.isZero
  · exact ⟨_, _, Station.run_issue_of_zero zero, isIssue_of_zero zero⟩
  · obtain ⟨request, created⟩ :
        ∃ request : Request Wire.Response,
          Request.create timeout now (before.named client operation).1 =
            .ok request :=
      Request.exists_create (eq_false_of_ne_true zero) now _
    cases answer : connection (before.nextFrame client operation) with
    | ok _ =>
        have incomplete : request.status = .incomplete := by
          simpa [Request.isCompleted] using (Request.create_eq_ok created).2
        exact
          ⟨_, _, Station.run_issue_of_sent created answer,
            isIssue_of_sent free zero answer incomplete⟩
    | error error =>
        exact
          ⟨_, _, Station.run_issue_of_refused free created answer,
            isIssue_of_refused zero answer⟩

/-- A read whose frame is refused while two other reads wait. -/
theorem issue_leaves_no_trace_refused :
    let client : Client := ofSettings (.ofBucket "default") .default
    let operation : Wire.Operation :=
      .get ⟨"third", .default, 0, by decide, by decide⟩
    let timeout : Duration := .ofMilliseconds 2500
    let refusal : Error := .transport .outboundClosed
    let connection : Connection := fun _ => .error refusal
    let before : Station := ⟨twoReads, []⟩
    ∃ result after,
      (Station.machine ⟨0⟩ connection).run (client.issue operation timeout).run
          before =
        some (result, after) ∧
      IsIssue client operation timeout connection before result after ∧
      result = .error refusal ∧
      after.traffic.table = twoReads.table := by
  intro client operation timeout refusal connection before
  obtain ⟨result, after, ran, isIssue⟩ :=
    issue_leaves_no_trace client operation timeout ⟨0⟩ connection
      (rfl : KeyedList.find? before.traffic.nextCorrelation _ = none)
  have refused := (isIssue.refused refusal (by decide) rfl).1
  exact
    ⟨result, after, ran, isIssue, refused, (isIssue.failed refusal refused).1⟩

end ClusterClient.Client
