import ClusterClient.Proofs.Client.Deliveries
import ClusterClient.Proofs.Client.Tending

namespace ClusterClient.Client

/-!
# What expiry takes out

Expiry takes the entries out whose requests have a deadline at or before an
instant, and then cancels their requests. Two of the entries may have the same
request, and a request may have ended before, so what is cancelled is stated for
each request: whoever is among them is cancelled once, unless it has ended.
Deadlines never change, so what was kept is not due at an earlier instant
either; and a number that has left the table only comes back by being
registered, so a late response finds nobody.
-/

namespace Traffic

variable {traffic : Traffic} {now : Instant} {number : UInt32}

/--
A table has one entry to a number, and nobody is in the middle of completing a
request.
-/
structure IsConsistent (traffic : Traffic) : Prop where
  ordered : KeyedList.IsOrdered traffic.table
  settled : ∀ request ∈ traffic.requests, request.IsSettled

/-- The request of an entry has a deadline, and it is not after an instant. -/
def IsDue (traffic : Traffic) (now : Instant) (entry : Pending) : Prop :=
  ∃ request deadline,
    traffic.requests[entry.request]? = some request ∧
      request.deadline? = some deadline ∧
      deadline.nanoseconds ≤ now.nanoseconds

theorem isExpired_iff {entry : Pending} :
    traffic.isExpired now entry ↔ traffic.IsDue now entry := by
  unfold isExpired IsDue Request.isExpired
  cases traffic.requests[entry.request]? with
  | none => simp
  | some request => cases deadline : request.deadline? <;> simp [deadline]

/-- What is due at an instant is due later. -/
theorem IsDue.mono
    {later : Instant}
    {entry : Pending}
    (due : traffic.IsDue now entry)
    (order : now.nanoseconds ≤ later.nanoseconds) :
    traffic.IsDue later entry := by
  obtain ⟨request, deadline, found, isDeadline, passed⟩ := due
  exact ⟨request, deadline, found, isDeadline, Nat.le_trans passed order⟩

/-! Cancelling the requests of entries that were taken out. -/

/-- Cancel the request of each entry, one after the other. -/
def cancelEach
    (reason : Cancellation) :
    List Pending → Traffic → Traffic
  | [], traffic => traffic
  | entry :: rest, traffic =>
      cancelEach reason rest
        (traffic.complete entry.request (.cancelled reason)).2

theorem run_cancelAll
    (reason : Cancellation)
    (entries : List Pending)
    (traffic : Traffic) :
    TotalMachine.run machine (cancelAll reason entries) traffic =
      ((), traffic.cancelEach reason entries) := by
  induction entries generalizing traffic with
  | nil => rfl
  | cons entry rest inductionHypothesis => exact inductionHypothesis _

/-- Cancelling changes nothing but the requests. -/
theorem cancelEach_eq
    (reason : Cancellation)
    (entries : List Pending)
    (traffic : Traffic) :
    traffic.cancelEach reason entries =
      { traffic with
        requests := (traffic.cancelEach reason entries).requests } := by
  induction entries generalizing traffic with
  | nil => rfl
  | cons entry rest inductionHypothesis =>
      rw [cancelEach, inductionHypothesis, complete_eq]

/-- Completing a request leaves everything settled. -/
theorem settled_complete
    {index : Nat}
    {outcome : Request.Outcome Wire.Response}
    (settled : ∀ request ∈ traffic.requests, request.IsSettled) :
    ∀ request ∈ (traffic.complete index outcome).2.requests,
      request.IsSettled := by
  intro request member
  obtain ⟨other, found⟩ := List.getElem?_of_mem member
  rw [getElem?_complete] at found
  split at found
  · obtain ⟨earlier, wasFound, rfl⟩ := Option.map_eq_some_iff.mp found
    exact ((settled earlier (List.mem_of_getElem? wasFound)).finish outcome).1
  · exact settled request (List.mem_of_getElem? found)

/-- Each request that is meant is cancelled, once; the others stay. -/
theorem getElem?_cancelEach
    (reason : Cancellation)
    (entries : List Pending)
    (settled : ∀ request ∈ traffic.requests, request.IsSettled)
    (index : Nat) :
    (traffic.cancelEach reason entries).requests[index]? =
      if index ∈ entries.map (·.request) then
        traffic.requests[index]?.map fun request =>
          (request.finish (.cancelled reason)).2
      else
        traffic.requests[index]? := by
  induction entries generalizing traffic with
  | nil => rfl
  | cons entry rest inductionHypothesis =>
      rw [cancelEach, inductionHypothesis (settled_complete settled),
        getElem?_complete]
      simp only [List.map_cons, List.mem_cons]
      by_cases isHead : index = entry.request
      · simp only [isHead, ↓reduceIte, true_or]
        -- A request that comes again has been cancelled already.
        split
        · cases found : traffic.requests[entry.request]? with
          | none => rfl
          | some request =>
              have isSettled := settled request (List.mem_of_getElem? found)
              simp only [Option.map_some, isSettled.finish_finish]
        · rfl
      · simp only [isHead, ↓reduceIte, false_or]

/-- Cancelling moves no deadline. -/
theorem isDue_cancelEach
    (reason : Cancellation)
    (entries : List Pending)
    (settled : ∀ request ∈ traffic.requests, request.IsSettled)
    {entry : Pending} :
    (traffic.cancelEach reason entries).IsDue now entry ↔
      traffic.IsDue now entry := by
  unfold IsDue
  rw [getElem?_cancelEach reason entries settled]
  split
  · cases found : traffic.requests[entry.request]? with
    | none => simp
    | some request =>
        have isSettled := settled request (List.mem_of_getElem? found)
        simp [isSettled.deadline?_finish]
  · rfl

/-! Expiry. -/

/-- What is left after expiry: nothing that is due is in the table. -/
def expiredAt (now : Instant) (traffic : Traffic) : Traffic :=
  (traffic.keepEntries fun entry => !traffic.isExpired now entry).cancelEach
    .timeout (traffic.entriesWhere (traffic.isExpired now))

theorem run_expire (now : Instant) (traffic : Traffic) :
    TotalMachine.run machine (expire now) traffic =
      ((traffic.entriesWhere (traffic.isExpired now)).length,
        traffic.expiredAt now) := by
  change
    TotalMachine.run machine
        (Program.bind (cancelAll .timeout _) fun _ => .done _) _ = _
  rw [TotalMachine.run_bind, run_cancelAll]
  rfl

theorem table_expiredAt :
    (traffic.expiredAt now).table =
      traffic.table.filter fun entry => !traffic.isExpired now entry.2 := by
  rw [expiredAt, cancelEach_eq]
  rfl

/-- Exactly the entries that are due have gone. -/
theorem mem_table_expiredAt {entry : UInt32 × Pending} :
    entry ∈ (traffic.expiredAt now).table ↔
      entry ∈ traffic.table ∧ ¬ traffic.IsDue now entry.2 := by
  rw [table_expiredAt, List.mem_filter, ← isExpired_iff, Bool.not_eq_true',
    Bool.not_eq_true]

/-- Every entry is either counted or kept. -/
theorem length_expiredAt :
    (traffic.entriesWhere (traffic.isExpired now)).length +
        (traffic.expiredAt now).table.length =
      traffic.table.length := by
  have parts := (takeExpired_perm traffic now).length_eq
  simp only [List.length_append, List.length_map] at parts
  rw [expiredAt, cancelEach_eq, Nat.add_comm]
  exact parts

/-- Where nothing is due, expiry changes nothing. -/
theorem run_expire_of_none_due
    (noneDue : ∀ entry ∈ traffic.table, ¬ traffic.IsDue now entry.2) :
    TotalMachine.run machine (expire now) traffic = (0, traffic) := by
  have taken : traffic.entriesWhere (traffic.isExpired now) = [] := by
    rw [entriesWhere, List.filter_eq_nil_iff]
    intro entry member
    obtain ⟨keyed, inTable, rfl⟩ := List.mem_map.mp member
    rw [isExpired_iff]
    exact noneDue keyed inTable
  have kept :
      traffic.keepEntries (fun entry => !traffic.isExpired now entry) =
        traffic := by
    rw [keepEntries, List.filter_eq_self.mpr]
    intro entry inTable
    rw [Bool.not_eq_true', ← Bool.not_eq_true, isExpired_iff]
    exact noneDue entry inTable
  rw [run_expire, expiredAt, taken, kept]
  rfl

/-- The requests that are cancelled are those of the entries that are due. -/
theorem mem_due_iff {index : Nat} :
    index ∈ (traffic.entriesWhere (traffic.isExpired now)).map (·.request) ↔
      ∃ entry ∈ traffic.table,
        traffic.IsDue now entry.2 ∧ entry.2.request = index := by
  simp only [entriesWhere, List.mem_map, List.mem_filter, isExpired_iff]
  constructor
  · rintro ⟨_, ⟨⟨entry, inTable, rfl⟩, due⟩, isIndex⟩
    exact ⟨entry, inTable, due, isIndex⟩
  · rintro ⟨entry, inTable, due, isIndex⟩
    exact ⟨entry.2, ⟨⟨entry, inTable, rfl⟩, due⟩, isIndex⟩

theorem getElem?_expiredAt
    (settled : ∀ request ∈ traffic.requests, request.IsSettled)
    (index : Nat) :
    (traffic.expiredAt now).requests[index]? =
      if
        index ∈
          (traffic.entriesWhere (traffic.isExpired now)).map (·.request)
      then
        traffic.requests[index]?.map fun request =>
          (request.finish (.cancelled .timeout)).2
      else
        traffic.requests[index]? := by
  apply getElem?_cancelEach
  exact settled

theorem getElem?_expiredAt_of_due
    (settled : ∀ request ∈ traffic.requests, request.IsSettled)
    {entry : UInt32 × Pending}
    (member : entry ∈ traffic.table)
    (due : traffic.IsDue now entry.2)
    {request : Request Wire.Response}
    (found : traffic.requests[entry.2.request]? = some request) :
    (traffic.expiredAt now).requests[entry.2.request]? =
      some
        (if request.isCompleted then
          request
        else
          request.endedWith (.cancelled .timeout)) := by
  have isMeant := mem_due_iff.mpr ⟨entry, member, due, rfl⟩
  have isSettled := settled request (List.mem_of_getElem? found)
  rw [getElem?_expiredAt settled, if_pos isMeant, found, Option.map_some,
    isSettled.finish_eq]

theorem getElem?_expiredAt_of_not_due
    (settled : ∀ request ∈ traffic.requests, request.IsSettled)
    {index : Nat}
    (notDue : ∀ entry ∈ traffic.table,
      traffic.IsDue now entry.2 → entry.2.request ≠ index) :
    (traffic.expiredAt now).requests[index]? = traffic.requests[index]? := by
  have notMeant :
      index ∉
        (traffic.entriesWhere (traffic.isExpired now)).map (·.request) := by
    rw [mem_due_iff]
    rintro ⟨entry, member, due, isIndex⟩
    exact notDue entry member due isIndex
  rw [getElem?_expiredAt settled, if_neg notMeant]

theorem isDue_expiredAt
    (settled : ∀ request ∈ traffic.requests, request.IsSettled)
    {instant : Instant}
    {entry : Pending} :
    (traffic.expiredAt now).IsDue instant entry ↔
      traffic.IsDue instant entry := by
  apply isDue_cancelEach
  exact settled

/-! Late responses. -/

/-- The traffic after some calls. -/
def afterCalls (calls : List TableCall) (traffic : Traffic) : Traffic :=
  calls.foldl (fun traffic call => (machine call traffic).2) traffic

/-- A number that is not in the table only comes in by being registered. -/
theorem absent_step
    {call : TableCall}
    (absent : ∀ entry ∈ traffic.table, entry.1 ≠ number)
    (notRegistered : ∀ entry, call ≠ .register number entry) :
    ∀ entry ∈ (machine call traffic).2.table, entry.1 ≠ number := by
  intro entry member isNumber
  have answered :
      semantics (.table call) traffic (machine call traffic).1
        (machine call traffic).2 :=
    rfl
  rcases mem_table_step answered member with wasThere | registers
  · exact absent entry wasThere isNumber
  · rw [isNumber] at registers
    exact notRegistered entry.2 (Call.table.inj registers)

/-- A number stays away until it is registered. -/
theorem absent_afterCalls
    {calls : List TableCall}
    (absent : ∀ entry ∈ traffic.table, entry.1 ≠ number)
    (notRegistered : ∀ call ∈ calls, ∀ entry, call ≠ .register number entry) :
    ∀ entry ∈ (traffic.afterCalls calls).table, entry.1 ≠ number := by
  induction calls generalizing traffic with
  | nil => exact absent
  | cons call rest inductionHypothesis =>
      obtain ⟨notHead, notInRest⟩ := List.forall_mem_cons.mp notRegistered
      exact inductionHypothesis (absent_step absent notHead) notInRest

/-- An entry that was due has left its number to nobody. -/
theorem absent_of_isDue
    (ordered : KeyedList.IsOrdered traffic.table)
    {entry : UInt32 × Pending}
    (member : entry ∈ traffic.table)
    (due : traffic.IsDue now entry.2) :
    ∀ other ∈ (traffic.expiredAt now).table, other.1 ≠ entry.1 := by
  intro other stays sameNumber
  obtain ⟨inTable, notDue⟩ := mem_table_expiredAt.mp stays
  have same : other = entry := by
    apply Prod.ext sameNumber
    have found := (KeyedList.find?_eq_some_iff_mem ordered).mpr inTable
    rw [sameNumber, (KeyedList.find?_eq_some_iff_mem ordered).mpr member]
      at found
    exact (Option.some.inj found).symm
  rw [same] at notDue
  exact notDue due

end Traffic

/-! The statements. -/

/--
What expiry at an instant makes of a traffic. Exactly the entries that are due
leave the table, and they are counted. Their requests are cancelled, unless they
have ended before, and nothing else changes. What has no deadline stays. Expiry
at the same or an earlier instant finds nothing more to take, and a late
response to a request whose entry has gone changes nothing, whatever happens in
between, as long as nobody registers its number again.
-/
structure IsExpiry
    (traffic : Traffic)
    (now : Instant)
    (count : Nat)
    (after : Traffic) : Prop where
  fewer : after.table.Sublist traffic.table
  kept : ∀ entry,
    entry ∈ after.table ↔
      entry ∈ traffic.table ∧ ¬ traffic.IsDue now entry.2
  counted : count + after.table.length = traffic.table.length
  cancelled : ∀ entry ∈ traffic.table,
    traffic.IsDue now entry.2 →
    ∀ request,
      traffic.requests[entry.2.request]? = some request →
      after.requests[entry.2.request]? =
        some
          (if request.isCompleted then
            request
          else
            request.endedWith (.cancelled .timeout))
  sameRequests : ∀ index,
    (∀ entry ∈ traffic.table,
      traffic.IsDue now entry.2 → entry.2.request ≠ index) →
    after.requests[index]? = traffic.requests[index]?
  sameNext : after.nextCorrelation = traffic.nextCorrelation
  sameIdentities : after.identities = traffic.identities
  lasting : ∀ entry ∈ traffic.table,
    ∀ request,
      traffic.requests[entry.2.request]? = some request →
      request.deadline? = none →
      entry ∈ after.table
  again : ∀ earlier : Instant,
    earlier.nanoseconds ≤ now.nanoseconds →
    TotalMachine.run Traffic.machine (expire earlier) after = (0, after)
  late : ∀ entry ∈ traffic.table,
    traffic.IsDue now entry.2 →
    ∀ calls : List TableCall,
      (∀ call ∈ calls, ∀ other, call ≠ .register entry.1 other) →
      ∀ (client : Client) (frame : Bytes) (header : Wire.Header),
        Wire.Header.parse frame = .ok header →
        header.correlation = entry.1 →
        let later := after.afterCalls calls
        TotalMachine.run Traffic.machine (client.receive frame) later =
          (.ok (), later)

/-- Expiry is exact. -/
theorem expire_is_exact
    {traffic : Traffic}
    (consistent : traffic.IsConsistent)
    (now : Instant) :
    let (count, after) := TotalMachine.run Traffic.machine (expire now) traffic
    IsExpiry traffic now count after := by
  rw [Traffic.run_expire]
  have kept := @Traffic.mem_table_expiredAt traffic now
  constructor
  case fewer =>
    rw [Traffic.table_expiredAt]
    exact List.filter_sublist
  case kept => exact fun _ => kept
  case counted => exact Traffic.length_expiredAt
  case cancelled =>
    intro entry member due request found
    exact
      Traffic.getElem?_expiredAt_of_due consistent.settled member due found
  case sameRequests =>
    intro index notDue
    exact Traffic.getElem?_expiredAt_of_not_due consistent.settled notDue
  case sameNext => rw [Traffic.expiredAt, Traffic.cancelEach_eq]; rfl
  case sameIdentities => rw [Traffic.expiredAt, Traffic.cancelEach_eq]; rfl
  case lasting =>
    intro entry member request found noDeadline
    refine kept.mpr ⟨member, ?_⟩
    rintro ⟨other, deadline, isFound, isDeadline, -⟩
    rw [found] at isFound
    cases isFound
    rw [noDeadline] at isDeadline
    cases isDeadline
  case again =>
    intro earlier order
    apply Traffic.run_expire_of_none_due
    intro entry stays due
    rw [Traffic.isDue_expiredAt consistent.settled] at due
    exact (kept.mp stays).2 (due.mono order)
  case late =>
    intro entry member due calls notRegistered client frame header parsed
      isNumber later
    have absent :=
      Traffic.absent_afterCalls
        (Traffic.absent_of_isDue consistent.ordered member due) notRegistered
    rw [run_receive_of_header parsed, isNumber]
    exact Traffic.answer_of_none (KeyedList.find?_eq_none_iff.mpr absent)

/-- Whatever the threads of a client do, its traffic is consistent. -/
theorem ClientRun.isConsistent
    {Thread : Type}
    [DecidableEq Thread]
    {client : Client}
    {works : Thread → Work}
    {history : ClientHistory Thread}
    {current : Thread → Program interface Ending}
    {final : Traffic}
    (run :
      ClientRun (fun thread => (works thread).program client) .empty history
        current final) :
    final.IsConsistent := by
  obtain ⟨stages, -, tended⟩ := run.tended
  refine ⟨tended.ordered, fun request member => ?_⟩
  obtain ⟨index, found⟩ := List.getElem?_of_mem member
  exact run.settled index request found

/--
Four requests: one whose deadline is reached to the nanosecond, one that has
failed, one without a deadline, and one that still has time.
-/
def fourRequests : Traffic :=
  let context (id : UInt64) : Request.Context := ⟨id, "get", none⟩
  let operation : Wire.Operation := .get ⟨"id", .default, 0, by decide, by decide⟩
  let timeout : Duration := .ofMilliseconds 2500
  { nextCorrelation := 5
    table :=
      [(1, ⟨operation, 0⟩), (2, ⟨operation, 1⟩), (3, ⟨operation, 2⟩),
        (4, ⟨operation, 3⟩)]
    requests :=
      [⟨timeout, ⟨0⟩, context 1, .incomplete, none, .empty⟩,
        ⟨timeout, ⟨0⟩, context 2, .failed, none,
          ⟨some (.failed (.transport .outboundClosed)), false⟩⟩,
        ⟨.longest, ⟨0⟩, context 3, .incomplete, none, .empty⟩,
        ⟨timeout, ⟨1⟩, context 4, .incomplete, none, .empty⟩]
    identities := ⟨5⟩ }

theorem expire_is_exact_four_requests :
    let now : Instant := ⟨2500000000⟩
    let (count, after) :=
      TotalMachine.run Traffic.machine (expire now) fourRequests
    IsExpiry fourRequests now count after ∧
      count = 2 ∧
      after.table.map Prod.fst = [3, 4] ∧
      after.requests.map Request.status =
        [.cancelled, .failed, .incomplete, .incomplete] := by
  have consistent : fourRequests.IsConsistent := by
    refine ⟨by unfold KeyedList.IsOrdered; decide, ?_⟩
    simp [fourRequests, Request.IsSettled, Request.Slot.empty]
  exact ⟨expire_is_exact consistent _, by decide, by decide, by decide⟩

end ClusterClient.Client
