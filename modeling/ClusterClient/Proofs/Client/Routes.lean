import ClusterClient.Proofs.Client.Successes
import ClusterClient.Proofs.Wire.Partitions

namespace ClusterClient.Client

/-!
# From the document id to the mutation token

The partition of a request is chosen once, when its operation is routed, and
depends on nothing but the bytes of the document id and the number of
partitions. It is written into the frame that is handed to the connection, the
operation waits for its response in the table, and a mutation token is made from
this operation again.

A work registers requests for its own operation only, and hands over only the
frame of the request that it has registered last, so what is said about frames
here holds in every run.
-/

section Runs

variable {Thread : Type} [DecidableEq Thread]
variable {client : Client} {works : Thread → Work}
variable {history : ClientHistory Thread}
variable {current : Thread → Program interface Ending} {final : Traffic}

/--
The frame of a request: the one that is made of the routed operation and of the
number that a thread registered the request with.
-/
def IsRequestFrame
    (client : Client)
    (works : Thread → Work)
    (history : ClientHistory Thread)
    (thread : Thread)
    (request : Nat)
    (frame : Bytes) : Prop :=
  ∃ operation number before after,
    let routed := operation.route client.settings.partitionCount
    (works thread).operation? = some operation ∧
      .turn thread (.table (.register number ⟨routed, request⟩)) () before
          after ∈
        history ∧
      frame = routed.encode number client.channel

omit [DecidableEq Thread] in
theorem IsRequestFrame.exists_registration
    {thread : Thread}
    {request : Nat}
    {frame : Bytes}
    (isFrame : IsRequestFrame client works history thread request frame) :
    ∃ number operation,
      (number, ⟨operation, request⟩) ∈ registrations history ∧
        frame = operation.encode number client.channel := by
  obtain ⟨operation, number, before, after, -, member, isFrame⟩ := isFrame
  exact
    ⟨number, _, mem_registrations_iff.mpr ⟨thread, before, after, member⟩,
      isFrame⟩

omit [DecidableEq Thread] in
/-- What is registered for the routed operation of a thread has a frame. -/
theorem isRequestFrame_of_registration
    {thread : Thread}
    {number : UInt32}
    {entry : Pending}
    {before after : Traffic}
    (isRouted :
      (works thread).operation?.map (·.route client.settings.partitionCount) =
        some entry.operation)
    (registers :
      .turn thread (.table (.register number entry)) () before after ∈
        history) :
    IsRequestFrame client works history thread entry.request
      (entry.operation.encode number client.channel) := by
  obtain ⟨operation, isOwn, routed⟩ := Option.map_eq_some_iff.mp isRouted
  obtain ⟨_, request⟩ := entry
  cases routed
  exact ⟨operation, number, before, after, isOwn, registers, rfl⟩

namespace ClientRun

/-- A thread that makes a call is at a stage, and has registered what it sends. -/
theorem exists_tends_of_turn
    (run :
      ClientRun (fun thread => (works thread).program client) .empty history
        current final)
    {thread : Thread}
    {call : Call}
    {answer : call.Answer}
    {before after : Traffic}
    (calls : .turn thread call answer before after ∈ history) :
    ∃ stage, ∃ next : call.Answer → Program interface Ending,
      Tends client (works thread) stage (.step call next) ∧
        ∀ number entry,
          stage.sent? = some (number, entry) →
          (works thread).operation?.map
              (·.route client.settings.partitionCount) =
              some entry.operation ∧
            ∃ before after,
              .turn thread (.table (.register number entry)) () before after ∈
                history := by
  obtain ⟨earlier, previous, next, isPrefix, reached, due, -⟩ := run.split calls
  have follows := reached.follows thread
  rw [due] at follows
  obtain ⟨stage, tends, sends⟩ :=
    (tends_program client (works thread)).left follows
  refine ⟨stage, next, tends, fun number entry isSent => ?_⟩
  rcases sends number entry isSent with impossible | ⟨isRouted, exchanged⟩
  · cases impossible
  · obtain ⟨before, after, member⟩ := turn_of_mem_exchangesBy exchanged
    exact ⟨isRouted, before, after, isPrefix.subset member⟩

/-- Every frame that is handed over is the one of a request of its thread. -/
theorem isRequestFrame_of_send
    (run :
      ClientRun (fun thread => (works thread).program client) .empty history
        current final)
    {thread : Thread}
    {frame : Bytes}
    {answer : Except Error Unit}
    {before after : Traffic}
    (sends : .turn thread (.send frame) answer before after ∈ history) :
    ∃ request, IsRequestFrame client works history thread request frame := by
  obtain ⟨stage, next, tends, registered⟩ := run.exists_tends_of_turn sends
  obtain ⟨number, entry, isSent, rfl⟩ := tends.of_send
  obtain ⟨isRouted, before, after, registers⟩ := registered number entry isSent
  exact ⟨entry.request, isRequestFrame_of_registration isRouted registers⟩

/-- Whatever was registered has a frame. -/
theorem exists_requestFrame_of_registered
    (run :
      ClientRun (fun thread => (works thread).program client) .empty history
        current final)
    {number : UInt32}
    {entry : Pending}
    (registered : (number, entry) ∈ registrations history) :
    ∃ thread,
      IsRequestFrame client works history thread entry.request
        (entry.operation.encode number client.channel) := by
  obtain ⟨thread, before, after, registers⟩ :=
    mem_registrations_iff.mp registered
  obtain ⟨stage, next, tends, -⟩ := run.exists_tends_of_turn registers
  exact ⟨thread, isRequestFrame_of_registration tends.isRouted registers⟩

/-- A request has one frame. -/
theorem requestFrame_unique
    (run :
      ClientRun (fun thread => (works thread).program client) .empty history
        current final)
    {first second : Thread}
    {request : Nat}
    {firstFrame secondFrame : Bytes}
    (isFirst : IsRequestFrame client works history first request firstFrame)
    (isSecond :
      IsRequestFrame client works history second request secondFrame) :
    firstFrame = secondFrame := by
  obtain ⟨_, -, tended⟩ := ClientRun.tended run
  obtain ⟨_, _, inFirst, rfl⟩ := isFirst.exists_registration
  obtain ⟨_, _, inSecond, rfl⟩ := isSecond.exists_registration
  cases tended.toFiled.eq_of_request_eq inFirst inSecond rfl
  rfl

/-- A token that is decoded for a request reports the partition of its frame. -/
theorem exists_frame_of_mutationToken
    (run :
      ClientRun (fun thread => (works thread).program client) .empty history
        current final)
    {number : UInt32}
    {entry : Pending}
    {bytes : Bytes}
    {response : Wire.Response}
    {token : Wire.MutationToken}
    (registered : (number, entry) ∈ registrations history)
    (decoded :
      Wire.Response.decode entry.operation bytes client.channel = .ok response)
    (present : response.mutationToken = some token) :
    ∃ thread frame,
      IsRequestFrame client works history thread entry.request frame ∧
        Wire.CarriesPartition frame token.partition.toNat := by
  obtain ⟨thread, isFrame⟩ := run.exists_requestFrame_of_registered registered
  refine ⟨thread, _, isFrame, ?_⟩
  rw [Wire.partition_of_mutationToken decoded present]
  exact Wire.carriesPartition_encode ..

end ClientRun

/--
The partition is the same everywhere in a run. A frame that is handed over is
the frame of a request of its thread, and carries the slot of the document id.
An issue that returns a handle has handed over the frame of its request. A
request has one frame. A token that is decoded for a request, from any bytes,
reports the partition of this frame; so does the token of a request that has
succeeded, unless the success was declared by hand, and the token that an
execution returns reports the slot of its document id.
-/
structure IsRouted
    (client : Client)
    (works : Thread → Work)
    (history : ClientHistory Thread)
    (current : Thread → Program interface Ending)
    (final : Traffic) : Prop where
  sent : ∀ thread frame answer before after,
    .turn thread (.send frame) answer before after ∈ history →
    let partitionCount := client.settings.partitionCount.toNat
    ∃ operation request,
      (works thread).operation? = some operation ∧
        IsRequestFrame client works history thread request frame ∧
        Wire.CarriesPartition frame
          (Wire.partitionSlot operation.key.id partitionCount) ∧
        (0 < partitionCount →
          Wire.partitionSlot operation.key.id partitionCount < partitionCount)
  issued : ∀ thread operation timeout handle,
    works thread = .single (.issue operation timeout) →
    current thread = .done (.issued (.ok handle)) →
    ∃ frame before after,
      IsRequestFrame client works history thread handle.request frame ∧
        .turn thread (.send frame) (.ok ()) before after ∈ history
  single : ∀ thread other request frame another,
    IsRequestFrame client works history thread request frame →
    IsRequestFrame client works history other request another →
    frame = another
  decoded : ∀ number entry bytes response token,
    (number, entry) ∈ registrations history →
    Wire.Response.decode entry.operation bytes client.channel = .ok response →
    response.mutationToken = some token →
    ∃ thread frame,
      IsRequestFrame client works history thread entry.request frame ∧
        Wire.CarriesPartition frame token.partition.toNat
  succeeded : ∀ request response token,
    final.outcome? request = some (.succeeded response) →
    response.mutationToken = some token →
    (∃ thread frame,
      IsRequestFrame client works history thread request frame ∧
        Wire.CarriesPartition frame token.partition.toNat) ∨
      ∃ thread,
        works thread = .single (.complete request (.succeeded response))
  returned : ∀ thread operation timeout policy response token,
    (∀ thread request response,
      works thread ≠ .single (.complete request (.succeeded response))) →
    works thread = .execution operation timeout policy →
    current thread = .done (.awaited (.ok response)) →
    response.mutationToken = some token →
    token.partition.toNat =
      Wire.partitionSlot operation.key.id client.settings.partitionCount.toNat

/-- Requests are routed consistently in every run on a client. -/
theorem routing_is_consistent
    (run :
      ClientRun (fun thread => (works thread).program client) .empty history
        current final) :
    IsRouted client works history current final where
  sent := by
    intro thread frame answer before after sends partitionCount
    obtain ⟨request, isFrame⟩ := run.isRequestFrame_of_send sends
    have ⟨operation, number, _, _, isOwn, _, isEncoded⟩ := isFrame
    refine
      ⟨operation, request, isOwn, isFrame, ?_,
        fun positive => Wire.partitionSlot_lt positive _⟩
    rw [isEncoded, ← Wire.Operation.partition_route]
    exact Wire.carriesPartition_encode ..
  issued := by
    intro thread operation timeout handle issues ended
    have follows := run.follows thread
    rw [issues, ended] at follows
    obtain ⟨number, registered, sent⟩ := Activity.follows_issued follows
    obtain ⟨_, _, registering⟩ := turn_of_mem_exchangesBy registered
    obtain ⟨before, after, sending⟩ := turn_of_mem_exchangesBy sent
    have isOwn : (works thread).operation? = some operation := by
      rw [issues]
      rfl
    exact
      ⟨_, before, after, ⟨operation, number, _, _, isOwn, registering, rfl⟩,
        sending⟩
  single _ _ _ _ _ := run.requestFrame_unique
  decoded _ _ _ _ _ := run.exists_frame_of_mutationToken
  succeeded := by
    intro request response token succeeded present
    refine (run.wasAnswered_of_succeeded succeeded).imp_left ?_
    rintro ⟨_, _, _, entry, -, -, registered, rfl, answers⟩
    have decoded := (verdict_eq_ok_iff.mp answers).1
    exact run.exists_frame_of_mutationToken registered decoded present
  returned := by
    intro thread operation timeout policy response token notByHand executes
      returned present
    obtain ⟨_, _, _, _, -, -, -, answers⟩ :=
      run.exists_frame_of_execution notByHand executes returned
    have decoded := (verdict_eq_ok_iff.mp answers).1
    rw [Wire.partition_of_mutationToken decoded present]
    exact operation.partition_route _

end Runs

/-- Two threads: one stores a document, one hands over the response. -/
inductive Storing where
  | writer
  | receiver
  deriving DecidableEq

/-- The response to the write: its extras hold a token of two words. -/
def storedFrame : Bytes :=
  [0x81, 1, 0, 0, 16, 0, 0, 0, 0, 0, 0, 16, 0, 0, 0, 1, 0, 0, 0, 0, 0, 0, 0, 9,
    0, 0, 0, 0, 0, 0, 0, 7, 0, 0, 0, 0, 0, 0, 0, 3]

/-- A client whose channel knows collections and sends tokens. -/
def storingClient : Client :=
  ofSettings ⟨true, true, "default"⟩ .default

/-- What the two threads do; the caller has put the document on partition 7. -/
def storing : Storing → Work
  | .writer =>
      .execution
        (.upsert ⟨"parcel", ⟨8⟩, 7, by decide, by decide⟩
          ⟨[0x5b, 0x5d], by decide⟩ 0 Wire.anyVersion)
        (.ofMilliseconds 2500) .report
  | .receiver => .single (.receive storedFrame)

/-- The response arrives while the writer waits. -/
def stored : Replay interface Storing Traffic Ending :=
  ClientRun.oneRoundAnswer.replay
    (List.replicate 9 .writer ++ [.receiver, .receiver])
    (fun party => (storing party).program storingClient) .empty

/-- The document is on partition 411, in its frame and in its token. -/
theorem routing_is_consistent_stored :
    let response : Wire.Response :=
      ⟨1, .success, 9, .empty, some ⟨411, 7, 3, "default"⟩, none⟩
    stored.state.outcome? 0 = some (.succeeded response) ∧
      ∃ thread frame,
        IsRequestFrame storingClient storing stored.history thread 0 frame ∧
          Wire.CarriesPartition frame 411 := by
  intro response
  have run :
      ClientRun (fun party => (storing party).program storingClient) .empty
        stored.history stored.programs stored.state :=
    (Run.replay ClientRun.oneRoundAnswer _ _ _).mono
      ClientRun.semantics_of_oneRoundAnswer
  have isToken : response.mutationToken = some ⟨411, 7, 3, "default"⟩ := rfl
  have succeeded : stored.state.outcome? 0 = some (.succeeded response) := by
    decide +kernel
  refine ⟨succeeded, ?_⟩
  have routed := routing_is_consistent run
  rcases routed.succeeded 0 response _ succeeded isToken with
    carried | ⟨thread, byHand⟩
  · exact carried
  · cases thread <;> cases byHand

end ClusterClient.Client
