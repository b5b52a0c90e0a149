import ClusterClient.Client.Traffic

namespace ClusterClient

/-!
# Requests complete once

Between the steps of a client nobody is in the middle of completing a request,
so a completion either publishes its outcome or finds one and changes nothing.
The main statements say this of one request and of the requests of a client.
-/

namespace Request

variable {Value : Type}

/-- A settled request is completed unless its phase is the first one. -/
theorem IsSettled.isCompleted_iff
    {request : Request Value}
    (settled : request.IsSettled) :
    request.isCompleted ↔ request.phase ≠ .incomplete := by
  obtain ⟨timeout, createdAt, context, phase, reason, slot⟩ := request
  have notClaimed : phase ≠ .completing := settled.2.1
  cases phase <;> simp_all [isCompleted, status, Phase.status]

theorem finish_of_isCompleted
    {request : Request Value}
    (completed : request.isCompleted)
    (outcome : Outcome Value) : finish outcome request = (false, request) := by
  apply finish_of_not_incomplete
  intro incomplete
  simp [isCompleted, status, incomplete, Phase.status] at completed

/-- Completing a settled request leaves it settled and completed. -/
theorem IsSettled.finish
    {request : Request Value}
    (settled : request.IsSettled)
    (outcome : Outcome Value) :
    (finish outcome request).2.IsSettled ∧
      (finish outcome request).2.isCompleted := by
  by_cases incomplete : request.phase = .incomplete
  · rw [finish_of_incomplete settled incomplete outcome]
    cases outcome <;>
      simp [IsSettled, Outcome.phase, isCompleted, status, Phase.status]
  · rw [finish_of_not_incomplete incomplete outcome]
    exact ⟨settled, settled.isCompleted_iff.mpr incomplete⟩

/-- A request after it was completed with an outcome. -/
def endedWith
    (request : Request Value)
    (outcome : Outcome Value) : Request Value :=
  { request with
    phase := outcome.phase
    reason := outcome.reason?
    slot := ⟨some outcome, false⟩ }

/-- Completing a settled request ends it, unless it has ended before. -/
theorem IsSettled.finish_eq
    {request : Request Value}
    (settled : request.IsSettled)
    (outcome : Outcome Value) :
    (Request.finish outcome request).2 =
      if request.isCompleted then request else request.endedWith outcome := by
  by_cases incomplete : request.phase = .incomplete
  · have notCompleted : ¬ request.isCompleted := by
      rw [settled.isCompleted_iff]
      exact not_not_intro incomplete
    rw [finish_of_incomplete settled incomplete, if_neg notCompleted]
    rfl
  · rw [finish_of_not_incomplete incomplete,
      if_pos (settled.isCompleted_iff.mpr incomplete)]

/-- Completing a settled request a second time changes nothing. -/
theorem IsSettled.finish_finish
    {request : Request Value}
    (settled : request.IsSettled)
    (outcome : Outcome Value) :
    (Request.finish outcome (Request.finish outcome request).2).2 =
      (Request.finish outcome request).2 := by
  rw [finish_of_isCompleted (settled.finish outcome).2]

/-- Completing a settled request does not move its deadline. -/
theorem IsSettled.deadline?_finish
    {request : Request Value}
    (settled : request.IsSettled)
    (outcome : Outcome Value) :
    (Request.finish outcome request).2.deadline? = request.deadline? := by
  rw [settled.finish_eq]
  split <;> rfl

/-- A new request is settled and not completed. -/
theorem create_eq_ok
    {timeout : Duration}
    {createdAt : Instant}
    {context : Context}
    {request : Request Value}
    (created : create timeout createdAt context = .ok request) :
    request.IsSettled ∧ ¬ request.isCompleted := by
  unfold create at created
  split at created
  · cases created
  · cases created
    simp [IsSettled, Slot.empty, isCompleted, status, Phase.status]

/-- A request is made for any time that is not zero. -/
theorem exists_create
    {timeout : Duration}
    (positive : timeout.isZero = false)
    (createdAt : Instant)
    (context : Context) :
    ∃ request : Request Value,
      create timeout createdAt context = .ok request := by
  unfold create
  rw [positive]
  exact ⟨_, rfl⟩

end Request

namespace Client.Traffic

/-- Completing a request changes nothing but the request at its place. -/
theorem complete_eq
    (traffic : Traffic)
    (index : Nat)
    (outcome : Request.Outcome Wire.Response) :
    (traffic.complete index outcome).2 =
      { traffic with
        requests := traffic.requests.modify index fun request =>
          (request.finish outcome).2 } := by
  unfold complete
  cases found : traffic.requests[index]? with
  | none => rw [List.modify_eq_self (List.getElem?_eq_none_iff.mp found)]
  | some request =>
      have inside := (List.getElem?_eq_some_iff.mp found).1
      dsimp only
      congr 1
      refine List.ext_getElem? fun other => ?_
      rw [List.getElem?_modify, List.getElem?_set]
      by_cases same : index = other
      · subst same
        rw [if_pos rfl, if_pos inside, found]
        simp
      · simp [same]

/-- Completing a request concerns this request alone. -/
theorem getElem?_complete
    (traffic : Traffic)
    (index other : Nat)
    (outcome : Request.Outcome Wire.Response) :
    (traffic.complete index outcome).2.requests[other]? =
      if other = index then
        traffic.requests[other]?.map fun request =>
          (request.finish outcome).2
      else
        traffic.requests[other]? := by
  rw [complete_eq, List.getElem?_modify]
  by_cases same : index = other
  · simp [same]
  · simp [same, Ne.symm same]

/-- Requests at two places may be completed in either order. -/
theorem complete_comm
    (traffic : Traffic)
    {first second : Nat}
    (apart : first ≠ second)
    (outcome other : Request.Outcome Wire.Response) :
    ((traffic.complete first outcome).2.complete second other).2 =
      ((traffic.complete second other).2.complete first outcome).2 := by
  simp only [complete_eq, List.modify_modify_ne _ _ _ apart]

/-- Completing the newest request leaves the earlier ones as they are. -/
theorem complete_newest
    {traffic : Traffic}
    {earlier : List (Request Wire.Response)}
    {request : Request Wire.Response}
    (newest : traffic.requests = earlier ++ [request])
    (outcome : Request.Outcome Wire.Response) :
    (traffic.complete earlier.length outcome).2 =
      { traffic with
        requests := earlier ++ [(request.finish outcome).2] } := by
  simp [complete, newest]

/-- After a request is opened, a request is an old one or the new one. -/
theorem old_or_new_of_openRequest
    {traffic : Traffic}
    {request found : Request Wire.Response}
    {index : Nat}
    (isFound :
      (Traffic.machine (.openRequest request) traffic).2.requests[index]? =
        some found) :
    traffic.requests[index]? = some found ∨
      (index = traffic.requests.length ∧ found = request) := by
  simp only [Traffic.machine, List.getElem?_append] at isFound
  split at isFound
  · exact .inl isFound
  · obtain ⟨isZero, isRequest⟩ := List.getElem?_eq_some_iff.mp isFound
    simp only [List.length_singleton] at isZero
    refine .inr ⟨by omega, ?_⟩
    simpa using isRequest.symm

@[simp] theorem table_complete
    (traffic : Traffic)
    (index : Nat)
    (outcome : Request.Outcome Wire.Response) :
    (traffic.complete index outcome).2.table = traffic.table := by
  rw [complete_eq]

@[simp] theorem nextCorrelation_complete
    (traffic : Traffic)
    (index : Nat)
    (outcome : Request.Outcome Wire.Response) :
    (traffic.complete index outcome).2.nextCorrelation =
      traffic.nextCorrelation := by
  rw [complete_eq]

@[simp] theorem length_complete
    (traffic : Traffic)
    (index : Nat)
    (outcome : Request.Outcome Wire.Response) :
    (traffic.complete index outcome).2.requests.length =
      traffic.requests.length := by
  rw [complete_eq, List.length_modify]

end Client.Traffic

end ClusterClient
