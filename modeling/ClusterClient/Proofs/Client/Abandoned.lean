import ClusterClient.Proofs.Client.Places

namespace ClusterClient.Client

/-!
# Requests that are turned away from

A thread turns away from a request that it has given up, that is answered, or
whose frame was refused. One that is given up is completed by its own thread,
which then clears the table; one that is answered is completed, since its
outcome can be read only then. Nobody waits for one whose frame was refused: if
another thread has claimed it, it may still be incomplete.
-/

/-! ## What one call does for the request that is looked after -/

namespace Stage.Next

variable {client : Client} {work : Work} {stage later : Stage}
variable {call : Call} {answer : call.Answer}

/-- A request is given up by whoever has cancelled it. -/
theorem of_gaveUp?
    (next : stage.Next client work call answer later)
    {request : Nat}
    (isGivenUp : later.gaveUp? = some request) :
    (⟨call, answer⟩ : Exchange interface) =
      ⟨.table (.complete request (.cancelled .timeout)), true⟩ := by
  cases next with
  | gaveUp =>
      cases isGivenUp
      rfl
  | _ => cases isGivenUp

/-- A frame is sent after its entry was registered. -/
theorem of_sending
    {number : UInt32}
    {entry : Pending}
    (next : stage.Next client work call answer (.sending number entry)) :
    (⟨call, answer⟩ : Exchange interface) =
      ⟨.table (.register number entry), ()⟩ := by
  cases next
  rfl

/-- Sending has failed when the connection has refused the frame. -/
theorem of_failing
    {number : UInt32}
    {entry : Pending}
    (next : stage.Next client work call answer (.failing number entry)) :
    stage = .sending number entry ∧
      ∃ error,
        (⟨call, answer⟩ : Exchange interface) =
          ⟨.send (entry.operation.encode number client.channel),
            .error error⟩ := by
  cases next
  exact ⟨rfl, _, rfl⟩

/-- A thread registers the request that it looks after. -/
theorem own_of_register
    {number : UInt32}
    {entry : Pending}
    {answer : Unit}
    (next :
      stage.Next client work (.table (.register number entry)) answer later) :
    stage.own? = some entry.request := by
  cases next with
  | idle isIdle => exact isIdle.elim
  | take isTaking => exact isTaking.elim
  | register => rfl

/-- Completing and clearing leave a thread with what it looks after. -/
theorem of_not_isPlain
    (next : stage.Next client work call answer later)
    (notPlain : call.isPlain = false) :
    later.own? = stage.own? ∧ later.sent? = none := by
  cases next with
  | idle | complete | byHand | gaveUp | late | forget => exact ⟨rfl, rfl⟩
  | @take call _ isTaking =>
      cases call with
      | table call =>
          cases call <;> first | exact isTaking.elim | cases notPlain
      | _ => exact isTaking.elim
  | _ => cases notPlain

/-- A thread looks after the request that it opens. -/
theorem own_of_opened
    (next : stage.Next client work call answer later)
    {request : Nat}
    (opened : openedIn call answer = some request) :
    later.own? = some request := by
  cases next with
  | idle isIdle =>
      rw [(isIdle.plain answer).2] at opened
      cases opened
  | take isTaking =>
      rw [isTaking.opens_nothing answer] at opened
      cases opened
  | openRequest => exact opened
  | _ => cases opened

end Stage.Next

namespace Stepwise

/-- A thread turns away from its request when it has failed or is answered. -/
theorem own_of_next
    {client : Client}
    {work : Work}
    {stage later : Stage}
    {call : Call}
    {answer : call.Answer}
    (next : stage.Next client work call answer later)
    {request : Nat}
    (isOwn : stage.own? = some request) :
    later.own? = some request ∨
      (∃ number entry,
        stage = .failing number entry ∧ entry.request = request) ∨
      waitedFor? call answer = some request := by
  cases next with
  | retract =>
      cases isOwn
      exact .inr (.inl ⟨_, _, rfl, rfl⟩)
  | answered | awaited => exact .inr (.inr isOwn)
  | openRequest => cases isOwn
  | _ => exact .inl isOwn

/-- Whoever gets an outcome gets that of the request. -/
theorem exists_outcome_of_waitedFor
    {call : Call}
    {answer : call.Answer}
    {before after : Traffic}
    (answered : Client.semantics call before answer after)
    {request : Nat}
    (isWaitedFor : waitedFor? call answer = some request) :
    ∃ outcome, before.outcome? request = some outcome := by
  cases call with
  | awaitUntil index limit =>
      cases answer with
      | none => cases isWaitedFor
      | some outcome =>
          cases isWaitedFor
          exact ⟨outcome, answered.2 outcome rfl⟩
  | awaitForever index =>
      cases isWaitedFor
      exact ⟨answer, answered.2⟩
  | _ => cases isWaitedFor

/-- An entry was in the table before, or its own thread has registered it. -/
theorem mem_table_of_moves
    {client : Client}
    {work : Work}
    {before after : Traffic}
    {stage later : Stage}
    {inside goesOn : Inside}
    {action : Action}
    {answer : action.Answer}
    (moves :
      Moves client work before after stage inside action answer later goesOn)
    {entry : UInt32 × Pending}
    (member : entry ∈ after.table) :
    entry ∈ before.table ∨ stage.own? = some entry.2.request := by
  cases moves with
  | whole _ next answered =>
      rcases mem_table_step answered member with wasThere | rfl
      · exact .inl wasThere
      · exact .inr next.own_of_register
  | claimed _ _ _ isAfter | goesOn _ _ _ isAfter =>
      subst isAfter
      exact .inl member
  | lost _ _ same | locked _ same | unlocked _ same =>
      subst same
      exact .inl member
  | examined isAfter =>
      subst isAfter
      exact .inl (List.mem_of_mem_filter member)

variable {Thread : Type}
variable {client : Client} {works : Thread → Work}
variable {stages : Thread → Stage} {insides : Thread → Inside}
variable {thread : Thread} {later : Stage} {inside goesOn : Inside}
variable {action : Action} {answer : action.Answer}

/-! ## Requests that were given up -/

/--
A request that was given up is completed after its own thread has gone through
with it, and its entry is among those that this thread has still to look at.
-/
structure GivingUp
    (stages : Thread → Stage)
    (insides : Thread → Inside)
    (traffic : Traffic) : Prop where
  completes : ∀ {thread request},
    (stages thread).gaveUp? = some request →
    (insides thread).completing? = some request ∨ traffic.HasCompleted request
  clears : ∀ {thread entries request entry},
    insides thread = .clearing entries →
    (stages thread).gaveUp? = some request →
    entry ∈ traffic.table →
    entry.2.request = request →
    entry ∈ entries

namespace GivingUp

variable {before after : Traffic} {request : Nat}

/-- A thread that gives a request up completes it. -/
theorem completes_own
    (givingUp : GivingUp stages insides before)
    (isInside : insides thread = inside)
    (moves :
      Moves client (works thread) before after (stages thread) inside action
        answer later goesOn)
    (isGivenUp : later.gaveUp? = some request) :
    goesOn.completing? = some request ∨ after.HasCompleted request := by
  have stays : before.HasCompleted request → after.HasCompleted request :=
    moves.hasCompleted
  cases moves with
  | whole isPlain next =>
      cases next.of_gaveUp? isGivenUp
      cases isPlain
  | claimed next =>
      cases next.of_gaveUp? isGivenUp
      exact .inl rfl
  | lost next => cases next.of_gaveUp? isGivenUp
  | unlocked next => cases next.of_gaveUp? isGivenUp
  | @goesOn index outcome _ later fresh _ _ isFresh found _ isAfter =>
      rcases givingUp.completes isGivenUp with isOwn | completed
      · rw [isInside] at isOwn
        cases isOwn
        by_cases ended : later = .ended
        · subst ended isAfter
          refine .inr ⟨_, by rw [getElem?_setRequest found, if_pos rfl], ?_⟩
          exact
            (Request.Stage.isCompleted_iff isFresh outcome _).mpr
              (Option.some_ne_none outcome)
        · exact .inl (Inside.completing?_afterClaim ended)
      · exact .inr (stays completed)
  | locked | examined =>
      rcases givingUp.completes isGivenUp with isOwn | completed
      · rw [isInside] at isOwn
        cases isOwn
      · exact .inr (stays completed)

/-- A thread that clears the table does not pass its own entry over. -/
theorem clears_own
    (givingUp : GivingUp stages insides before)
    (isInside : insides thread = inside)
    (moves :
      Moves client (works thread) before after (stages thread) inside action
        answer later goesOn)
    {entries : List (UInt32 × Pending)}
    {entry : UInt32 × Pending}
    (isClearing : goesOn = .clearing entries)
    (isGivenUp : later.gaveUp? = some request)
    (member : entry ∈ after.table)
    (isRequest : entry.2.request = request) :
    entry ∈ entries := by
  cases moves with
  | whole | claimed | lost | unlocked => cases isClearing
  | @goesOn _ _ _ later => cases later <;> cases isClearing
  | locked isTable same =>
      cases isClearing
      subst same
      exact isTable.mem_iff.mpr member
  | examined isAfter =>
      cases isClearing
      subst isAfter isRequest
      obtain ⟨wasThere, stays⟩ := List.mem_filter.mp member
      have toClear := givingUp.clears isInside isGivenUp wasThere rfl
      refine (List.mem_cons.mp toClear).resolve_left fun isFirst => ?_
      -- The request is completed, so its entry has just left the table.
      have completed : before.isCompleted entry.2 := by
        refine Traffic.isCompleted_iff.mpr ?_
        refine (givingUp.completes isGivenUp).resolve_left ?_
        rw [isInside]
        exact nofun
      rw [completed, isFirst] at stays
      simp at stays

variable [DecidableEq Thread]

/-- Each step keeps the account of the requests that were given up. -/
theorem turn
    (givingUp : GivingUp stages insides before)
    (apart : ∀ {first second request},
      (stages first).own? = some request →
      (stages second).own? = some request → first = second)
    (isInside : insides thread = inside)
    (moves :
      Moves client (works thread) before after (stages thread) inside action
        answer later goesOn) :
    GivingUp (Function.update stages thread later)
      (Function.update insides thread goesOn) after where
  completes := by
    intro other request isGivenUp
    rcases found_of_update Stage.gaveUp? isGivenUp with
      ⟨rfl, isNew⟩ | ⟨notOwn, wasGivenUp⟩
    · rw [Function.update_self]
      exact givingUp.completes_own isInside moves isNew
    · rw [Function.update_of_ne notOwn]
      exact (givingUp.completes wasGivenUp).imp_right moves.hasCompleted
  clears := by
    intro other entries request entry isClearing isGivenUp member isRequest
    rcases found_of_update Stage.gaveUp? isGivenUp with
      ⟨rfl, isNew⟩ | ⟨notOwn, wasGivenUp⟩
    · rw [Function.update_self] at isClearing
      exact
        givingUp.clears_own isInside moves isClearing isNew member isRequest
    · rw [Function.update_of_ne notOwn] at isClearing
      rcases mem_table_of_moves moves member with wasThere | isOwn
      · exact givingUp.clears isClearing wasGivenUp wasThere isRequest
      · rw [isRequest] at isOwn
        exact (notOwn (apart (Stage.own?_of_gaveUp? wasGivenUp) isOwn)).elim

end GivingUp

/-! ## Frames that were refused -/

/-- A thread has registered a request, and the connection refused its frame. -/
def WasRefused
    (client : Client)
    (history : ClientHistory Thread)
    [DecidableEq Thread]
    (thread : Thread)
    (request : Nat) : Prop :=
  ∃ number entry error,
    entry.request = request ∧
      [⟨.table (.register number entry), ()⟩,
          ⟨.send (entry.operation.encode number client.channel),
            .error error⟩] <:+:
        exchangesBy thread history

variable [DecidableEq Thread]

theorem WasRefused.append
    {history : ClientHistory Thread}
    {request : Nat}
    (refused : WasRefused client history thread request)
    (later : ClientHistory Thread) :
    WasRefused client (history ++ later) thread request := by
  obtain ⟨number, entry, error, isRequest, occurs⟩ := refused
  refine ⟨number, entry, error, isRequest, occurs.trans ?_⟩
  unfold exchangesBy
  rw [List.filterMap_append]
  exact (List.prefix_append _ _).isInfix

/--
A request that nobody looks after any more is completed, or its frame was
refused. Whoever sends a frame has just registered its entry.
-/
structure Refusing
    (client : Client)
    (history : ClientHistory Thread)
    (stages : Thread → Stage)
    (traffic : Traffic) : Prop where
  sending : ∀ {thread number entry},
    stages thread = .sending number entry →
    ∃ earlier,
      exchangesBy thread history =
        earlier ++ [⟨.table (.register number entry), ()⟩]
  failing : ∀ {thread number entry},
    stages thread = .failing number entry →
    WasRefused client history thread entry.request
  opened : ∀ {thread request},
    (thread, request) ∈ openings history →
    (stages thread).own? = some request ∨
      traffic.HasCompleted request ∨ WasRefused client history thread request

namespace Refusing

variable {history : ClientHistory Thread} {before after : Traffic}

theorem empty : Refusing client ([] : ClientHistory Thread)
    (fun _ => .holding []) .empty where
  sending isSending := nomatch isSending
  failing isFailing := nomatch isFailing
  opened member := nomatch member

/-- A thread that neither sends nor turns away keeps the account. -/
theorem aside
    (refusing : Refusing client history stages before)
    (stays : ∀ {request},
      before.HasCompleted request → after.HasCompleted request)
    (sends : later = stages thread ∨ later.sent? = none)
    (owned : later.own? = (stages thread).own?) :
    Refusing client history (Function.update stages thread later) after where
  sending := by
    intro other number entry isSending
    by_cases own : other = thread
    · rw [own, Function.update_self] at isSending
      rw [own]
      rcases sends with same | none
      · exact refusing.sending (same.symm.trans isSending)
      · rw [isSending] at none
        cases none
    · rw [Function.update_of_ne own] at isSending
      exact refusing.sending isSending
  failing := by
    intro other number entry isFailing
    by_cases own : other = thread
    · rw [own, Function.update_self] at isFailing
      rw [own]
      rcases sends with same | none
      · exact refusing.failing (same.symm.trans isFailing)
      · rw [isFailing] at none
        cases none
    · rw [Function.update_of_ne own] at isFailing
      exact refusing.failing isFailing
  opened := by
    intro other request member
    have sameOwn :
        (Function.update stages thread later other).own? =
          (stages other).own? := by
      by_cases own : other = thread
      · rw [own, Function.update_self, owned]
      · rw [Function.update_of_ne own]
    rw [sameOwn]
    exact (refusing.opened member).imp_right (Or.imp_left stays)

/-- A thread that turns away from its request leaves it completed or refused. -/
theorem opened_own
    (refusing : Refusing client history stages before)
    {call : Call}
    {answer : call.Answer}
    (next : (stages thread).Next client (works thread) call answer later)
    (answered : Client.semantics call before answer after)
    (completed : ∀ request,
      waitedFor? call answer = some request → before.HasCompleted request)
    {request : Nat}
    (opened : (thread, request) ∈ openings history) :
    later.own? = some request ∨
      after.HasCompleted request ∨
      WasRefused client
        (history ++ [.turn thread call answer before after]) thread
        request := by
  rcases refusing.opened opened with isOwn | wasCompleted | refused
  · rcases own_of_next next isOwn with
      stillOwn | ⟨number, entry, isFailing, rfl⟩ | isWaitedFor
    · exact .inl stillOwn
    · exact .inr (.inr ((refusing.failing isFailing).append _))
    · exact .inr (.inl ((completed request isWaitedFor).step answered))
  · exact .inr (.inl (wasCompleted.step answered))
  · exact .inr (.inr (refused.append _))

/-- A call of a thread keeps the account. -/
theorem call
    (refusing : Refusing client history stages before)
    {call : Call}
    {answer : call.Answer}
    (next : (stages thread).Next client (works thread) call answer later)
    (answered : Client.semantics call before answer after)
    (completed : ∀ request,
      waitedFor? call answer = some request → before.HasCompleted request) :
    Refusing client (history ++ [.turn thread call answer before after])
      (Function.update stages thread later) after := by
  have others : ∀ other,
      other ≠ thread →
      exchangesBy other (history ++ [.turn thread call answer before after]) =
        exchangesBy other history :=
    fun other notOwn =>
      exchangesBy_concat_other history (by simpa using Ne.symm notOwn)
  refine ⟨?_, ?_, ?_⟩
  · intro other number entry isSending
    by_cases own : other = thread
    · rw [own, Function.update_self] at isSending
      subst isSending
      rw [own, exchangesBy_concat_own, next.of_sending]
      exact ⟨_, rfl⟩
    · rw [Function.update_of_ne own] at isSending
      rw [others other own]
      exact refusing.sending isSending
  · intro other number entry isFailing
    by_cases own : other = thread
    · rw [own, Function.update_self] at isFailing
      subst isFailing
      obtain ⟨isSending, error, isRefused⟩ := next.of_failing
      obtain ⟨earlier, registered⟩ := refusing.sending isSending
      refine ⟨number, entry, error, rfl, earlier, [], ?_⟩
      rw [own, exchangesBy_concat_own, isRefused, registered]
      simp
    · rw [Function.update_of_ne own] at isFailing
      exact (refusing.failing isFailing).append _
  · intro other request member
    rw [openings_concat] at member
    rcases List.mem_append.mp member with wasOpened | isNew
    · by_cases own : other = thread
      · rw [own] at wasOpened ⊢
        rw [Function.update_self]
        exact refusing.opened_own next answered completed wasOpened
      · rw [Function.update_of_ne own]
        exact
          (refusing.opened wasOpened).imp_right
            (Or.imp (·.step answered) (WasRefused.append · _))
    · obtain ⟨index, isOpened, same⟩ :=
        Option.map_eq_some_iff.mp (Option.mem_toList.mp isNew)
      cases same
      rw [Function.update_self]
      exact .inl (next.own_of_opened isOpened)

/-- Each step keeps the account of the frames that were refused. -/
theorem turn
    {history : History actions Thread State}
    {before after : State}
    (refusing : Refusing client (log history) stages before.traffic)
    (completers : Completers insides before.traffic)
    (moves :
      Moves client (works thread) before.traffic after.traffic (stages thread)
        inside action answer later goesOn) :
    Refusing client
      (log (history ++ [.turn thread action answer before after]))
      (Function.update stages thread later) after.traffic := by
  have stays : ∀ {request},
      before.traffic.HasCompleted request →
      after.traffic.HasCompleted request :=
    moves.hasCompleted
  cases moves with
  | whole _ next answered readable =>
      rw [log_whole]
      refine refusing.call next answered fun request isWaitedFor => ?_
      obtain ⟨outcome, isOutcome⟩ :=
        exists_outcome_of_waitedFor answered isWaitedFor
      exact
        completers.hasCompleted_of_outcome isOutcome
          (readable request isWaitedFor)
  | claimed next | lost next | unlocked next =>
      obtain ⟨owned, sends⟩ := next.of_not_isPlain rfl
      rw [log_other history rfl]
      exact refusing.aside stays (.inr sends) owned
  | goesOn | locked | examined =>
      rw [log_other history rfl]
      exact refusing.aside stays (.inl rfl) rfl

end Refusing

end Stepwise

end ClusterClient.Client
