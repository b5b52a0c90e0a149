import ClusterClient.Proofs.Client.Openings

namespace ClusterClient.Client

/-!
# Every entry has someone who looks after it

An entry of the table has a thread that looks after its request, or else the
request may have been completed through its handle. `Tended` says so, together
with what the threads owe to the requests that they have opened or taken; there
is a lemma for every kind of step, and every run of works keeps the account.
-/

variable {Thread : Type} [DecidableEq Thread]
variable {works : Thread → Work} {client : Client}
variable {registered : List (UInt32 × Pending)}
variable {opened : List (Thread × Nat)}
variable {touched : Nat → Prop}
variable {stages : Thread → Stage} {stage : Stage}
variable {thread : Thread} {call : Call} {answer : call.Answer}
variable {before after : Traffic}

/--
Every entry has a thread that looks after its request, and every request that
was opened is looked after or held until it is claimed. The exceptions are the
requests that were touched: they may have been completed by hand.
-/
structure Tended
    (registered : List (UInt32 × Pending))
    (opened : List (Thread × Nat))
    (touched : Nat → Prop)
    (stages : Thread → Stage)
    (traffic : Traffic) : Prop
    extends Filed registered traffic, Opened opened stages traffic where
  fresh : ∀ {thread request},
    (stages thread).opened? = some request →
    request ∉ registered.map (·.2.request) ∧
      (traffic.IsClaimed request → touched request)
  sent : ∀ {thread number entry},
    (stages thread).sent? = some (number, entry) → (number, entry) ∈ registered
  held : ∀ {thread request},
    request ∈ (stages thread).held →
    request ∈ registered.map (·.2.request) ∧
      ∀ entry ∈ traffic.table, entry.2.request ≠ request
  tended : ∀ {entry},
    entry ∈ traffic.table →
    (∃ thread, (stages thread).own? = some entry.2.request) ∨
      touched entry.2.request
  left : ∀ {entry},
    entry ∈ traffic.table →
    traffic.IsClaimed entry.2.request →
    (∃ thread, (stages thread).gaveUp? = some entry.2.request) ∨
      touched entry.2.request
  kept : ∀ {thread request},
    (thread, request) ∈ opened →
    (stages thread).own? = some request ∨
      request ∈ (stages thread).held ∨ traffic.IsClaimed request
  givenUp : ∀ {thread request},
    (stages thread).gaveUp? = some request → traffic.IsClaimed request

namespace Tended

omit [DecidableEq Thread] in
theorem empty (touched : Nat → Prop) :
    Tended [] ([] : List (Thread × Nat)) touched (fun _ => .holding [])
      .empty where
  ordered := KeyedList.isOrdered_nil
  inTable := nofun
  once := List.nodup_nil
  known := nofun
  openedOnce := List.nodup_nil
  openedKnown := nofun
  owns := nofun
  fresh := nofun
  sent := nofun
  held := nofun
  tended := nofun
  left := nofun
  kept := nofun
  givenUp := nofun

omit [DecidableEq Thread] in
/-- More requests may have been touched. -/
theorem mono
    {more : Nat → Prop}
    (tended : Tended registered opened touched stages before)
    (grows : ∀ request, touched request → more request) :
    Tended registered opened more stages before where
  toFiled := tended.toFiled
  toOpened := tended.toOpened
  fresh isOpened := (tended.fresh isOpened).imp_right (grows _ ∘ ·)
  sent := tended.sent
  held := tended.held
  tended member := (tended.tended member).imp_right (grows _)
  left member claimed := (tended.left member claimed).imp_right (grows _)
  kept := tended.kept
  givenUp := tended.givenUp

/-- A request is held by whoever has held it, when a thread takes up nothing. -/
theorem held_of_update
    {other : Thread}
    {request : Nat}
    (fewer : ∀ request ∈ stage.held, request ∈ (stages thread).held)
    (isHeld : request ∈ (Function.update stages thread stage other).held) :
    request ∈ (stages other).held := by
  by_cases own : other = thread
  · rw [own, Function.update_self] at isHeld
    rw [own]
    exact fewer request isHeld
  · rw [Function.update_of_ne own] at isHeld
    exact isHeld

/-- An entry is looked after as long as its own thread does not turn away. -/
theorem stillTended
    (tended : Tended registered opened touched stages before)
    {entry : UInt32 × Pending}
    (member : entry ∈ before.table)
    (keeps :
      (stages thread).own? = some entry.2.request →
      stage.own? = some entry.2.request) :
    (∃ other,
        (Function.update stages thread stage other).own? =
          some entry.2.request) ∨
      touched entry.2.request := by
  refine (tended.tended member).imp_left ?_
  rintro ⟨other, isOwn⟩
  refine exists_found_of_update _ isOwn fun own => ?_
  rw [own] at isOwn
  exact keeps isOwn

/-- What was given up still is, unless its own thread has cleared the table. -/
theorem stillLeft
    (tended : Tended registered opened touched stages before)
    {entry : UInt32 × Pending}
    (member : entry ∈ before.table)
    (claimed : before.IsClaimed entry.2.request)
    (keeps :
      (stages thread).gaveUp? = some entry.2.request →
      stage.gaveUp? = some entry.2.request) :
    (∃ other,
        (Function.update stages thread stage other).gaveUp? =
          some entry.2.request) ∨
      touched entry.2.request := by
  refine (tended.left member claimed).imp_left ?_
  rintro ⟨other, isGivenUp⟩
  refine exists_found_of_update _ isGivenUp fun own => ?_
  rw [own] at isGivenUp
  exact keeps isGivenUp

/-- What was opened is accounted for as long as its own thread does so. -/
theorem stillKept
    (tended : Tended registered opened touched stages before)
    {other : Thread}
    {request : Nat}
    (member : (other, request) ∈ opened)
    (goesOn : before.IsClaimed request → after.IsClaimed request)
    (ownKept :
      (stages thread).own? = some request →
      stage.own? = some request ∨
        request ∈ stage.held ∨ after.IsClaimed request)
    (heldKept :
      request ∈ (stages thread).held →
      request ∈ stage.held ∨ after.IsClaimed request) :
    (Function.update stages thread stage other).own? = some request ∨
      request ∈ (Function.update stages thread stage other).held ∨
        after.IsClaimed request := by
  have wasKept := tended.kept member
  by_cases own : other = thread
  · rw [own] at wasKept ⊢
    rw [Function.update_self]
    rcases wasKept with isOwn | isHeld | claimed
    · exact ownKept isOwn
    · exact .inr (heldKept isHeld)
    · exact .inr (.inr (goesOn claimed))
  · rw [Function.update_of_ne own]
    exact wasKept.imp_right (Or.imp_right goesOn)

/--
A step that opens, registers and claims nothing keeps the account: its thread
may only turn away from a request that is out of the table.
-/
theorem shrinks
    (tended : Tended registered opened touched stages before)
    (shrinks : before.Shrinks after)
    (empty : (stages thread).held = [])
    (opens : stage.opened? = none ∨ stage.opened? = (stages thread).opened?)
    (sends : stage.sent? = none ∨ stage.sent? = (stages thread).sent?)
    (owned : stage.own? = none ∨ stage.own? = (stages thread).own?)
    (givesUp : stage.gaveUp? = none ∨ stage.gaveUp? = (stages thread).gaveUp?)
    (holds : ∀ request ∈ stage.held,
      request ∈ registered.map (·.2.request) ∧
        ∀ entry ∈ after.table, entry.2.request ≠ request)
    (leaves : ∀ request,
      (stages thread).own? = some request →
      stage.own? = some request ∨
        (request ∈ stage.held ∨ before.IsClaimed request) ∧
          ∀ entry ∈ after.table,
            entry.2.request = request → touched request)
    (forgets : ∀ request,
      (stages thread).gaveUp? = some request →
      stage.gaveUp? = some request ∨
        ∀ entry ∈ after.table, entry.2.request ≠ request) :
    Tended registered opened touched (Function.update stages thread stage)
      after := by
  have sameLength := Nat.le_of_eq shrinks.sameLength.symm
  have sameClaims := shrinks.sameClaims
  have fewer := shrinks.fewer
  refine
    { tended.toFiled.fewer fewer sameLength,
      tended.toOpened.kept sameLength owned with
      fresh := ?fresh
      sent := fun isSent => tended.sent (found_of_update_kept _ sends isSent)
      held := ?held
      tended := ?tended
      left := ?left
      kept := ?kept
      givenUp := ?givenUp }
  case fresh =>
    intro other request isOpened
    rw [sameClaims]
    exact tended.fresh (found_of_update_kept _ opens isOpened)
  case givenUp =>
    intro other request isGivenUp
    rw [sameClaims]
    exact tended.givenUp (found_of_update_kept _ givesUp isGivenUp)
  case held =>
    intro other request isHeld
    by_cases own : other = thread
    · rw [own, Function.update_self] at isHeld
      exact holds request isHeld
    · rw [Function.update_of_ne own] at isHeld
      obtain ⟨isRegistered, absent⟩ := tended.held isHeld
      exact
        ⟨isRegistered, fun entry member => absent entry (fewer.subset member)⟩
  case tended =>
    intro entry member
    rcases tended.tended (fewer.subset member) with ⟨other, isOwn⟩ | byHand
    · by_cases own : other = thread
      · subst own
        rcases leaves _ isOwn with stays | ⟨-, handled⟩
        · exact .inl ⟨other, by rw [Function.update_self]; exact stays⟩
        · exact .inr (handled entry member rfl)
      · exact .inl ⟨other, by rw [Function.update_of_ne own]; exact isOwn⟩
    · exact .inr byHand
  case left =>
    intro entry member claimed
    rw [sameClaims] at claimed
    refine tended.stillLeft (fewer.subset member) claimed fun isGivenUp => ?_
    refine (forgets _ isGivenUp).resolve_right fun forgotten => ?_
    exact forgotten entry member rfl
  case kept =>
    intro other request member
    refine tended.stillKept member (sameClaims _).mpr ?_ ?_
    · intro isOwn
      rw [sameClaims]
      exact (leaves request isOwn).imp_right And.left
    · rw [empty]
      intro isHeld
      cases isHeld

theorem openRequest
    (tended : Tended registered opened touched stages before)
    {request : Request Wire.Response}
    (isFresh : request.IsFresh)
    (idle : stages thread = .holding []) :
    Tended registered (opened ++ [(thread, before.requests.length)]) touched
      (Function.update stages thread (.opened before.requests.length none))
      (Traffic.machine (.openRequest request) before).2 := by
  have sameClaims : ∀ index,
      (Traffic.machine (.openRequest request) before).2.IsClaimed index ↔
        before.IsClaimed index :=
    fun _ => Traffic.isClaimed_openRequest_iff isFresh
  have longer :
      before.requests.length ≤
        (Traffic.machine (.openRequest request) before).2.requests.length := by
    simp [Traffic.machine]
  have filed :
      Filed registered (Traffic.machine (.openRequest request) before).2 :=
    tended.toFiled.fewer (.refl _) longer
  refine
    { filed, tended.toOpened.openRequest request with
      fresh := ?fresh
      sent := fun isSent =>
        tended.sent (found_of_update_none _ rfl isSent).2
      held := fun isHeld =>
        tended.held (held_of_update (List.forall_mem_nil _) isHeld)
      tended := ?tended
      left := ?left
      kept := ?kept
      givenUp := ?givenUp }
  case givenUp =>
    intro other index isGivenUp
    rw [sameClaims]
    exact tended.givenUp (found_of_update_none _ rfl isGivenUp).2
  case fresh =>
    intro other index isOpened
    rw [sameClaims]
    rcases found_of_update _ isOpened with ⟨-, isNewest⟩ | ⟨-, wasOpened⟩
    · cases isNewest
      constructor
      · intro member
        obtain ⟨entry, isRegistered, isIndex⟩ := List.mem_map.mp member
        have bound := tended.known isRegistered
        omega
      · rintro ⟨_, isFound, -⟩
        have inside := (List.getElem?_eq_some_iff.mp isFound).1
        omega
    · exact tended.fresh wasOpened
  case tended =>
    intro entry member
    refine tended.stillTended member ?_
    rw [idle]
    intro isOwn
    cases isOwn
  case left =>
    intro entry member claimed
    rw [sameClaims] at claimed
    refine tended.stillLeft member claimed ?_
    rw [idle]
    intro isGivenUp
    cases isGivenUp
  case kept =>
    intro other index member
    rcases List.mem_append.mp member with isEarlier | isLast
    · refine tended.stillKept isEarlier (sameClaims _).mpr ?_ ?_
      · rw [idle]
        intro isOwn
        cases isOwn
      · rw [idle]
        intro isHeld
        cases isHeld
    · cases List.mem_singleton.mp isLast
      rw [Function.update_self]
      exact .inl rfl

theorem register
    (tended : Tended registered opened touched stages before)
    (number : UInt32)
    {given : Option UInt32}
    {entry : Pending}
    (isOwn : stages thread = .opened entry.request given) :
    Tended (registered ++ [(number, entry)]) opened touched
      (Function.update stages thread (.sending number entry))
      (Traffic.machine (.register number entry) before).2 := by
  have wasOpened : (stages thread).opened? = some entry.request := by
    rw [isOwn]
    rfl
  have wasOwn := Stage.own?_of_opened? wasOpened
  obtain ⟨unregistered, byHand⟩ := tended.fresh wasOpened
  have inside := tended.openedKnown (tended.owns wasOwn)
  have stillOwn :
      (Stage.sending number entry).own? = (stages thread).own? := by
    rw [isOwn]
    rfl
  have stillOpened :
      Opened opened (Function.update stages thread (.sending number entry))
        (Traffic.machine (.register number entry) before).2 :=
    tended.toOpened.kept (Nat.le_refl _) (.inr stillOwn)
  refine
    { tended.toFiled.register inside unregistered, stillOpened with
      fresh := ?fresh
      sent := ?sent
      held := ?held
      tended := ?tended
      left := ?left
      kept := ?kept
      givenUp := fun isGivenUp =>
        tended.givenUp (found_of_update_none _ rfl isGivenUp).2 }
  case fresh =>
    intro other request isOpened
    obtain ⟨differs, isBefore⟩ := found_of_update_none _ rfl isOpened
    obtain ⟨otherUnregistered, otherByHand⟩ := tended.fresh isBefore
    refine ⟨?_, otherByHand⟩
    rw [List.map_append, List.mem_append]
    rintro (isEarlier | isLast)
    · exact otherUnregistered isEarlier
    · have same : request = entry.request := List.mem_singleton.mp isLast
      rw [same] at isBefore
      exact differs (tended.apart (Stage.own?_of_opened? isBefore) wasOwn)
  case sent =>
    intro other otherNumber otherEntry isSent
    rcases found_of_update _ isSent with ⟨-, isNew⟩ | ⟨-, wasSent⟩
    · cases isNew
      exact List.mem_concat_self
    · exact List.mem_append_left _ (tended.sent wasSent)
  case held =>
    intro other request isHeld
    obtain ⟨isRegistered, absent⟩ :=
      tended.held (held_of_update (List.forall_mem_nil _) isHeld)
    constructor
    · rw [List.map_append]
      exact List.mem_append_left _ isRegistered
    · intro filed member
      rcases KeyedList.mem_insert member with isNew | isOld
      · rw [isNew]
        rintro rfl
        exact unregistered isRegistered
      · exact absent filed isOld
  case tended =>
    intro filed member
    rcases KeyedList.mem_insert member with isNew | isOld
    · rw [isNew]
      exact .inl ⟨thread, by rw [Function.update_self]; rfl⟩
    · exact tended.stillTended isOld stillOwn.trans
  case left =>
    intro filed member claimed
    rcases KeyedList.mem_insert member with isNew | isOld
    · rw [isNew] at claimed ⊢
      exact .inr (byHand claimed)
    · refine tended.stillLeft isOld claimed ?_
      rw [isOwn]
      intro isGivenUp
      cases isGivenUp
  case kept =>
    intro other request member
    refine
      tended.stillKept member id (fun wasOwn => .inl (stillOwn.trans wasOwn)) ?_
    rw [isOwn]
    intro isHeld
    cases isHeld

/--
Claiming a request keeps the account, when the request was held, or is given up
by its thread, or is touched.
-/
theorem claim
    (tended : Tended registered opened touched stages before)
    {index : Nat}
    (claims : before.Claims index after)
    (opens : (stages thread).opened? = none ∧ stage.opened? = none)
    (sends : stage.sent? = none)
    (owned : stage.own? = (stages thread).own?)
    (forgets : (stages thread).gaveUp? = none)
    (fewer : ∀ request ∈ stage.held, request ∈ (stages thread).held)
    (completes : ∀ request ∈ (stages thread).held,
      request = index ∨ request ∈ stage.held)
    (may :
      index ∈ (stages thread).held ∨
        ((stages thread).own? = some index ∧ stage.gaveUp? = some index) ∨
        touched index)
    (givesUp : ∀ request,
      stage.gaveUp? = some request →
      request = index ∧ (stages thread).own? = some index) :
    Tended registered opened touched (Function.update stages thread stage)
      after := by
  have sameTable := claims.sameTable
  have fewerEntries : after.table.Sublist before.table := by
    rw [sameTable]
  have longer := Nat.le_of_eq claims.sameLength.symm
  refine
    { tended.toFiled.fewer fewerEntries longer,
      tended.toOpened.kept longer (.inr owned) with
      fresh := ?fresh
      sent := fun isSent =>
        tended.sent (found_of_update_none _ sends isSent).2
      held := ?held
      tended := ?tended
      left := ?left
      kept := ?kept
      givenUp := ?givenUp }
  case givenUp =>
    intro other request isGivenUp
    rcases found_of_update _ isGivenUp with ⟨-, isNew⟩ | ⟨-, wasGivenUp⟩
    · obtain ⟨rfl, isOwn⟩ := givesUp request isNew
      have inside := tended.openedKnown (tended.owns isOwn)
      exact (claims.claims _).mpr (.inr ⟨rfl, inside⟩)
    · exact (claims.claims _).mpr (.inl (tended.givenUp wasGivenUp))
  case fresh =>
    intro other request isOpened
    obtain ⟨differs, wasOpened⟩ := found_of_update_none _ opens.2 isOpened
    obtain ⟨unregistered, byHand⟩ := tended.fresh wasOpened
    refine ⟨unregistered, fun claimed => ?_⟩
    rcases (claims.claims request).mp claimed with wasClaimed | ⟨isIndex, -⟩
    · exact byHand wasClaimed
    · subst isIndex
      rcases may with isHeld | ⟨isOwn, -⟩ | handled
      · exact (unregistered (tended.held isHeld).1).elim
      · have otherOwn := Stage.own?_of_opened? wasOpened
        exact (differs (tended.apart otherOwn isOwn)).elim
      · exact handled
  case held =>
    intro other request isHeld
    rw [sameTable]
    exact tended.held (held_of_update fewer isHeld)
  case tended =>
    intro entry member
    rw [sameTable] at member
    exact tended.stillTended member owned.trans
  case left =>
    intro entry member claimed
    rw [sameTable] at member
    rcases (claims.claims _).mp claimed with wasClaimed | ⟨isIndex, -⟩
    · refine tended.stillLeft member wasClaimed ?_
      rw [forgets]
      intro isGivenUp
      cases isGivenUp
    · rw [isIndex]
      rcases may with isHeld | ⟨-, isGivenUp⟩ | handled
      · exact ((tended.held isHeld).2 entry member isIndex).elim
      · exact .inl ⟨thread, by rw [Function.update_self]; exact isGivenUp⟩
      · exact .inr handled
  case kept =>
    intro other request member
    refine
      tended.stillKept member
        (fun claimed => (claims.claims _).mpr (.inl claimed))
        (fun isOwn => .inl (owned.trans isOwn)) ?_
    intro isHeld
    rcases completes request isHeld with isIndex | stillHeld
    · have inside := tended.openedKnown member
      rw [isIndex] at inside ⊢
      exact .inr ((claims.claims _).mpr (.inr ⟨rfl, inside⟩))
    · exact .inl stillHeld

omit [DecidableEq Thread] in
/-- A claimed request that is not given up is in the table by hand only. -/
theorem touched_of_claimed
    (tended : Tended registered opened touched stages before)
    {request : Nat}
    (isOwn : (stages thread).own? = some request)
    (notGivenUp : (stages thread).gaveUp? = none)
    (claimed : before.IsClaimed request)
    {entry : UInt32 × Pending}
    (member : entry ∈ before.table)
    (isRequest : entry.2.request = request) :
    touched request := by
  subst isRequest
  rcases tended.left member claimed with ⟨other, isGivenUp⟩ | handled
  · have otherOwn := Stage.own?_of_gaveUp? isGivenUp
    rw [tended.apart otherOwn isOwn, notGivenUp] at isGivenUp
    cases isGivenUp
  · exact handled

omit [DecidableEq Thread] in
/-- When entries leave the table and nobody moves, the account is kept. -/
theorem remains
    (tended : Tended registered opened touched stages before)
    (shrinks : before.Shrinks after) :
    Tended registered opened touched stages after where
  toFiled :=
    tended.toFiled.fewer shrinks.fewer (Nat.le_of_eq shrinks.sameLength.symm)
  openedOnce := tended.openedOnce
  openedKnown member := by
    rw [shrinks.sameLength]
    exact tended.openedKnown member
  owns := tended.owns
  fresh isOpened := by
    rw [shrinks.sameClaims]
    exact tended.fresh isOpened
  sent := tended.sent
  held isHeld :=
    (tended.held isHeld).imp_right fun absent entry member =>
      absent entry (shrinks.fewer.subset member)
  tended member := tended.tended (shrinks.fewer.subset member)
  left member claimed :=
    tended.left (shrinks.fewer.subset member)
      ((shrinks.sameClaims _).mp claimed)
  kept member := by
    rw [shrinks.sameClaims]
    exact tended.kept member
  givenUp isGivenUp := (shrinks.sameClaims _).mpr (tended.givenUp isGivenUp)

/-- A thread that goes on as it was keeps the account. -/
theorem stays
    (tended : Tended registered opened touched stages before)
    (isStage : stages thread = stage)
    (shrinks : before.Shrinks after) :
    Tended registered opened touched (Function.update stages thread stage)
      after := by
  subst isStage
  rw [Function.update_eq_self]
  exact tended.remains shrinks

/-- A thread that gets a number for its request keeps the account. -/
theorem numbered
    (tended : Tended registered opened touched stages before)
    (shrinks : before.Shrinks after)
    {request : Nat}
    (isStage : stages thread = .opened request none)
    (number : UInt32) :
    Tended registered opened touched
      (Function.update stages thread (.opened request (some number)))
      after := by
  have stillOwn :
      (Stage.opened request (some number)).own? = (stages thread).own? := by
    rw [isStage]
    rfl
  have stillOpened :
      (Stage.opened request (some number)).opened? =
        (stages thread).opened? := by
    rw [isStage]
    rfl
  refine
    tended.shrinks shrinks (by rw [isStage]; rfl) (.inr stillOpened) (.inl rfl)
      (.inr stillOwn) (.inl rfl) (List.forall_mem_nil _)
      (fun _ isOwn => .inl (stillOwn.trans isOwn)) ?_
  rw [isStage]
  exact nofun

/-- A thread turns away from its request when this is claimed. -/
theorem answered
    (tended : Tended registered opened touched stages before)
    {request : Nat}
    (waits : stages thread = .waiting request)
    (claimed : before.IsClaimed request) :
    Tended registered opened touched
      (Function.update stages thread (.holding [])) before := by
  have isOwn : (stages thread).own? = some request := by
    rw [waits]
    rfl
  have notGivenUp : (stages thread).gaveUp? = none := by
    rw [waits]
    rfl
  refine
    tended.shrinks (.of_same rfl (.refl _)) (by rw [waits]; rfl) (.inl rfl)
      (.inl rfl) (.inl rfl) (.inl rfl) (List.forall_mem_nil _) ?_ ?_
  · intro other otherOwn
    cases isOwn.symm.trans otherOwn
    refine .inr ⟨.inr claimed, fun entry member isRequest => ?_⟩
    exact
      tended.touched_of_claimed isOwn notGivenUp claimed member isRequest
  · rw [notGivenUp]
    exact nofun

/-- What is taken out of the table is held by the thread that takes it. -/
theorem take
    (tended : Tended registered opened touched stages before)
    (idle : stages thread = .holding [])
    (isTaking : call.IsTaking)
    (answered : semantics call before answer after) :
    Tended registered opened touched
      (Function.update stages thread
        (.holding ((takenIn call answer).map Pending.request)))
      after := by
  have leaves := Traffic.Leaves.take tended.ordered isTaking answered
  have once :
      ((before.table.map Prod.snd).map Pending.request ++ []).Nodup := by
    rw [List.append_nil, List.map_map]
    exact tended.tableOnce
  have apart := List.nodup_append.mp (nodup_of_moved leaves.moved once)
  refine
    tended.shrinks (.of_same leaves.sameRequests leaves.fewer)
      (by rw [idle]; rfl) (.inl rfl) (.inl rfl) (.inl rfl) (.inl rfl) ?_ ?_ ?_
  · intro request isHeld
    obtain ⟨taken, isTaken, isRequest⟩ := List.mem_map.mp isHeld
    constructor
    · have wasFiled :=
        List.Subperm.subset leaves.moved (List.mem_append_right _ isTaken)
      obtain ⟨entry, inTable, isEntry⟩ := List.mem_map.mp wasFiled
      refine List.mem_map.mpr ⟨entry, tended.inTable inTable, ?_⟩
      rw [isEntry]
      exact isRequest
    · intro entry member same
      have inTable :
          entry.2.request ∈
            (after.table.map Prod.snd).map Pending.request := by
        rw [List.map_map]
        exact List.mem_map.mpr ⟨entry, member, rfl⟩
      exact apart.2.2 _ inTable request isHeld same
  · rw [idle]
    exact nofun
  · rw [idle]
    exact nofun

/-- A thread whose frame was refused takes its own entry out of the table. -/
theorem retract
    (tended : Tended registered opened touched stages before)
    {number : UInt32}
    {entry : Pending}
    (fails : stages thread = .failing number entry) :
    Tended registered opened touched
      (Function.update stages thread (.holding [entry.request]))
      (Traffic.machine (.takeEntry number) before).2 := by
  have isSent : (stages thread).sent? = some (number, entry) := by
    rw [fails]
    rfl
  have isRegistered := tended.sent isSent
  have absent : ∀ other ∈ KeyedList.erase number before.table,
      other.2.request ≠ entry.request := by
    intro other member isRequest
    obtain ⟨inTable, otherNumber⟩ := KeyedList.mem_erase.mp member
    have same :=
      tended.eq_of_request_eq (tended.inTable inTable) isRegistered isRequest
    exact otherNumber (congrArg Prod.fst same)
  refine
    tended.shrinks (.of_same rfl (KeyedList.erase_sublist number before.table))
      (by rw [fails]; rfl) (.inl rfl) (.inl rfl) (.inl rfl) (.inl rfl) ?_ ?_
      ?_
  · intro request isHeld
    rw [List.mem_singleton.mp isHeld]
    exact ⟨List.mem_map.mpr ⟨_, isRegistered, rfl⟩, absent⟩
  · intro request isOwn
    rw [fails] at isOwn
    cases isOwn
    refine .inr ⟨.inl (List.mem_singleton.mpr rfl), ?_⟩
    exact fun other member isRequest => (absent other member isRequest).elim
  · rw [fails]
    exact nofun

/-- A thread that has given its request up goes on once the table is clear. -/
theorem forget
    (tended : Tended registered opened touched stages before)
    (shrinks : before.Shrinks after)
    {request : Nat}
    (gaveUp : stages thread = .gaveUp request)
    (cleared : ∀ entry ∈ after.table, entry.2.request ≠ request) :
    Tended registered opened touched
      (Function.update stages thread (.waiting request)) after := by
  have stillOwn :
      (Stage.waiting request).own? = (stages thread).own? := by
    rw [gaveUp]
    rfl
  refine
    tended.shrinks shrinks (by rw [gaveUp]; rfl) (.inl rfl) (.inl rfl)
      (.inr stillOwn) (.inl rfl) (List.forall_mem_nil _)
      (fun _ isOwn => .inl (stillOwn.trans isOwn)) ?_
  intro other isGivenUp
  rw [gaveUp] at isGivenUp
  cases isGivenUp
  exact .inr cleared

/--
A thread that clears the table keeps the account, when it has cleared the table
of the request that it has given up.
-/
theorem clear
    {work : Work}
    (tended : Tended registered opened touched stages before)
    (shrinks : before.Shrinks after)
    (next :
      (stages thread).Next client work (.table .dropCompleted) () stage)
    (cleared : ∀ request,
      (stages thread).gaveUp? = some request →
      ∀ entry ∈ after.table, entry.2.request ≠ request) :
    Tended registered opened touched (Function.update stages thread stage)
      after := by
  generalize isStage : stages thread = earlier at next
  cases next with
  | idle => exact tended.stays isStage shrinks
  | take isTaking => exact isTaking.elim
  | forget =>
      refine tended.forget shrinks isStage (cleared _ ?_)
      rw [isStage]
      rfl

/-- A thread whose frame is sent or refused still looks after its request. -/
theorem afterSending
    (tended : Tended registered opened touched stages before)
    {number : UInt32}
    {entry : Pending}
    (sends : stages thread = .sending number entry)
    (isOwn : stage.own? = some entry.request)
    (empty : stage.held = [])
    (notOpened : stage.opened? = none)
    (sent : stage.sent? = none ∨ stage.sent? = some (number, entry))
    (notGivenUp : stage.gaveUp? = none) :
    Tended registered opened touched (Function.update stages thread stage)
      before := by
  have stillOwn : stage.own? = (stages thread).own? := by
    rw [sends]
    exact isOwn
  refine
    tended.shrinks (.of_same rfl (.refl _)) (by rw [sends]; rfl)
      (.inl notOpened) ?_ (.inr stillOwn) (.inl notGivenUp) ?_
      (fun _ wasOwn => .inl (stillOwn.trans wasOwn)) ?_
  · rw [sends]
    exact sent
  · rw [empty]
    exact List.forall_mem_nil _
  · rw [sends]
    exact nofun

/--
A thread that completes a request claims it or comes too late. A request that is
completed by hand is touched.
-/
theorem complete
    {work : Work}
    {index : Nat}
    {outcome : Request.Outcome Wire.Response}
    {won : Bool}
    (tended : Tended registered opened touched stages before)
    (next :
      (stages thread).Next client work (.table (.complete index outcome)) won
        stage)
    (claims : before.Claims index after)
    (lost : won = false → before.Shrinks after)
    (touches : won = true → work.handled? = some index → touched index) :
    Tended registered opened touched (Function.update stages thread stage)
      after := by
  generalize isStage : stages thread = earlier at next
  cases next with
  | idle isIdle => exact isIdle.elim
  | take isTaking => exact isTaking.elim
  | complete =>
      refine
        tended.claim claims (by rw [isStage]; exact ⟨rfl, rfl⟩) rfl
          (by rw [isStage]; rfl) (by rw [isStage]; rfl) ?_ ?_ (.inl ?_) nofun
      · rw [isStage]
        exact fun request => List.mem_cons_of_mem index
      · rw [isStage]
        exact fun request => List.mem_cons.mp
      · rw [isStage]
        exact List.mem_cons_self
  | byHand isHandled =>
      cases won with
      | false => exact tended.stays isStage (lost rfl)
      | true =>
          refine
            tended.claim claims (by rw [isStage]; exact ⟨rfl, rfl⟩) rfl
              (by rw [isStage]) (by rw [isStage]; rfl) (List.forall_mem_nil _)
              ?_ (.inr (.inr (touches rfl isHandled))) nofun
          rw [isStage]
          exact List.forall_mem_nil _
  | late => exact tended.stays isStage (lost rfl)
  | gaveUp =>
      have isOwn : (stages thread).own? = some index := by
        rw [isStage]
        rfl
      refine
        tended.claim claims (by rw [isStage]; exact ⟨rfl, rfl⟩) rfl isOwn.symm
          (by rw [isStage]; rfl) (List.forall_mem_nil _) ?_
          (.inr (.inl ⟨isOwn, rfl⟩)) ?_
      · rw [isStage]
        exact List.forall_mem_nil _
      · rintro request ⟨⟩
        exact ⟨rfl, isOwn⟩

/--
A call that neither completes requests nor clears the table of them keeps the
account, whatever it is answered.
-/
theorem turn
    {work : Work}
    (tended : Tended registered opened touched stages before)
    (keeps : before.KeepsOutcomes)
    (next : (stages thread).Next client work call answer stage)
    (isPlain : call.isPlain)
    (answered : semantics call before answer after) :
    Tended (registered ++ (registeredIn call).toList)
      (opened ++ ((openedIn call answer).map (thread, ·)).toList) touched
      (Function.update stages thread stage) after := by
  have alike : before.Shrinks before := .of_same rfl (.refl _)
  generalize isStage : stages thread = earlier at next
  cases next with
  | openRequest isFresh =>
      obtain ⟨rfl, rfl⟩ := semantics_table answered
      have kept := tended.openRequest isFresh isStage
      rw [← List.append_nil registered] at kept
      exact kept
  | @register number entry isRouted =>
      obtain ⟨-, rfl⟩ := semantics_table answered
      have kept := tended.register number isStage
      rw [← List.append_nil opened] at kept
      exact kept
  | idle isIdle =>
      obtain ⟨registers, opens⟩ := isIdle.plain answer
      have shrinks : before.Shrinks after :=
        .of_same (isIdle.sameRequests answered) (table_step answered registers)
      simpa [registers, opens] using tended.stays isStage shrinks
  | take isTaking =>
      simpa [isTaking.plain.2, isTaking.opens_nothing answer] using
        tended.take isStage isTaking answered
  | @takeCorrelation request number =>
      obtain ⟨-, rfl⟩ := semantics_table answered
      have counted :
          before.Shrinks (Traffic.machine .takeCorrelation before).2 :=
        .of_same rfl (.refl _)
      have kept := tended.numbered counted isStage number
      rw [← List.append_nil registered, ← List.append_nil opened] at kept
      exact kept
  | sent =>
      have same : after = before := answered
      subst same
      simpa [registeredIn, openedIn] using
        tended.afterSending isStage rfl rfl rfl (.inl rfl) rfl
  | refused =>
      have same : after = before := answered
      subst same
      simpa [registeredIn, openedIn] using
        tended.afterSending isStage rfl rfl rfl (.inr rfl) rfl
  | retract =>
      obtain ⟨-, rfl⟩ := semantics_table answered
      have kept := tended.retract isStage
      rw [← List.append_nil registered, ← List.append_nil opened] at kept
      exact kept
  | look =>
      cases answered
      simpa [registeredIn, openedIn] using tended.stays isStage alike
  | unanswered =>
      obtain ⟨rfl, -⟩ := answered
      simpa [registeredIn, openedIn] using tended.stays isStage alike
  | answered =>
      obtain ⟨rfl, isOutcome⟩ := answered
      have claimed := keeps _ _ (isOutcome _ rfl)
      simpa [registeredIn, openedIn] using tended.answered isStage claimed
  | awaited =>
      obtain ⟨rfl, isOutcome⟩ := answered
      simpa [registeredIn, openedIn] using
        tended.answered isStage (keeps _ _ isOutcome)
  | complete | byHand | gaveUp | late | forget => cases isPlain

/-- A call that completes a request in one step keeps the account, and so on. -/
theorem step
    {work : Work}
    (tended : Tended registered opened touched stages before)
    (settled : before.IsSettled)
    (next : (stages thread).Next client work call answer stage)
    (answered : semantics call before answer after)
    (touches : ∀ index outcome,
      (⟨call, answer⟩ : Exchange interface) =
        ⟨.table (.complete index outcome), true⟩ →
      work.handled? = some index →
      touched index) :
    Tended (registered ++ (registeredIn call).toList)
      (opened ++ ((openedIn call answer).map (thread, ·)).toList) touched
      (Function.update stages thread stage) after := by
  cases isPlain : call.isPlain with
  | true => exact tended.turn settled.keepsOutcomes next isPlain answered
  | false =>
      rcases Call.of_not_isPlain isPlain with ⟨index, outcome, rfl⟩ | rfl
      · obtain ⟨isAnswer, rfl⟩ := semantics_table answered
        have claims := settled.claims_complete index outcome
        have kept : Tended registered opened touched
            (Function.update stages thread stage)
            (before.complete index outcome).2 := by
          refine tended.complete next claims ?_ ?_
          · intro lost
            have same := settled.complete_of_lost (isAnswer.symm.trans lost)
            refine .of_same same ?_
            rw [claims.sameTable]
          · rintro rfl isHandled
            exact touches index outcome rfl isHandled
        rw [← List.append_nil registered, ← List.append_nil opened] at kept
        exact kept
      · obtain ⟨-, rfl⟩ := semantics_table answered
        have shrinks :
            before.Shrinks (Traffic.machine .dropCompleted before).2 :=
          .of_same rfl List.filter_sublist
        have kept := tended.clear shrinks next fun request isGivenUp => by
          rintro entry member rfl
          have completed :=
            settled.isClaimed_iff.mp (tended.givenUp isGivenUp)
          have incomplete : (!before.isCompleted entry.2) = true :=
            (List.mem_filter.mp member).2
          rw [Traffic.isCompleted_iff.mpr completed] at incomplete
          cases incomplete
        rw [← List.append_nil registered, ← List.append_nil opened] at kept
        exact kept

end Tended

/-! The account of a run in which a completion is one step. -/

namespace ClientRun

variable {history : ClientHistory Thread}
variable {current : Thread → Program interface Ending} {final : Traffic}

/-- What is left of a work still looks after its requests. -/
theorem exists_tends
    (run :
      ClientRun (fun thread => (works thread).program client) .empty history
        current final)
    (thread : Thread) :
    ∃ stage, Tends client (works thread) stage (current thread) := by
  obtain ⟨stage, tends, -⟩ :=
    (tends_program client (works thread)).left (run.follows thread)
  exact ⟨stage, tends⟩

/-- Between two steps nobody is in the middle of completing a request. -/
theorem settled
    (run :
      ClientRun (fun thread => (works thread).program client) .empty history
        current final) :
    final.IsSettled := by
  induction run with
  | start => exact fun _ _ found => nomatch found
  | @turn history current before after thread call next answer run due answered
      inductionHypothesis =>
      obtain ⟨stage, tends⟩ := exists_tends run thread
      rw [due] at tends
      exact inductionHypothesis.step tends answered
  | outside _ change => exact change.elim

/-- In every run of works the account is kept. -/
theorem tended
    (run :
      ClientRun (fun thread => (works thread).program client) .empty history
        current final) :
    ∃ stages,
      (∀ thread,
        Tends client (works thread) (stages thread) (current thread)) ∧
        Tended (registrations history) (openings history)
          (WasHandled works history) stages final := by
  induction run with
  | start =>
      exact
        ⟨fun _ => .holding [],
          fun thread => tends_program client (works thread), .empty _⟩
  | @turn history current before after thread call next answer run due answered
      inductionHypothesis =>
      obtain ⟨stages, tends, tended⟩ := inductionHypothesis
      have tendsNow := tends thread
      rw [due] at tendsNow
      obtain ⟨stage, moves, goesOn⟩ := tendsNow.next answer
      refine ⟨Function.update stages thread stage, ?_, ?_⟩
      · exact
          (Function.forall_update_iff stages fun other stage =>
            Tends client (works other) stage
              (Function.update current thread (next answer) other)).mpr
            ⟨by rw [Function.update_self]; exact goesOn,
              fun other notOwn => by
                rw [Function.update_of_ne notOwn]
                exact tends other⟩
      · rw [registrations_concat, openings_concat]
        have grown :=
          tended.mono fun _ handled =>
            handled.append [.turn thread call answer before after]
        refine grown.step (settled run) moves answered ?_
        rintro index outcome ⟨⟩ isHandled
        exact
          ⟨thread, outcome, before, after, isHandled, List.mem_concat_self⟩
  | outside _ change => exact change.elim

end ClientRun

end ClusterClient.Client
