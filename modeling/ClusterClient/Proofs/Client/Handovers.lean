import ClusterClient.Proofs.Client.Duties
import ClusterClient.Proofs.KeyOrder
import Mathlib.Algebra.Group.Nat.Defs
import Mathlib.Data.List.Perm.Subperm

namespace ClusterClient.Client

/-!
# What passes from hand to hand

The history of a client tells which numbers it gave out, which entries were
registered under them, and which entries each thread took out of the table. A
step that opens and registers nothing lets entries leave the table only into the
hands of the one who takes the step, or because their requests are completed;
`Traffic.Leaves` says so, and the main statements are that every such step does.
-/

variable {Thread : Type}

/-- A moment of a client. -/
abbrev ClientMoment (Thread : Type) := Moment interface Thread Traffic

/-- What happened to a client. -/
abbrev ClientHistory (Thread : Type) := History interface Thread Traffic

/-- The entry that a call registers. -/
def registeredIn : Call → Option (UInt32 × Pending)
  | .table (.register number entry) => some (number, entry)
  | _ => none

/-- The call takes a number. -/
def takesNumber : Call → Bool
  | .table .takeCorrelation => true
  | _ => false

theorem Call.IsTaking.plain
    {call : Call}
    (isTaking : call.IsTaking) :
    takesNumber call = false ∧ registeredIn call = none := by
  cases call with
  | table call => cases call <;> first | exact ⟨rfl, rfl⟩ | exact isTaking.elim
  | _ => exact isTaking.elim

theorem Call.IsQuiet.plain
    {call : Call}
    (isQuiet : call.IsQuiet)
    (answer : call.Answer) :
    takesNumber call = false ∧
      registeredIn call = none ∧ takenIn call answer = [] := by
  cases call with
  | table call =>
      cases call <;> first | exact ⟨rfl, rfl, rfl⟩ | exact isQuiet.elim
  | _ => exact ⟨rfl, rfl, rfl⟩

/-- The entry that was registered in a moment. -/
def registration? : ClientMoment Thread → Option (UInt32 × Pending)
  | .turn _ call _ _ _ => registeredIn call
  | .outside .. => none

/-- The entries that a thread took out of the table in a moment. -/
def takingsIn : ClientMoment Thread → List (Thread × Pending)
  | .turn thread call answer _ _ => (takenIn call answer).map (thread, ·)
  | .outside .. => []

/-- A number was given out in a moment. -/
def givesNumber : ClientMoment Thread → Bool
  | .turn _ call _ _ _ => takesNumber call
  | .outside .. => false

/-- The entries that were registered, under their numbers. -/
def registrations (history : ClientHistory Thread) : List (UInt32 × Pending) :=
  history.filterMap registration?

/-- The entries that were taken out of the table, each with who took it. -/
def takings (history : ClientHistory Thread) : List (Thread × Pending) :=
  history.flatMap takingsIn

/-- The number of correlation numbers that were given out. -/
def numbersGiven (history : ClientHistory Thread) : Nat :=
  history.countP givesNumber

theorem mem_takings_append
    {taking : Thread × Pending}
    {history : ClientHistory Thread}
    (member : taking ∈ takings history)
    (later : ClientHistory Thread) : taking ∈ takings (history ++ later) := by
  rw [takings, List.flatMap_append]
  exact List.mem_append_left _ member

section Concat

variable (history : ClientHistory Thread) (thread : Thread) (call : Call)
variable (answer : call.Answer) (before after : Traffic)

@[simp] theorem registrations_concat :
    registrations (history ++ [.turn thread call answer before after]) =
      registrations history ++ (registeredIn call).toList := by
  simp only [registrations, List.filterMap_append]
  cases registered : registeredIn call <;>
    simp [registration?, registered]

@[simp] theorem takings_concat :
    takings (history ++ [.turn thread call answer before after]) =
      takings history ++ (takenIn call answer).map (thread, ·) := by
  simp [takings, takingsIn]

@[simp] theorem numbersGiven_concat :
    numbersGiven (history ++ [.turn thread call answer before after]) =
      numbersGiven history + if takesNumber call then 1 else 0 := by
  simp only [numbersGiven, List.countP_append]
  cases takes : takesNumber call <;> simp [givesNumber, takes]

end Concat

/--
Entries leave the table into the hands of the one who takes the step, or because
their requests are completed.
-/
structure Traffic.Moves
    (before : Traffic)
    (taken : List Pending)
    (after : Traffic) : Prop where
  fewer : after.table.Sublist before.table
  moved :
    (after.table.map Prod.snd ++ taken).Subperm (before.table.map Prod.snd)
  kept : ∀ {entry},
    entry ∈ before.table.map Prod.snd →
    entry ∈ after.table.map Prod.snd ∨
      entry ∈ taken ∨ before.isCompleted entry

/-- Entries leave the table, and the requests and the next number stay. -/
structure Traffic.Leaves
    (before : Traffic)
    (taken : List Pending)
    (after : Traffic) : Prop extends before.Moves taken after where
  sameRequests : after.requests = before.requests
  sameNext : after.nextCorrelation = before.nextCorrelation

namespace Traffic

/-- Entries that are taken go into the hands of the one who takes them. -/
theorem Moves.ofPerm
    {before after : Traffic}
    {taken : List Pending}
    (fewer : after.table.Sublist before.table)
    (moved :
      (after.table.map Prod.snd ++ taken).Perm
        (before.table.map Prod.snd)) :
    before.Moves taken after where
  fewer := fewer
  moved := moved.subperm
  kept member := by
    rcases List.mem_append.mp (moved.mem_iff.mpr member) with stays | isTaken
    · exact .inl stays
    · exact .inr (.inl isTaken)

theorem Moves.ofSame
    {before after : Traffic}
    (sameTable : after.table = before.table) : before.Moves [] after := by
  apply Moves.ofPerm
  · rw [sameTable]
  · rw [sameTable, List.append_nil]

theorem Moves.dropCompleted (traffic : Traffic) :
    traffic.Moves [] (traffic.machine .dropCompleted).2 where
  fewer := List.filter_sublist
  moved := by
    rw [List.append_nil]
    exact (List.filter_sublist.map Prod.snd).subperm
  kept member := by
    obtain ⟨⟨number, entry⟩, inTable, isEntry⟩ := List.mem_map.mp member
    simp only at isEntry
    subst isEntry
    cases completed : traffic.isCompleted entry with
    | true => exact .inr (.inr rfl)
    | false =>
        refine .inl (List.mem_map.mpr ⟨(number, entry), ?_, rfl⟩)
        exact List.mem_filter.mpr ⟨inTable, by simp [completed]⟩

/-- What expiry takes and what it leaves make up the table. -/
theorem takeExpired_perm (traffic : Traffic) (now : Instant) :
    ((traffic.machine (.takeExpired now)).2.table.map Prod.snd ++
        traffic.entriesWhere (traffic.isExpired now)).Perm
      (traffic.table.map Prod.snd) := by
  have kept :
      (traffic.table.filter
          fun entry => !traffic.isExpired now entry.2).map Prod.snd =
        (traffic.table.map Prod.snd).filter
          fun entry => !traffic.isExpired now entry := by
    rw [List.filter_map]
    rfl
  change
    (List.map Prod.snd (traffic.table.filter _) ++
      traffic.entriesWhere (traffic.isExpired now)).Perm _
  rw [kept]
  exact
    List.perm_append_comm.trans
      (List.filter_append_perm (traffic.isExpired now) _)

theorem Moves.takeExpired (traffic : Traffic) (now : Instant) :
    traffic.Moves (traffic.entriesWhere (traffic.isExpired now))
      (traffic.machine (.takeExpired now)).2 :=
  .ofPerm List.filter_sublist (takeExpired_perm traffic now)

/-- A call that takes entries out of the table hands them over. -/
theorem Leaves.take
    {call : Call}
    {answer : call.Answer}
    {before after : Traffic}
    (ordered : KeyedList.IsOrdered before.table)
    (isTaking : call.IsTaking)
    (answered : semantics call before answer after) :
    before.Leaves (takenIn call answer) after := by
  cases call with
  | table call =>
      have isAfter : after = (Traffic.machine call before).2 :=
        (congrArg Prod.snd answered).symm
      have isAnswer : answer = (Traffic.machine call before).1 :=
        (congrArg Prod.fst answered).symm
      subst isAfter isAnswer
      cases call with
      | takeEntry number =>
          have moves :
              before.Moves (KeyedList.find? number before.table).toList
                (before.machine (.takeEntry number)).2 :=
            .ofPerm (KeyedList.erase_sublist number before.table)
              (ordered.erase_perm number)
          exact ⟨moves, rfl, rfl⟩
      | takeExpired now => exact ⟨.takeExpired before now, rfl, rfl⟩
      | takeAll =>
          have moves :
              before.Moves (before.table.map Prod.snd)
                (before.machine .takeAll).2 :=
            .ofPerm (List.nil_sublist _) (.refl _)
          exact ⟨moves, rfl, rfl⟩
      | newContext | openRequest | takeCorrelation | register | dropCompleted
      | complete => exact isTaking.elim
  | readClock | send | awaitUntil | awaitForever | sleep | allowance
  | never => exact isTaking.elim

/-- A quiet call other than a completion hands nothing over. -/
theorem Leaves.quiet
    {call : Call}
    {answer : call.Answer}
    {before after : Traffic}
    (isQuiet : call.IsQuiet)
    (noCompletion : ∀ request outcome, call ≠ .table (.complete request outcome))
    (answered : semantics call before answer after) :
    before.Leaves (takenIn call answer) after := by
  cases call with
  | table call =>
      have isAfter : after = (Traffic.machine call before).2 :=
        (congrArg Prod.snd answered).symm
      subst isAfter
      cases call with
      | newContext operation target => exact ⟨.ofSame rfl, rfl, rfl⟩
      | dropCompleted => exact ⟨.dropCompleted before, rfl, rfl⟩
      | complete request outcome =>
          exact absurd rfl (noCompletion request outcome)
      | openRequest | takeCorrelation | register | takeEntry | takeExpired
      | takeAll => exact isQuiet.elim
  | readClock | send | sleep | allowance =>
      cases answered
      exact ⟨.ofSame rfl, rfl, rfl⟩
  | awaitUntil | awaitForever =>
      cases answered.1
      exact ⟨.ofSame rfl, rfl, rfl⟩
  | never => exact nomatch answer

end Traffic

end ClusterClient.Client
