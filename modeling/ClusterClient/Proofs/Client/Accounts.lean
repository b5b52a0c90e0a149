import ClusterClient.Proofs.Client.Handovers
import Mathlib.Data.List.Nodup

namespace ClusterClient.Client

/-!
# Accounts of numbers and of requests

Three accounts relate the history of a client to its table, to its requests and
to what its threads owe: no number is registered twice, no entry is in two
hands, and every request that is not completed is in somebody's hands. For each
account there is a lemma for every kind of step.
-/

namespace Duty

/-- The request that was opened and is not registered yet. -/
def opened? : Duty → Option Nat
  | .opened request _ => some request
  | _ => none

/-- The number that was taken and is not registered yet. -/
def number? : Duty → Option UInt32
  | .opened _ number => number
  | _ => none

/-- The registered request and the number whose frame is on its way. -/
def registered? : Duty → Option (Nat × UInt32)
  | .sending request number | .failing request number => some (request, number)
  | _ => none

end Duty

variable {Thread : Type}
variable [DecidableEq Thread]
variable {history : ClientHistory Thread} {duties : Thread → Duty}
variable {thread : Thread} {call : Call} {answer : call.Answer}
variable {before after : Traffic}

section Found

variable {Owed Found : Type} {owed : Thread → Owed} {changed : Owed}
variable {other : Thread} {found : Found}

/-- What is found where one thread has changed is with it, or elsewhere. -/
theorem found_of_update
    (find : Owed → Option Found)
    (isFound : find (Function.update owed thread changed other) = some found) :
    (other = thread ∧ find changed = some found) ∨
      (other ≠ thread ∧ find (owed other) = some found) := by
  by_cases own : other = thread
  · rw [own, Function.update_self] at isFound
    exact .inl ⟨own, isFound⟩
  · rw [Function.update_of_ne own] at isFound
    exact .inr ⟨own, isFound⟩

/-- What is found when one thread has given something up is elsewhere. -/
theorem found_of_update_none
    (find : Owed → Option Found)
    (none : find changed = none)
    (isFound : find (Function.update owed thread changed other) = some found) :
    other ≠ thread ∧ find (owed other) = some found := by
  rcases found_of_update find isFound with ⟨-, isNew⟩ | isElsewhere
  · rw [none] at isNew
    cases isNew
  · exact isElsewhere

/-- What is found when one thread has taken nothing over was there before. -/
theorem found_of_update_kept
    (find : Owed → Option Found)
    (kept : find changed = none ∨ find changed = find (owed thread))
    (isFound : find (Function.update owed thread changed other) = some found) :
    find (owed other) = some found := by
  rcases kept with none | same
  · exact (found_of_update_none find none isFound).2
  · rcases found_of_update find isFound with ⟨own, isNew⟩ | ⟨-, isElsewhere⟩
    · rw [own, ← same]
      exact isNew
    · exact isElsewhere

/-- What is found somewhere is still found when the one who changes keeps it. -/
theorem exists_found_of_update
    (find : Owed → Option Found)
    (isFound : find (owed other) = some found)
    (kept : other = thread → find changed = some found) :
    ∃ holder, find (Function.update owed thread changed holder) = some found := by
  refine ⟨other, ?_⟩
  by_cases own : other = thread
  · rw [own, Function.update_self]
    exact kept own
  · rw [Function.update_of_ne own]
    exact isFound

end Found

/-- Numbers that were given out, while they have not run out. -/
structure Numbered
    (history : ClientHistory Thread)
    (duties : Thread → Duty)
    (traffic : Traffic) : Prop where
  next : traffic.nextCorrelation = UInt32.ofNat (numbersGiven history + 1)
  known : ∀ {number entry},
    (number, entry) ∈ registrations history →
    number.toNat ≤ numbersGiven history
  once : ((registrations history).map Prod.fst).Nodup
  unused : ∀ {thread number},
    (duties thread).number? = some number →
    number.toNat ≤ numbersGiven history ∧
      number ∉ (registrations history).map Prod.fst
  apart : ∀ {first second number},
    (duties first).number? = some number →
    (duties second).number? = some number → first = second

namespace Numbered

/-- No step but those that take or register a number concerns the numbers. -/
theorem other
    (numbered : Numbered history duties before)
    (answer : call.Answer)
    (gives : takesNumber call = false)
    (registers : registeredIn call = none)
    (sameNext : after.nextCorrelation = before.nextCorrelation)
    {duty : Duty}
    (noNumber : duty.number? = none) :
    Numbered (history ++ [.turn thread call answer before after])
      (Function.update duties thread duty) after := by
  have sameNumbers :
      numbersGiven (history ++ [.turn thread call answer before after]) =
        numbersGiven history := by
    simp [gives]
  have sameRegistrations :
      registrations (history ++ [.turn thread call answer before after]) =
        registrations history := by
    simp [registers]
  refine ⟨?_, ?_, ?_, ?_, ?_⟩
  · rw [sameNumbers, sameNext]
    exact numbered.next
  · rw [sameNumbers, sameRegistrations]
    exact numbered.known
  · rw [sameRegistrations]
    exact numbered.once
  · rw [sameNumbers, sameRegistrations]
    intro other number isNumber
    exact numbered.unused (found_of_update_none _ noNumber isNumber).2
  · intro first second number isFirst isSecond
    exact numbered.apart (found_of_update_none _ noNumber isFirst).2
      (found_of_update_none _ noNumber isSecond).2

theorem takeCorrelation
    (numbered : Numbered history duties before)
    (room : numbersGiven history + 1 < 2 ^ 32)
    (request : Nat) :
    Numbered
      (history ++
        [.turn thread (.table .takeCorrelation) before.nextCorrelation before
          (Traffic.machine .takeCorrelation before).2])
      (Function.update duties thread
        (.opened request (some before.nextCorrelation)))
      (Traffic.machine .takeCorrelation before).2 := by
  have fresh :
      before.nextCorrelation.toNat = numbersGiven history + 1 := by
    rw [numbered.next, UInt32.toNat_ofNat']
    exact Nat.mod_eq_of_lt room
  have registered := registrations_concat history thread
    (.table .takeCorrelation) before.nextCorrelation before
    (Traffic.machine .takeCorrelation before).2
  have given := numbersGiven_concat history thread
    (.table .takeCorrelation) before.nextCorrelation before
    (Traffic.machine .takeCorrelation before).2
  simp only [registeredIn, takesNumber, Option.toList_none, List.append_nil,
    ↓reduceIte] at registered given
  refine ⟨?_, ?_, ?_, ?_, ?_⟩
  · rw [given]
    change before.nextCorrelation + 1 = _
    rw [numbered.next]
    exact (UInt32.ofNat_add _ 1).symm
  · rw [given, registered]
    intro number entry member
    have bound := numbered.known member
    omega
  · rw [registered]
    exact numbered.once
  · rw [given, registered]
    intro other number isNumber
    rcases found_of_update _ isNumber with ⟨-, isNew⟩ | ⟨-, wasNumber⟩
    · cases isNew
      refine ⟨by omega, ?_⟩
      intro member
      obtain ⟨⟨number, entry⟩, inRegistrations, isNumber⟩ :=
        List.mem_map.mp member
      have bound := numbered.known inRegistrations
      simp only at isNumber
      rw [isNumber] at bound
      omega
    · obtain ⟨bound, unused⟩ := numbered.unused wasNumber
      exact ⟨by omega, unused⟩
  · intro first second number isFirst isSecond
    rcases found_of_update _ isFirst with ⟨firstOwn, isNew⟩ | ⟨-, firstWas⟩
    · rcases found_of_update _ isSecond with ⟨secondOwn, -⟩ | ⟨-, secondWas⟩
      · rw [firstOwn, secondOwn]
      · cases isNew
        have bound := (numbered.unused secondWas).1
        omega
    · rcases found_of_update _ isSecond with ⟨-, isNew⟩ | ⟨-, secondWas⟩
      · cases isNew
        have bound := (numbered.unused firstWas).1
        omega
      · exact numbered.apart firstWas secondWas

theorem register
    (numbered : Numbered history duties before)
    {request : Nat}
    {number : UInt32}
    (owed : duties thread = .opened request (some number))
    (entry : Pending) :
    Numbered
      (history ++
        [.turn thread (.table (.register number entry)) () before
          (Traffic.machine (.register number entry) before).2])
      (Function.update duties thread (.sending request number))
      (Traffic.machine (.register number entry) before).2 := by
  have isOwn : (duties thread).number? = some number := by
    rw [owed]
    rfl
  obtain ⟨bound, unused⟩ := numbered.unused isOwn
  have registered := registrations_concat history thread
    (.table (.register number entry)) () before
    (Traffic.machine (.register number entry) before).2
  have given := numbersGiven_concat history thread
    (.table (.register number entry)) () before
    (Traffic.machine (.register number entry) before).2
  simp only [registeredIn, takesNumber, Option.toList_some, Bool.false_eq_true,
    ↓reduceIte, Nat.add_zero] at registered given
  refine ⟨?_, ?_, ?_, ?_, ?_⟩
  · rw [given]
    exact numbered.next
  · rw [given, registered]
    intro other otherEntry member
    rcases List.mem_append.mp member with isEarlier | isLast
    · exact numbered.known isEarlier
    · cases List.mem_singleton.mp isLast
      exact bound
  · rw [registered, List.map_append, List.nodup_append_comm]
    exact List.nodup_cons.mpr ⟨unused, numbered.once⟩
  · rw [given, registered]
    intro other otherNumber isNumber
    obtain ⟨differs, isBefore⟩ := found_of_update_none _ rfl isNumber
    obtain ⟨otherBound, otherUnused⟩ := numbered.unused isBefore
    refine ⟨otherBound, ?_⟩
    rw [List.map_append, List.mem_append]
    rintro (isEarlier | isLast)
    · exact otherUnused isEarlier
    · have same : otherNumber = number := List.mem_singleton.mp isLast
      rw [same] at isBefore
      exact differs (numbered.apart isBefore isOwn)
  · intro first second other isFirst isSecond
    exact numbered.apart (found_of_update_none _ rfl isFirst).2
      (found_of_update_none _ rfl isSecond).2

end Numbered

omit [DecidableEq Thread] in
/-- What is moved from one list to another is still in one of them only. -/
theorem nodup_of_moved
    {Item Key : Type}
    {key : Item → Key}
    {kept taken all : List Item}
    {rest : List Key}
    (moved : (kept ++ taken).Subperm all)
    (once : (all.map key ++ rest).Nodup) :
    (kept.map key ++ (rest ++ taken.map key)).Nodup := by
  obtain ⟨same, permuted, fewer⟩ := moved
  have sameOnce : (same.map key ++ rest).Nodup :=
    ((fewer.map key).append (.refl rest)).nodup once
  have moves :
      (same.map key ++ rest).Perm
        (kept.map key ++ (rest ++ taken.map key)) := by
    calc
      (same.map key ++ rest).Perm ((kept ++ taken).map key ++ rest) :=
        (permuted.map key).append_right rest
      _ = kept.map key ++ (taken.map key ++ rest) := by
        rw [List.map_append, List.append_assoc]
      List.Perm _ (kept.map key ++ (rest ++ taken.map key)) :=
        List.perm_append_comm.append_left _
  exact moves.nodup_iff.mp sameOnce

/-- No entry is registered twice, and none is in two hands. -/
structure Owned
    (history : ClientHistory Thread)
    (duties : Thread → Duty)
    (traffic : Traffic) : Prop where
  ordered : KeyedList.IsOrdered traffic.table
  inTable : ∀ {entry},
    entry ∈ traffic.table → entry ∈ registrations history
  known : ∀ {entry},
    entry ∈ registrations history →
    entry.2.request < traffic.requests.length
  once : ((registrations history).map (·.2.request)).Nodup
  opened : ∀ {thread request},
    (duties thread).opened? = some request →
    request < traffic.requests.length ∧
      request ∉ (registrations history).map (·.2.request)
  apart : ∀ {first second request},
    (duties first).opened? = some request →
    (duties second).opened? = some request → first = second
  registered : ∀ {thread request number},
    (duties thread).registered? = some (request, number) →
    ∃ operation, (number, ⟨operation, request⟩) ∈ registrations history
  taken : ∀ {thread entry},
    (thread, entry) ∈ takings history →
    ∃ number, (number, entry) ∈ registrations history
  takenOnce :
    (traffic.table.map (·.2.request) ++
      (takings history).map (·.2.request)).Nodup

namespace Owned

/--
A step that opens and registers nothing keeps what is in whose hands: what it
takes out of the table goes into the hands of its thread.
-/
theorem other
    (owned : Owned history duties before)
    (answer : call.Answer)
    (registers : registeredIn call = none)
    (sameLength : after.requests.length = before.requests.length)
    (moves : before.Moves (takenIn call answer) after)
    {duty : Duty}
    (opens :
      duty.opened? = none ∨ duty.opened? = (duties thread).opened?)
    (sends :
      duty.registered? = none ∨
        duty.registered? = (duties thread).registered?) :
    Owned (history ++ [.turn thread call answer before after])
      (Function.update duties thread duty) after := by
  have sameRegistrations :
      registrations (history ++ [.turn thread call answer before after]) =
        registrations history := by
    simp [registers]
  refine ⟨?_, ?_, ?_, ?_, ?_, ?_, ?_, ?_, ?_⟩
  · exact owned.ordered.sublist moves.fewer
  · rw [sameRegistrations]
    intro entry member
    exact owned.inTable (moves.fewer.subset member)
  · rw [sameRegistrations, sameLength]
    exact owned.known
  · rw [sameRegistrations]
    exact owned.once
  · rw [sameRegistrations, sameLength]
    intro other request isOpened
    exact owned.opened (found_of_update_kept _ opens isOpened)
  · intro first second request isFirst isSecond
    exact owned.apart (found_of_update_kept _ opens isFirst)
      (found_of_update_kept _ opens isSecond)
  · rw [sameRegistrations]
    intro other request number isRegistered
    exact owned.registered (found_of_update_kept _ sends isRegistered)
  · rw [sameRegistrations, takings_concat]
    intro other entry member
    rcases List.mem_append.mp member with isEarlier | isLast
    · exact owned.taken isEarlier
    · obtain ⟨taken, inCall, isEntry⟩ := List.mem_map.mp isLast
      cases isEntry
      have inTable :=
        List.Subperm.subset moves.moved (List.mem_append_right _ inCall)
      obtain ⟨⟨number, kept⟩, inBefore, isEntry⟩ := List.mem_map.mp inTable
      simp only at isEntry
      subst isEntry
      exact ⟨number, owned.inTable inBefore⟩
  · have once :
        ((before.table.map Prod.snd).map Pending.request ++
          (takings history).map (·.2.request)).Nodup := by
      rw [List.map_map]
      exact owned.takenOnce
    have stillOnce := nodup_of_moved moves.moved once
    rw [List.map_map] at stillOnce
    rw [takings_concat, List.map_append, List.map_map]
    exact stillOnce

theorem openRequest
    (owned : Owned history duties before)
    (request : Request Wire.Response) :
    Owned
      (history ++
        [.turn thread (.table (.openRequest request)) before.requests.length
          before (Traffic.machine (.openRequest request) before).2])
      (Function.update duties thread (.opened before.requests.length none))
      (Traffic.machine (.openRequest request) before).2 := by
  have longer :
      (Traffic.machine (.openRequest request) before).2.requests.length =
        before.requests.length + 1 := by
    simp [Traffic.machine]
  have registered :
      registrations
          (history ++
            [.turn thread (.table (.openRequest request))
              before.requests.length before
              (Traffic.machine (.openRequest request) before).2]) =
        registrations history :=
    (registrations_concat ..).trans (List.append_nil _)
  have taken :
      takings
          (history ++
            [.turn thread (.table (.openRequest request))
              before.requests.length before
              (Traffic.machine (.openRequest request) before).2]) =
        takings history :=
    (takings_concat ..).trans (List.append_nil _)
  refine
    ⟨owned.ordered, ?_, ?_, ?_, ?_, ?_, ?_, ?_, ?_⟩
  · rw [registered]
    exact owned.inTable
  · rw [registered, longer]
    intro entry member
    have bound := owned.known member
    omega
  · rw [registered]
    exact owned.once
  · rw [registered, longer]
    intro other index isOpened
    rcases found_of_update _ isOpened with ⟨-, isNew⟩ | ⟨-, wasOpened⟩
    · cases isNew
      refine ⟨by omega, ?_⟩
      intro member
      obtain ⟨entry, inRegistrations, isIndex⟩ := List.mem_map.mp member
      have bound := owned.known inRegistrations
      omega
    · obtain ⟨bound, unregistered⟩ := owned.opened wasOpened
      exact ⟨by omega, unregistered⟩
  · intro first second index isFirst isSecond
    rcases found_of_update _ isFirst with ⟨firstOwn, isNew⟩ | ⟨-, firstWas⟩
    · rcases found_of_update _ isSecond with ⟨secondOwn, -⟩ | ⟨-, secondWas⟩
      · rw [firstOwn, secondOwn]
      · cases isNew
        have bound := (owned.opened secondWas).1
        omega
    · rcases found_of_update _ isSecond with ⟨-, isNew⟩ | ⟨-, secondWas⟩
      · cases isNew
        have bound := (owned.opened firstWas).1
        omega
      · exact owned.apart firstWas secondWas
  · rw [registered]
    intro other index number isRegistered
    exact owned.registered (found_of_update_none _ rfl isRegistered).2
  · rw [registered, taken]
    exact owned.taken
  · rw [taken]
    exact owned.takenOnce

theorem register
    (owned : Owned history duties before)
    {number : UInt32}
    (entry : Pending)
    (owed : duties thread = .opened entry.request (some number))
    (unused : number ∉ (registrations history).map Prod.fst) :
    Owned
      (history ++
        [.turn thread (.table (.register number entry)) () before
          (Traffic.machine (.register number entry) before).2])
      (Function.update duties thread (.sending entry.request number))
      (Traffic.machine (.register number entry) before).2 := by
  have isOwn : (duties thread).opened? = some entry.request := by
    rw [owed]
    rfl
  obtain ⟨bound, unregistered⟩ := owned.opened isOwn
  have registered :
      registrations
          (history ++
            [.turn thread (.table (.register number entry)) () before
              (Traffic.machine (.register number entry) before).2]) =
        registrations history ++ [(number, entry)] :=
    registrations_concat ..
  have taken :
      takings
          (history ++
            [.turn thread (.table (.register number entry)) () before
              (Traffic.machine (.register number entry) before).2]) =
        takings history :=
    (takings_concat ..).trans (List.append_nil _)
  have absent : ∀ other ∈ before.table, other.1 ≠ number := by
    intro other member isNumber
    exact unused (List.mem_map.mpr ⟨other, owned.inTable member, isNumber⟩)
  have permuted :
      (KeyedList.insert number entry before.table).Perm
        ((number, entry) :: before.table) :=
    KeyedList.insert_perm absent entry
  refine
    ⟨owned.ordered.insert number entry, ?_, ?_, ?_, ?_, ?_, ?_, ?_, ?_⟩
  · rw [registered]
    intro other member
    rcases List.mem_cons.mp (permuted.mem_iff.mp member) with isNew | isOld
    · rw [isNew]
      exact List.mem_concat_self
    · exact List.mem_append_left _ (owned.inTable isOld)
  · rw [registered]
    intro other member
    rcases List.mem_append.mp member with isEarlier | isLast
    · exact owned.known isEarlier
    · rw [List.mem_singleton.mp isLast]
      exact bound
  · rw [registered, List.map_append, List.nodup_append_comm]
    exact List.nodup_cons.mpr ⟨unregistered, owned.once⟩
  · rw [registered]
    intro other index isOpened
    obtain ⟨differs, isBefore⟩ := found_of_update_none _ rfl isOpened
    obtain ⟨otherBound, otherUnregistered⟩ := owned.opened isBefore
    refine ⟨otherBound, ?_⟩
    rw [List.map_append, List.mem_append]
    rintro (isEarlier | isLast)
    · exact otherUnregistered isEarlier
    · have same : index = entry.request := List.mem_singleton.mp isLast
      rw [same] at isBefore
      exact differs (owned.apart isBefore isOwn)
  · intro first second index isFirst isSecond
    exact owned.apart (found_of_update_none _ rfl isFirst).2
      (found_of_update_none _ rfl isSecond).2
  · rw [registered]
    intro other index otherNumber isRegistered
    rcases found_of_update _ isRegistered with ⟨-, isNew⟩ | ⟨-, wasRegistered⟩
    · cases isNew
      exact ⟨entry.operation, List.mem_concat_self⟩
    · obtain ⟨operation, member⟩ := owned.registered wasRegistered
      exact ⟨operation, List.mem_append_left _ member⟩
  · rw [registered, taken]
    intro other otherEntry member
    obtain ⟨otherNumber, isRegistered⟩ := owned.taken member
    exact ⟨otherNumber, List.mem_append_left _ isRegistered⟩
  · rw [taken]
    have moves := (permuted.map (·.2.request)).append_right
      ((takings history).map (·.2.request))
    refine moves.nodup_iff.mpr (List.nodup_cons.mpr ⟨?_, owned.takenOnce⟩)
    intro member
    apply unregistered
    rcases List.mem_append.mp member with inTable | inTakings
    · obtain ⟨other, isOther, isRequest⟩ := List.mem_map.mp inTable
      exact List.mem_map.mpr ⟨other, owned.inTable isOther, isRequest⟩
    · obtain ⟨⟨other, taken⟩, isTaken, isRequest⟩ := List.mem_map.mp inTakings
      obtain ⟨otherNumber, isRegistered⟩ := owned.taken isTaken
      exact List.mem_map.mpr ⟨(otherNumber, taken), isRegistered, isRequest⟩

end Owned

/-- A request is in somebody's hands. -/
inductive Cared
    (history : ClientHistory Thread)
    (duties : Thread → Duty)
    (traffic : Traffic)
    (index : Nat) : Prop where
  | opening
      {thread : Thread}
      (opened : (duties thread).opened? = some index)
  | waiting
      {number : UInt32}
      {entry : Pending}
      (inTable : (number, entry) ∈ traffic.table)
      (isIndex : entry.request = index)
  | taken
      {thread : Thread}
      {entry : Pending}
      {held : List Nat}
      (took : (thread, entry) ∈ takings history)
      (isIndex : entry.request = index)
      (holds : duties thread = .holding held)
      (isHeld : index ∈ held)

/--
A request is in the hands of a thread or in the table, or it stays in the hands
of others whatever the thread does.
-/
theorem Cared.own_or_others
    {index : Nat}
    (cared : Cared history duties before index)
    (thread : Thread) :
    (duties thread).opened? = some index ∨
      (∃ number entry,
        (number, entry) ∈ before.table ∧ entry.request = index) ∨
      (∃ entry held,
        (thread, entry) ∈ takings history ∧
          entry.request = index ∧
          duties thread = .holding held ∧ index ∈ held) ∨
      ∀ later duty after,
        Cared (history ++ later) (Function.update duties thread duty) after
          index := by
  cases cared with
  | @opening other opened =>
      by_cases own : other = thread
      · rw [← own]
        exact .inl opened
      · refine .inr (.inr (.inr fun later duty after => ?_))
        exact .opening (by rw [Function.update_of_ne own]; exact opened)
  | waiting inTable isIndex => exact .inr (.inl ⟨_, _, inTable, isIndex⟩)
  | @taken other entry held took isIndex holds isHeld =>
      by_cases own : other = thread
      · rw [← own]
        exact .inr (.inr (.inl ⟨entry, held, took, isIndex, holds, isHeld⟩))
      · refine .inr (.inr (.inr fun later duty after => ?_))
        exact .taken (mem_takings_append took later) isIndex
          (by rw [Function.update_of_ne own]; exact holds) isHeld

/-- Every request is settled, and in somebody's hands until it is completed. -/
structure Covered
    (history : ClientHistory Thread)
    (duties : Thread → Duty)
    (traffic : Traffic) : Prop where
  settled : ∀ {index : Nat} {request : Request Wire.Response},
    traffic.requests[index]? = some request → request.IsSettled
  cared : ∀ {index : Nat} {request : Request Wire.Response},
    traffic.requests[index]? = some request →
    ¬ request.isCompleted →
    Cared history duties traffic index

namespace Covered

/--
A step that leaves the requests as they are keeps them in somebody's hands, when
its thread holds what it takes out of the table.
-/
theorem other
    (covered : Covered history duties before)
    (answer : call.Answer)
    (sameRequests : after.requests = before.requests)
    (moves : before.Moves (takenIn call answer) after)
    {duty : Duty}
    (opens :
      (duties thread).opened? = none ∨
        duty.opened? = (duties thread).opened?)
    (empty : ∀ {held}, duties thread = .holding held → held = [])
    (takes : ∀ {entry},
      entry ∈ takenIn call answer →
      ∃ held, duty = .holding held ∧ entry.request ∈ held) :
    Covered (history ++ [.turn thread call answer before after])
      (Function.update duties thread duty) after := by
  refine ⟨?_, ?_⟩
  · rw [sameRequests]
    exact covered.settled
  · rw [sameRequests]
    intro index request found incomplete
    rcases (covered.cared found incomplete).own_or_others thread with
      opened | ⟨number, entry, inTable, isIndex⟩ |
      ⟨entry, held, took, isIndex, holds, isHeld⟩ | others
    · rcases opens with none | same
      · rw [none] at opened
        cases opened
      · exact .opening (by rw [Function.update_self, same]; exact opened)
    · have wasWaiting : entry ∈ before.table.map Prod.snd :=
        List.mem_map.mpr ⟨(number, entry), inTable, rfl⟩
      rcases moves.kept wasWaiting with stays | isTaken | completed
      · obtain ⟨⟨number, kept⟩, isKept, isEntry⟩ := List.mem_map.mp stays
        simp only at isEntry
        subst isEntry
        exact .waiting isKept isIndex
      · obtain ⟨held, isDuty, isHeld⟩ := takes isTaken
        refine .taken ?_ isIndex
          (by rw [Function.update_self]; exact isDuty) (isIndex ▸ isHeld)
        rw [takings_concat]
        exact List.mem_append_right _ (List.mem_map.mpr ⟨entry, isTaken, rfl⟩)
      · simp only [Traffic.isCompleted, isIndex, found] at completed
        exact absurd completed incomplete
    · rw [empty holds] at isHeld
      cases isHeld
    · exact others _ _ _

theorem openRequest
    (covered : Covered history duties before)
    {request : Request Wire.Response}
    (settled : request.IsSettled)
    (idle : duties thread = .holding []) :
    Covered
      (history ++
        [.turn thread (.table (.openRequest request)) before.requests.length
          before (Traffic.machine (.openRequest request) before).2])
      (Function.update duties thread (.opened before.requests.length none))
      (Traffic.machine (.openRequest request) before).2 := by
  refine ⟨?_, ?_⟩
  · intro index found isFound
    rcases Traffic.old_or_new_of_openRequest isFound with wasFound | ⟨-, isNew⟩
    · exact covered.settled wasFound
    · rw [isNew]
      exact settled
  · intro index found isFound incomplete
    rcases Traffic.old_or_new_of_openRequest isFound with wasFound | ⟨isNew, -⟩
    · rcases (covered.cared wasFound incomplete).own_or_others thread with
        opened | ⟨_, _, inTable, isIndex⟩ | ⟨_, _, _, _, holds, isHeld⟩ | others
      · rw [idle] at opened
        cases opened
      · exact .waiting inTable isIndex
      · cases idle.symm.trans holds
        cases isHeld
      · exact others _ _ _
    · have opened :
          (Function.update duties thread (.opened before.requests.length none)
            thread).opened? = some index := by
        rw [Function.update_self, isNew]
        rfl
      exact .opening opened

theorem register
    (covered : Covered history duties before)
    {number : UInt32}
    (entry : Pending)
    (owed : duties thread = .opened entry.request (some number))
    (absent : ∀ other ∈ before.table, other.1 ≠ number) :
    Covered
      (history ++
        [.turn thread (.table (.register number entry)) () before
          (Traffic.machine (.register number entry) before).2])
      (Function.update duties thread (.sending entry.request number))
      (Traffic.machine (.register number entry) before).2 := by
  have permuted :
      (KeyedList.insert number entry before.table).Perm
        ((number, entry) :: before.table) :=
    KeyedList.insert_perm absent entry
  refine ⟨covered.settled, ?_⟩
  intro index request found incomplete
  rcases (covered.cared found incomplete).own_or_others thread with
    opened | ⟨_, _, inTable, isIndex⟩ | ⟨_, _, _, _, holds, _⟩ | others
  · rw [owed] at opened
    exact .waiting (permuted.mem_iff.mpr List.mem_cons_self)
      (Option.some.inj opened)
  · exact .waiting (permuted.mem_iff.mpr (List.mem_cons_of_mem _ inTable))
      isIndex
  · cases owed.symm.trans holds
  · exact others _ _ _

theorem complete
    (covered : Covered history duties before)
    {index : Nat}
    (outcome : Request.Outcome Wire.Response)
    {held rest : List Nat}
    (holds : duties thread = .holding held)
    (keeps : ∀ {other}, other ∈ held → other = index ∨ other ∈ rest) :
    Covered
      (history ++
        [.turn thread (.table (.complete index outcome))
          (before.complete index outcome).1 before
          (before.complete index outcome).2])
      (Function.update duties thread (.holding rest))
      (before.complete index outcome).2 := by
  refine ⟨?_, ?_⟩
  · intro other request found
    rw [Traffic.getElem?_complete] at found
    split at found
    · obtain ⟨old, wasFound, isRequest⟩ := Option.map_eq_some_iff.mp found
      rw [← isRequest]
      exact ((covered.settled wasFound).finish outcome).1
    · exact covered.settled found
  · intro other request found incomplete
    rw [Traffic.getElem?_complete] at found
    split at found
    · obtain ⟨old, wasFound, isRequest⟩ := Option.map_eq_some_iff.mp found
      rw [← isRequest] at incomplete
      exact absurd ((covered.settled wasFound).finish outcome).2 incomplete
    · rename_i differs
      rcases (covered.cared found incomplete).own_or_others thread with
        opened | ⟨_, _, inTable, isIndex⟩ |
        ⟨entry, ownHeld, took, isIndex, ownHolds, isHeld⟩ | others
      · rw [holds] at opened
        cases opened
      · exact .waiting (by rw [Traffic.table_complete]; exact inTable) isIndex
      · cases holds.symm.trans ownHolds
        have stillHeld := (keeps isHeld).resolve_left differs
        exact .taken (mem_takings_append took _) isIndex
          (Function.update_self ..) stillHeld
      · exact others _ _ _

end Covered

/-- The three accounts of a client. -/
structure Accounts
    (history : ClientHistory Thread)
    (duties : Thread → Duty)
    (traffic : Traffic) : Prop where
  numbered : Numbered history duties traffic
  owned : Owned history duties traffic
  covered : Covered history duties traffic

namespace Accounts

omit [DecidableEq Thread] in
theorem empty : Accounts [] (fun _ : Thread => .holding []) .empty where
  numbered :=
    ⟨rfl, nofun, List.nodup_nil, nofun, nofun⟩
  owned :=
    ⟨KeyedList.isOrdered_nil, nofun, nofun, List.nodup_nil, nofun, nofun, nofun,
      nofun, List.nodup_nil⟩
  covered := ⟨nofun, nofun⟩

/-- Entries that pass from the table into hands keep the accounts. -/
theorem leaves
    (accounts : Accounts history duties before)
    (answer : call.Answer)
    (gives : takesNumber call = false)
    (registers : registeredIn call = none)
    (leaves : before.Leaves (takenIn call answer) after)
    {duty : Duty}
    (opensNone : duty.opened? = none)
    (opened : (duties thread).opened? = none)
    (sends :
      duty.registered? = none ∨
        duty.registered? = (duties thread).registered?)
    (empty : ∀ {held}, duties thread = .holding held → held = [])
    (takes : ∀ {entry},
      entry ∈ takenIn call answer →
      ∃ held, duty = .holding held ∧ entry.request ∈ held) :
    Accounts (history ++ [.turn thread call answer before after])
      (Function.update duties thread duty) after where
  numbered := by
    apply accounts.numbered.other answer gives registers leaves.sameNext
    cases duty with
    | opened => cases opensNone
    | holding | sending | failing => rfl
  owned :=
    accounts.owned.other answer registers
      (congrArg List.length leaves.sameRequests) leaves.toMoves
      (.inl opensNone) sends
  covered :=
    accounts.covered.other answer leaves.sameRequests leaves.toMoves
      (.inl opened) empty takes

theorem complete
    (accounts : Accounts history duties before)
    {index : Nat}
    (outcome : Request.Outcome Wire.Response)
    {held rest : List Nat}
    (holds : duties thread = .holding held)
    (keeps : ∀ {other}, other ∈ held → other = index ∨ other ∈ rest) :
    Accounts
      (history ++
        [.turn thread (.table (.complete index outcome))
          (before.complete index outcome).1 before
          (before.complete index outcome).2])
      (Function.update duties thread (.holding rest))
      (before.complete index outcome).2 where
  numbered :=
    accounts.numbered.other _ rfl rfl
      (Traffic.nextCorrelation_complete ..) rfl
  owned := by
    refine
      accounts.owned.other _ rfl (Traffic.length_complete ..)
        (.ofSame (Traffic.table_complete ..)) (.inl rfl) (.inl rfl)
  covered := accounts.covered.complete outcome holds keeps

theorem openRequest
    (accounts : Accounts history duties before)
    {request : Request Wire.Response}
    (settled : request.IsSettled)
    (idle : duties thread = .holding []) :
    Accounts
      (history ++
        [.turn thread (.table (.openRequest request)) before.requests.length
          before (Traffic.machine (.openRequest request) before).2])
      (Function.update duties thread (.opened before.requests.length none))
      (Traffic.machine (.openRequest request) before).2 where
  numbered := by
    refine accounts.numbered.other _ ?_ ?_ ?_ ?_ <;> rfl
  owned := accounts.owned.openRequest request
  covered := accounts.covered.openRequest settled idle

theorem takeCorrelation
    (accounts : Accounts history duties before)
    (room : numbersGiven history + 1 < 2 ^ 32)
    {request : Nat}
    (owed : duties thread = .opened request none) :
    Accounts
      (history ++
        [.turn thread (.table .takeCorrelation) before.nextCorrelation before
          (Traffic.machine .takeCorrelation before).2])
      (Function.update duties thread
        (.opened request (some before.nextCorrelation)))
      (Traffic.machine .takeCorrelation before).2 where
  numbered := accounts.numbered.takeCorrelation room request
  owned := by
    refine accounts.owned.other _ ?_ ?_ ?_ (.inr ?_) (.inl ?_)
    · rfl
    · rfl
    · exact .ofSame rfl
    · rw [owed]
      rfl
    · rfl
  covered := by
    refine accounts.covered.other _ ?_ ?_ (.inr ?_) ?_ ?_
    · rfl
    · exact .ofSame rfl
    · rw [owed]
      rfl
    · intro held holds
      rw [owed] at holds
      cases holds
    · intro entry taken
      cases taken

theorem register
    (accounts : Accounts history duties before)
    {number : UInt32}
    (entry : Pending)
    (owed : duties thread = .opened entry.request (some number)) :
    Accounts
      (history ++
        [.turn thread (.table (.register number entry)) () before
          (Traffic.machine (.register number entry) before).2])
      (Function.update duties thread (.sending entry.request number))
      (Traffic.machine (.register number entry) before).2 := by
  have isOwn : (duties thread).number? = some number := by
    rw [owed]
    rfl
  have unused := (accounts.numbered.unused isOwn).2
  refine ⟨accounts.numbered.register owed entry,
    accounts.owned.register entry owed unused,
    accounts.covered.register entry owed ?_⟩
  intro other member isNumber
  apply unused
  exact List.mem_map.mpr ⟨other, accounts.owned.inTable member, isNumber⟩

end Accounts

end ClusterClient.Client
