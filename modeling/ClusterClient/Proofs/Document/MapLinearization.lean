import ClusterClient.Proofs.Document.MapOperations

namespace ClusterClient.Document

/-!
# Maps in documents are linearizable

Any number of operations on the map of one document may run beside each other.
An operation takes effect in its last step: a read and an unconditional write
have one step, and a guarded write has its effect when it succeeds, finds that
there is nothing to remove, or gives up.

The main statement is that the operations that have ended, in the order of
these last steps, are operations of a sequential map, with its results. The
invariant is that an operation under way either has its only step ahead of it
or is a field loop at an open point, and that none of its steps so far has
changed anything.
-/

namespace MapOperation

variable {Value : Type} {codec : ValueCodec Value} {id : String}

variable (codec id) in
/--
An operation that has not ended: it has its only step ahead of it, or it is a
field loop at an open point.
-/
inductive Underway
    (operation : MapOperation Value)
    (memory : Memory) :
    Program interface (Except Error (MapAnswer Value)) → Prop where
  | single
      {call : StoreCall}
      {judge : call.Answer → Except Error (MapAnswer Value)}
      (concludes :
        ∀ before : Memory,
          before.HoldsMap codec id →
          operation.Concludes codec id before
            (judge (Memory.store call before).1) (Memory.store call before).2) :
      Underway operation memory
        (.step (.store call) fun answer => .done (judge answer))
  | guarded
      {Next : Type}
      {loop : FieldLoop Next}
      {point : FieldLoop.Point}
      (isOpen : point.IsOpen)
      (stands : point.Stands loop memory)
      (attaches : operation.call ≠ .attach)
      (concludes :
        ∀ {before after : Memory} {result : Except Error (Option Json)},
          before.HoldsMap codec id →
          loop.Conclusion before result after →
          operation.Concludes codec id before (finish codec result) after) :
      Underway operation memory
        (Program.bind (point.program loop) fun result =>
          .done (finish codec result))

/-- Every operation begins under way. -/
theorem underway_program
    (faithful : codec.IsFaithful)
    (operation : MapOperation Value)
    (keyed : operation.call.IsKeyed)
    (memory : Memory) :
    Underway codec id operation memory (operation.program codec id) := by
  rcases isSingle_or_isGuarded faithful operation keyed with
    ⟨call, judge, isStep, concludes⟩ |
    ⟨Next, loop, isLoop, atLeastOne, attaches, concludes⟩
  · rw [isStep]
    exact .single concludes
  · rw [isLoop]
    obtain ⟨rounds, -, begins⟩ := FieldLoop.exists_program_eq_reading atLeastOne
    rw [begins]
    exact .guarded trivial trivial attaches concludes

theorem Underway.change
    {operation : MapOperation Value}
    {memory later : Memory}
    {program : Program interface (Except Error (MapAnswer Value))}
    (underway : Underway codec id operation memory program)
    (change : memory.Change later)
    (forward : memory.nextCas ≤ later.nextCas) :
    Underway codec id operation later program := by
  cases underway with
  | single concludes => exact .single concludes
  | guarded isOpen stands attaches concludes =>
      exact .guarded isOpen (stands.change change forward) attaches concludes

theorem Underway.ne_done
    {operation : MapOperation Value}
    {memory : Memory}
    {program : Program interface (Except Error (MapAnswer Value))}
    (underway : Underway codec id operation memory program)
    (result : Except Error (MapAnswer Value)) : program ≠ .done result := by
  intro ended
  cases underway with
  | single concludes => cases ended
  | @guarded _ loop point isOpen stands attaches concludes =>
      cases program : point.program loop with
      | done result => exact isOpen.program_ne_done result program
      | step call next =>
          rw [program] at ended
          cases ended

/--
A step of an operation leaves it under way and changes nothing, or it is a store
call with which the operation concludes; attaching concludes at once.
-/
theorem Underway.turn
    {operation : MapOperation Value}
    {before after : Memory}
    {call : Step}
    {next :
      interface.Answer call →
        Program interface (Except Error (MapAnswer Value))}
    {answer : interface.Answer call}
    (underway : Underway codec id operation before (.step call next))
    (dated : before.IsDated)
    (holds : before.HoldsMap codec id)
    (answered : memorySemantics call before answer after) :
    (after = before ∧
        operation.call ≠ .attach ∧
          Underway codec id operation after (next answer)) ∨
      ∃ stored result,
        call = .store stored ∧
          next answer = .done result ∧
            operation.Concludes codec id before result after := by
  generalize due :
    (.step call next : Program interface (Except Error (MapAnswer Value))) =
      program at underway
  cases underway with
  | @single stored judge concludes =>
      cases due
      have concluded := concludes before holds
      rw [memorySemantics_store.mp answered] at concluded
      exact .inr ⟨stored, judge answer, rfl, rfl, concluded⟩
  | @guarded _ loop point isOpen stands attaches concludes =>
      cases program : point.program loop with
      | done result => exact absurd program (isOpen.program_ne_done result)
      | step called goesOn =>
          rw [program] at due
          cases due
          obtain ⟨reached, isReached, advances⟩ :=
            FieldLoop.Point.advance dated stands program answered
          simp only [isReached]
          cases advances with
          | goesOn isOpen stands =>
              exact .inl
                ⟨rfl, attaches, .guarded isOpen stands attaches concludes⟩
          | @concludes stored result _ ended conclusion =>
              subst ended
              exact .inr
                ⟨stored, finish codec result, rfl, rfl,
                  concludes holds conclusion⟩

/-- The store call with which a thread ended its operation, and the result. -/
structure Completion (Thread Value : Type) where
  thread : Thread
  call : StoreCall
  answer : call.Answer
  before : Memory
  after : Memory
  result : Except Error (MapAnswer Value)

/-- The step of a completion. -/
def Completion.moment
    {Thread : Type}
    (completion : Completion Thread Value) : MemoryMoment Thread :=
  .turn completion.thread (.store completion.call) completion.answer
    completion.before completion.after

section Runs

variable {Thread : Type} [DecidableEq Thread]

variable (codec id) in
/--
Operations that end one after the other, each as a sequential map performs it
on the map that the one before it has left.
-/
inductive Sequential
    (operations : Thread → MapOperation Value)
    (initial : MapContents Value) :
    List (Completion Thread Value) → MapContents Value → Prop where
  | start : Sequential operations initial [] initial
  | next
      {completions : List (Completion Thread Value)}
      {completion : Completion Thread Value}
      (earlier :
        Sequential operations initial completions
          (completion.before.contents codec id))
      (performs :
        (operations completion.thread).call.Performs id
          (completion.before.contents codec id) completion.result
          (completion.after.contents codec id)) :
      Sequential operations initial (completions ++ [completion])
        (completion.after.contents codec id)

variable (codec id) in
/--
The completions of the operations that have ended in a run, in the order of
their steps: one to an operation, with its result, and together a run of a
sequential map.
-/
structure Linearizes
    (operations : Thread → MapOperation Value)
    (memory : Memory)
    (history : History interface Thread Memory)
    (current : Thread → Program interface (Except Error (MapAnswer Value)))
    (final : Memory)
    (completions : List (Completion Thread Value)) : Prop where
  steps : (completions.map Completion.moment).Sublist history
  once : (completions.map Completion.thread).Nodup
  ended : ∀ {thread result},
    current thread = .done result ↔
      ∃ completion ∈ completions,
        completion.thread = thread ∧ completion.result = result
  sequential :
    Sequential codec id operations (memory.contents codec id) completions
      (final.contents codec id)

variable {operations : Thread → MapOperation Value}
variable {memory middle final before after : Memory}
variable {history earlier later : History interface Thread Memory}
variable {current programs :
  Thread → Program interface (Except Error (MapAnswer Value))}
variable {completions : List (Completion Thread Value)}

omit [DecidableEq Thread] in
/-- A step that ends no operation and leaves the map as it is adds nothing. -/
theorem Linearizes.goesOn
    (linearizes :
      Linearizes codec id operations memory history current before completions)
    (moment : MemoryMoment Thread)
    {next : Thread → Program interface (Except Error (MapAnswer Value))}
    (sameEnds :
      ∀ {thread result},
        next thread = .done result ↔ current thread = .done result)
    (sameContents : after.contents codec id = before.contents codec id) :
    Linearizes codec id operations memory (history ++ [moment]) next after
      completions where
  steps := linearizes.steps.trans (List.sublist_append_left _ _)
  once := linearizes.once
  ended := sameEnds.trans linearizes.ended
  sequential := by
    rw [sameContents]
    exact linearizes.sequential

/-- The last step of an operation is its completion. -/
theorem Linearizes.concludes
    (completion : Completion Thread Value)
    (linearizes :
      Linearizes codec id operations memory history current completion.before
        completions)
    (pending : ∀ result, current completion.thread ≠ .done result)
    (performs :
      (operations completion.thread).call.Performs id
        (completion.before.contents codec id) completion.result
        (completion.after.contents codec id)) :
    Linearizes codec id operations memory (history ++ [completion.moment])
      (Function.update current completion.thread (.done completion.result))
      completion.after (completions ++ [completion]) where
  steps := by
    rw [List.map_append]
    exact linearizes.steps.append (List.Sublist.refl _)
  once := by
    rw [List.map_append, List.nodup_append]
    refine ⟨linearizes.once, List.nodup_singleton _, ?_⟩
    intro thread isEarlier other isLast same
    obtain ⟨earlier, member, isThread⟩ := List.mem_map.mp isEarlier
    have last : other = completion.thread := List.mem_singleton.mp isLast
    have ended :=
      linearizes.ended.mpr ⟨earlier, member, isThread, rfl⟩
    rw [same, last] at ended
    exact pending _ ended
  ended := by
    intro thread result
    by_cases own : thread = completion.thread
    · subst own
      rw [Function.update_self]
      constructor
      · intro ended
        cases ended
        exact ⟨completion, by simp, rfl, rfl⟩
      · rintro ⟨other, member, sameThread, sameResult⟩
        rcases List.mem_append.mp member with isEarlier | isLast
        · have ended :=
            linearizes.ended.mpr ⟨other, isEarlier, sameThread, sameResult⟩
          exact absurd ended (pending result)
        · rw [← sameResult, List.mem_singleton.mp isLast]
    · rw [Function.update_of_ne own, linearizes.ended]
      constructor
      · rintro ⟨other, member, isOther⟩
        exact ⟨other, List.mem_append_left _ member, isOther⟩
      · rintro ⟨other, member, sameThread, sameResult⟩
        rcases List.mem_append.mp member with isEarlier | isLast
        · exact ⟨other, isEarlier, sameThread, sameResult⟩
        · rw [List.mem_singleton.mp isLast] at sameThread
          exact absurd sameThread.symm own
  sequential := .next linearizes.sequential performs

/-- Attaching has ended in success with its first step, and replaces nothing. -/
def Attaches
    (id : String)
    (moment : MemoryMoment Thread)
    (program : Program interface (Except Error (MapAnswer Value))) : Prop :=
  program = .done (.ok .nothing) ∧
    ((moment.before.find? id).isSome → moment.after = moment.before)

variable (codec id) in
/-- What holds throughout a run of operations on a map. -/
structure Invariant
    (operations : Thread → MapOperation Value)
    (memory : Memory)
    (history : History interface Thread Memory)
    (current : Thread → Program interface (Except Error (MapAnswer Value)))
    (final : Memory) : Prop where
  underway : ∀ thread,
    (∃ result, current thread = .done result) ∨
      Underway codec id (operations thread) final (current thread)
  holdsMap : final.HoldsMap codec id
  linearizes : ∃ completions : List (Completion Thread Value),
    Linearizes codec id operations memory history current final completions
  harmless : ∀ moment ∈ history, ∀ thread,
    moment.thread? = some thread →
    moment.after = moment.before ∨
      ∃ answer, current thread = .done (.ok answer)
  attaches : ∀ moment ∈ history, ∀ thread,
    moment.thread? = some thread →
    (operations thread).call = .attach →
    Attaches id moment (current thread)

namespace Invariant

omit [DecidableEq Thread] in
theorem start
    (faithful : codec.IsFaithful)
    (keyed : ∀ thread, (operations thread).call.IsKeyed)
    (holds : memory.HoldsMap codec id) :
    Invariant codec id operations memory []
      (fun thread => (operations thread).program codec id) memory := by
  have underway : ∀ thread,
      Underway codec id (operations thread) memory
        ((operations thread).program codec id) := by
    intro thread
    exact underway_program faithful (operations thread) (keyed thread) memory
  refine ⟨fun thread => .inr (underway thread), holds, ⟨[], ?_⟩, ?_, ?_⟩
  · refine ⟨.slnil, List.nodup_nil, ?_, .start⟩
    intro thread result
    constructor
    · intro ended
      exact absurd ended ((underway thread).ne_done result)
    · rintro ⟨completion, member, -⟩
      cases member
  · intro moment member
    cases member
  · intro moment member
    cases member

omit [DecidableEq Thread] in
theorem outside
    (invariant :
      Invariant codec id operations memory history current before)
    (change : before.Change after)
    (forward : before.nextCas ≤ after.nextCas)
    (alone : after.find? id = before.find? id) :
    Invariant codec id operations memory
      (history ++ [.outside before after]) current after := by
  obtain ⟨completions, linearizes⟩ := invariant.linearizes
  refine ⟨?_, ?_, ⟨completions, ?_⟩, ?_, ?_⟩
  · intro thread
    rcases invariant.underway thread with ended | underway
    · exact .inl ended
    · exact .inr (underway.change change forward)
  · exact invariant.holdsMap.congr alone
  · exact linearizes.goesOn _ Iff.rfl (Memory.contents_congr alone)
  · intro moment member thread turn
    rcases List.mem_append.mp member with isEarlier | isLast
    · exact invariant.harmless moment isEarlier thread turn
    · rw [List.mem_singleton.mp isLast] at turn
      cases turn
  · intro moment member thread turn attaching
    rcases List.mem_append.mp member with isEarlier | isLast
    · exact invariant.attaches moment isEarlier thread turn attaching
    · rw [List.mem_singleton.mp isLast] at turn
      cases turn

/--
A step of an operation that has not ended, after which it is under way or has
ended as a sequential map does, keeps the invariant.
-/
theorem turn
    (invariant :
      Invariant codec id operations memory history current before)
    {thread : Thread}
    (pending : ∀ result, current thread ≠ .done result)
    (change : before.Change after)
    (forward : before.nextCas ≤ after.nextCas)
    {moment : MemoryMoment Thread}
    (isTurn : moment.thread? = some thread)
    (begins : moment.before = before)
    (ends : moment.after = after)
    {next : Program interface (Except Error (MapAnswer Value))}
    (underway :
      (∃ result, next = .done result) ∨
        Underway codec id (operations thread) after next)
    (holds : after.HoldsMap codec id)
    (linearizes : ∃ completions : List (Completion Thread Value),
      Linearizes codec id operations memory (history ++ [moment])
        (Function.update current thread next) after completions)
    (harmless : after = before ∨ ∃ answer, next = .done (.ok answer))
    (attaches :
      (operations thread).call = .attach → Attaches id moment next) :
    Invariant codec id operations memory (history ++ [moment])
      (Function.update current thread next) after := by
  refine ⟨?_, holds, linearizes, ?_, ?_⟩
  · intro other
    by_cases own : other = thread
    · subst own
      rw [Function.update_self]
      exact underway
    · rw [Function.update_of_ne own]
      rcases invariant.underway other with ended | underway
      · exact .inl ended
      · exact .inr (underway.change change forward)
  · intro earlier member other turn
    rcases List.mem_append.mp member with isEarlier | isLast
    · rcases invariant.harmless earlier isEarlier other turn with
        same | ⟨answer, ended⟩
      · exact .inl same
      · have differs : other ≠ thread := by
          intro own
          subst own
          exact pending _ ended
        rw [Function.update_of_ne differs]
        exact .inr ⟨answer, ended⟩
    · rw [List.mem_singleton.mp isLast] at turn ⊢
      cases isTurn.symm.trans turn
      rw [Function.update_self, begins, ends]
      exact harmless
  · intro earlier member other turn attaching
    rcases List.mem_append.mp member with isEarlier | isLast
    · have attached :=
        invariant.attaches earlier isEarlier other turn attaching
      have differs : other ≠ thread := by
        intro own
        subst own
        exact pending _ attached.1
      rw [Function.update_of_ne differs]
      exact attached
    · rw [List.mem_singleton.mp isLast] at turn ⊢
      cases isTurn.symm.trans turn
      rw [Function.update_self]
      exact attaches attaching

/-- A step of an operation keeps the invariant. -/
theorem answered
    (invariant :
      Invariant codec id operations memory history current before)
    (dated : before.IsDated)
    (forward : before.nextCas ≤ after.nextCas)
    {thread : Thread}
    {call : Step}
    {next :
      interface.Answer call →
        Program interface (Except Error (MapAnswer Value))}
    {answer : interface.Answer call}
    (due : current thread = .step call next)
    (answered : memorySemantics call before answer after) :
    Invariant codec id operations memory
      (history ++ [.turn thread call answer before after])
      (Function.update current thread (next answer)) after := by
  have change := memorySemantics.change answered
  have pending : ∀ result, current thread ≠ .done result := by
    intro result ended
    rw [due] at ended
    cases ended
  have underway :
      Underway codec id (operations thread) before (.step call next) := by
    rcases invariant.underway thread with ⟨result, ended⟩ | underway
    · exact absurd ended (pending result)
    · rw [← due]
      exact underway
  obtain ⟨completions, linearizes⟩ := invariant.linearizes
  rcases underway.turn dated invariant.holdsMap answered with
    ⟨same, notAttaching, stillUnderway⟩ |
    ⟨stored, result, isStore, ended, concludes⟩
  · refine
      invariant.turn pending change forward rfl rfl rfl (.inr stillUnderway)
        (invariant.holdsMap.congr (congrArg (Memory.find? · id) same))
        ⟨completions, linearizes.goesOn _ ?_ ?_⟩ (.inl same) ?_
    · intro other result
      by_cases own : other = thread
      · subst own
        rw [Function.update_self]
        exact
          iff_of_false (stillUnderway.ne_done result) (pending result)
      · rw [Function.update_of_ne own]
    · rw [same]
    · intro attaching
      exact absurd attaching notAttaching
  · subst isStore
    rw [ended]
    have completed :=
      linearizes.concludes ⟨thread, stored, answer, before, after, result⟩
        pending concludes.performs
    refine
      invariant.turn pending change forward rfl rfl rfl (.inl ⟨result, rfl⟩)
        concludes.holdsMap ⟨_, completed⟩ ?_ ?_
    · cases result with
      | ok answer => exact .inr ⟨answer, rfl⟩
      | error error => exact .inl (concludes.harmless error rfl)
    · intro attaching
      have performs := concludes.performs
      rw [attaching] at performs
      exact ⟨congrArg Program.done performs.eq_ok_of_attach,
        concludes.attaches attaching⟩

end Invariant

/-- The invariant of operations on a map holds throughout a run. -/
theorem invariant_of_run
    (faithful : codec.IsFaithful)
    (keyed : ∀ thread, (operations thread).call.IsKeyed)
    (run :
      MemoryRun (fun thread => (operations thread).program codec id) memory
        history current final)
    (dated : memory.IsDated)
    (room : memory.nextCas.toNat + versionsTaken history < 2 ^ 64)
    (holds : memory.HoldsMap codec id)
    (alone : ∀ moment ∈ history,
      moment.thread? = none →
      moment.after.find? id = moment.before.find? id) :
    Invariant codec id operations memory history current final := by
  induction run with
  | start => exact .start faithful keyed holds
  | turn run due answered inductionHypothesis =>
      have change := memorySemantics.change answered
      have forward := MemoryRun.forward run room rfl change
      rw [versionsTaken_append] at room
      have invariant :=
        inductionHypothesis (by omega) fun moment member =>
          alone moment (List.mem_append_left _ member)
      exact
        invariant.answered (MemoryRun.isDated run dated (by omega)) forward
          due answered
  | outside run step inductionHypothesis =>
      have forward := MemoryRun.forward run room rfl step.change
      rw [versionsTaken_append] at room
      have invariant :=
        inductionHypothesis (by omega) fun moment member =>
          alone moment (List.mem_append_left _ member)
      have sameDocument := alone _ List.mem_concat_self rfl
      exact invariant.outside step.change forward sameDocument

/--
Operations on the map of a document that run beside each other are operations
of a sequential map in the order of their last steps, with its results. One
that fails has changed nothing, and attaching succeeds with its first step and
leaves a document that is there as it is.
-/
theorem operations_are_linearizable
    (faithful : codec.IsFaithful)
    (keyed : ∀ thread, (operations thread).call.IsKeyed)
    (first : MemoryRun programs .empty earlier programs middle)
    (second :
      MemoryRun (fun thread => (operations thread).program codec id) middle
        later current final)
    (holds : middle.HoldsMap codec id)
    (alone : ∀ moment ∈ later,
      moment.thread? = none →
      moment.after.find? id = moment.before.find? id)
    (room : versionsTaken (earlier ++ later) < 2 ^ 64 - 1) :
    (∃ completions : List (Completion Thread Value),
        Linearizes codec id operations middle later current final
          completions) ∧
      (∀ thread error,
        current thread = .done (.error error) →
        ∀ moment ∈ later,
          moment.thread? = some thread →
          moment.after = moment.before) ∧
      ∀ thread,
        (operations thread).call = .attach →
        ∀ moment ∈ later,
          moment.thread? = some thread →
          current thread = .done (.ok .nothing) ∧
            ((moment.before.find? id).isSome →
              moment.after = moment.before) := by
  have begin : Memory.empty.nextCas.toNat = 1 := rfl
  rw [versionsTaken_append] at room
  have counted := MemoryRun.nextCas_eq first (by omega)
  have dated := MemoryRun.isDated first Memory.empty_isDated (by omega)
  have invariant :=
    invariant_of_run faithful keyed second dated (by omega) holds alone
  refine ⟨invariant.linearizes, ?_, ?_⟩
  · intro thread error ended moment member turn
    rcases invariant.harmless moment member thread turn with
      same | ⟨answer, succeeded⟩
    · exact same
    · rw [ended] at succeeded
      cases succeeded
  · intro thread attaching moment member turn
    exact invariant.attaches moment member thread turn attaching

/-- One thread attaches a map, and two threads set the same entry. -/
def racing : Fin 3 → MapOperation String
  | 0 => ⟨.default, .attach⟩
  | 1 => ⟨.default, .put "text" "first"⟩
  | 2 => ⟨.default, .put "text" "second"⟩

/-- The second insertion overtakes the first. -/
def race : Replay interface (Fin 3) Memory (Except Error (MapAnswer String)) :=
  (Store.toMachine Memory.store).toMachine.replay [0, 1, 2, 2, 1, 1, 1, 1]
    (fun thread => (racing thread).program .text "notes") .empty

/-- The overtaken insertion replaces the value of the other one. -/
theorem operations_are_linearizable_race :
    (∃ completions,
        Linearizes .text "notes" racing .empty race.history race.programs
          race.state completions) ∧
      race.programs 1 = .done (.ok (.held (some "second"))) ∧
      race.programs 2 = .done (.ok (.held none)) := by
  have faithful : ValueCodec.text.IsFaithful :=
    fun value => ⟨.text value, rfl, rfl⟩
  have keyed : ∀ thread, (racing thread).call.IsKeyed
    | 0 => trivial
    | 1 | 2 => (by decide : "text" ≠ "")
  have linearizable :=
    operations_are_linearizable faithful keyed
      (.start : MemoryRun race.programs .empty [] race.programs .empty)
      (.replay (Store.toMachine Memory.store).toMachine
        [0, 1, 2, 2, 1, 1, 1, 1]
        (fun thread => (racing thread).program .text "notes") .empty)
      (fun document found => nomatch found)
      (by decide)
      (by decide)
  exact ⟨linearizable.1, rfl, rfl⟩

end Runs

end MapOperation

end ClusterClient.Document
