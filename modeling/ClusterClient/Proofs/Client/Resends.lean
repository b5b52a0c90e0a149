import ClusterClient.Proofs.Client.AttemptStages
import ClusterClient.Proofs.Wire.HeaderFields
import Mathlib.Algebra.Order.Floor.Div
import Mathlib.Tactic.NormNum

namespace ClusterClient.Client

/-!
# Sending again

`Course` says how the attempts of an execution follow each other, and every
statement about an execution is an induction over its course: an operation is
sent again only when the server reported a transient condition, while time
remains, and with the same bytes but for the number; and since every pause
brings the deadline nearer, the attempts come to an end.
-/

variable {client : Client} {operation : Wire.Operation} {timeout : Duration}
variable {policy : TransientPolicy} {deadline : Option Instant}

/-! How attempts follow each other. -/

/-- How an execution has learnt what time it has left. -/
inductive Checks
    (timeout : Duration) :
    Option Instant → List (Exchange interface) → Duration → Prop where
  | endless : Checks timeout none [] timeout
  | reading (deadline reading : Instant) :
      Checks timeout (some deadline) [⟨.readClock, reading⟩]
        (reading.remainingUntil deadline)

theorem Checks.isSilent
    {check : List (Exchange interface)}
    {remaining : Duration}
    (checks : Checks timeout deadline check remaining) : IsSilent check := by
  cases checks <;> exact ⟨rfl, rfl, rfl⟩

/--
What an execution has done in so many rounds. It looks what time it has left,
makes one attempt, and does so again after a pause.
-/
inductive Course
    (client : Client)
    (operation : Wire.Operation)
    (timeout : Duration)
    (policy : TransientPolicy)
    (deadline : Option Instant) :
    Nat → List (Exchange interface) →
    Program interface (Except Error Wire.Response) → Prop where
  | exhausted (next : Empty → Program interface (Except Error Wire.Response)) :
      Course client operation timeout policy deadline 0 [] (.step .never next)
  | checking
      {rounds : Nat}
      {left : Program interface (Except Error Wire.Response)}
      (underway : IsUnderway left) :
      Course client operation timeout policy deadline (rounds + 1) [] left
  | late
      {rounds : Nat}
      {check : List (Exchange interface)}
      {remaining : Duration}
      (checks : Checks timeout deadline check remaining)
      (isLate : remaining.isZero) :
      Course client operation timeout policy deadline (rounds + 1) check
        (.done (.error (.timeout timeout)))
  | underway
      {rounds : Nat}
      {check attempt : List (Exchange interface)}
      {remaining : Duration}
      {ended : Option AttemptEnd}
      {left : Program interface (Except Error Wire.Response)}
      (checks : Checks timeout deadline check remaining)
      (inTime : remaining.isZero = false)
      (tries : Tries client operation attempt ended)
      (underway : IsUnderway left) :
      Course client operation timeout policy deadline (rounds + 1)
        (check ++ attempt) left
  | ended
      {rounds : Nat}
      {check attempt : List (Exchange interface)}
      {remaining : Duration}
      {last : AttemptEnd}
      (checks : Checks timeout deadline check remaining)
      (inTime : remaining.isZero = false)
      (tries : Tries client operation attempt (some last))
      (isFinal : ¬ last.MayResend operation policy) :
      Course client operation timeout policy deadline (rounds + 1)
        (check ++ attempt) (.done (last.result timeout))
  | again
      {rounds : Nat}
      {check attempt rest : List (Exchange interface)}
      {remaining : Duration}
      {last : AttemptEnd}
      {left : Program interface (Except Error Wire.Response)}
      (checks : Checks timeout deadline check remaining)
      (inTime : remaining.isZero = false)
      (tries : Tries client operation attempt (some last))
      (resends : last.MayResend operation policy)
      (course : Course client operation timeout policy deadline rounds rest left) :
      Course client operation timeout policy deadline (rounds + 1)
        (check ++ attempt ++ [⟨.sleep (resendDelay.shorter remaining), ()⟩] ++
          rest)
        left

/-- Looking what time is left is under way or done. -/
theorem cases_timeLeft
    {exchanges : List (Exchange interface)}
    {left : Program interface Duration}
    (follows : Follows (timeLeft timeout deadline) exchanges left) :
    (exchanges = [] ∧ IsUnderway left) ∨
      ∃ remaining,
        left = .done remaining ∧
          Checks timeout deadline exchanges remaining := by
  cases deadline with
  | none =>
      obtain ⟨rfl, rfl⟩ := Follows.of_done follows
      exact .inr ⟨_, rfl, .endless⟩
  | some deadline =>
      rcases Follows.of_step follows with ⟨rfl, rfl⟩ | ⟨reading, _, rfl, ended⟩
      · exact .inl ⟨rfl, _, _, rfl, nofun⟩
      · obtain ⟨rfl, rfl⟩ := Follows.of_done ended
        exact .inr ⟨_, rfl, .reading deadline reading⟩

/-- The attempts of an execution follow their course. -/
theorem course_of_follows
    {rounds : Nat}
    {exchanges : List (Exchange interface)}
    {left : Program interface (Except Error Wire.Response)}
    (follows :
      Follows (client.attempts operation timeout policy deadline rounds).run
        exchanges left) :
    Course client operation timeout policy deadline rounds exchanges left := by
  induction rounds generalizing exchanges with
  | zero =>
      rcases Follows.of_step follows with ⟨rfl, rfl⟩ | ⟨impossible, _⟩
      · exact .exhausted _
      · cases impossible
  | succ rounds inductionHypothesis =>
      rcases cases_attempt follows with
        ⟨call, next, checking, rfl⟩ | ⟨error, checking, -⟩ |
        ⟨check, second, remaining, rfl, checking, trying⟩
      · rcases cases_lift checking with ⟨_, _, checking, due⟩ | ⟨_, due, -⟩
        · rcases cases_timeLeft checking with ⟨rfl, underway⟩ | ⟨_, due, -⟩
          · rw [due]
            exact .checking ((underway.bind _).bind _)
          · cases due
        · cases due
      · obtain ⟨_, impossible, -⟩ := follows_lift checking
        cases impossible
      obtain ⟨_, same, checking⟩ := follows_lift checking
      cases same
      rcases cases_timeLeft checking with ⟨-, underway⟩ | ⟨_, due, checks⟩
      · exact (underway.ne_done _ rfl).elim
      cases due
      split at trying
      · rename_i isLate
        obtain ⟨rfl, rfl⟩ := Follows.of_done trying
        rw [List.append_nil]
        exact .late checks isLate
      · rename_i inTime
        rw [Bool.not_eq_true] at inTime
        cases attemptStage_of_follows inTime trying with
        | underway tries underway =>
            exact .underway checks inTime tries underway
        | ended tries isFinal => exact .ended checks inTime tries isFinal
        | again tries resends goesOn =>
            rcases Follows.of_step goesOn with ⟨rfl, rfl⟩ | ⟨_, _, rfl, later⟩
            · rw [List.append_nil]
              exact .underway checks inTime tries ⟨_, _, rfl, nofun⟩
            · rw [List.append_cons, ← List.append_assoc, ← List.append_assoc]
              exact .again checks inTime tries resends (inductionHypothesis later)

/-- A round that goes on to another one has sent one frame, and has ended. -/
theorem Tries.round
    {check attempt : List (Exchange interface)}
    {remaining : Duration}
    {last : AttemptEnd}
    (tries : Tries client operation attempt (some last))
    (checks : Checks timeout deadline check remaining)
    (delay : Duration) :
    attemptEnds (check ++ attempt ++ [⟨.sleep delay, ()⟩]) = [last] ∧
      ∃ number,
        frames (check ++ attempt ++ [⟨.sleep delay, ()⟩]) =
          [issuedFrame client operation number] := by
  have noEnd : attemptEnds [⟨.sleep delay, ()⟩] = [] := rfl
  have noFrame : frames [⟨.sleep delay, ()⟩] = [] := rfl
  constructor
  · rw [attemptEnds_append, attemptEnds_append, checks.isSilent.ends,
      tries.ends, noEnd]
    rfl
  · obtain ⟨number, isSent⟩ := tries.frames_of_ended
    refine ⟨number, ?_⟩
    rw [frames_append, frames_append, checks.isSilent.frames, isSent, noFrame]
    rfl

/-! What happens before a frame is sent. -/

/-- A call of two parts is a call of the first one or of the second one. -/
theorem cases_cut
    {first second before after : List (Exchange interface)}
    {exchange : Exchange interface}
    (cut : first ++ second = before ++ exchange :: after) :
    (∃ between, first = before ++ exchange :: between) ∨
      ∃ between,
        before = first ++ between ∧ second = between ++ exchange :: after := by
  rcases List.append_eq_append_iff.mp cut with
    ⟨between, rfl, inSecond⟩ | ⟨between, rfl, inFirst⟩
  · exact .inr ⟨between, rfl, inSecond⟩
  · cases between with
    | nil =>
        rw [List.append_nil]
        exact .inr ⟨[], (List.append_nil _).symm, inFirst.symm⟩
    | cons head between =>
        cases inFirst
        exact .inl ⟨between, rfl⟩

/--
Time was left: after the last frame, the last end of an attempt and the last
pause, the clock was read before the deadline.
-/
def HasTimeLeft
    (deadline : Instant)
    (before : List (Exchange interface)) : Prop :=
  ∃ earlier reading later,
    before = earlier ++ ⟨.readClock, reading⟩ :: later ∧
      IsSilent later ∧
      reading.nanoseconds < deadline.nanoseconds

theorem HasTimeLeft.behind
    {deadline : Instant}
    {before : List (Exchange interface)}
    (inTime : HasTimeLeft deadline before)
    (first : List (Exchange interface)) :
    HasTimeLeft deadline (first ++ before) := by
  obtain ⟨earlier, reading, later, rfl, isSilent, isBefore⟩ := inTime
  refine ⟨first ++ earlier, reading, later, ?_, isSilent, isBefore⟩
  rw [List.append_assoc]

theorem isZero_ofNanoseconds_iff {nanoseconds : Nat} :
    (Duration.ofNanoseconds nanoseconds).isZero ↔ nanoseconds = 0 := by
  have limit : 1 < durationLimit := by
    norm_num [durationLimit, nanosecondsPerSecond]
  unfold Duration.ofNanoseconds Duration.isZero
  split
  · exact decide_eq_true_iff
  · have longest : Duration.longest.nanoseconds = durationLimit - 1 := rfl
    rw [decide_eq_true_iff, longest]
    omega

/-- No time remains at a deadline and after it. -/
theorem isZero_remainingUntil_iff {reading deadline : Instant} :
    (reading.remainingUntil deadline).isZero ↔
      deadline.nanoseconds ≤ reading.nanoseconds :=
  isZero_ofNanoseconds_iff.trans Nat.sub_eq_zero_iff_le

theorem lt_of_remainingUntil
    {reading deadline : Instant}
    (inTime : (reading.remainingUntil deadline).isZero = false) :
    reading.nanoseconds < deadline.nanoseconds := by
  by_contra isLate
  rw [isZero_remainingUntil_iff.mpr (Nat.le_of_not_lt isLate)] at inTime
  cases inTime

theorem Checks.hasTimeLeft
    {check : List (Exchange interface)}
    {remaining : Duration}
    {limit : Instant}
    (checks : Checks timeout (some limit) check remaining)
    (inTime : remaining.isZero = false)
    {later : List (Exchange interface)}
    (isSilent : IsSilent later) : HasTimeLeft limit (check ++ later) := by
  cases checks with
  | reading deadline reading =>
      exact ⟨[], reading, later, rfl, isSilent, lt_of_remainingUntil inTime⟩

/-- Before a frame all attempts have ended so that one more is allowed. -/
structure IsReady
    (operation : Wire.Operation)
    (policy : TransientPolicy)
    (deadline : Option Instant)
    (before : List (Exchange interface)) : Prop where
  ended : (attemptEnds before).length = (frames before).length
  resends : ∀ last ∈ attemptEnds before, last.MayResend operation policy
  inTime : ∀ limit, deadline = some limit → HasTimeLeft limit before

/-- What is done before a frame is sent, in the round of the frame. -/
theorem Checks.isReady
    {check first : List (Exchange interface)}
    {remaining : Duration}
    (checks : Checks timeout deadline check remaining)
    (inTime : remaining.isZero = false)
    (isFirst : IsSilent first) :
    IsReady operation policy deadline (check ++ first) where
  ended := by
    have isSilent := checks.isSilent.append isFirst
    rw [isSilent.ends, isSilent.frames]
    rfl
  resends := by
    rw [(checks.isSilent.append isFirst).ends]
    exact List.forall_mem_nil _
  inTime limit same := by
    rw [same] at checks
    exact checks.hasTimeLeft inTime isFirst

/-- A round that goes on to another one leaves everything ready for it. -/
theorem IsReady.behind
    {attempt before : List (Exchange interface)}
    {last : AttemptEnd}
    {number : UInt32}
    (isReady : IsReady operation policy deadline before)
    (isSent : frames attempt = [issuedFrame client operation number])
    (ends : attemptEnds attempt = [last])
    (resends : last.MayResend operation policy) :
    IsReady operation policy deadline (attempt ++ before) where
  ended := by
    rw [attemptEnds_append, frames_append, isSent, ends]
    exact congrArg Nat.succ isReady.ended
  resends := by
    rw [attemptEnds_append, ends]
    exact List.forall_mem_cons.mpr ⟨resends, isReady.resends⟩
  inTime limit same := (isReady.inTime limit same).behind attempt

namespace Course

variable {rounds : Nat} {exchanges : List (Exchange interface)}
variable {left : Program interface (Except Error Wire.Response)}

/-- Every frame is the one of the operation, under some number. -/
theorem frames_eq
    (course :
      Course client operation timeout policy deadline rounds exchanges left) :
    ∀ frame ∈ frames exchanges,
      ∃ number, frame = issuedFrame client operation number := by
  have ofTries : ∀ {check attempt : List (Exchange interface)}
      {remaining : Duration} {ended : Option AttemptEnd},
      Checks timeout deadline check remaining →
      Tries client operation attempt ended →
      ∀ frame ∈ frames (check ++ attempt),
        ∃ number, frame = issuedFrame client operation number := by
    intro check attempt remaining ended checks tries frame member
    rw [frames_append, checks.isSilent.frames, List.nil_append] at member
    rcases tries.cases_frames with ⟨nothing, -⟩ | ⟨number, isSent⟩
    · rw [nothing] at member
      cases member
    · rw [isSent] at member
      exact ⟨number, List.mem_singleton.mp member⟩
  induction course with
  | exhausted | checking => exact nofun
  | late checks =>
      rw [checks.isSilent.frames]
      exact nofun
  | underway checks _ tries | ended checks _ tries => exact ofTries checks tries
  | again checks _ tries _ _ inductionHypothesis =>
      intro frame member
      rw [frames_append] at member
      rcases List.mem_append.mp member with isFirst | isLater
      · obtain ⟨-, number, isSent⟩ := tries.round checks _
        rw [isSent] at isFirst
        exact ⟨number, List.mem_singleton.mp isFirst⟩
      · exact inductionHypothesis frame isLater

/-- Whenever a frame is sent, everything is ready for it. -/
theorem isReady_of_send
    {before after : List (Exchange interface)}
    {frame : Bytes}
    {answer : Except Error Unit}
    (course :
      Course client operation timeout policy deadline rounds
        (before ++ ⟨.send frame, answer⟩ :: after) left) :
    IsReady operation policy deadline before := by
  have ofTries : ∀ {before after check attempt : List (Exchange interface)}
      {remaining : Duration} {ended : Option AttemptEnd},
      Checks timeout deadline check remaining →
      remaining.isZero = false →
      Tries client operation attempt ended →
      check ++ attempt = before ++ ⟨.send frame, answer⟩ :: after →
      IsReady operation policy deadline before := by
    intro before after check attempt remaining ended checks inTime tries cut
    rcases cases_cut cut with ⟨between, inCheck⟩ | ⟨first, rfl, atSend⟩
    · rw [inCheck] at checks
      exact (frames_ne_nil checks.isSilent.frames).elim
    · rw [atSend] at tries
      exact checks.isReady inTime tries.isSilent_before_send
  generalize cut : before ++ ⟨.send frame, answer⟩ :: after = exchanges at course
  induction course generalizing before with
  | exhausted | checking =>
      exact absurd cut (List.append_ne_nil_of_right_ne_nil _ nofun)
  | late checks =>
      rw [← cut] at checks
      exact (frames_ne_nil checks.isSilent.frames).elim
  | underway checks inTime tries | ended checks inTime tries =>
      exact ofTries checks inTime tries cut.symm
  | @again _ check attempt rest remaining last _ checks inTime tries resends _
      inductionHypothesis =>
      have round := tries.round checks (resendDelay.shorter remaining)
      rcases cases_cut cut.symm with ⟨between, inRound⟩ | ⟨later, rfl, atSend⟩
      · rcases cases_cut inRound with ⟨between, inAttempt⟩ | ⟨first, rfl, atSend⟩
        · exact ofTries checks inTime tries inAttempt
        · cases first with
          | nil => cases atSend
          | cons _ first => exact absurd (List.cons.inj atSend).2 (by simp)
      · obtain ⟨ends, number, isSent⟩ := round
        exact (inductionHypothesis atSend.symm).behind isSent ends resends

/-- An operation that may not be sent again is sent once at most. -/
theorem length_frames_le_one
    (course :
      Course client operation timeout policy deadline rounds exchanges left)
    (once : ∀ last : AttemptEnd, ¬ last.MayResend operation policy) :
    (frames exchanges).length ≤ 1 := by
  have ofTries : ∀ {check attempt : List (Exchange interface)}
      {remaining : Duration} {ended : Option AttemptEnd},
      Checks timeout deadline check remaining →
      Tries client operation attempt ended →
      (frames (check ++ attempt)).length ≤ 1 := by
    intro check attempt remaining ended checks tries
    rw [frames_append, checks.isSilent.frames, List.nil_append]
    rcases tries.cases_frames with ⟨nothing, -⟩ | ⟨number, isSent⟩
    · rw [nothing]
      exact Nat.zero_le 1
    · rw [isSent]
      exact Nat.le_refl 1
  cases course with
  | exhausted | checking => exact Nat.zero_le 1
  | late checks =>
      rw [checks.isSilent.frames]
      exact Nat.zero_le 1
  | underway checks _ tries | ended checks _ tries => exact ofTries checks tries
  | again _ _ _ resends => exact (once _ resends).elim

/-- Every round before the last one has sent a frame. -/
theorem length_frames_of_exhausted
    {next : Empty → Program interface (Except Error Wire.Response)}
    (course :
      Course client operation timeout policy deadline rounds exchanges left)
    (isExhausted : left = .step .never next) :
    (frames exchanges).length = rounds := by
  induction course with
  | exhausted => rfl
  | checking underway | underway _ _ _ underway =>
      exact (underway.ne_never next isExhausted).elim
  | late | ended => cases isExhausted
  | again checks _ tries _ _ inductionHypothesis =>
      obtain ⟨-, number, isSent⟩ := tries.round checks _
      rw [frames_append, isSent, List.length_append,
        inductionHypothesis isExhausted, Nat.add_comm]
      rfl

end Course

/-! What an execution returns. -/

/--
No time is left: the last thing that was done was to read the clock, at the
deadline or later. Without a deadline, there was no time to begin with.
-/
def IsTimeOver
    (timeout : Duration)
    (deadline : Option Instant)
    (exchanges : List (Exchange interface)) : Prop :=
  match deadline with
  | none => timeout.isZero
  | some deadline =>
      ∃ earlier reading,
        exchanges = earlier ++ [⟨.readClock, reading⟩] ∧
          deadline.nanoseconds ≤ reading.nanoseconds

theorem IsTimeOver.behind
    {exchanges : List (Exchange interface)}
    (isOver : IsTimeOver timeout deadline exchanges)
    (first : List (Exchange interface)) :
    IsTimeOver timeout deadline (first ++ exchanges) := by
  cases deadline with
  | none => exact isOver
  | some deadline =>
      obtain ⟨earlier, reading, rfl, isLate⟩ := isOver
      exact ⟨first ++ earlier, reading, (List.append_assoc ..).symm, isLate⟩

theorem Checks.isTimeOver
    {check : List (Exchange interface)}
    {remaining : Duration}
    (checks : Checks timeout deadline check remaining)
    (isLate : remaining.isZero) : IsTimeOver timeout deadline check := by
  cases checks with
  | endless => exact isLate
  | reading deadline reading =>
      exact ⟨[], reading, rfl, isZero_remainingUntil_iff.mp isLate⟩

/--
The result of an execution is that of the first attempt after which it could not
send again, or else it has no time left.
-/
inductive Concludes
    (operation : Wire.Operation)
    (timeout : Duration)
    (policy : TransientPolicy)
    (deadline : Option Instant)
    (exchanges : List (Exchange interface)) :
    Except Error Wire.Response → Prop where
  | ended
      {earlier : List AttemptEnd}
      {last : AttemptEnd}
      (ends : attemptEnds exchanges = earlier ++ [last])
      (resends : ∀ ended ∈ earlier, ended.MayResend operation policy)
      (isFinal : ¬ last.MayResend operation policy) :
      Concludes operation timeout policy deadline exchanges
        (last.result timeout)
  | late
      (resends :
        ∀ ended ∈ attemptEnds exchanges, ended.MayResend operation policy)
      (isOver : IsTimeOver timeout deadline exchanges) :
      Concludes operation timeout policy deadline exchanges
        (.error (.timeout timeout))

theorem Concludes.behind
    {round exchanges : List (Exchange interface)}
    {result : Except Error Wire.Response}
    {last : AttemptEnd}
    (concludes :
      Concludes operation timeout policy deadline exchanges result)
    (ends : attemptEnds round = [last])
    (resends : last.MayResend operation policy) :
    Concludes operation timeout policy deadline (round ++ exchanges)
      result := by
  have all : attemptEnds (round ++ exchanges) = last :: attemptEnds exchanges := by
    rw [attemptEnds_append, ends]
    rfl
  cases concludes with
  | @ended earlier final laterEnds laterResends isFinal =>
      refine .ended ?_ (List.forall_mem_cons.mpr ⟨resends, laterResends⟩) isFinal
      rw [all, laterEnds]
      rfl
  | late laterResends isOver =>
      refine .late ?_ (isOver.behind round)
      rw [all]
      exact List.forall_mem_cons.mpr ⟨resends, laterResends⟩

theorem Course.concludes
    {rounds : Nat}
    {exchanges : List (Exchange interface)}
    {left : Program interface (Except Error Wire.Response)}
    {result : Except Error Wire.Response}
    (course :
      Course client operation timeout policy deadline rounds exchanges left)
    (ended : left = .done result) :
    Concludes operation timeout policy deadline exchanges result := by
  induction course with
  | exhausted => cases ended
  | checking underway | underway _ _ _ underway =>
      exact (underway.ne_done result ended).elim
  | late checks isLate =>
      cases ended
      refine .late ?_ (checks.isTimeOver isLate)
      rw [checks.isSilent.ends]
      exact List.forall_mem_nil _
  | ended checks _ tries isFinal =>
      cases ended
      refine .ended ?_ (List.forall_mem_nil _) isFinal
      rw [attemptEnds_append, checks.isSilent.ends, tries.ends]
      rfl
  | again checks _ tries resends _ inductionHypothesis =>
      obtain ⟨ends, -⟩ := tries.round checks _
      exact (inductionHypothesis ended).behind ends resends

/-! Why an execution comes to an end. -/

/-- What the clock shows at least after a call, if it showed `now` before. -/
def clockAfter (now : Nat) : Exchange interface → Nat
  | ⟨.readClock, reading⟩ => reading.nanoseconds
  | ⟨.sleep delay, _⟩ => now + delay.nanoseconds
  | _ => now

/-- The clock never goes back, and a pause lasts as long as it is meant to. -/
def KeepsTime : Nat → List (Exchange interface) → Prop
  | _, [] => True
  | now, exchange :: rest =>
      now ≤ clockAfter now exchange ∧ KeepsTime (clockAfter now exchange) rest

theorem KeepsTime.behind
    {now : Nat}
    {first second : List (Exchange interface)}
    (keepsTime : KeepsTime now (first ++ second)) :
    ∃ later, now ≤ later ∧ KeepsTime later second := by
  induction first generalizing now with
  | nil => exact ⟨now, Nat.le_refl now, keepsTime⟩
  | cons exchange rest inductionHypothesis =>
      obtain ⟨goesOn, keepsTime⟩ := keepsTime
      obtain ⟨later, isLater, keepsTime⟩ := inductionHypothesis keepsTime
      exact ⟨later, Nat.le_trans goesOn isLater, keepsTime⟩

/-- A pause lasts for the whole delay, or until the deadline. -/
theorem le_pause (reading deadline : Instant) :
    let pause := resendDelay.shorter (reading.remainingUntil deadline)
    resendDelay.nanoseconds ≤ pause.nanoseconds ∨
      deadline.nanoseconds - reading.nanoseconds ≤ pause.nanoseconds := by
  intro pause
  unfold pause Duration.shorter
  split
  · exact .inl (Nat.le_refl _)
  · rename_i isShorter
    refine .inr ?_
    unfold Instant.remainingUntil Duration.ofNanoseconds at isShorter ⊢
    split at isShorter
    · rename_i belowLimit
      rw [dif_pos belowLimit]
    · exact absurd (Nat.le_sub_one_of_lt resendDelay.belowLimit) isShorter

/-- An attempt is made at a time before the deadline. -/
theorem Checks.keepsTime
    {now : Nat}
    {limit : Instant}
    {check later : List (Exchange interface)}
    {remaining : Duration}
    (checks : Checks timeout (some limit) check remaining)
    (inTime : remaining.isZero = false)
    (keepsTime : KeepsTime now (check ++ later)) :
    ∃ reading : Instant,
      remaining = reading.remainingUntil limit ∧
        now ≤ reading.nanoseconds ∧
        reading.nanoseconds < limit.nanoseconds ∧
        KeepsTime reading.nanoseconds later := by
  cases checks with
  | reading limit reading =>
      obtain ⟨isLater, keepsTime⟩ := keepsTime
      exact
        ⟨reading, rfl, isLater, lt_of_remainingUntil inTime, keepsTime⟩

/-- One attempt has at most one frame, and it is made before the deadline. -/
theorem Checks.length_frames_lt
    {now : Nat}
    {limit : Instant}
    {check attempt : List (Exchange interface)}
    {remaining : Duration}
    {ended : Option AttemptEnd}
    (checks : Checks timeout (some limit) check remaining)
    (inTime : remaining.isZero = false)
    (tries : Tries client operation attempt ended)
    (keepsTime : KeepsTime now (check ++ attempt)) :
    (frames (check ++ attempt)).length * resendDelay.nanoseconds <
      (limit.nanoseconds - now) + resendDelay.nanoseconds := by
  have positive : 0 < resendDelay.nanoseconds := by decide
  obtain ⟨reading, -, isLater, isEarlier, -⟩ := checks.keepsTime inTime keepsTime
  rw [frames_append, checks.isSilent.frames, List.nil_append]
  rcases tries.cases_frames with ⟨nothing, -⟩ | ⟨number, isSent⟩
  · rw [nothing, List.length_nil]
    omega
  · rw [isSent, List.length_singleton]
    omega

/-- Every pause brings the deadline nearer, so there are only so many frames. -/
theorem Course.length_frames_lt
    {rounds now : Nat}
    {limit : Instant}
    {exchanges : List (Exchange interface)}
    {left : Program interface (Except Error Wire.Response)}
    (course :
      Course client operation timeout policy (some limit) rounds exchanges left)
    (keepsTime : KeepsTime now exchanges) :
    (frames exchanges).length * resendDelay.nanoseconds <
      (limit.nanoseconds - now) + resendDelay.nanoseconds := by
  have positive : 0 < resendDelay.nanoseconds := by decide
  generalize same : some limit = deadline at course
  induction course generalizing now with
  | exhausted | checking =>
      rw [show frames [] = [] from rfl, List.length_nil]
      omega
  | late checks =>
      rw [checks.isSilent.frames, List.length_nil]
      omega
  | underway checks inTime tries | ended checks inTime tries =>
      subst same
      exact checks.length_frames_lt inTime tries keepsTime
  | @again _ check attempt rest remaining last _ checks inTime tries _ _
      inductionHypothesis =>
      subst same
      obtain ⟨-, number, isSent⟩ :=
        tries.round checks (resendDelay.shorter remaining)
      rw [List.append_assoc, List.append_assoc] at keepsTime
      obtain ⟨reading, rfl, isLater, isEarlier, keepsTime⟩ :=
        checks.keepsTime inTime keepsTime
      obtain ⟨sleeping, isAsleep, -, keepsTime⟩ := keepsTime.behind
      have fewer := inductionHypothesis keepsTime
      have pause := le_pause reading limit
      simp only [clockAfter] at fewer
      rw [frames_append, isSent, List.length_append, List.length_singleton,
        Nat.add_mul, Nat.one_mul]
      by_cases reaches :
          limit.nanoseconds ≤
            sleeping +
              (resendDelay.shorter (reading.remainingUntil limit)).nanoseconds
      · -- No frame is sent after a pause that reaches the deadline.
        rw [Nat.sub_eq_zero_of_le reaches, Nat.zero_add] at fewer
        have noFrame : (frames rest).length = 0 := by
          by_contra some
          exact
            Nat.not_le_of_lt fewer
              (Nat.le_mul_of_pos_left _ (Nat.pos_of_ne_zero some))
        rw [noFrame]
        omega
      · omega

/-- As many frames as there are pauses in the timeout, and one for the rest. -/
theorem Course.length_frames_le
    {rounds : Nat}
    {start limit : Instant}
    {exchanges : List (Exchange interface)}
    {left : Program interface (Except Error Wire.Response)}
    (course :
      Course client operation timeout policy (some limit) rounds exchanges left)
    (ends : start.after? timeout = some limit)
    (keepsTime : KeepsTime start.nanoseconds exchanges) :
    (frames exchanges).length ≤
      timeout.nanoseconds ⌈/⌉ resendDelay.nanoseconds := by
  have positive : 0 < resendDelay.nanoseconds := by decide
  have fewer := course.length_frames_lt keepsTime
  have isLimit : start.nanoseconds + timeout.nanoseconds = limit.nanoseconds := by
    simp only [Instant.after?] at ends
    split at ends
    · cases ends
      rfl
    · cases ends
  rw [← isLimit, Nat.add_sub_cancel_left] at fewer
  rw [Nat.ceilDiv_eq_add_pred_div, Nat.le_div_iff_mul_le positive]
  omega

/--
Executions send again safely, and not forever. Consider what one has done so
far, after it has read the clock once and has got an allowance of rounds. An
operation that is not idempotent, or one whose client only reports transient
conditions, has been sent once at most. Whenever a frame was sent, every earlier
frame belonged to an attempt that had ended with a transient condition of an
idempotent operation, under a client that sends again; and after the last
attempt and the last pause, the clock had been read before the deadline. All
frames are the same but for the number. The result is that of the first attempt
after which nothing may be sent again, where a request that was cancelled
because time ran out has exceeded the timeout of the execution; or it is this
timeout, and no time is left. A connection that refuses a frame ends the
execution with its own error.

When the clock can hold the deadline, never goes back, and pauses last as long
as they are meant to, there are at most as many frames as pauses are started in
the timeout, so the execution does not outlast an allowance above this bound.
-/
theorem executions_resend_safely
    {client : Client}
    {operation : Wire.Operation}
    {timeout : Duration}
    {policy : TransientPolicy}
    {start : Instant}
    {allowed : Nat}
    {exchanges : List (Exchange interface)}
    {left : Program interface (Except Error Wire.Response)}
    (follows :
      Follows (client.executeWithin operation timeout policy).run
        (⟨.readClock, start⟩ :: ⟨.allowance, allowed⟩ :: exchanges) left) :
    (operation.isIdempotent = false ∨ policy = .report →
      (frames exchanges).length ≤ 1) ∧
    (∀ before frame answer after,
      exchanges = before ++ ⟨.send frame, answer⟩ :: after →
      IsReady operation policy (start.after? timeout) before) ∧
    (∃ first last : Bytes,
      first.length = 12 ∧
        ∀ frame ∈ frames exchanges,
          ∃ number : UInt32,
            frame = first ++ (writeNumber 4 number.toNat ++ last)) ∧
    (∀ result,
      left = .done result →
      Concludes operation timeout policy (start.after? timeout) exchanges
        result) ∧
    ∀ limit,
      start.after? timeout = some limit →
      KeepsTime start.nanoseconds exchanges →
      let bound := timeout.nanoseconds ⌈/⌉ resendDelay.nanoseconds
      (frames exchanges).length ≤ bound ∧
        (bound < allowed → ∀ next, left ≠ .step .never next) := by
  rcases Follows.of_step follows with ⟨impossible, -⟩ | ⟨_, _, same, allowing⟩
  · cases impossible
  cases same
  rcases Follows.of_step allowing with ⟨impossible, -⟩ | ⟨_, _, same, attempting⟩
  · cases impossible
  cases same
  have course := course_of_follows attempting
  refine ⟨?once, ?ready, ?same, fun _ => course.concludes, ?bounded⟩
  case once =>
    intro mayNot
    apply course.length_frames_le_one
    rintro last ⟨-, idempotent, resend⟩
    rcases mayNot with once | report
    · rw [once] at idempotent
      cases idempotent
    · rw [resend] at report
      cases report
  case ready =>
    rintro before frame answer after rfl
    exact course.isReady_of_send
  case same =>
    obtain ⟨first, last, length, encoded⟩ :=
      Wire.exists_encode (operation.route client.settings.partitionCount)
        client.channel
    refine ⟨first, last, length, ?_⟩
    intro frame member
    obtain ⟨number, rfl⟩ := course.frames_eq frame member
    exact ⟨number, encoded number⟩
  case bounded =>
    intro limit ends keepsTime bound
    rw [ends] at course
    have fewer := course.length_frames_le ends keepsTime
    refine ⟨fewer, ?_⟩
    intro isAllowed next isExhausted
    rw [course.length_frames_of_exhausted isExhausted] at fewer
    exact Nat.not_le_of_lt isAllowed fewer

/--
A read with a timeout of eight milliseconds that is sent twice: the server is
busy at first, and after the pause the connection is closed.
-/
theorem executions_resend_safely_busy :
    let client : Client :=
      ofSettings (.ofBucket "default")
        ⟨1, .none, ⟨1, by decide⟩, 0, "default"⟩
    let operation : Wire.Operation :=
      .get ⟨"doc", .default, 0, by decide, by decide⟩
    let busy : Request.Outcome Wire.Response := .failed (.status .busy none)
    let closed : Error := .transport .outboundClosed
    let issue (number : Nat) (now : Instant) (left : Duration)
        (sent : Except Error Unit) : List (Exchange interface) :=
      let context : Request.Context := ⟨.ofNat number, "get", some "doc"⟩
      let correlation : UInt32 := .ofNat number
      [⟨.readClock, now⟩,
        ⟨.table (.newContext "get" (some "doc")), context⟩,
        ⟨.readClock, now⟩,
        ⟨.table
            (.openRequest ⟨left, now, context, .incomplete, none, .empty⟩),
          number⟩,
        ⟨.table .takeCorrelation, correlation⟩,
        ⟨.table (.register correlation ⟨operation, number⟩), ()⟩,
        ⟨.send (operation.encode correlation client.channel), sent⟩]
    let answered : List (Exchange interface) :=
      issue 1 ⟨0⟩ ⟨8000000, by decide⟩ (.ok ()) ++
        [⟨.readClock, Instant.mk 0⟩,
          ⟨.awaitUntil 1 ⟨8000000, by decide⟩, some busy⟩,
          ⟨.sleep resendDelay, ()⟩]
    let refused : List (Exchange interface) :=
      issue 2 ⟨5000000⟩ ⟨3000000, by decide⟩ (.error closed) ++
        [⟨.table (.takeEntry 2), some (⟨operation, 2⟩ : Pending)⟩,
          ⟨.table (.complete 2 (.failed closed)), true⟩]
    Follows (client.executeWithin operation ⟨8000000, by decide⟩ .resend).run
        (⟨.readClock, Instant.mk 0⟩ :: ⟨.allowance, (3 : Nat)⟩ ::
          (answered ++ refused))
        (.done (.error closed)) ∧
      Instant.after? ⟨0⟩ ⟨8000000, by decide⟩ = some ⟨8000000⟩ ∧
      KeepsTime 0 (answered ++ refused) ∧
      Concludes operation ⟨8000000, by decide⟩ .resend (some ⟨8000000⟩)
        (answered ++ refused) (.error closed) ∧
      (frames (answered ++ refused)).length ≤ 2 := by
  intro client operation busy closed issue answered refused
  have secondRound :
      Follows (client.attempts operation ⟨8000000, by decide⟩ .resend
          (some ⟨8000000⟩) 2).run
        refused (.done (.error closed)) :=
    .next (.next (.next (.next (.next (.next (.next (.next (.next
      (.start _)))))))))
  have follows :
      Follows (client.executeWithin operation ⟨8000000, by decide⟩ .resend).run
        (⟨.readClock, Instant.mk 0⟩ :: ⟨.allowance, (3 : Nat)⟩ ::
          (answered ++ refused))
        (.done (.error closed)) :=
    .next (.next (.next (.next (.next (.next (.next (.next (.next (.next (.next
      (.next secondRound)))))))))))
  have ends :
      Instant.after? ⟨0⟩ ⟨8000000, by decide⟩ = some ⟨8000000⟩ := by
    decide
  have delay : resendDelay.nanoseconds = 5000000 := by decide
  have keepsTime : KeepsTime 0 (answered ++ refused) := by
    simp [KeepsTime, clockAfter, answered, refused, issue, delay]
  obtain ⟨-, -, -, results, bounded⟩ := executions_resend_safely follows
  have concludes := results _ rfl
  have fewer := (bounded _ ends keepsTime).1
  refine ⟨follows, ends, keepsTime, ?_, ?_⟩
  · rwa [ends] at concludes
  · rw [delay] at fewer
    exact Nat.le_trans fewer (by decide)

end ClusterClient.Client
