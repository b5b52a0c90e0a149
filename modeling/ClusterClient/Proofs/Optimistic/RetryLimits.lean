import ClusterClient.Proofs.Optimistic.Rounds
import ClusterClient.Proofs.Text.Numerals

namespace ClusterClient

/-!
# Retry limits from the environment

The text of the environment states a retry limit when, between white space, it
is the numeral of a number from one up to the largest one of 32 bits. Such a
text changes the retry limit of the settings, to that very number, and nothing
else; every other text is refused.

An update that takes its limit from these settings makes as many rounds as the
text says while its writes meet conflicts, and never more. The rounds are
counted in the record of a run by their reads, since every round begins with
one and makes no other.
-/

namespace Optimistic

variable {Value Next : Type}

/-- The beginning of a round. -/
def Event.isRead : Event Value Next → Bool
  | .read _ => true
  | _ => false

/-- How often an update reads. -/
def readCount (events : List (Event Value Next)) : Nat :=
  events.countP Event.isRead

theorem readCount_append (first second : List (Event Value Next)) :
    readCount (first ++ second) = readCount first + readCount second :=
  List.countP_append

namespace Answers

variable (answers : Answers Value) (update : Update)
variable (next : Option Value → Next)

theorem readCount_roundEvents (round : Nat) :
    readCount (answers.roundEvents next round) = 1 := by
  rw [roundEvents]
  split <;> rfl

theorem readCount_pauseAfter (round : Nat) :
    readCount (pauseAfter update round : List (Event Value Next)) = 0 := by
  unfold pauseAfter
  dsimp only
  split <;> rfl

/-- A conflicting round reads once, and the pause behind it does not read. -/
theorem readCount_conflictEvents (round : Nat) :
    readCount (answers.conflictEvents update next round) = 1 := by
  rw [conflictEvents, readCount_append, readCount_roundEvents,
    readCount_pauseAfter]

theorem readCount_flatMap_conflictEvents (rounds : List Nat) :
    readCount (rounds.flatMap (answers.conflictEvents update next)) =
      rounds.length := by
  have once :
      List.countP Event.isRead ∘ answers.conflictEvents update next =
        fun _ => 1 :=
    funext (answers.readCount_conflictEvents update next)
  rw [readCount, List.countP_flatMap, once, List.map_const',
    List.sum_replicate_nat, Nat.mul_one]

end Answers

/--
An update makes no more rounds than its ceiling. If all of these are conflicts,
then it makes them all and reports how many they were.
-/
structure Update.HasCeiling (update : Update) (ceiling : Nat) : Prop where
  bounded :
    ∀ {Value Next : Type} (answers : Answers Value)
      (next : Option Value → Next),
      readCount (answers.run update next).2.events ≤ ceiling
  exhausted :
    ∀ {Value Next : Type} (answers : Answers Value)
      (next : Option Value → Next),
      (∀ round < ceiling, answers.IsConflict round) →
      readCount (answers.run update next).2.events = ceiling ∧
        (answers.run update next).1 =
          .error (.concurrentModification update.operation ceiling)

/-- An update reads once a round, up to the last round of its course. -/
theorem Answers.exists_course_of_run
    (answers : Answers Value)
    {update : Update}
    (allowed : 0 < update.maxAttempts)
    (next : Option Value → Next) :
    ∃ last,
      answers.IsCourse 0 update.maxAttempts last ∧
        (answers.run update next).1 = answers.resultAt update last ∧
        readCount (answers.run update next).2.events = last + 1 := by
  obtain ⟨last, record, course, ran, recorded⟩ :=
    answers.exists_course update next 0 allowed []
  change answers.run update next = _ at ran
  refine ⟨last, course, ?_, ?_⟩
  · rw [ran]
  · rw [ran, recorded, List.nil_append, readCount_append,
      readCount_flatMap_conflictEvents, readCount_roundEvents,
      List.length_range', Nat.sub_zero]

/-- The allowed rounds of an update are its ceiling, if it may make any. -/
theorem Update.hasCeiling
    {update : Update}
    (allowed : 0 < update.maxAttempts) :
    update.HasCeiling update.maxAttempts where
  bounded answers next := by
    obtain ⟨last, course, -, reads⟩ := answers.exists_course_of_run allowed next
    have below := course.last_lt
    omega
  exhausted answers next conflicts := by
    obtain ⟨last, course, result, reads⟩ :=
      answers.exists_course_of_run allowed next
    have below := course.last_lt
    have conflict := conflicts last (by omega)
    have isLast : ¬ last + 1 < 0 + update.maxAttempts := fun more =>
      course.settled more conflict
    obtain ⟨current, id, found, written⟩ := conflict
    refine ⟨by omega, ?_⟩
    rw [result, Answers.resultAt_of_ok found, written]
    rfl

end Optimistic

namespace Settings

/-- A text is the numeral of a number, between white space. -/
def StatesNumber (text : String) (number : Nat) : Prop :=
  ∃ core, Text.IsCore text.toList core ∧ Text.IsNumeral core number

/-- A text states a number from one up to the largest one of 32 bits. -/
structure StatesRetryLimit (text : String) (limit : Nat) : Prop where
  stated : StatesNumber text limit
  positive : 1 ≤ limit
  fits : limit ≤ 2 ^ 32 - 1

/-- A number of 32 bits is read from a text just when the text states it. -/
theorem readUnsigned_trimBlank_eq_ok_iff
    {text : String}
    {number : Nat} :
    Text.readUnsigned largestRetryLimit (Text.trimBlank text.toList) =
        .ok number ↔
      StatesNumber text number ∧ number ≤ 2 ^ 32 - 1 := by
  rw [Text.readUnsigned_eq_ok_iff]
  simp only [StatesNumber, Text.isCore_iff, exists_eq_left']
  rfl

/-- Exactly the retry limits that a text states are read from it. -/
theorem readRetryLimit_eq_ok_iff
    {text : String}
    {limit : UInt32} :
    readRetryLimit text = .ok limit ↔ StatesRetryLimit text limit.toNat := by
  have states {number : Nat}
      (stated : StatesRetryLimit text number) :
      Text.readUnsigned largestRetryLimit (Text.trimBlank text.toList) =
        .ok number :=
    readUnsigned_trimBlank_eq_ok_iff.mpr ⟨stated.stated, stated.fits⟩
  unfold readRetryLimit
  split
  · rename_i read
    refine iff_of_false nofun fun stated => ?_
    rw [states stated] at read
    cases read
  · rename_i read
    refine iff_of_false nofun fun stated => ?_
    have isZero := Except.ok.inj ((states stated).symm.trans read)
    have positive := stated.positive
    omega
  · rename_i number nonzero read
    obtain ⟨isStated, fits⟩ := readUnsigned_trimBlank_eq_ok_iff.mp read
    have isNumber : (UInt32.ofNat number).toNat = number :=
      UInt32.toNat_ofNat_of_lt' (show number < 2 ^ 32 by omega)
    constructor
    · rintro ⟨⟩
      rw [isNumber]
      exact ⟨isStated, Nat.one_le_iff_ne_zero.mpr nonzero, fits⟩
    · intro stated
      have same := Except.ok.inj ((states stated).symm.trans read)
      rw [← same, UInt32.ofNat_toNat]

/-- A text that is refused states zero, or the fault repeats it. -/
theorem fault_of_readRetryLimit
    {text : String}
    {fault : SettingsFault}
    (refused : readRetryLimit text = .error fault) :
    (StatesNumber text 0 ∧ fault = .zeroRetryLimit) ∨
      (¬ StatesNumber text 0 ∧
        ∃ cause, fault = .malformedRetryLimit text cause) := by
  unfold readRetryLimit at refused
  split at refused
  · rename_i read
    cases refused
    refine .inr ⟨fun stated => ?_, _, rfl⟩
    rw [readUnsigned_trimBlank_eq_ok_iff.mpr ⟨stated, Nat.zero_le _⟩] at read
    cases read
  · rename_i read
    cases refused
    exact .inl ⟨(readUnsigned_trimBlank_eq_ok_iff.mp read).1, rfl⟩
  · cases refused

/-- Settings come from a text just when it states their retry limit. -/
theorem ofEnvironment_eq_ok_iff
    {text : String}
    {settings : Settings} :
    ofEnvironment (some text) = .ok settings ↔
      StatesRetryLimit text settings.retryLimit.toNat ∧
        settings =
          { Settings.default with retryLimit := settings.retryLimit } := by
  simp only [ofEnvironment, ← readRetryLimit_eq_ok_iff]
  cases read : readRetryLimit text with
  | error fault => exact iff_of_false nofun nofun
  | ok limit =>
      constructor
      · rintro ⟨⟩
        exact ⟨rfl, rfl⟩
      · rintro ⟨same, isDefault⟩
        rw [isDefault, Except.ok.inj same]

/-- What a text states is the retry limit of some settings made from it. -/
theorem exists_ofEnvironment
    {text : String}
    {limit : Nat}
    (stated : StatesRetryLimit text limit) :
    ∃ settings,
      ofEnvironment (some text) = .ok settings ∧
        settings.retryLimit.toNat = limit := by
  have isLimit : (UInt32.ofNat limit).toNat = limit :=
    UInt32.toNat_ofNat_of_lt'
      (Nat.lt_of_le_of_lt stated.fits (by decide))
  refine
    ⟨{ Settings.default with retryLimit := UInt32.ofNat limit },
      ofEnvironment_eq_ok_iff.mpr ⟨?_, rfl⟩, isLimit⟩
  rwa [isLimit]

/-- Settings are refused for no other reason than their retry limit. -/
theorem ofEnvironment_eq_error_iff
    {text : String}
    {fault : SettingsFault} :
    ofEnvironment (some text) = .error fault ↔
      readRetryLimit text = .error fault := by
  simp only [ofEnvironment]
  cases readRetryLimit text with
  | error other => rw [Except.error.injEq, Except.error.injEq]
  | ok limit => exact iff_of_false nofun nofun

/--
Settings are made from the text of the environment exactly when it states a
retry limit: when without the white space at its ends it is one or more ASCII
digits, behind a plus sign or not, of a value from one up to the largest number
of 32 bits. Then this number is their retry limit, everything else is as by
default, and an update with these settings has this number as its ceiling. Every
other text is refused with a fault of the settings, which is one of its own for
zero and repeats the text otherwise.
-/
theorem retry_limits_are_read_exactly (text : String) :
    ((∃ settings, ofEnvironment (some text) = .ok settings) ↔
        ∃ limit, StatesRetryLimit text limit) ∧
      (∀ limit,
        StatesRetryLimit text limit →
        ∃ settings,
          ofEnvironment (some text) = .ok settings ∧
            settings.retryLimit.toNat = limit ∧
            settings =
              { Settings.default with retryLimit := settings.retryLimit } ∧
            ∀ operation : String,
              let update := Optimistic.Update.ofSettings operation settings
              update.maxAttempts = limit ∧ update.HasCeiling limit) ∧
      ((∀ limit, ¬ StatesRetryLimit text limit) →
        ∃ fault,
          ofEnvironment (some text) = .error fault ∧
            ((StatesNumber text 0 ∧ fault = .zeroRetryLimit) ∨
              (¬ StatesNumber text 0 ∧
                ∃ cause, fault = .malformedRetryLimit text cause))) := by
  refine ⟨⟨?_, ?_⟩, ?_, ?_⟩
  · rintro ⟨settings, made⟩
    exact ⟨_, (ofEnvironment_eq_ok_iff.mp made).1⟩
  · rintro ⟨limit, stated⟩
    obtain ⟨settings, made, -⟩ := exists_ofEnvironment stated
    exact ⟨settings, made⟩
  · intro limit stated
    obtain ⟨settings, made, isLimit⟩ := exists_ofEnvironment stated
    refine ⟨settings, made, isLimit, (ofEnvironment_eq_ok_iff.mp made).2, ?_⟩
    intro operation update
    have ceiling : update.maxAttempts = limit := by
      change max settings.retryLimit.toNat 1 = limit
      rw [isLimit]
      exact Nat.max_eq_left stated.positive
    refine ⟨ceiling, ?_⟩
    rw [← ceiling]
    exact Optimistic.Update.hasCeiling (ceiling ▸ stated.positive)
  · intro notStated
    cases made : ofEnvironment (some text) with
    | ok settings =>
        exact absurd (ofEnvironment_eq_ok_iff.mp made).1 (notStated _)
    | error fault =>
        have refused := ofEnvironment_eq_error_iff.mp made
        exact ⟨fault, rfl, fault_of_readRetryLimit refused⟩

/--
Three is stated between white space that is not ASCII, behind a plus sign and
many zeros, and an update that meets nothing but conflicts gives up after three
rounds. The first number beyond 32 bits is not wrapped, but refused.
-/
theorem retry_limits_are_read_exactly_padded :
    let padded := "\u2003+00000000000000000003\u0085"
    let contended : Optimistic.Answers Nat :=
      ⟨fun _ => .ok ⟨none, 1⟩, fun _ => .error (.casMismatch "map")⟩
    StatesRetryLimit padded 3 ∧
      (∃ settings,
        ofEnvironment (some padded) = .ok settings ∧
          (contended.run (.ofSettings "put" settings) id).1 =
            .error (.concurrentModification "put" 3)) ∧
      (∀ limit, ¬ StatesRetryLimit "4294967296" limit) ∧
      ∃ fault, ofEnvironment (some "4294967296") = .error fault := by
  intro padded contended
  have areDigits : Text.AreDigits (List.replicate 19 '0' ++ ['3']) 3 :=
    ⟨by simp, by simp, rfl⟩
  have isCore :
      Text.IsCore padded.toList ('+' :: (List.replicate 19 '0' ++ ['3'])) := {
    surrounded :=
      ⟨['\u2003'], ['\u0085'], by decide, by simp [Text.whiteSpace]⟩
    first := by simp [Text.whiteSpace]
    last := by simp [Text.whiteSpace]
  }
  have stated : StatesRetryLimit padded 3 :=
    ⟨⟨_, isCore, .plus areDigits⟩, by decide, by decide⟩
  have tooLarge :
      ofEnvironment (some "4294967296") =
        .error (.malformedRetryLimit "4294967296" .tooLarge) := by
    decide
  obtain ⟨-, limits, -⟩ := retry_limits_are_read_exactly padded
  obtain ⟨accepts, -, faults⟩ := retry_limits_are_read_exactly "4294967296"
  obtain ⟨settings, made, -, -, ceilings⟩ := limits 3 stated
  have exhausted :=
    (ceilings "put").2.exhausted contended id
      fun _ _ => ⟨⟨none, 1⟩, "map", rfl, rfl⟩
  have notStated : ∀ limit, ¬ StatesRetryLimit "4294967296" limit := by
    intro limit stated
    obtain ⟨settings, made⟩ := accepts.mpr ⟨limit, stated⟩
    rw [tooLarge] at made
    cases made
  obtain ⟨fault, isFault, -⟩ := faults notStated
  exact ⟨stated, ⟨settings, made, exhausted.2⟩, notStated, fault, isFault⟩

end Settings

end ClusterClient
