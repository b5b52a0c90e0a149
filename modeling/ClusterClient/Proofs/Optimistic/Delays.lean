import ClusterClient.Optimistic.Backoff
import Mathlib.Algebra.Group.Nat.Defs
import Mathlib.Logic.Equiv.Defs
import Mathlib.Order.MinMax

namespace ClusterClient

/-!
# Delays are exact, in nanoseconds and in words

A delay doubles up to sixteen times and is capped. Counted in nanoseconds it is
the shorter of the exact product and the cap, since the longest duration, where
the product stops, is no shorter than any cap.

A machine has no number of nanoseconds that large. It counts whole seconds in a
word of 64 bits and the nanoseconds of the last second in a word of 32 bits,
and multiplies the two one after the other, with a carry between them.
`Optimistic.delayInWords?` takes these steps and gives up where a step that is
not meant to overflow does so. The main statement says that none does, and that
the two ways to compute a delay agree.
-/

/-! Steps on words that give up instead of overflowing. -/

/-- The product of two words, if a word can hold it. -/
def multiply? (left right : UInt64) : Option UInt64 :=
  if left.toNat * right.toNat < 2 ^ 64 then some (left * right) else none

/-- The sum of two words, if a word can hold it. -/
def add? (left right : UInt64) : Option UInt64 :=
  if left.toNat + right.toNat < 2 ^ 64 then some (left + right) else none

/-- A word with its bits moved up, if there are such places and none is lost. -/
def shiftLeft? (word places : UInt32) : Option UInt32 :=
  if places.toNat < 32 ∧ word.toNat * 2 ^ places.toNat < 2 ^ 32 then
    some (word <<< places)
  else
    none

theorem multiply?_eq_some
    {left right : UInt64}
    (fits : left.toNat * right.toNat < 2 ^ 64) :
    ∃ product,
      multiply? left right = some product ∧
        product.toNat = left.toNat * right.toNat := by
  refine ⟨left * right, if_pos fits, ?_⟩
  rw [UInt64.toNat_mul, Nat.mod_eq_of_lt fits]

theorem add?_eq_some
    {left right : UInt64}
    (fits : left.toNat + right.toNat < 2 ^ 64) :
    ∃ sum,
      add? left right = some sum ∧
        sum.toNat = left.toNat + right.toNat := by
  refine ⟨left + right, if_pos fits, ?_⟩
  rw [UInt64.toNat_add, Nat.mod_eq_of_lt fits]

/-- One, moved up by so many places, is that power of two. -/
theorem shiftLeft?_one
    {places : UInt32}
    (few : places.toNat < 32) :
    ∃ power,
      shiftLeft? 1 places = some power ∧
        power.toNat = 2 ^ places.toNat := by
  have fits : 2 ^ places.toNat < 2 ^ 32 := Nat.pow_lt_pow_right (by decide) few
  have isOne : (1 : UInt32).toNat = 1 := rfl
  refine ⟨1 <<< places, if_pos ⟨few, ?_⟩, ?_⟩
  · rw [UInt32.toNat_shiftLeft, Nat.mod_eq_of_lt few, isOne, Nat.one_shiftLeft,
      Nat.mod_eq_of_lt fits]
  · rwa [isOne, Nat.one_mul]

/-- The seconds after a multiplication, with the carry, if a word holds them. -/
theorem multiply?_bind_add? (seconds factor carry : UInt64) :
    let total := seconds.toNat * factor.toNat + carry.toNat
    (multiply? seconds factor).bind (add? · carry) =
      if total < 2 ^ 64 then some (UInt64.ofNat total) else none := by
  intro total
  split
  · rename_i fits
    obtain ⟨product, isProduct, product_toNat⟩ :=
      multiply?_eq_some (Nat.lt_of_le_of_lt (Nat.le_add_right _ _) fits)
    have sumFits : product.toNat + carry.toNat < 2 ^ 64 := by
      rwa [product_toNat]
    obtain ⟨sum, isSum, sum_toNat⟩ := add?_eq_some sumFits
    rw [isProduct, Option.bind_some, isSum]
    congr 1
    rw [← UInt64.toNat_inj, sum_toNat, product_toNat, UInt64.toNat_ofNat',
      Nat.mod_eq_of_lt fits]
  · rename_i exceeds
    rw [multiply?]
    split
    · rename_i fits
      have product_toNat :
          (seconds * factor).toNat = seconds.toNat * factor.toNat := by
        rw [UInt64.toNat_mul, Nat.mod_eq_of_lt fits]
      rw [Option.bind_some, add?, product_toNat]
      exact if_neg exceeds
    · rfl

/-! Durations in words. -/

/-- Whole seconds, and the nanoseconds of the second that is not over. -/
structure SplitDuration where
  seconds : UInt64
  nanoseconds : UInt32
  nanoseconds_lt : nanoseconds.toNat < nanosecondsPerSecond
  deriving Repr, DecidableEq

namespace SplitDuration

/-- The longest duration in words. -/
def longest : SplitDuration := ⟨0xffffffffffffffff, 999999999, by decide⟩

/-- The left duration is not longer: fewer seconds, or as many and no more. -/
def IsAtMost (left right : SplitDuration) : Prop :=
  left.seconds < right.seconds ∨
    left.seconds = right.seconds ∧ left.nanoseconds ≤ right.nanoseconds

instance (left right : SplitDuration) : Decidable (left.IsAtMost right) :=
  inferInstanceAs (Decidable (_ ∨ _))

/-- The shorter of two durations. -/
def shorter (left right : SplitDuration) : SplitDuration :=
  if left.IsAtMost right then left else right

/-- Nanoseconds in one second, as a word. -/
def secondInNanoseconds : UInt64 := 1000000000

/-- What is left of some nanoseconds when the whole seconds are carried over. -/
theorem toNat_rest (nanoseconds : UInt64) :
    (nanoseconds % secondInNanoseconds).toUInt32.toNat =
      nanoseconds.toNat % nanosecondsPerSecond := by
  have isSecond : secondInNanoseconds.toNat = nanosecondsPerSecond := rfl
  have below :
      nanoseconds.toNat % nanosecondsPerSecond < nanosecondsPerSecond :=
    Nat.mod_lt _ (by decide)
  rw [UInt64.toNat_toUInt32, UInt64.toNat_mod, isSecond]
  exact Nat.mod_eq_of_lt (Nat.lt_trans below (by decide))

/--
A duration so many times over, or the longest one where the seconds exceed
their word. The product of the nanoseconds must not exceed its word.
-/
def times? (duration : SplitDuration) (factor : UInt32) :
    Option SplitDuration := do
  let nanoseconds ←
    multiply? duration.nanoseconds.toUInt64 factor.toUInt64
  let carry := nanoseconds / secondInNanoseconds
  let rest := (nanoseconds % secondInNanoseconds).toUInt32
  match (multiply? duration.seconds factor.toUInt64).bind (add? · carry) with
  | none => return longest
  | some seconds =>
      return {
        seconds := seconds
        nanoseconds := rest
        nanoseconds_lt := by
          rw [toNat_rest]
          exact Nat.mod_lt _ (by decide)
      }

/-- A duration in words, as a number of nanoseconds. -/
def joined (duration : SplitDuration) : Duration where
  nanoseconds :=
    duration.seconds.toNat * nanosecondsPerSecond + duration.nanoseconds.toNat
  belowLimit := by
    have seconds := duration.seconds.toNat_lt
    have nanoseconds := duration.nanoseconds_lt
    simp only [durationLimit, nanosecondsPerSecond] at nanoseconds ⊢
    omega

@[ext] theorem ext_words
    {left right : SplitDuration}
    (seconds : left.seconds = right.seconds)
    (nanoseconds : left.nanoseconds = right.nanoseconds) : left = right := by
  cases left
  cases right
  cases seconds
  cases nanoseconds
  rfl

end SplitDuration

@[ext] theorem Duration.ext_nanoseconds
    {left right : Duration}
    (same : left.nanoseconds = right.nanoseconds) : left = right := by
  cases left
  cases right
  cases same
  rfl

namespace Duration

theorem seconds_lt (duration : Duration) : duration.seconds < 2 ^ 64 := by
  have belowLimit := duration.belowLimit
  rw [seconds]
  rw [durationLimit, Nat.mul_comm] at belowLimit
  exact Nat.div_lt_of_lt_mul belowLimit

theorem subsecondNanoseconds_lt (duration : Duration) :
    duration.subsecondNanoseconds < nanosecondsPerSecond :=
  Nat.mod_lt _ (by decide)

/-- A duration in words: each has its words, and all words are of one. -/
def inWords : Duration ≃ SplitDuration where
  toFun duration := {
    seconds := UInt64.ofNat duration.seconds
    nanoseconds := UInt32.ofNat duration.subsecondNanoseconds
    nanoseconds_lt := by
      have below := duration.subsecondNanoseconds_lt
      rwa [UInt32.toNat_ofNat_of_lt' (Nat.lt_trans below (by decide))]
  }
  invFun := SplitDuration.joined
  left_inv duration := by
    have below := duration.subsecondNanoseconds_lt
    ext
    simp only [SplitDuration.joined]
    rw [UInt64.toNat_ofNat_of_lt' duration.seconds_lt,
      UInt32.toNat_ofNat_of_lt' (Nat.lt_trans below (by decide))]
    exact Nat.div_add_mod' duration.nanoseconds nanosecondsPerSecond
  right_inv duration := by
    have below := duration.nanoseconds_lt
    have positive : 0 < nanosecondsPerSecond := by decide
    ext
    · simp only [seconds, SplitDuration.joined]
      rw [Nat.mul_comm, Nat.mul_add_div positive, Nat.div_eq_of_lt below]
      simp
    · simp only [subsecondNanoseconds, SplitDuration.joined]
      rw [Nat.mul_comm, Nat.mul_add_mod, Nat.mod_eq_of_lt below]
      simp

theorem nanoseconds_times (duration : Duration) (factor : Nat) :
    (duration.times factor).nanoseconds =
      min (duration.nanoseconds * factor) (durationLimit - 1) := by
  rw [times, ofNanoseconds]
  split
  · rename_i below
    exact (Nat.min_eq_left (Nat.le_sub_one_of_lt below)).symm
  · rename_i beyond
    have limit : durationLimit - 1 ≤ duration.nanoseconds * factor := by
      omega
    exact (Nat.min_eq_right limit).symm

theorem nanoseconds_shorter (left right : Duration) :
    (left.shorter right).nanoseconds =
      min left.nanoseconds right.nanoseconds := by
  rw [shorter, Nat.min_def]
  split <;> rfl

end Duration

namespace SplitDuration

/-- Durations in words are compared as their nanoseconds are. -/
theorem isAtMost_iff (left right : SplitDuration) :
    left.IsAtMost right ↔
      left.joined.nanoseconds ≤ right.joined.nanoseconds := by
  have leftBelow := left.nanoseconds_lt
  have rightBelow := right.nanoseconds_lt
  simp only [IsAtMost, joined, UInt64.lt_iff_toNat_lt, UInt32.le_iff_toNat_le,
    ← UInt64.toNat_inj, nanosecondsPerSecond] at leftBelow rightBelow ⊢
  omega

/-- The shorter one in words is the shorter one. -/
theorem joined_shorter (left right : SplitDuration) :
    (left.shorter right).joined = left.joined.shorter right.joined := by
  unfold shorter Duration.shorter
  simp only [isAtMost_iff]
  split <;> rfl

/-- Multiplying the two words, with a carry, is multiplying the nanoseconds. -/
theorem times?_eq_some (duration : SplitDuration) (factor : UInt32) :
    ∃ product,
      duration.times? factor = some product ∧
        product.joined = duration.joined.times factor.toNat := by
  have fits :
      duration.nanoseconds.toUInt64.toNat * factor.toUInt64.toNat < 2 ^ 64 := by
    rw [UInt32.toNat_toUInt64, UInt32.toNat_toUInt64]
    exact
      Nat.lt_trans (Nat.mul_lt_mul'' duration.nanoseconds_lt factor.toNat_lt)
        (by decide)
  obtain ⟨nanoseconds, isProduct, nanoseconds_eq⟩ := multiply?_eq_some fits
  rw [UInt32.toNat_toUInt64, UInt32.toNat_toUInt64] at nanoseconds_eq
  have carry_eq :
      (nanoseconds / secondInNanoseconds).toNat =
        nanoseconds.toNat / nanosecondsPerSecond :=
    UInt64.toNat_div ..
  let seconds :=
    duration.seconds.toNat * factor.toNat +
      nanoseconds.toNat / nanosecondsPerSecond
  have whole :
      duration.joined.nanoseconds * factor.toNat =
        seconds * nanosecondsPerSecond +
          nanoseconds.toNat % nanosecondsPerSecond := by
    have divided := Nat.div_add_mod' nanoseconds.toNat nanosecondsPerSecond
    simp only [joined, seconds, Nat.add_mul]
    rw [Nat.add_assoc, divided, nanoseconds_eq, Nat.mul_right_comm]
  have rest_lt :
      nanoseconds.toNat % nanosecondsPerSecond < nanosecondsPerSecond :=
    Nat.mod_lt _ (by decide)
  have carried :=
    multiply?_bind_add? duration.seconds factor.toUInt64
      (nanoseconds / secondInNanoseconds)
  rw [UInt32.toNat_toUInt64, carry_eq] at carried
  unfold times?
  simp only [isProduct, carried, Option.bind_eq_bind, Option.bind_some]
  by_cases held : seconds < 2 ^ 64
  · have below :
        duration.joined.nanoseconds * factor.toNat ≤ durationLimit - 1 := by
      simp only [whole, durationLimit, nanosecondsPerSecond] at rest_lt ⊢
      omega
    rw [if_pos held]
    refine ⟨_, rfl, ?_⟩
    ext
    rw [Duration.nanoseconds_times, Nat.min_eq_left below, whole]
    simp only [joined, toNat_rest]
    rw [UInt64.toNat_ofNat_of_lt' held]
  · have beyond :
        durationLimit - 1 ≤ duration.joined.nanoseconds * factor.toNat := by
      simp only [whole, durationLimit, nanosecondsPerSecond] at rest_lt ⊢
      omega
    rw [if_neg held]
    refine ⟨longest, rfl, ?_⟩
    ext
    rw [Duration.nanoseconds_times, Nat.min_eq_right beyond]
    rfl

end SplitDuration

namespace Optimistic

/--
The exponential delay after a conflict, word by word: the conflicts less one,
at most sixteen, as places to move a one up by, and the product with the cap.
-/
def delayInWords?
    (initial cap : SplitDuration)
    (attempt : UInt32) : Option SplitDuration := do
  let retries := if attempt = 0 then 0 else attempt - 1
  let factor ← shiftLeft? 1 (if retries ≤ 16 then retries else 16)
  let product ← initial.times? factor
  return product.shorter cap

/-- The number of doublings, as it is computed on words. -/
theorem doublings_toNat (attempt : UInt32) :
    let retries := if attempt = 0 then 0 else attempt - 1
    (if retries ≤ 16 then retries else 16).toNat =
      doublings attempt.toNat := by
  intro retries
  have retries_eq : retries.toNat = attempt.toNat - 1 := by
    by_cases none : attempt = 0
    · simp only [retries, none, if_pos]
      rfl
    · have positive : 1 ≤ attempt := by
        have nonzero : 0 < attempt := UInt32.pos_iff_ne_zero.mpr none
        exact UInt32.le_iff_toNat_le.mpr (UInt32.lt_iff_toNat_lt.mp nonzero)
      simp only [retries, if_neg none]
      exact UInt32.toNat_sub_of_le _ _ positive
  have few : retries ≤ 16 ↔ attempt.toNat - 1 ≤ maxDoublings := by
    rw [UInt32.le_iff_toNat_le, retries_eq]
    rfl
  simp only [few, doublings, Nat.min_def]
  split
  · exact retries_eq
  · rfl

/-- The steps on words come to the delay, and none of them overflows. -/
theorem delayInWords?_eq_some
    (initial cap : SplitDuration)
    (attempt : UInt32) :
    ∃ delay,
      delayInWords? initial cap attempt = some delay ∧
        delay.joined =
          (Backoff.exponential initial.joined cap.joined).delay
            attempt.toNat := by
  have places := doublings_toNat attempt
  have few : doublings attempt.toNat < 32 :=
    Nat.lt_of_le_of_lt (Nat.min_le_right ..) (by decide)
  obtain ⟨factor, isFactor, factor_eq⟩ := shiftLeft?_one (places ▸ few)
  obtain ⟨product, isProduct, product_eq⟩ := initial.times?_eq_some factor
  refine ⟨product.shorter cap, ?_, ?_⟩
  · simp only [delayInWords?, isFactor, isProduct, Option.bind_eq_bind,
      Option.bind_some]
    rfl
  · rw [SplitDuration.joined_shorter, product_eq, factor_eq, places]
    rfl

/-- A delay in nanoseconds: the exact product, or the cap. -/
theorem nanoseconds_delay (initial cap : Duration) (attempt : Nat) :
    ((Backoff.exponential initial cap).delay attempt).nanoseconds =
      min (initial.nanoseconds * 2 ^ doublings attempt) cap.nanoseconds := by
  have capped : cap.nanoseconds ≤ durationLimit - 1 :=
    Nat.le_sub_one_of_lt cap.belowLimit
  rw [Backoff.delay, Duration.nanoseconds_shorter, Duration.nanoseconds_times,
    Nat.min_assoc, Nat.min_eq_right capped]
  rfl

theorem doublings_mono {attempt later : Nat} (sooner : attempt ≤ later) :
    doublings attempt ≤ doublings later :=
  min_le_min_right maxDoublings (Nat.sub_le_sub_right sooner 1)

/--
An exponential delay is the exact product of the initial delay and a power of
two, in nanoseconds, or the cap if that is less: the exponent is one less than
the number of the conflict, but not below zero and at most sixteen. So a later
conflict never has a shorter delay, and no delay exceeds the cap. Computed with
words of 64 and 32 bits, with no step overflowing, the delay is the same.
-/
theorem delays_are_exact_and_capped (initial cap : Duration) :
    let delay := fun attempt : UInt32 =>
      (Backoff.exponential initial cap).delay attempt.toNat
    (∀ attempt,
      (delay attempt).nanoseconds =
        min (initial.nanoseconds * 2 ^ min (max attempt.toNat 1 - 1) 16)
          cap.nanoseconds) ∧
      (∀ attempt later, attempt ≤ later →
        (delay attempt).nanoseconds ≤ (delay later).nanoseconds) ∧
      (∀ attempt, (delay attempt).nanoseconds ≤ cap.nanoseconds) ∧
      ∀ attempt,
        delayInWords? (Duration.inWords initial) (Duration.inWords cap)
            attempt =
          some (Duration.inWords (delay attempt)) := by
  intro delay
  refine ⟨?_, ?_, ?_, ?_⟩
  · intro attempt
    have counted : max attempt.toNat 1 - 1 = attempt.toNat - 1 := by
      rw [Nat.max_def]
      split <;> omega
    rw [counted]
    exact nanoseconds_delay initial cap attempt.toNat
  · intro attempt later sooner
    have fewer := doublings_mono (UInt32.le_iff_toNat_le.mp sooner)
    have smaller := Nat.pow_le_pow_right (n := 2) (by decide) fewer
    simp only [delay, nanoseconds_delay]
    exact min_le_min_right _ (Nat.mul_le_mul_left _ smaller)
  · intro attempt
    rw [nanoseconds_delay]
    exact Nat.min_le_right ..
  · intro attempt
    obtain ⟨words, computed, same⟩ :=
      delayInWords?_eq_some (Duration.inWords initial) (Duration.inWords cap)
        attempt
    have joined : ∀ duration : Duration,
        (Duration.inWords duration).joined = duration :=
      Duration.inWords.symm_apply_apply
    rw [joined, joined] at same
    have isDelay : Duration.inWords (delay attempt) = words := by
      rw [← Equiv.eq_symm_apply]
      exact same.symm
    rw [computed, isDelay]

/-- Twice more than half of the longest duration saturates, and so does more. -/
theorem delays_are_exact_and_capped_saturating :
    let initial : Duration :=
      SplitDuration.joined ⟨0x8000000000000000, 999999999, by decide⟩
    let backoff := Backoff.exponential initial .longest
    (backoff.delay 2).nanoseconds ≤ (backoff.delay 40).nanoseconds ∧
      (backoff.delay 2).nanoseconds = durationLimit - 1 := by
  intro initial backoff
  obtain ⟨exact, increases, -, -⟩ :=
    delays_are_exact_and_capped initial .longest
  exact ⟨increases 2 40 (by decide), (exact 2).trans (by decide)⟩

end Optimistic

end ClusterClient
