namespace ClusterClient

/-!
# Durations and instants

A duration is a whole number of nanoseconds below `2 ^ 64` seconds; arithmetic
on durations saturates at the longest one. An instant counts nanoseconds from
the origin of a monotone clock, which holds `2 ^ 63` seconds: a deadline beyond
that does not exist.
-/

/-- Nanoseconds in one second. -/
def nanosecondsPerSecond : Nat := 1000000000

/-- One more than the largest number of nanoseconds of a duration. -/
def durationLimit : Nat := 0x10000000000000000 * nanosecondsPerSecond

/-- A length of time. -/
structure Duration where
  nanoseconds : Nat
  belowLimit : nanoseconds < durationLimit
  deriving Repr, DecidableEq

namespace Duration

/-- No time at all. -/
def zero : Duration := ⟨0, by decide⟩

/-- The longest duration. -/
def longest : Duration := ⟨durationLimit - 1, by decide⟩

instance : Inhabited Duration := ⟨zero⟩

/-- The duration of so many nanoseconds, or the longest one. -/
def ofNanoseconds (nanoseconds : Nat) : Duration :=
  if belowLimit : nanoseconds < durationLimit then
    ⟨nanoseconds, belowLimit⟩
  else
    longest

/-- The duration of so many milliseconds, or the longest one. -/
def ofMilliseconds (milliseconds : Nat) : Duration :=
  ofNanoseconds (milliseconds * 1000000)

/-- The whole seconds of a duration. -/
def seconds (duration : Duration) : Nat :=
  duration.nanoseconds / nanosecondsPerSecond

/-- The nanoseconds of a duration beyond its whole seconds. -/
def subsecondNanoseconds (duration : Duration) : Nat :=
  duration.nanoseconds % nanosecondsPerSecond

/-- A duration of no length. -/
def isZero (duration : Duration) : Bool :=
  duration.nanoseconds = 0

/-- The shorter of two durations. -/
def shorter (left right : Duration) : Duration :=
  if left.nanoseconds ≤ right.nanoseconds then left else right

/-- A duration so many times over, or the longest one. -/
def times (duration : Duration) (factor : Nat) : Duration :=
  ofNanoseconds (duration.nanoseconds * factor)

/-- The digits of a fraction of the given width, without trailing zeros. -/
def fractionDigits (width fraction : Nat) : List Char :=
  let digits := Nat.toDigits 10 fraction
  let padded := List.replicate (width - digits.length) '0' ++ digits
  (padded.reverse.dropWhile (· == '0')).reverse

/-- A count of units with a fraction of the given width, without zeros. -/
def decimalText (whole fraction width : Nat) : String :=
  match fractionDigits width fraction with
  | [] => toString whole
  | digits => toString whole ++ "." ++ String.ofList digits

/--
The text of a duration in the largest unit that it reaches: seconds,
milliseconds, microseconds or nanoseconds.
-/
def text (duration : Duration) : String :=
  let nanoseconds := duration.nanoseconds
  if nanosecondsPerSecond ≤ nanoseconds then
    decimalText duration.seconds duration.subsecondNanoseconds 9 ++ "s"
  else if 1000000 ≤ nanoseconds then
    decimalText (nanoseconds / 1000000) (nanoseconds % 1000000) 6 ++ "ms"
  else if 1000 ≤ nanoseconds then
    decimalText (nanoseconds / 1000) (nanoseconds % 1000) 3 ++ "µs"
  else
    toString nanoseconds ++ "ns"

end Duration

/-- A reading of the monotone clock, in nanoseconds from its origin. -/
structure Instant where
  nanoseconds : Nat
  deriving Repr, DecidableEq, Inhabited

namespace Instant

/-- One more than the latest reading, in nanoseconds. -/
def limit : Nat := 0x8000000000000000 * nanosecondsPerSecond

/-- The instant a duration later, if the clock can hold it. -/
def after? (instant : Instant) (duration : Duration) : Option Instant :=
  let nanoseconds := instant.nanoseconds + duration.nanoseconds
  if nanoseconds < limit then some ⟨nanoseconds⟩ else none

/-- The time from an instant to a deadline; nothing once it has passed. -/
def remainingUntil (instant deadline : Instant) : Duration :=
  Duration.ofNanoseconds (deadline.nanoseconds - instant.nanoseconds)

end Instant

end ClusterClient
