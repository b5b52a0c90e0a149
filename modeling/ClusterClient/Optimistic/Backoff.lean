import ClusterClient.Duration

namespace ClusterClient.Optimistic

/-!
# Delays between conflicting attempts

An exponential delay doubles with every conflict, at most sixteen times, and is
capped. The product saturates before the cap is applied, so the delay is the
exact one wherever the cap allows it.
-/

/-- How long to wait after a conflict. -/
inductive Backoff where
  | none
  | fixed (delay : Duration)
  | exponential (initial max : Duration)
  deriving Repr, DecidableEq

/-- The largest number of doublings of an exponential delay. -/
def maxDoublings : Nat := 16

/-- The number of doublings after a conflict; conflicts count from one. -/
def doublings (attempt : Nat) : Nat :=
  min (attempt - 1) maxDoublings

/-- The delay after a conflict; conflicts count from one. -/
def Backoff.delay (backoff : Backoff) (attempt : Nat) : Duration :=
  match backoff with
  | .none => .zero
  | .fixed delay => delay
  | .exponential initial max =>
      (initial.times (Nat.pow 2 (doublings attempt))).shorter max

end ClusterClient.Optimistic
