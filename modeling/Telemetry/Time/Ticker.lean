import Telemetry.Time.Span

/-! # Tickers

A ticker ticks at every interval.  A tick counts from when the one before it was
due; one that comes more than five milliseconds late counts from when it came.
-/

namespace Telemetry

/-- A ticker with the next moment at which it is due, in nanoseconds. -/
structure Ticker where
  interval : Span
  next : Nat
deriving DecidableEq

namespace Ticker

/-- A ticker that is due at once. -/
def immediate (interval : Span) (now : Nat) : Ticker := ⟨interval, now * 1000000⟩

/-- A ticker that is due after one interval. -/
def delayed (interval : Span) (now : Nat) : Ticker :=
  ⟨interval, now * 1000000 + interval.nanos⟩

/-- The moment at which the next tick comes, in milliseconds. -/
def moment (t : Ticker) : Nat := (Span.mk t.next).ceilMillis

/-- Whether a tick is due. -/
def isDue (t : Ticker) (now : Nat) : Bool := t.moment ≤ now

/-- How late a tick may be, in nanoseconds, and still count from when it was due. -/
def slack : Nat := 5000000

/-- The ticker after a tick that comes now. -/
def tick (t : Ticker) (now : Nat) : Ticker :=
  let now := now * 1000000
  if t.next + slack < now then { t with next := now + t.interval.nanos }
  else if t.interval.clockCanReach then { t with next := t.next + t.interval.nanos }
  else { t with next := now + Span.farAway * 1000000 }

end Ticker

end Telemetry
