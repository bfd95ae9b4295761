import Mathlib.Algebra.Order.Group.Nat
import Telemetry.Time.Ticker

/-! # When tickers tick

A tick is due at the first millisecond that is not before its moment.  One that comes in time counts
from when it was due, so that the ticks of a ticker that is never late are `interval` apart from its
start on, however the moments at which they come are rounded.

A tick that comes later than the slack counts from the moment at which it comes, and then the
schedule has moved.  Either way a tick moves the ticker on (`next_lt_tick`), which is what bounds
the ticks that are due up to a moment.
-/

namespace Telemetry

namespace Span

theorem ceilMillis_le_iff {s : Span} {millis : Nat} :
    s.ceilMillis ≤ millis ↔ s.nanos ≤ millis * 1000000 := by
  unfold ceilMillis
  omega

end Span

namespace Ticker

variable {t : Ticker} {now : Nat}

theorem isDue_iff : t.isDue now = true ↔ t.next ≤ now * 1000000 :=
  decide_eq_true_iff.trans Span.ceilMillis_le_iff

/-- A tick that comes when it is due, and not a millisecond later.  Moments are whole milliseconds,
so that a due tick is on time at one of them only. -/
def OnTime (t : Ticker) (now : Nat) : Prop := now ≤ t.moment

theorem onTime_iff : t.OnTime now ↔ now * 1000000 < t.next + 1000000 := by
  unfold OnTime moment Span.ceilMillis
  dsimp only
  omega

/-- A tick on time comes at its moment, the first one at which it is due. -/
theorem moment_eq_of_due (hdue : t.isDue now = true) (h : t.OnTime now) : t.moment = now :=
  Nat.le_antisymm (of_decide_eq_true hdue) h

/-- **A tick on time counts from when it was due**, to the nanosecond, so that no rounding adds
up. -/
theorem tick_of_onTime (hclock : t.interval.clockCanReach = true) (h : t.OnTime now) :
    t.tick now = { t with next := t.next + t.interval.nanos } := by
  have hlate : ¬ t.next + slack < now * 1000000 := by
    rw [onTime_iff] at h
    unfold slack
    omega
  unfold tick
  dsimp only
  rw [if_neg hlate, if_pos hclock]

/-- What a tick makes of a ticker: the next tick counts from when this one was due, or from now.  An
interval beyond the clock puts it far away. -/
theorem tick_cases (t : Ticker) (now : Nat) :
    t.tick now = { t with next := t.next + t.interval.nanos } ∨
      ∃ wait, t.tick now = { t with next := now * 1000000 + wait } ∧
        (wait = t.interval.nanos ∨ wait = Span.farAway * 1000000) := by
  unfold tick
  dsimp only
  by_cases hlate : t.next + slack < now * 1000000
  · rw [if_pos hlate]
    exact .inr ⟨_, rfl, .inl rfl⟩
  · rw [if_neg hlate]
    cases hclock : t.interval.clockCanReach with
    | true => exact .inl (if_pos rfl)
    | false => exact .inr ⟨_, if_neg Bool.false_ne_true, .inr rfl⟩

@[simp] theorem interval_tick (t : Ticker) (now : Nat) : (t.tick now).interval = t.interval := by
  rcases t.tick_cases now with h | ⟨_, h, -⟩ <;> rw [h]

/-- A tick moves the ticker on, whether or not it comes on time. -/
theorem next_lt_tick (hinterval : t.interval.nanos ≠ 0) (hdue : t.isDue now = true) :
    t.next < (t.tick now).next := by
  rw [isDue_iff] at hdue
  rcases t.tick_cases now with h | ⟨wait, h, hwait⟩ <;> rw [h] <;> dsimp only
  · omega
  · have hpos : 0 < wait := by
      rcases hwait with rfl | rfl
      · exact Nat.pos_of_ne_zero hinterval
      · decide
    omega

theorem tick_ne (hinterval : t.interval.nanos ≠ 0) (hdue : t.isDue now = true) :
    t.tick now ≠ t := fun heq =>
  absurd (congrArg Ticker.next heq) (Nat.ne_of_gt (next_lt_tick hinterval hdue))

end Ticker

end Telemetry
