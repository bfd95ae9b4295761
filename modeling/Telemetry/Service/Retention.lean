import Telemetry.Service.Poller

/-! # Retention

Samples older than a window are deleted at every interval, first one interval
after the start.  A failed deletion changes nothing about the next one.
-/

namespace Telemetry

/-- How often to prune, and how old a sample may grow. -/
structure Retention where
  interval : Span
  window : Delta
  interval_pos : interval.nanos ≠ 0
  window_pos : 0 < window.nanos

namespace Retention

/-- The settings for an interval and a window; neither may be empty, and a delta
has to reach as far as the window. -/
def create (interval window : Span) : Result Retention :=
  if hi : interval.nanos = 0 then
    .error (.construction "retention interval must be greater than 0")
  else if hw : window.nanos = 0 then
    .error (.construction "retention window must be greater than 0")
  else match h : Delta.ofSpan? window with
    | some delta =>
      have hpos : 0 < delta.nanos := by
        rw [Delta.nanos_of_ofSpan? h]
        exact Int.natCast_pos.mpr (Nat.pos_of_ne_zero hw)
      .ok ⟨interval, delta, hi, hpos⟩
    | none => .error (.construction ("retention window " ++ window.text ++ " is too large"))

end Retention

/-- A running pruner. -/
structure Pruner where
  ticker : Ticker
  /-- Whether its own token is cancelled. -/
  stopped : Bool

namespace Pruner

/-- A pruner that starts now; the clock has to reach as far as the interval. -/
def start (r : Retention) (now : Nat) : LoopProgress Pruner :=
  if r.interval.clockCanReach then .running ⟨.delayed r.interval now, false⟩ else .died

end Pruner

namespace World

/-- Deletes what is older than the window. -/
def prune (w : World) (r : Retention) : World × Result (SortedMap SensorId Nat) :=
  match w.clock.sub? r.window with
  | none => (w, .error (.internal ("cutoff before " ++ Timestamp.display w.clock ++ " overflows")))
  | some cutoff => w.deleteOlder cutoff

/-- Goes on with a pruner by one tick at most. -/
def advancePruner (w : World) (r : Retention) (p : Pruner) : World × LoopProgress Pruner :=
  if p.stopped || w.shutdown then (w, .stopped)
  else if p.ticker.isDue w.now then
    ((w.prune r).1, .running { p with ticker := p.ticker.tick w.now })
  else (w, .running p)

end World

end Telemetry
