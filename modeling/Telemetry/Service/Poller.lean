import Telemetry.Service.Cycle
import Telemetry.Time.Ticker

/-! # Polling

A poller runs a poll cycle at every tick.  A cycle that fails is forgotten and
the next tick tries again; one that ends as cancelled ends the poller, as does
the cancellation of its token.
-/

namespace Telemetry

/-- A running poller. -/
structure Poller where
  ticker : Ticker
  /-- Whether its own token is cancelled. -/
  stopped : Bool
  /-- The cycle in progress. -/
  cycle : Option Survey

/-- How a loop goes on, or how it has ended. -/
inductive LoopProgress (σ : Type) where
  | running (state : σ)
  | stopped
  /-- The loop has died. -/
  | died

namespace Poller

/-- A poller that starts now; it cannot tick without an interval. -/
def start (interval : Span) (now : Nat) : LoopProgress Poller :=
  if interval.isZero then .died else .running ⟨.immediate interval now, false, none⟩

/-- The poller after this much of its cycle. -/
def afterCycle (p : Poller) : Progress Survey CycleYield → LoopProgress Poller
  | .pending stage => .running { p with cycle := some stage }
  | .done (.value _) => .running { p with cycle := none }
  | .done (.failure .cancelled) => .stopped
  | .done (.failure _) => .running { p with cycle := none }
  | .done (.panic _) => .died

end Poller

namespace World

/-- Goes on with the cycle of a poller. -/
def advancePoll (w : World) (p : Poller) (stage : Survey) : World × LoopProgress Poller :=
  let (w, progress) := w.advanceCycle (p.stopped || w.shutdown) .poll stage
  (w, p.afterCycle progress)

/-- Goes on with a poller by one cycle at most. -/
def advancePoller (w : World) (p : Poller) : World × LoopProgress Poller :=
  match p.cycle with
  | some stage => w.advancePoll p stage
  | none =>
    if p.stopped || w.shutdown then (w, .stopped)
    else if p.ticker.isDue w.now then
      w.advancePoll { p with ticker := p.ticker.tick w.now } .fresh
    else (w, .running p)

end World

end Telemetry
