import Telemetry.Collector.FanOut

/-! # The collector and its loop

Rounds come one by one, or from a loop that makes one when it starts and then one
at every interval.  A loop that is stopped makes no further round and waits for
the collections of its rounds.
-/

namespace Telemetry

/-- A running loop. -/
structure CollectLoop where
  started : Nat
  /-- The moment of the last round. -/
  last : Nat
  /-- The collections of its rounds that had not ended when the last one came. -/
  pending : List (Entry Collection)

namespace CollectLoop

/-- The moment of the round after one at `last`, for a loop that started at
`started`.  Ticks of the same millisecond come in one go. -/
def next (interval : Span) (started last : Nat) : Nat :=
  if interval.clockCanReach then
    let passed := (last - started) * 1000000 / interval.nanos
    started + (Span.mk ((passed + 1) * interval.nanos)).ceilMillis
  else last + Span.farAway

/-- The rounds after one at `last`, up to a moment; the timer of a round is set when
the round before it comes. -/
def schedule (interval : Span) (started target last : Nat) : List (Nat × Option Nat) :=
  let moment := next interval started last
  if last < moment ∧ moment ≤ target then
    (moment, some last) :: schedule interval started target moment
  else []
termination_by target - last

/-- A round of the loop.  It keeps the handles of what has not ended yet. -/
def round (reached : FanOut × CollectLoop) (r : Nat × Option Nat) : FanOut × CollectLoop :=
  let (s, l) := reached
  let (s, handles) := s.round r.1 r.2
  (s, { l with
    last := r.1
    pending := l.pending.filter (fun e => e.call.runsAt r.1 r.2) ++ handles.values })

/-- Starts with a round at once. -/
def start (s : FanOut) (now : Nat) : FanOut × CollectLoop :=
  round (s, ⟨now, now, []⟩) (now, none)

/-- The rounds up to a moment. -/
def advance (interval : Span) (s : FanOut) (l : CollectLoop) (target : Nat) :
    FanOut × CollectLoop :=
  (schedule interval l.started target l.last).foldl round (s, l)

end CollectLoop

/-- A collector with its loop, if one runs, and its clock. -/
structure Collector where
  fanOut : FanOut
  interval : Span
  /-- Whether failures are counted in the metrics. -/
  countsFailures : Bool
  loop : Option CollectLoop
  now : Nat

namespace Collector

/-- A collector over providers by name.  It needs a source, and an interval, a
limit and a number of attempts that are not zero. -/
def create (providers : SortedMap String Provider) (interval timeout : Span) (attempts : Nat)
    (backoff : Backoff) (jitter : String → Nat → Nat → Float) (countsFailures : Bool) :
    Result Collector :=
  if providers.size = 0 then .error (.construction "no providers configured")
  else if interval.isZero then
    .error (.construction "collect interval must be greater than 0")
  else if timeout.isZero then .error (.construction "collect timeout must be greater than 0")
  else if h : 0 < attempts then
    .ok {
      fanOut := .create ⟨⟨attempts, backoff, h⟩, timeout, jitter⟩ providers
      interval := interval
      countsFailures := countsFailures
      loop := none
      now := 0 }
  else .error (.construction "collect attempts must be greater than 0")

theorem create_eq {providers : SortedMap String Provider} {interval timeout : Span}
    {attempts : Nat} (backoff : Backoff) (jitter : String → Nat → Nat → Float)
    (countsFailures : Bool) (hproviders : providers.size ≠ 0) (hinterval : interval.isZero = false)
    (htimeout : timeout.isZero = false) (hpos : 0 < attempts) :
    create providers interval timeout attempts backoff jitter countsFailures =
      .ok ⟨.create ⟨⟨attempts, backoff, hpos⟩, timeout, jitter⟩ providers, interval,
        countsFailures, none, 0⟩ := by
  unfold create
  rw [if_neg hproviders, hinterval, if_neg Bool.false_ne_true, htimeout,
    if_neg Bool.false_ne_true, dif_pos hpos]

/-- A collector that has been accepted is the one described. -/
theorem eq_of_create {providers : SortedMap String Provider} {interval timeout : Span}
    {attempts : Nat} {backoff : Backoff} {jitter : String → Nat → Nat → Float}
    {countsFailures : Bool} {c : Collector}
    (h : create providers interval timeout attempts backoff jitter countsFailures = .ok c) :
    ∃ hpos : 0 < attempts, c =
      ⟨.create ⟨⟨attempts, backoff, hpos⟩, timeout, jitter⟩ providers, interval, countsFailures,
        none, 0⟩ := by
  unfold create at h
  split at h
  · cases h
  split at h
  · cases h
  split at h
  · cases h
  split at h
  case isTrue hpos => exact ⟨hpos, (Except.ok.inj h).symm⟩
  case isFalse => cases h

/-- Everything happens that happens up to a moment, the moment included. -/
def advance (c : Collector) (target : Nat) : Collector :=
  match c.loop with
  | some l =>
    let (s, l) := l.advance c.interval c.fanOut target
    { c with fanOut := s.settle target, loop := some l, now := target }
  | none => { c with fanOut := c.fanOut.settle target, now := target }

/-! ## The loop -/

/-- Starts the loop, which makes its first round at once; with a token that is
cancelled already it ends without a round. -/
def start (c : Collector) (cancelled : Bool) : Collector :=
  if cancelled then c
  else
    let (s, l) := CollectLoop.start c.fanOut c.now
    { c with fanOut := s, loop := some l }

/-- The loop is told to stop: it makes no further round. -/
def cancel (c : Collector) : Collector := { c with loop := none }

/-- Stops the loop and waits until its collections have ended. -/
def stop (c : Collector) : Collector :=
  match c.loop with
  | some l => c.cancel.advance (max c.now (lastEnd l.pending))
  | none => c

/-! ## Rounds from outside -/

/-- Makes a round without waiting for it. -/
def dispatch (c : Collector) : Collector × Round :=
  let (s, round) := c.fanOut.round c.now none
  ({ c with fanOut := s }, round)

/-- Makes a round and waits until its collections have ended. -/
def collectOnce (c : Collector) : Collector × Round :=
  let (c, round) := c.dispatch
  (c.advance (max c.now (lastEnd round.values)), round)

/-! ## What a collector shows -/

/-- The calls that providers have had by now, by source. -/
def calls (c : Collector) : SortedMap String (List Nat) :=
  c.fanOut.providers.map fun _ p => p.calls.filter (· ≤ c.now)

/-- The metrics as they stand. -/
def metrics (c : Collector) : Metrics :=
  c.fanOut.sink.foldl (fun m t => m.take c.countsFailures t.2) .empty

end Collector

end Telemetry
