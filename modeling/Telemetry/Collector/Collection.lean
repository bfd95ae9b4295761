import Telemetry.Collector.Provider
import Telemetry.Collector.Series

/-! # Collections from one source

A collection asks the provider of a source until it has a snapshot or gives up,
all within one limit.  Its whole effect takes place when it ends: the values of
the snapshot are reported, or a failure is recorded.
-/

namespace Telemetry

/-- A collection, with what it will come to. -/
structure Collection where
  source : String
  started : Nat
  ends : Nat
  /-- How the provider was asked. -/
  attempts : List (Attempt Snapshot)
  /-- The number of values reported, or why there are none. -/
  outcome : Result Nat
  /-- What the sink is told at the end, in order. -/
  sinkCalls : List SinkCall
  /-- The start of the shared call whose end this collection is told of: it then
  goes on one turn after what the clock itself wakes at that moment. -/
  relayedFrom : Option Nat

/-- How collections are made. -/
structure CollectPolicy where
  retry : RetryPolicy
  timeout : Span
  /-- The jitter of a source's collection that started at a moment, after each attempt. -/
  jitter : String → Nat → Nat → Float

namespace Collection

/-- The collection that a run of attempts makes.  A run that dies is shared as an
internal failure and leaves no record. -/
def ofRun (source : String) (started : Nat) (relayedFrom : Option Nat)
    (run : RetryRun Provider Snapshot) : Collection :=
  let (outcome, sinkCalls) := match run.ending with
    | .value snapshot =>
      let values := snapshot.seriesValues source
      (.ok values.length, values.map SinkCall.report)
    | .failure e => (.error e, [.failure source])
    | .panic message => ((Ending.panic message).shared, [])
  { source, started, ends := run.ended, attempts := run.attempts, outcome, sinkCalls, relayedFrom }

/-- The collection from a source that nobody has configured. -/
def unknown (source : String) (started : Nat) : Collection where
  source := source
  started := started
  ends := started
  attempts := []
  outcome := .error (.internal ("unknown source " ++ source))
  sinkCalls := []
  relayedFrom := none

/-- Whether the collection still runs when a round comes at a moment.  `armed` is
when the timer of that round was set, if a timer brought it. -/
def runsAt (c : Collection) (now : Nat) (armed : Option Nat) : Bool :=
  now < c.ends || (now = c.ends && match armed, c.relayedFrom with
    | some armed, some started => armed ≤ started
    | _, _ => false)

/-- What the sink is told, each with the moment. -/
def told (c : Collection) : List (Nat × SinkCall) := c.sinkCalls.map (c.ends, ·)

end Collection

namespace CollectPolicy

/-- Asks a provider as often as the policy allows, from a moment on. -/
def attempts (p : CollectPolicy) (source : String) (provider : Provider) (now : Nat) :
    RetryRun Provider Snapshot :=
  p.retry.start p.timeout none (p.jitter source now) (fun provider _ now => provider.ask now)
    now provider

/-- Collects from a provider from a moment on. -/
def collect (p : CollectPolicy) (source : String) (provider : Provider) (now : Nat) :
    Provider × Collection :=
  let run := p.attempts source provider now
  let relayedFrom :=
    if run.ended < now + p.timeout.ceilMillis then
      (run.state.flightEnding? run.ended).map Fetch.started
    else none
  (run.state, .ofRun source now relayedFrom run)

end CollectPolicy

end Telemetry
