import Telemetry.Collector.Loop
import Telemetry.Collector.Routes

/-! # Working with a collector

A session drives a collector step by step and keeps what its user keeps: the
rounds dispatched and not yet awaited, and how much of what the sink was told it
has seen.
-/

namespace Telemetry

/-- A step of a session. -/
inductive CollectorStep where
  | sources
  | collectOnce
  | dispatch
  | await
  | start
  | stop
  | sleep (millis : Nat)
  | calls
  | reports
  | exposition
  | http (request : Http.Request)

/-- What a step shows. -/
inductive CollectorAnswer where
  | nothing
  | sources (names : List String)
  | collected (results : SortedMap String (Result Nat)) (took : Nat)
  | rounds (results : List (SortedMap String (Result Nat))) (now : Nat)
  | stopped (took : Nat)
  | calls (moments : SortedMap String (List Nat))
  | reports (values : SortedMap String (List SeriesValue)) (failures : SortedMap String Nat)
  | exposition (text : String)
  | http (response : Http.Response)

/-- A collector in use. -/
structure CollectorSession where
  collector : Collector
  /-- The rounds dispatched and not yet awaited, in order. -/
  dispatched : List Round
  /-- How much of what the sink was told has been looked at. -/
  seen : Nat

namespace CollectorSession

/-- A collector nobody has used yet. -/
def create (c : Collector) : CollectorSession := ⟨c, [], 0⟩

/-- What the sink was told about a source since the last look. -/
def unseen (s : CollectorSession) (source : String) : List SinkCall :=
  ((s.collector.fanOut.sink.drop s.seen).map Prod.snd).filter fun k => k.source = source

/-- The values and the failures reported since the last look; sources without any
are left out. -/
def newReports (s : CollectorSession) : SortedMap String (List SeriesValue) × SortedMap String Nat :=
  let values := s.collector.fanOut.providers.map fun source _ =>
    (s.unseen source).filterMap SinkCall.value?
  let failures := s.collector.fanOut.providers.map fun source _ =>
    (s.unseen source).countP SinkCall.isFailure
  (values.filter fun _ vs => !vs.isEmpty,
    failures.filter fun _ n => n ≠ 0 && s.collector.countsFailures)

/-- Does a step. -/
def step (s : CollectorSession) : CollectorStep → CollectorSession × CollectorAnswer
  | .sources => (s, .sources s.collector.fanOut.providers.keys)
  | .collectOnce =>
    let (c, round) := s.collector.collectOnce
    ({ s with collector := c }, .collected round.results (c.now - s.collector.now))
  | .dispatch =>
    let (c, round) := s.collector.dispatch
    ({ s with collector := c, dispatched := s.dispatched ++ [round] }, .nothing)
  | .await =>
    let ends := s.dispatched.map fun round => lastEnd round.values
    let c := s.collector.advance (ends.foldl max s.collector.now)
    ({ s with collector := c, dispatched := [] }, .rounds (s.dispatched.map Round.results) c.now)
  | .start => ({ s with collector := s.collector.start false }, .nothing)
  | .stop =>
    let c := s.collector.stop
    ({ s with collector := c }, .stopped (c.now - s.collector.now))
  | .sleep millis =>
    ({ s with collector := s.collector.advance (s.collector.now + millis) }, .nothing)
  | .calls => (s, .calls s.collector.calls)
  | .reports =>
    let (values, failures) := s.newReports
    ({ s with seen := s.collector.fanOut.sink.length }, .reports values failures)
  | .exposition => (s, .exposition s.collector.metrics.exposition)
  | .http request => (s, .http (Collector.respond s.collector.metrics request))

/-- The answers to steps in order. -/
def run (s : CollectorSession) : List CollectorStep → List CollectorAnswer
  | [] => []
  | step :: rest =>
    let (s, answer) := s.step step
    answer :: run s rest

end CollectorSession

end Telemetry
