import Telemetry.Coalesce.CallGroup
import Telemetry.Collector.Collection

/-! # Rounds over many sources

A round reaches every source.  All rounds share one table of the collections in
flight: a round that finds a source's collection there joins it, any other starts
one.  A collection runs on its own; when it ends it tells the sink what it came to
and takes itself out of the table.
-/

namespace Telemetry

/-- What a round is handed: the collection of every source, under its number. -/
abbrev Round := SortedMap String (Entry Collection)

namespace Round

/-- What a round came to. -/
def results (r : Round) : SortedMap String (Result Nat) := r.map fun _ e => e.call.outcome

end Round

/-- The moment at which the last of some collections ends. -/
def lastEnd (collections : List (Entry Collection)) : Nat :=
  (collections.map fun e => e.call.ends).foldl max 0

/-- Providers by source, and the collections from them. -/
structure FanOut where
  policy : CollectPolicy
  providers : SortedMap String Provider
  /-- The table of the collections in flight. -/
  flights : CallGroup String Collection
  /-- The collections that still run. -/
  running : List (Entry Collection)
  /-- The collections started so far, in order. -/
  collections : List (Entry Collection)
  /-- What the sink has been told, and when. -/
  sink : List (Nat × SinkCall)

namespace FanOut

/-- Providers that nobody has collected from. -/
def create (policy : CollectPolicy) (providers : SortedMap String Provider) : FanOut :=
  ⟨policy, providers, .empty, [], [], []⟩

/-! ## The end of collections -/

/-- A collection ends: the sink is told, and its place in the table is free. -/
def finish (s : FanOut) (e : Entry Collection) : FanOut :=
  { s with
    flights := s.flights.land e.call.source e.id
    sink := s.sink ++ e.call.told }

/-- Lets the collections end that are due, in the order of their ends. -/
def land (s : FanOut) (due : Collection → Bool) : FanOut :=
  let (ended, running) := s.running.partition fun e => due e.call
  let inOrder := ended.mergeSort fun a b => a.call.ends ≤ b.call.ends
  inOrder.foldl finish { s with running := running }

/-- Lets every collection end whose end has come. -/
def settle (s : FanOut) (now : Nat) : FanOut := s.land fun c => c.ends ≤ now

/-! ## Rounds -/

/-- The work of a new collection. -/
def attempt (s : FanOut) (now : Nat) (source : String) : SortedMap String Provider × Collection :=
  match s.providers.find? source with
  | some provider =>
    let (provider, c) := s.policy.collect source provider now
    (s.providers.insert source provider, c)
  | none => (s.providers, .unknown source now)

/-- Collects from a source: the collection in flight is joined, or one is started. -/
def collectSource (s : FanOut) (now : Nat) (source : String) : FanOut × Entry Collection :=
  match s.flights.find? source with
  | some e => (s, e)
  | none =>
    let (providers, c) := s.attempt now source
    let e : Entry Collection := ⟨s.flights.nextId, c⟩
    ({ s with
        providers := providers
        flights := s.flights.launch source c
        running := s.running ++ [e]
        collections := s.collections ++ [e] }, e)

/-- A round reaches one more source. -/
def reach (now : Nat) (reached : FanOut × Round) (source : String) : FanOut × Round :=
  let (s, e) := reached.1.collectSource now source
  (s, reached.2.insert source e)

/-- Reaches every source. -/
def dispatchAll (s : FanOut) (now : Nat) : FanOut × Round :=
  s.providers.keys.foldl (reach now) (s, .empty)

/-- A round at a moment, brought by a timer that was set at `armed` or by somebody
who waits for no timer; with all that happens at its moment. -/
def round (s : FanOut) (now : Nat) (armed : Option Nat) : FanOut × Round :=
  let (s, handles) := (s.land fun c => !c.runsAt now armed).dispatchAll now
  (s.settle now, handles)

/-- Rounds in order, each with its moment and the moment at which its timer was set. -/
def run (s : FanOut) (rounds : List (Nat × Option Nat)) : FanOut :=
  rounds.foldl (fun s r => (s.round r.1 r.2).1) s

end FanOut

end Telemetry
