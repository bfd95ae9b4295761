import Telemetry.Coalesce.Cache
import Telemetry.Call.Script

/-! # A cache over a scripted source

The calls of a script are known beforehand, so a call in flight carries the
moment at which it ends and what it will yield.  A call runs on its own, whoever
waits for it; when it ends it stores its value and frees the cache's place for a
call in flight, whichever call that place shows.  `settle` lets the calls end
whose moment has come, and `get` asks for the value at a moment.
-/

namespace Telemetry

/-- A call of the source: its number in the script, when it started, and when
and how it ends. -/
structure Fetch (α : Type) where
  number : Nat
  started : Nat
  ends : Nat
  outcome : Result α

/-- A cache together with its source. -/
structure CachedSource (α : Type) where
  cache : Cache α (Fetch α)
  script : Script α
  /-- The calls that still run. -/
  running : List (Fetch α)
  /-- The calls made so far, in order. -/
  fetches : List (Fetch α)

/-- What a caller is given. -/
inductive Answer (α : Type) where
  | atOnce (v : α)
  /-- The outcome of a call, once it has ended; `own` when this caller started it. -/
  | pending (f : Fetch α) (own : Bool)

namespace CachedSource

variable {α : Type}

/-- The cache before any call. -/
def create (settings : CacheSettings) (script : Script α) : CachedSource α :=
  ⟨.create settings, script, [], []⟩

/-- The call that a caller would start at a moment. -/
def nextFetch (s : CachedSource α) (now : Nat) : Fetch α :=
  let number := s.fetches.length
  let (length, outcome) := (s.script.call number).limited s.cache.settings.fetchTimeout
  ⟨number, now, now + length, outcome⟩

/-- Lets the calls end that end at this moment or before, in the order of their
ends. -/
def settle (s : CachedSource α) (now : Nat) : CachedSource α :=
  let (ended, running) := s.running.partition (·.ends ≤ now)
  let inOrder := ended.mergeSort (·.ends ≤ ·.ends)
  { s with
    cache := inOrder.foldl (fun c f => c.finish f.ends f.outcome) s.cache
    running := running }

/-- Asks for the value at a moment up to which everything has settled. -/
def get (s : CachedSource α) (now : Nat) : CachedSource α × Answer α :=
  match s.cache.lookup now with
  | .fresh v => (s, .atOnce v)
  | .inFlight f => (s, .pending f false)
  | .absent =>
    let f := s.nextFetch now
    ({ s with
        cache := s.cache.start f
        running := s.running ++ [f]
        fetches := s.fetches ++ [f] }, .pending f true)

end CachedSource

end Telemetry
