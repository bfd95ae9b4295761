import Telemetry.Coalesce.Cache
import Telemetry.Call.Script

/-! # A cache whose calls go on step by step

The call in flight carries the stage `σ` that it has reached and the moment at
which its limit strikes.  Calls are numbered in the order of their starts, and
the outcome of a call can be read by its number once it has ended.
-/

namespace Telemetry

/-- How far a computation has come: it waits in a stage, or it has ended. -/
inductive Progress (σ α : Type) where
  | pending (stage : σ)
  | done (ending : Ending α)

/-- A call in flight. -/
structure SharedCall (σ : Type) where
  limit : Nat
  stage : σ

/-- A cache with the outcomes of the calls that have ended, in order. -/
structure Shared (α σ : Type) where
  cache : Cache α (SharedCall σ)
  outcomes : List (Result α)

/-- What a caller is given: a fresh value, or the number of the call to wait for. -/
inductive Handout (α : Type) where
  | atOnce (v : α)
  | call (number : Nat)

namespace Shared

variable {α σ : Type}

/-- The cache before any call. -/
def create (settings : CacheSettings) : Shared α σ := ⟨.create settings, []⟩

/-- The number of calls started so far. -/
def started (s : Shared α σ) : Nat :=
  s.outcomes.length + if s.cache.flight.isSome then 1 else 0

/-- The outcome of a call that has ended. -/
def outcome? (s : Shared α σ) (number : Nat) : Option (Result α) := s.outcomes[number]?

/-- Asks for the value; a call that has to be started begins in stage `fresh`. -/
def get (s : Shared α σ) (now : Nat) (fresh : σ) : Shared α σ × Handout α :=
  match s.cache.lookup now with
  | .fresh v => (s, .atOnce v)
  | .inFlight _ => (s, .call s.outcomes.length)
  | .absent =>
    let call := ⟨now + s.cache.settings.fetchTimeout.limitMillis, fresh⟩
    ({ s with cache := s.cache.start call }, .call s.outcomes.length)

/-- The call in flight ends. -/
def finish (s : Shared α σ) (now : Nat) (outcome : Result α) : Shared α σ :=
  ⟨s.cache.finish now outcome, s.outcomes ++ [outcome]⟩

/-- The call in flight has come so far: it ends, waits on, or runs out of time. -/
def advance (s : Shared α σ) (now : Nat) (call : SharedCall σ) : Progress σ α → Shared α σ
  | .done ending => s.finish now ending.shared
  | .pending stage =>
    if call.limit ≤ now then s.finish now (.error (.timeout s.cache.settings.fetchTimeout))
    else { s with cache := s.cache.start { call with stage := stage } }

end Shared

end Telemetry
