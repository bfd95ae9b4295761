import Telemetry.Error

/-! # A cache in front of one expensive source

The cache keeps the last value that its source delivered and hands it out while
it is younger than the retention.  Whoever finds no fresh value attaches to the
call that is in flight, or starts one; so at most one call runs at a time.  Only
a successful call changes what is stored.  Moments are milliseconds of a clock.
-/

namespace Telemetry

/-- How long a cached value stays fresh and how long a call may take. -/
structure CacheSettings where
  retention : Span
  fetchTimeout : Span
  retention_pos : 0 < retention.nanos
  fetchTimeout_pos : 0 < fetchTimeout.nanos

/-- Settings for a cache; both spans have to be longer than nothing. -/
def CacheSettings.create (retention fetchTimeout : Span) : Result CacheSettings :=
  if hr : 0 < retention.nanos then
    if hf : 0 < fetchTimeout.nanos then .ok ⟨retention, fetchTimeout, hr, hf⟩
    else .error (.construction "cache fetch timeout must be greater than 0")
  else .error (.construction "cache retention must be greater than 0")

/-- A value with the moment at which it was stored. -/
structure Stored (α : Type) where
  value : α
  storedAt : Nat
deriving DecidableEq

/-- The state of a cache of `α`, whose calls in flight are known as `φ`. -/
structure Cache (α φ : Type) where
  settings : CacheSettings
  stored : Option (Stored α)
  flight : Option φ

/-- What a caller finds. -/
inductive Lookup (α φ : Type) where
  | fresh (v : α)
  | inFlight (f : φ)
  /-- Neither a fresh value nor a call: the caller has to start one. -/
  | absent

namespace Cache

variable {α φ : Type}

/-- The cache before any call. -/
def create (settings : CacheSettings) : Cache α φ := ⟨settings, none, none⟩

/-- Whether a stored value is younger than the retention. -/
def isFresh (c : Cache α φ) (now : Nat) (s : Stored α) : Bool :=
  (now - s.storedAt) * 1000000 < c.settings.retention.nanos

/-- What a caller finds at a moment. -/
def lookup (c : Cache α φ) (now : Nat) : Lookup α φ :=
  match c.stored.filter (c.isFresh now) with
  | some s => .fresh s.value
  | none =>
    match c.flight with
    | some f => .inFlight f
    | none => .absent

/-- Notes that a call has started. -/
def start (c : Cache α φ) (f : φ) : Cache α φ := { c with flight := some f }

/-- Notes what a call has yielded: its value is stored, and a failure leaves the
stored value as it was. -/
def record (c : Cache α φ) (now : Nat) : Result α → Cache α φ
  | .ok v => { c with stored := some ⟨v, now⟩ }
  | .error _ => c

/-- Notes that no call is in flight, so that the next caller may start one. -/
def release (c : Cache α φ) : Cache α φ := { c with flight := none }

/-- A call ends: what it yielded is noted first, and then its place is free. -/
def finish (c : Cache α φ) (now : Nat) (outcome : Result α) : Cache α φ :=
  (c.record now outcome).release

end Cache

end Telemetry
