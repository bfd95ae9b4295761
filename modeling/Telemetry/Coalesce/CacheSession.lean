import Telemetry.Coalesce.CachedSource

/-! # Callers of a cache

A session follows a cache and everybody who asks it.  Callers ask, give up
because their token is cancelled, or are dropped; what is due at the moment of
an event happens before it, and what it makes possible at that moment right
after it.
-/

namespace Telemetry

/-- A caller of a cache. -/
inductive Waiter (α : Type) where
  | done (at_ : Nat) (result : Result α)
  | waiting (f : Fetch α)
  /-- Dropped before it had an answer. -/
  | dropped

/-- What happens to a cache and its callers. -/
inductive CacheEvent where
  /-- Somebody asks, perhaps with a token that is cancelled already. -/
  | get (cancelled : Bool)
  /-- The token of a caller is cancelled. -/
  | cancel (waiter : Nat)
  /-- A caller is dropped. -/
  | drop (waiter : Nat)
deriving DecidableEq

/-- A cache and its callers in the order in which they came. -/
structure CacheSession (α : Type) where
  source : CachedSource α
  waiters : List (Waiter α)

namespace Waiter

variable {α : Type}

/-- A caller who has been given an answer; a cancelled token does not let it wait. -/
def ofAnswer (now : Nat) (cancelled : Bool) : Answer α → Waiter α
  | .atOnce v => done now (.ok v)
  | .pending f _ => if cancelled then done now (.error .cancelled) else waiting f

/-- Hands a waiting caller the outcome of a call that has ended. -/
def settle (now : Nat) : Waiter α → Waiter α
  | waiting f => if f.ends ≤ now then done f.ends f.outcome else waiting f
  | w => w

/-- The caller's token is cancelled. -/
def cancel (now : Nat) : Waiter α → Waiter α
  | waiting _ => done now (.error .cancelled)
  | w => w

/-- The caller is dropped. -/
def drop : Waiter α → Waiter α
  | waiting _ => dropped
  | w => w

end Waiter

namespace CacheSession

variable {α : Type}

/-- A cache nobody has asked yet. -/
def create (settings : CacheSettings) (script : Script α) : CacheSession α :=
  ⟨.create settings script, []⟩

/-- Everything due up to a moment happens. -/
def settle (s : CacheSession α) (now : Nat) : CacheSession α :=
  ⟨s.source.settle now, s.waiters.map (Waiter.settle now)⟩

/-- An event takes place. -/
def apply (s : CacheSession α) (now : Nat) : CacheEvent → CacheSession α
  | .get cancelled =>
    let (source, answer) := s.source.get now
    ⟨source, s.waiters ++ [.ofAnswer now cancelled answer]⟩
  | .cancel i => { s with waiters := s.waiters.modify i (Waiter.cancel now) }
  | .drop i => { s with waiters := s.waiters.modify i Waiter.drop }

/-- An event with all that happens at its moment. -/
def step (s : CacheSession α) (e : Nat × CacheEvent) : CacheSession α :=
  ((s.settle e.1).apply e.1 e.2).settle e.1

/-- The events in order. -/
def run (s : CacheSession α) (events : List (Nat × CacheEvent)) : CacheSession α :=
  events.foldl step s

/-- Lets the call in flight end. -/
def finish (s : CacheSession α) : CacheSession α :=
  match s.source.cache.flight with
  | some f => s.settle f.ends
  | none => s

end CacheSession

/-- What a test bench asks of a cache: a caller comes, with the moment at which
its token is cancelled, or a caller is dropped. -/
inductive CacheRequest where
  | get (cancelAt : Option Nat)
  | drop (waiter : Nat)

namespace CacheRequest

/-- The events of requests that come at given moments: the cancellation of a
token is an event of its own unless it comes before the caller. -/
def events : (next : Nat) → List (Nat × CacheRequest) → List (Nat × CacheEvent)
  | _, [] => []
  | next, (now, .drop i) :: rest => (now, .drop i) :: events next rest
  | next, (now, .get cancelAt) :: rest =>
    let later := (cancelAt.filter (now < ·)).toList.map fun c => (c, CacheEvent.cancel next)
    (now, .get (cancelAt.any (· ≤ now))) :: later ++ events (next + 1) rest

/-- Whether an event is a cancellation, which goes before the others of its moment. -/
def rank : CacheEvent → Nat
  | .cancel _ => 0
  | _ => 1

/-- The events of requests in the order in which they happen. -/
def timeline (requests : List (Nat × CacheRequest)) : List (Nat × CacheEvent) :=
  (events 0 requests).mergeSort fun a b =>
    a.1 < b.1 || (a.1 = b.1 && rank a.2 ≤ rank b.2)

end CacheRequest

end Telemetry
