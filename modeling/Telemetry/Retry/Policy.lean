import Telemetry.Retry.Backoff
import Telemetry.Call.Script

/-! # Bounded retry

A policy repeats an operation until it succeeds, fails for good, or has used up
its attempts.  One limit bounds all attempts and the waits between them.  The
operation is whatever a state can be asked for: invoked with the number of an
attempt, it says what this attempt will come to, and the run decides how much of
that takes place.
-/

namespace Telemetry

/-- How often to try and how long to wait in between. -/
structure RetryPolicy where
  maxAttempts : Nat
  backoff : Backoff
  maxAttempts_pos : 0 < maxAttempts

namespace RetryPolicy

/-- A policy; it needs at least one attempt. -/
def create (maxAttempts : Nat) (backoff : Backoff) : Result RetryPolicy :=
  if h : 0 < maxAttempts then .ok ⟨maxAttempts, backoff, h⟩
  else .error (.construction "retry attempts must be greater than 0")

/-- Two attempts with the standard backoff. -/
def standard : RetryPolicy := ⟨2, .standard, by decide⟩

end RetryPolicy

/-- What an attempt comes to when nothing interrupts it. -/
structure Course (α : Type) where
  /-- The moment at which it ends, if ever. -/
  ends : Option Nat
  ending : Ending α
  /-- Whether an interruption of the same moment comes before the end. -/
  yields : Bool := false
deriving DecidableEq

/-- The course of a call that starts now. -/
def Call.course {α : Type} (c : Call α) (now : Nat) : Course α :=
  ⟨c.delay.map (now + ·), c.ending, false⟩

/-- The attempts of a script are its calls by number. -/
def Script.attempt {α : Type} (s : Script α) (_ : Unit) (number now : Nat) : Unit × Course α :=
  ((), (s.call number).course now)

/-- Whether an attempt ends before it is interrupted at a moment. -/
def Course.endsBy {α : Type} (c : Course α) (moment : Nat) : Option Nat :=
  c.ends.filter fun e => e < moment || (e = moment && !c.yields)

/-- An attempt of a run. -/
structure Attempt (α : Type) where
  /-- Its number, counted from zero. -/
  number : Nat
  started : Nat
  course : Course α
deriving DecidableEq

/-- How a run went. -/
structure RetryRun (σ α : Type) where
  /-- The numbers that the operation was invoked with, in order. -/
  numbers : List Nat
  /-- The attempts that got under way, in order. -/
  attempts : List (Attempt α)
  ending : Ending α
  ended : Nat
  /-- The state of the operation afterwards. -/
  state : σ
deriving DecidableEq

namespace RetryRun

variable {σ α : Type}

/-- A run that makes one attempt and no other. -/
def single (a : Attempt α) (ending : Ending α) (ended : Nat) (state : σ) : RetryRun σ α :=
  ⟨[a.number], [a], ending, ended, state⟩

/-- A run that begins with one more attempt. -/
def after (a : Attempt α) (run : RetryRun σ α) : RetryRun σ α :=
  { run with numbers := a.number :: run.numbers, attempts := a :: run.attempts }

end RetryRun

/-- What bounds a run. -/
structure RetryLimits where
  /-- When the run started. -/
  started : Nat
  timeout : Span
  /-- When the run is cancelled, if ever; what happens at that moment still counts. -/
  cancelled : Option Nat
  /-- The wait after each attempt, unless drawing it fails. -/
  backoff : Nat → Option Nat

namespace RetryLimits

/-- The moment at which the time is up. -/
def deadline (l : RetryLimits) : Nat := l.started + l.timeout.ceilMillis

/-- Whether a moment, in milliseconds, has reached the exact end of the time. -/
def isOver (l : RetryLimits) (moment : Nat) : Bool :=
  l.started * 1000000 + l.timeout.nanos ≤ moment * 1000000

/-- The moment that ends an attempt from outside, and the failure it brings. -/
def interruption (l : RetryLimits) : Nat × Error :=
  match l.cancelled with
  | some c => if c < l.deadline then (c, .cancelled) else (l.deadline, .timeout l.timeout)
  | none => (l.deadline, .timeout l.timeout)

/-- Whether a cancellation comes before a moment. -/
def cancelledBefore (l : RetryLimits) (moment : Nat) : Option Nat :=
  l.cancelled.filter (· < moment)

end RetryLimits

/-- The message of a draw from a range without end. -/
def unboundedJitter : String := "Uniform::new_inclusive: range overflow"

/-- Makes attempts from number `attempt` on, `left + 1` of them at most.  `ask`
gives the course of an attempt and the state after it. -/
def RetryLimits.run {σ α : Type} (l : RetryLimits) (ask : σ → (attempt now : Nat) → σ × Course α) :
    (left attempt now : Nat) → σ → RetryRun σ α
  | left, attempt, now, state =>
    let (state, course) := ask state attempt now
    let a : Attempt α := ⟨attempt, now, course⟩
    let (moment, failure) := l.interruption
    match course.endsBy moment with
    | none => .single a (.failure failure) moment state
    | some ended =>
      match course.ending with
      | .value v => .single a (.value v) ended state
      | .panic message => .single a (.panic message) ended state
      | .failure e =>
        match left with
        | 0 => .single a (.failure e) ended state
        | left + 1 =>
          if e.isRetryable then
            match l.backoff attempt with
            | none => .single a (.panic unboundedJitter) ended state
            | some wait =>
              let next := ended + wait
              if l.isOver next then .single a (.failure e) ended state
              else match l.cancelledBefore next with
                | some c => .single a (.failure .cancelled) c state
                | none => (run l ask left (attempt + 1) next state).after a
          else .single a (.failure e) ended state

namespace RetryPolicy

/-- The delays of a policy for jitters drawn elsewhere. -/
def delays (p : RetryPolicy) (jitter : Nat → Float) (attempt : Nat) : Option Nat :=
  if p.backoff.drawable attempt then some (p.backoff.millis attempt (jitter attempt)) else none

/-- Runs an operation from a moment on. -/
def run {σ α : Type} (p : RetryPolicy) (timeout : Span) (cancelled : Option Nat)
    (jitter : Nat → Float) (ask : σ → (attempt now : Nat) → σ × Course α) (now : Nat) (state : σ) :
    RetryRun σ α :=
  RetryLimits.run ⟨now, timeout, cancelled, p.delays jitter⟩ ask (p.maxAttempts - 1) 0 now state

/-- The message of adding a timeout that the clock cannot represent. -/
def clockOverflow : String := "overflow when adding duration to instant"

/-- A run whose timeout may lie beyond the clock and whose token may be cancelled
beforehand.  A cancelled run still invokes the operation once but waits for
nothing, so its only attempt never gets under way. -/
def start {σ α : Type} (p : RetryPolicy) (timeout : Span) (cancelled : Option Nat)
    (jitter : Nat → Float) (ask : σ → (attempt now : Nat) → σ × Course α) (now : Nat) (state : σ) :
    RetryRun σ α :=
  if !timeout.clockCanReach then ⟨[], [], .panic clockOverflow, now, state⟩
  else if (cancelled.any (· ≤ now)) then ⟨[0], [], .failure .cancelled, now, state⟩
  else p.run timeout cancelled jitter ask now state

end RetryPolicy

end Telemetry
