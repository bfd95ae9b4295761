import Telemetry.Proofs.Retry.Attempts

/-! # What a policy makes of a script

The whole of what a run does is fixed by the outcomes and the lengths of the calls, the waits, the
limit and the moment of the cancellation: which calls are made and when, when the run ends, and with
what.

`RunsScript` says so without a word on the loop.  It takes the waits as numbers, by the attempt
after which they come; the loop draws them as it goes, and may fail to.  So what is known of runs in
general is carried over to limits in which every wait can be drawn (`limits`), and the way of ending
that belongs to a wait that cannot is excluded by hypothesis.

A token that is cancelled before the run starts is a case of its own.  The operation is invoked once
then, and nothing of it gets under way.
-/

namespace Telemetry

variable {α : Type}

namespace RetryPolicy

/-- What bounds a run, where the wait after every attempt can be drawn: its limit counts from its
start, and the waits are those of the backoff. -/
def limits (p : RetryPolicy) (timeout : Span) (cancelled : Option Nat) (jitter : Nat → Float)
    (started : Nat) : RetryLimits :=
  ⟨started, timeout, cancelled, fun n => some (p.backoff.millis n (jitter n))⟩

/-- What holds of a run of a policy over a script that starts at a moment.  The fields take the run
from its beginning to its end: which attempts are made, when each of them starts and what it is, and
how and when the last one ends the run. -/
structure RunsScript (p : RetryPolicy) (timeout : Span) (cancelled : Option Nat)
    (jitter : Nat → Float) (script : Script α) (started : Nat) (run : RetryRun Unit α) : Prop where
  /-- The operation is invoked with the numbers from zero on, at least once and not
  more often than the policy allows. -/
  numbers : ∃ k, 1 ≤ k ∧ k ≤ p.maxAttempts ∧ run.numbers = List.range k
  /-- A run that is cancelled beforehand ends at once; its one attempt does not get
  under way. -/
  beforehand : ∀ c, cancelled = some c → c ≤ started →
    run.numbers = [0] ∧ run.attempts = [] ∧ run.ending = .failure .cancelled ∧ run.ended = started
  /-- In any other run every attempt gets under way, the first one at once. -/
  underWay : (∀ c, cancelled = some c → started < c) →
    run.attempts.map Attempt.number = run.numbers ∧
      run.attempts.head?.map Attempt.started = some started
  /-- The attempts are the calls of the script, each begun at the moment of its attempt. -/
  scripted : ∀ a ∈ run.attempts, a.course = (script.call a.number).course a.started
  /-- Every attempt but the last ended in a failure worth another one, which starts
  when exactly the drawn wait is over, and before the time is up. -/
  follows : run.attempts.IsChain (p.limits timeout cancelled jitter started).Follows
  /-- The run ends within its limit, rounded up to a whole millisecond.  No call and no wait holds
  it up beyond that. -/
  bounded : run.ended ≤ started + timeout.ceilMillis
  /-- The last attempt ends the run: by its own value or failure, because it runs
  into the limit, or because the run is cancelled meanwhile. -/
  result : (∀ c, cancelled = some c → started < c) →
    (∀ message, run.ending ≠ .panic message) ∧ ∃ a, run.attempts.getLast? = some a ∧
      (p.limits timeout cancelled jitter started).Concludes p.maxAttempts a run.ending run.ended

end RetryPolicy

/-- Attempts that follow one another are numbered one by one, from the number of the first on. -/
theorem RetryLimits.numbers_of_follows {l : RetryLimits} {a : Attempt α}
    {rest : List (Attempt α)} (h : (a :: rest).IsChain l.Follows) :
    (a :: rest).map Attempt.number = List.range' a.number (rest.length + 1) := by
  induction rest generalizing a with
  | nil => rfl
  | cons b rest ih =>
    obtain ⟨hab, hrest⟩ := List.isChain_cons_cons.mp h
    rw [List.map_cons, ih hrest, hab.number, List.length_cons, ← List.range'_succ]

/-- Asking a script for attempts yields its calls, since a script has no state that an attempt could
change. -/
theorem Script.course_of_asked {script : Script α} {state after : Unit}
    {attempts : List (Attempt α)} (h : Asked script.attempt state attempts after) :
    ∀ a ∈ attempts, a.course = (script.call a.number).course a.started := by
  induction h with
  | nil => intro a ha; cases ha
  | cons hcourse _ ih => exact List.forall_mem_cons.mpr ⟨hcourse.symm, ih⟩

namespace RetryPolicy

variable {p : RetryPolicy} {timeout : Span} {cancelled : Option Nat} {jitter : Nat → Float}
  {started : Nat}

theorem delays_eq_some {n wait : Nat} (h : p.delays jitter n = some wait) :
    p.backoff.millis n (jitter n) = wait := by
  unfold delays at h
  split at h
  · exact Option.some.inj h
  · cases h

theorem drawable_of_delays_eq_none {n : Nat} (h : p.delays jitter n = none) :
    p.backoff.drawable n = false := by
  unfold delays at h
  split at h
  · cases h
  · rename_i hnot
    exact Bool.eq_false_iff.mpr hnot

theorem within_limits {moment : Nat}
    (h : (RetryLimits.mk started timeout cancelled (p.delays jitter)).Within moment) :
    (p.limits timeout cancelled jitter started).Within moment :=
  ⟨h.inTime, h.uncancelled⟩

/-- What follows by the waits that a run has drawn follows by the waits themselves. -/
theorem follows_limits {a b : Attempt α}
    (h : (RetryLimits.mk started timeout cancelled (p.delays jitter)).Follows a b) :
    (p.limits timeout cancelled jitter started).Follows a b := by
  obtain ⟨ended, e, wait, hend, hending, hretry, hwait, hstarted⟩ := h.retried
  exact ⟨h.number, ⟨ended, e, wait, hend, hending, hretry, by
    rw [← delays_eq_some hwait]; rfl, hstarted⟩, h.early, h.uncancelled⟩

theorem concludes_limits {a : Attempt α} {ending : Ending α} {ended : Nat}
    (h : (RetryLimits.mk started timeout cancelled (p.delays jitter)).Concludes p.maxAttempts a
      ending ended)
    (hdrawn : ∀ n, n + 1 < p.maxAttempts → p.backoff.drawable n = true) :
    (p.limits timeout cancelled jitter started).Concludes p.maxAttempts a ending ended := by
  cases h with
  | value hend hwithin hending => exact .value hend (within_limits hwithin) hending
  | failure hend hwithin hending hwhy =>
    refine .failure hend (within_limits hwithin) hending (hwhy.imp_right (Or.imp_right ?_))
    rintro ⟨wait, hwait, hlate⟩
    exact ⟨wait, by rw [← delays_eq_some hwait]; rfl, hlate⟩
  | timeout hunfinished hwithin => exact .timeout hunfinished (within_limits hwithin)
  | cancelled hc hlt hwhy =>
    refine .cancelled hc hlt (hwhy.imp_right ?_)
    rintro ⟨ended, e, wait, hend, hending, hretry, hbudget, hwait, hle, hbefore⟩
    exact ⟨ended, e, wait, hend, hending, hretry, hbudget, by
      rw [← delays_eq_some hwait]; rfl, hle, hbefore⟩
  | panic hend hwithin hending => exact .panic hend (within_limits hwithin) hending
  | undrawn _ _ _ _ hbudget hwait =>
    have hnot := drawable_of_delays_eq_none hwait
    rw [hdrawn _ hbudget] at hnot
    cases hnot

/-- **What a policy makes of a script**: of calls that do not panic, with waits that can be drawn
and a limit that the clock can represent.  The attempt that ends the run is the last one that is
made, however it ends it.  The general theory of runs gives the chain of attempts and its end
(`retried_run`); that the attempts are the calls of the script and carry its numbers is added here,
and so is the token that is cancelled from the outset. -/
theorem start_runsScript (p : RetryPolicy) (timeout : Span) (cancelled : Option Nat)
    (jitter : Nat → Float) (script : Script α) (started : Nat)
    (hclock : timeout.clockCanReach = true)
    (hdrawn : ∀ n, n + 1 < p.maxAttempts → p.backoff.drawable n = true)
    (hcalm : script.Calm) :
    p.RunsScript timeout cancelled jitter script started
      (p.start timeout cancelled jitter script.attempt started ()) := by
  have hpos := p.maxAttempts_pos
  unfold start
  rw [hclock, Bool.not_true, if_neg Bool.false_ne_true]
  -- a run that is cancelled beforehand is over before its loop begins
  by_cases hbefore : cancelled.any (· ≤ started) = true
  case pos =>
    obtain ⟨c, rfl, hc⟩ := (Option.any_eq_true _ _).mp hbefore
    have hlate : ¬ ∀ c', some c = some c' → started < c' :=
      fun h => absurd (h c rfl) (Nat.not_lt.mpr (of_decide_eq_true hc))
    rw [if_pos hbefore]
    exact {
      numbers := ⟨1, Nat.le_refl 1, hpos, rfl⟩
      beforehand := fun _ _ _ => ⟨rfl, rfl, rfl, rfl⟩
      underWay := fun h => absurd h hlate
      scripted := fun _ ha => absurd ha List.not_mem_nil
      follows := .nil
      bounded := Nat.le_add_right _ _
      result := fun h => absurd h hlate }
  rw [if_neg hbefore]
  have hrun := retried_run ⟨started, timeout, cancelled, p.delays jitter⟩ script.attempt
    (p.maxAttempts - 1) 0 started ()
  rw [show 0 + (p.maxAttempts - 1) + 1 = p.maxAttempts by omega] at hrun
  change Retried _ _ _ _ _ _ (p.run timeout cancelled jitter script.attempt started ()) at hrun
  generalize p.run timeout cancelled jitter script.attempt started () = run at hrun ⊢
  obtain ⟨a, rest, hattempts, hnumber, hstarted⟩ := hrun.begins
  obtain ⟨z, hlast, hend⟩ := hrun.concludes
  have hscripted := Script.course_of_asked hrun.asked
  have hbudget := hrun.budget
  exact {
    numbers := by
      have hfollows := hrun.follows
      rw [hattempts] at hfollows hbudget
      refine ⟨rest.length + 1, Nat.le_add_left _ _, by simpa using hbudget, ?_⟩
      rw [hrun.numbers, hattempts, RetryLimits.numbers_of_follows hfollows, hnumber,
        List.range_eq_range']
    beforehand := fun c hc hle => absurd (by simpa [hc] using hle) hbefore
    underWay := fun _ => ⟨hrun.numbers.symm, by rw [hattempts, ← hstarted]; rfl⟩
    scripted := hscripted
    follows := hrun.follows.imp fun _ _ => follows_limits
    bounded := hrun.bounded
    result := by
      -- a panic would be one of the script, or of a wait that cannot be drawn
      refine fun _ => ⟨fun message hpanic => ?_, z, hlast, concludes_limits hend hdrawn⟩
      rw [hpanic] at hend
      cases hend with
      | panic _ _ hending =>
        rw [hscripted z (List.mem_of_getLast? hlast)] at hending
        exact hcalm _ _ hending
      | undrawn _ _ _ _ hmore hwait =>
        have hnot := drawable_of_delays_eq_none hwait
        rw [hdrawn _ hmore] at hnot
        cases hnot }

/-- Two failures, then a call that never ends: the limit strikes before a late cancellation does.
The attempts start where the waits after the two failures are over. -/
theorem runsScript_of_hanging_call :
    let p : RetryPolicy := ⟨3, ⟨1, 2.0, 0.0, 5⟩, by decide⟩
    let script : Script Nat := ⟨[⟨some 10, .failure (.dependency "GET" "reset")⟩,
      ⟨some 5, .failure (.timeout (.ofMillis 5))⟩, ⟨none, .value 7⟩]⟩
    let run := p.start (.ofMillis 100) (some 200) (fun _ => 0.0) script.attempt 0 ()
    (Span.ofMillis 100).clockCanReach = true ∧
      (∀ n, n + 1 < p.maxAttempts → p.backoff.drawable n = true) ∧ script.Calm ∧
      run.attempts.map Attempt.started = [0, 11, 18] ∧
      run.ending = .failure (.timeout (.ofMillis 100)) ∧
      p.RunsScript (.ofMillis 100) (some 200) (fun _ => 0.0) script 0 run := by
  intro p script run
  have hclock : (Span.ofMillis 100).clockCanReach = true := by decide
  have hdrawn : ∀ n, n + 1 < p.maxAttempts → p.backoff.drawable n = true := by
    intro n hn
    match n, hn with
    | 0, _ => decide +kernel
    | 1, _ => decide +kernel
  have hcalm : script.Calm := Script.calm_of_forall (by simp [script])
  exact ⟨hclock, hdrawn, hcalm, by decide +kernel, by decide +kernel,
    start_runsScript p _ _ _ script 0 hclock hdrawn hcalm⟩

end RetryPolicy

end Telemetry
