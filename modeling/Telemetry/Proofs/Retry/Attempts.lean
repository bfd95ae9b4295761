import Mathlib.Data.List.Chain
import Telemetry.Retry.Policy

/-! # What a run of attempts is

A run is a chain: every attempt but the last ended in a failure that another attempt may overcome,
and the next one started when the wait after it was over (`Follows`).  The last one ends the run in
one of six ways (`Concludes`).  Both are read off the single step of the loop (`run_cases`) and
carried along by induction on the attempts that are left (`retried_run`).

An attempt may end at the very moment at which something interrupts it.  Which of the two comes
first is decided by the attempt: one that yields lets the interruption go first, any other is
through before it (`UnfinishedAt`).  The limit and the cancellation are two interruptions of this
kind, and only the earlier of them is ever seen (`interruption_cases`).

An operation whose attempts end no earlier than they start (`Orderly`) is asked at moments that do
not decrease, none of them after the end of the run.
-/

namespace Telemetry

variable {σ α : Type}

namespace Course

variable {c : Course α} {moment e : Nat}

/-- The attempt has not ended when something interrupts it at a moment: it ends later or never, or
just then and yields. -/
def UnfinishedAt (c : Course α) (moment : Nat) : Prop :=
  ∀ e, c.ends = some e → moment < e ∨ e = moment ∧ c.yields = true

theorem endsBy_eq_some :
    c.endsBy moment = some e ↔ c.ends = some e ∧ (e < moment ∨ e = moment ∧ c.yields = false) := by
  unfold endsBy
  rw [Option.filter_eq_some_iff]
  simp

theorem endsBy_eq_none : c.endsBy moment = none ↔ c.UnfinishedAt moment := by
  unfold endsBy UnfinishedAt
  rw [Option.filter_eq_none_iff]
  refine forall₂_congr fun e _ => ?_
  cases c.yields <;> simp <;> omega

theorem le_of_endsBy (h : c.endsBy moment = some e) : e ≤ moment := by
  rcases (endsBy_eq_some.mp h).2 with hlt | ⟨rfl, -⟩
  · exact Nat.le_of_lt hlt
  · exact Nat.le_refl _

end Course

namespace RetryLimits

/-- A moment by which a run is neither out of time nor cancelled before.  At the moment of either
the run may still be under way. -/
structure Within (l : RetryLimits) (moment : Nat) : Prop where
  inTime : moment ≤ l.deadline
  uncancelled : ∀ c, l.cancelled = some c → moment ≤ c

/-- When an attempt of a run is followed by another: it ended in a failure worth
another attempt, which starts when the wait is over, within the time of the run and
before any cancellation. -/
structure Follows (l : RetryLimits) (a b : Attempt α) : Prop where
  number : b.number = a.number + 1
  retried : ∃ ended e wait, a.course.ends = some ended ∧ a.course.ending = .failure e ∧
    e.isRetryable = true ∧ l.backoff a.number = some wait ∧ b.started = ended + wait
  early : b.started * 1000000 < l.started * 1000000 + l.timeout.nanos
  uncancelled : ∀ c, l.cancelled = some c → b.started ≤ c

/-- How the last attempt of a run ends it, and at which moment.  A value, a failure and a panic are
the attempt's own, at its own end; the limit and a cancellation come from outside.  Two of the cases
may hold of one attempt when it ends at the very moment of an interruption; the run then has one of
these ends. -/
inductive Concludes (l : RetryLimits) (maxAttempts : Nat) (a : Attempt α) : Ending α → Nat → Prop
  | value {v : α} {ended : Nat} : a.course.ends = some ended → l.Within ended →
      a.course.ending = .value v → Concludes l maxAttempts a (.value v) ended
  /-- The attempt failed, and another one would not help, is not allowed, or would
  come too late. -/
  | failure {e : Error} {ended : Nat} : a.course.ends = some ended → l.Within ended →
      a.course.ending = .failure e →
      (e.isRetryable = false ∨ a.number + 1 = maxAttempts ∨ ∃ wait,
        l.backoff a.number = some wait ∧
          l.started * 1000000 + l.timeout.nanos ≤ (ended + wait) * 1000000) →
      Concludes l maxAttempts a (.failure e) ended
  | timeout : a.course.UnfinishedAt l.deadline → l.Within l.deadline →
      Concludes l maxAttempts a (.failure (.timeout l.timeout)) l.deadline
  /-- The run is cancelled during the attempt or the wait after it.  A failure before the wait is
  not reported any more. -/
  | cancelled {c : Nat} : l.cancelled = some c → c < l.deadline →
      (a.course.UnfinishedAt c ∨ ∃ ended e wait, a.course.ends = some ended ∧
        a.course.ending = .failure e ∧ e.isRetryable = true ∧ a.number + 1 < maxAttempts ∧
        l.backoff a.number = some wait ∧ ended ≤ c ∧ c < ended + wait) →
      Concludes l maxAttempts a (.failure .cancelled) c
  | panic {message : String} {ended : Nat} : a.course.ends = some ended → l.Within ended →
      a.course.ending = .panic message → Concludes l maxAttempts a (.panic message) ended
  /-- The wait before another attempt cannot be drawn, since its jitter is not bounded, and the run
  ends in a panic. -/
  | undrawn {e : Error} {ended : Nat} : a.course.ends = some ended → l.Within ended →
      a.course.ending = .failure e → e.isRetryable = true → a.number + 1 < maxAttempts →
      l.backoff a.number = none → Concludes l maxAttempts a (.panic unboundedJitter) ended

variable {l : RetryLimits}

theorem interruption_cases (l : RetryLimits) :
    ((∀ c, l.cancelled = some c → l.deadline ≤ c) ∧
        l.interruption = (l.deadline, .timeout l.timeout)) ∨
      ∃ c, l.cancelled = some c ∧ c < l.deadline ∧ l.interruption = (c, .cancelled) := by
  unfold interruption
  cases hc : l.cancelled with
  | none => exact .inl ⟨fun _ h => (by cases h), rfl⟩
  | some c =>
    by_cases hlt : c < l.deadline
    · exact .inr ⟨c, rfl, hlt, if_pos hlt⟩
    · refine .inl ⟨fun c' h => ?_, if_neg hlt⟩
      obtain rfl := Option.some.inj h
      exact Nat.not_lt.mp hlt

/-- Until the moment that ends attempts from outside the run is in time. -/
theorem within_of_le {moment : Nat} (h : moment ≤ l.interruption.1) : l.Within moment := by
  rcases l.interruption_cases with ⟨hlate, hi⟩ | ⟨c, hc, hlt, hi⟩
  · rw [hi] at h
    exact ⟨h, fun c hc => Nat.le_trans h (hlate c hc)⟩
  · rw [hi] at h
    refine ⟨Nat.le_of_lt (Nat.lt_of_le_of_lt h hlt), fun c' hc' => ?_⟩
    rw [hc] at hc'
    exact Option.some.inj hc' ▸ h

theorem lt_deadline_of_early {moment : Nat}
    (h : moment * 1000000 < l.started * 1000000 + l.timeout.nanos) : moment < l.deadline := by
  unfold deadline Span.ceilMillis
  omega

/-- An interrupted attempt ends the run, at the moment and with the error of what came first. -/
theorem concludes_of_unfinished {a : Attempt α} (maxAttempts : Nat)
    (h : a.course.UnfinishedAt l.interruption.1) :
    l.Concludes maxAttempts a (.failure l.interruption.2) l.interruption.1 := by
  rcases l.interruption_cases with ⟨-, hi⟩ | ⟨c, hc, hlt, hi⟩
  · have hwithin := within_of_le (Nat.le_refl l.interruption.1)
    rw [hi] at h hwithin ⊢
    exact .timeout h hwithin
  · rw [hi] at h ⊢
    exact .cancelled hc hlt (.inl h)

theorem early_of_not_over {moment : Nat} (h : l.isOver moment = false) :
    moment * 1000000 < l.started * 1000000 + l.timeout.nanos :=
  Nat.not_le.mp (of_decide_eq_false h)

section Waiting

variable {a b : Attempt α} {maxAttempts ended wait c : Nat} {e : Error}
  (hend : a.course.ends = some ended) (hending : a.course.ending = .failure e)
  (hretry : e.isRetryable = true) (hwait : l.backoff a.number = some wait)
  (hover : l.isOver (ended + wait) = false)
include hend hending hretry hwait hover

/-- A cancellation during the wait after an attempt ends the run, in place of another attempt. -/
theorem concludes_of_cancelled (hwithin : l.Within ended) (hbudget : a.number + 1 < maxAttempts)
    (hcancel : l.cancelledBefore (ended + wait) = some c) :
    c ≤ l.deadline ∧ l.Concludes maxAttempts a (.failure .cancelled) c := by
  obtain ⟨hc, hbefore⟩ := Option.filter_eq_some_iff.mp hcancel
  have hlt : c < ended + wait := of_decide_eq_true hbefore
  have hle : ended ≤ c := hwithin.uncancelled c hc
  have hdeadline : c < l.deadline :=
    Nat.lt_trans hlt (lt_deadline_of_early (early_of_not_over hover))
  exact ⟨Nat.le_of_lt hdeadline, .cancelled hc hdeadline
    (.inr ⟨ended, e, wait, hend, hending, hretry, hbudget, hwait, hle, hlt⟩)⟩

/-- Otherwise another attempt follows, under the next number and just when the wait is over. -/
theorem follows_of_uncancelled (hcancel : l.cancelledBefore (ended + wait) = none)
    (hnumber : b.number = a.number + 1) (hstarted : b.started = ended + wait) : l.Follows a b where
  number := hnumber
  retried := ⟨ended, e, wait, hend, hending, hretry, hwait, hstarted⟩
  early := hstarted ▸ early_of_not_over hover
  uncancelled c hc := by
    have hnot := Option.filter_eq_none_iff.mp hcancel c hc
    rw [hstarted]
    simpa using hnot

end Waiting

/-- **What an attempt leads to**: it is the last one of the run, or another follows.  The whole loop
is in this step: all that is said of runs comes from it. -/
theorem run_cases (l : RetryLimits) (ask : σ → (attempt now : Nat) → σ × Course α)
    (left attempt now : Nat) (state : σ) :
    let asked := ask state attempt now
    let a : Attempt α := ⟨attempt, now, asked.2⟩
    (∃ ending ended, l.run ask left attempt now state = .single a ending ended asked.1 ∧
      ended ≤ l.deadline ∧ l.Concludes (attempt + left + 1) a ending ended) ∨
    ∃ left' next, left = left' + 1 ∧
      l.run ask left attempt now state = (l.run ask left' (attempt + 1) next asked.1).after a ∧
      ∀ b : Attempt α, b.number = attempt + 1 → b.started = next → l.Follows a b := by
  have hmoment := within_of_le (Nat.le_refl l.interruption.1)
  generalize hrun : l.run ask left attempt now state = run
  unfold RetryLimits.run at hrun
  generalize ask state attempt now = asked at hrun ⊢
  obtain ⟨state', course⟩ := asked
  intro asked a
  -- in the order of the loop: what interrupts the attempt, how it ends, and what keeps another one
  -- from following
  cases hends : course.endsBy l.interruption.1 with
  | none =>
    simp only [hends] at hrun
    exact .inl ⟨_, _, hrun.symm, hmoment.inTime,
      concludes_of_unfinished _ (Course.endsBy_eq_none.mp hends)⟩
  | some ended =>
    have hend : a.course.ends = some ended := (Course.endsBy_eq_some.mp hends).1
    have hwithin := within_of_le (Course.le_of_endsBy hends)
    cases hending : course.ending with
    | value v =>
      simp only [hends, hending] at hrun
      exact .inl ⟨_, _, hrun.symm, hwithin.inTime, .value hend hwithin hending⟩
    | panic message =>
      simp only [hends, hending] at hrun
      exact .inl ⟨_, _, hrun.symm, hwithin.inTime, .panic hend hwithin hending⟩
    | failure e =>
      cases left with
      | zero =>
        simp only [hends, hending] at hrun
        exact .inl ⟨_, _, hrun.symm, hwithin.inTime,
          .failure hend hwithin hending (.inr (.inl rfl))⟩
      | succ left =>
        simp only [hends, hending] at hrun
        by_cases hretry : e.isRetryable = true
        case neg =>
          rw [if_neg hretry] at hrun
          exact .inl ⟨_, _, hrun.symm, hwithin.inTime,
            .failure hend hwithin hending (.inl (Bool.eq_false_iff.mpr hretry))⟩
        have hbudget : attempt + 1 < attempt + (left + 1) + 1 := by omega
        rw [if_pos hretry] at hrun
        cases hwait : l.backoff attempt with
        | none =>
          simp only [hwait] at hrun
          exact .inl ⟨_, _, hrun.symm, hwithin.inTime,
            .undrawn hend hwithin hending hretry hbudget hwait⟩
        | some wait =>
          simp only [hwait] at hrun
          by_cases hover : l.isOver (ended + wait) = true
          case pos =>
            rw [if_pos hover] at hrun
            exact .inl ⟨_, _, hrun.symm, hwithin.inTime,
              .failure hend hwithin hending (.inr (.inr ⟨wait, hwait, of_decide_eq_true hover⟩))⟩
          rw [if_neg hover] at hrun
          rw [Bool.not_eq_true] at hover
          cases hcancel : l.cancelledBefore (ended + wait) with
          | some c =>
            simp only [hcancel] at hrun
            exact .inl ⟨_, _, hrun.symm,
              concludes_of_cancelled hend hending hretry hwait hover hwithin hbudget hcancel⟩
          | none =>
            simp only [hcancel] at hrun
            exact .inr ⟨left, ended + wait, rfl, hrun.symm, fun b =>
              follows_of_uncancelled hend hending hretry hwait hover hcancel⟩

end RetryLimits

/-! ## Runs -/

/-- An operation in a state is asked for attempts in order, and is in another state
afterwards. -/
inductive Asked (ask : σ → (attempt now : Nat) → σ × Course α) : σ → List (Attempt α) → σ → Prop
  | nil (state : σ) : Asked ask state [] state
  | cons {state after : σ} {a : Attempt α} {rest : List (Attempt α)} :
      (ask state a.number a.started).2 = a.course →
      Asked ask (ask state a.number a.started).1 rest after → Asked ask state (a :: rest) after

theorem Asked.of_cons {ask : σ → (attempt now : Nat) → σ × Course α} {state after : σ}
    {a : Attempt α} {rest : List (Attempt α)} (h : Asked ask state (a :: rest) after) :
    (ask state a.number a.started).2 = a.course ∧
      Asked ask (ask state a.number a.started).1 rest after := by
  cases h with
  | cons hcourse hrest => exact ⟨hcourse, hrest⟩

/-- A run that makes its first attempt at a moment, under a certain number, and may
use numbers below `maxAttempts`. -/
structure Retried (l : RetryLimits) (ask : σ → (attempt now : Nat) → σ × Course α)
    (maxAttempts attempt now : Nat) (state : σ) (run : RetryRun σ α) : Prop where
  begins : ∃ a rest, run.attempts = a :: rest ∧ a.number = attempt ∧ a.started = now
  numbers : run.numbers = run.attempts.map Attempt.number
  follows : run.attempts.IsChain l.Follows
  asked : Asked ask state run.attempts run.state
  concludes : ∃ a, run.attempts.getLast? = some a ∧ l.Concludes maxAttempts a run.ending run.ended
  budget : attempt + run.attempts.length ≤ maxAttempts
  bounded : run.ended ≤ l.deadline

namespace Retried

variable {l : RetryLimits} {ask : σ → (attempt now : Nat) → σ × Course α}
  {maxAttempts attempt now next ended : Nat} {state : σ} {ending : Ending α} {run : RetryRun σ α}

/-- A run of one attempt, which ends it: the chain is that attempt, and what it concludes is the
end. -/
theorem single (hbudget : attempt < maxAttempts) (hle : ended ≤ l.deadline)
    (hend : l.Concludes maxAttempts ⟨attempt, now, (ask state attempt now).2⟩ ending ended) :
    Retried l ask maxAttempts attempt now state
      (.single ⟨attempt, now, (ask state attempt now).2⟩ ending ended
        (ask state attempt now).1) where
  begins := ⟨_, _, rfl, rfl, rfl⟩
  numbers := rfl
  follows := .singleton _
  asked := .cons rfl (.nil _)
  concludes := ⟨_, rfl, hend⟩
  budget := hbudget
  bounded := hle

/-- One more attempt in front of a run that follows it. -/
theorem after (h : Retried l ask maxAttempts (attempt + 1) next (ask state attempt now).1 run)
    (hfollows : ∀ b : Attempt α, b.number = attempt + 1 → b.started = next →
      l.Follows ⟨attempt, now, (ask state attempt now).2⟩ b) :
    Retried l ask maxAttempts attempt now state
      (run.after ⟨attempt, now, (ask state attempt now).2⟩) := by
  obtain ⟨b, rest, hattempts, hnumber, hstarted⟩ := h.begins
  obtain ⟨last, hlast, hend⟩ := h.concludes
  have hbudget := h.budget
  exact {
    begins := ⟨_, _, rfl, rfl, rfl⟩
    numbers := congrArg (attempt :: ·) h.numbers
    follows := by
      have hchain := h.follows
      rw [hattempts] at hchain
      show List.IsChain l.Follows (_ :: run.attempts)
      rw [hattempts]
      exact .cons_cons (hfollows b hnumber hstarted) hchain
    asked := .cons rfl h.asked
    concludes := ⟨last, by
      show (_ :: run.attempts).getLast? = some last
      rw [List.getLast?_cons, hlast]
      rfl, hend⟩
    budget := by
      show attempt + (run.attempts.length + 1) ≤ maxAttempts
      omega
    bounded := h.bounded }

end Retried

/-- **Every run is a chain of attempts** with one of six ends.  The induction is on the attempts
that are left, with the state of the operation as it is when the next one begins. -/
theorem retried_run (l : RetryLimits) (ask : σ → (attempt now : Nat) → σ × Course α)
    (left attempt now : Nat) (state : σ) :
    Retried l ask (attempt + left + 1) attempt now state (l.run ask left attempt now state) := by
  induction left generalizing attempt now state with
  | zero =>
    rcases l.run_cases ask 0 attempt now state with ⟨ending, ended, hrun, hle, hend⟩ | ⟨_, _, h, -⟩
    · rw [hrun]
      exact .single (by omega) hle hend
    · cases h
  | succ left ih =>
    rcases l.run_cases ask (left + 1) attempt now state with
      ⟨ending, ended, hrun, hle, hend⟩ | ⟨left', next, hleft, hrun, hfollows⟩
    · rw [hrun]
      exact .single (by omega) hle hend
    · obtain rfl := Nat.succ.inj hleft
      have hrest := ih (attempt + 1) next (ask state attempt now).1
      rw [show attempt + 1 + left + 1 = attempt + (left + 1) + 1 by omega] at hrest
      rw [hrun]
      exact hrest.after hfollows

/-! ## Moments -/

/-- An operation with the states in which it can be asked at a moment: it can be asked
again from then on, and its attempts end no earlier than they start. -/
structure Orderly (ask : σ → (attempt now : Nat) → σ × Course α) (ready : Nat → σ → Prop) :
    Prop where
  keeps : ∀ {now later : Nat} {state : σ} (attempt : Nat), ready now state → now ≤ later →
    ready later (ask state attempt now).1
  forward : ∀ {now e : Nat} {state : σ} (attempt : Nat), ready now state →
    (ask state attempt now).2.ends = some e → now ≤ e

/-- No call of a script panics, neither those that it lists nor those after its last. -/
def Script.Calm (script : Script α) : Prop :=
  ∀ n message, (script.call n).ending ≠ .panic message

theorem Script.calm_of_forall {script : Script α}
    (h : ∀ c ∈ script.calls, ∀ message, c.ending ≠ .panic message) : script.Calm := by
  intro n message
  unfold Script.call
  cases hn : script.calls[n]? with
  | some c => exact h c (List.mem_of_getElem? hn) message
  | none =>
    cases hlast : script.calls.getLast? with
    | some c => exact h c (List.mem_of_getLast? hlast) message
    | none => intro hpanic; cases hpanic

theorem RetryLimits.Follows.within {l : RetryLimits} {a b : Attempt α} (h : l.Follows a b) :
    l.Within b.started :=
  ⟨Nat.le_of_lt (lt_deadline_of_early h.early), h.uncancelled⟩

variable {l : RetryLimits} {ask : σ → (attempt now : Nat) → σ × Course α}
  {ready : Nat → σ → Prop}

/-- Attempts that follow one another start one after the other, and the operation is
ready again after the last one. -/
theorem Orderly.attempts (ho : Orderly ask ready) {a : Attempt α} {rest : List (Attempt α)}
    {state after : σ} (hasked : Asked ask state (a :: rest) after)
    (hchain : (a :: rest).IsChain l.Follows) (hready : ready a.started state)
    (hwithin : l.Within a.started) :
    ∃ z, (a :: rest).getLast? = some z ∧ l.Within z.started ∧
      (∀ e, z.course.ends = some e → z.started ≤ e) ∧
      (∀ later, z.started ≤ later → ready later after) ∧
      ∀ b ∈ a :: rest, a.started ≤ b.started ∧ b.started ≤ z.started := by
  induction rest generalizing a state with
  | nil =>
    obtain ⟨hcourse, hrest⟩ := hasked.of_cons
    cases hrest
    refine ⟨a, rfl, hwithin, ?_, fun _ hle => ho.keeps _ hready hle, ?_⟩
    · intro e he
      exact ho.forward _ hready (hcourse ▸ he)
    · intro b hb
      rw [List.mem_singleton.mp hb]
      exact ⟨Nat.le_refl _, Nat.le_refl _⟩
  | cons b rest ih =>
    obtain ⟨hcourse, hrest⟩ := hasked.of_cons
    obtain ⟨hfollows, hchain⟩ := List.isChain_cons_cons.mp hchain
    -- the next attempt starts after the end of this one, by its wait
    have hle : a.started ≤ b.started := by
      obtain ⟨ended, e, wait, hend, -, -, -, hstarted⟩ := hfollows.retried
      have hforward : a.started ≤ ended := ho.forward _ hready (hcourse ▸ hend)
      omega
    obtain ⟨z, hlast, hz, hforward, hkeeps, hbetween⟩ :=
      ih hrest hchain (ho.keeps _ hready hle) hfollows.within
    refine ⟨z, by rw [List.getLast?_cons, hlast]; rfl, hz, hforward, hkeeps, fun c hc => ?_⟩
    rcases List.mem_cons.mp hc with rfl | hc
    · exact ⟨Nat.le_refl _, Nat.le_trans hle (hbetween b List.mem_cons_self).2⟩
    · exact ⟨Nat.le_trans hle (hbetween c hc).1, (hbetween c hc).2⟩

/-- No run is over before its last attempt starts, in whichever way that attempt ends it. -/
theorem RetryLimits.Concludes.started_le {maxAttempts ended : Nat} {a : Attempt α}
    {ending : Ending α} (h : l.Concludes maxAttempts a ending ended) (hwithin : l.Within a.started)
    (hforward : ∀ e, a.course.ends = some e → a.started ≤ e) : a.started ≤ ended := by
  cases h with
  | value hend | failure hend | panic hend | undrawn hend => exact hforward _ hend
  | timeout => exact hwithin.inTime
  | cancelled hc => exact hwithin.uncancelled _ hc

/-- What the operation sees of a run: attempts between its start and its end, and
afterwards the operation is ready again. -/
theorem Retried.orderly {maxAttempts attempt now : Nat} {state : σ} {run : RetryRun σ α}
    (h : Retried l ask maxAttempts attempt now state run) (ho : Orderly ask ready)
    (hready : ready now state) (hwithin : l.Within now) :
    (∀ a ∈ run.attempts, now ≤ a.started ∧ a.started ≤ run.ended) ∧ now ≤ run.ended ∧
      ∀ later, run.ended ≤ later → ready later run.state := by
  obtain ⟨a, rest, hattempts, -, rfl⟩ := h.begins
  obtain ⟨z', hlast', hend⟩ := h.concludes
  have hasked := h.asked
  have hchain := h.follows
  rw [hattempts] at hasked hchain hlast' ⊢
  obtain ⟨z, hlast, hz, hforward, hkeeps, hbetween⟩ := ho.attempts hasked hchain hready hwithin
  rw [hlast] at hlast'
  obtain rfl := Option.some.inj hlast'
  have hended := hend.started_le hz hforward
  refine ⟨fun b hb => ?_, ?_, fun later hle => hkeeps later (Nat.le_trans hended hle)⟩
  · exact ⟨(hbetween b hb).1, Nat.le_trans (hbetween b hb).2 hended⟩
  · exact Nat.le_trans (hbetween a List.mem_cons_self).2 hended

end Telemetry
