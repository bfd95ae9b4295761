import Telemetry.Proofs.Coalesce.CacheSession

/-! # One call at a time, and not too often

Whatever callers do, the calls of a cache follow one another: a call starts only for a caller who
finds neither a fresh value nor a call that runs, it ends within its limit, and the next one waits
until a value is as old as the retention.  A call that fails leaves no trace in the cache, so the
next caller is free to try again.

All of this is read off one invariant of the source, `CachedSource.Consistent`, which says that the
place of the call in flight shows the call that runs, and that every later call keeps its distance
from every earlier one (`Fetch.Before`).  What is left to do here is to say when a call starts
(`callsOf_of_asksInVain`, `callsOf_of_not_asksInVain`), and what the cache looks like after a call
without a value (`recovers_of_failure`).

The promises are about the list of all calls of a run, `callsOf`, and not about what some caller is
told, so that they hold also for calls that nobody waits for any longer.
-/

namespace Telemetry.CacheSession

variable {α : Type} (settings : CacheSettings) (script : Script α)

/-- Somebody asks, and finds neither a stored value younger than the retention nor a call that runs.
Whether its token is cancelled already makes no difference: the call starts all the same. -/
def AsksInVain (pre : List (Nat × CacheEvent)) (t : Nat) (e : CacheEvent) : Prop :=
  (∃ cancelled, e = .get cancelled) ∧
    (observed settings script pre t).source.cache.Stale settings.retention t ∧
    ∀ f ∈ callsOf settings script pre, ¬ f.RunningAt t

/-- What holds of the calls of a run, whatever its callers do and whatever the calls come to.  Each
promise is about every prefix of the run or about all its calls, and none about who waits for them:
a call that nobody waits for any more is still a call of the source, and the next one keeps its
distance from it. -/
structure SingleFlight (events : List (Nat × CacheEvent)) : Prop where
  /-- A call starts when all earlier ones are over, so that two never run at one moment. -/
  alone : (callsOf settings script events).Pairwise fun f g => f.ends ≤ g.started
  /-- At every moment the place of the call in flight shows the call that runs, and
  the last call over with a value is the one whose value is stored. -/
  shown : ∀ pre post now, events = pre ++ post → HappenedBy now pre →
    let source := (observed settings script pre now).source
    source.running = source.cache.flight.toList ∧
    (∀ f, f ∈ source.running ↔ f ∈ callsOf settings script pre ∧ f.RunningAt now) ∧
    source.cache.stored = lastStored ((callsOf settings script pre).filter (·.ends ≤ now))
  /-- A call starts at an event exactly if somebody asks there and finds neither a
  fresh value nor a call that runs; it starts at once and is the next of the
  script.  Otherwise no call starts. -/
  starts : ∀ pre t e post, events = pre ++ (t, e) :: post →
    let calls := callsOf settings script pre
    (AsksInVain settings script pre t e → callsOf settings script (pre ++ [(t, e)]) =
      calls ++ [Fetch.ofScript settings script calls.length t]) ∧
    (¬ AsksInVain settings script pre t e → callsOf settings script (pre ++ [(t, e)]) = calls)
  /-- A call ends within its limit, rounded up to a whole millisecond. -/
  limited : ∀ f ∈ callsOf settings script events,
    f.started ≤ f.ends ∧ f.ends ≤ f.started + settings.fetchTimeout.ceilMillis
  /-- After a call that yielded a value no call starts before the value is as old
  as the retention. -/
  spaced : (callsOf settings script events).Pairwise fun f g => ∀ v, f.outcome = .ok v →
    f.ends * 1000000 + settings.retention.nanos ≤ g.started * 1000000
  /-- From the end of a call without a value until the next call starts, no call
  is in flight, and what is stored is what was stored before that call; so the
  next caller who finds nothing fresh starts a new one. -/
  recovers : ∀ pre t cancelled mid post f e now,
    events = pre ++ (t, .get cancelled) :: mid ++ post →
    HappenedBy now (pre ++ (t, .get cancelled) :: mid) →
    callsOf settings script (pre ++ [(t, .get cancelled)]) = callsOf settings script pre ++ [f] →
    f.outcome = .error e → f.ends ≤ now →
    callsOf settings script (pre ++ (t, .get cancelled) :: mid) =
      callsOf settings script pre ++ [f] →
    let cache := (observed settings script (pre ++ (t, .get cancelled) :: mid) now).source.cache
    cache.flight = none ∧
    cache.stored = (observed settings script pre t).source.cache.stored ∧
    (cache.Stale settings.retention now → ∀ token,
      callsOf settings script (pre ++ (t, .get cancelled) :: mid ++ [(now, .get token)]) =
        callsOf settings script pre ++
          [f, Fetch.ofScript settings script ((callsOf settings script pre).length + 1) now])

variable {settings script} {pre events : List (Nat × CacheEvent)} {now t : Nat}

/-- An event that asks in vain starts the next call of the script.  It starts at the moment of the
event itself, and not when the caller comes to wait for it. -/
theorem callsOf_of_asksInVain (h : HappenedBy t pre) {e : CacheEvent}
    (hvain : AsksInVain settings script pre t e) :
    callsOf settings script (pre ++ [(t, e)]) =
      callsOf settings script pre ++
        [Fetch.ofScript settings script (callsOf settings script pre).length t] := by
  obtain ⟨ended, hc, hs⟩ := observed_consistent settings script h
  obtain ⟨⟨cancelled, rfl⟩, hstale, hidle⟩ := hvain
  have hnone := (hc.stale_iff hs).mp hstale
  rw [callsOf_concat, apply_source]
  rcases hc.get_cases hs with ⟨f, v, hf, hfresh, -, -⟩ | ⟨-, ⟨f, hf, hrun, -⟩ | ⟨-, -, hg⟩⟩
  · exact absurd hfresh (hnone f hf)
  · exact absurd hrun (hidle f hf)
  · rw [hg]
    exact congrArg (fun f => callsOf settings script pre ++ [f]) (hc.nextFetch_eq t)

/-- Any other event starts no call: who finds a fresh value takes it, who finds a call that runs
joins it, and whoever is cancelled or dropped asks for nothing. -/
theorem callsOf_of_not_asksInVain (h : HappenedBy t pre) {e : CacheEvent}
    (hnot : ¬ AsksInVain settings script pre t e) :
    callsOf settings script (pre ++ [(t, e)]) = callsOf settings script pre := by
  obtain ⟨ended, hc, hs⟩ := observed_consistent settings script h
  rw [callsOf_concat, apply_source]
  cases e with
  | cancel | drop => rfl
  | get c =>
    rcases hc.get_cases hs with ⟨f, v, -, -, -, hg⟩ | ⟨hnone, ⟨f, -, -, hg⟩ | ⟨hidle, -, -⟩⟩
    · rw [hg]; rfl
    · rw [hg]; rfl
    · exact absurd ⟨⟨c, rfl⟩, (hc.stale_iff hs).mpr hnone, hidle⟩ hnot

/-- When the last call of a run is over, none is in flight, and what is stored comes from all calls.
The one that is shown as in flight could only be a later one, and there is none. -/
theorem idle_of_last_over (h : HappenedBy now events) {calls : List (Fetch α)} {f : Fetch α}
    (hcalls : callsOf settings script events = calls ++ [f]) (hend : f.ends ≤ now) :
    (observed settings script events now).source.running = [] ∧
      (observed settings script events now).source.cache.flight = none ∧
      (observed settings script events now).source.cache.stored = lastStored (calls ++ [f]) := by
  obtain ⟨ended, hc, hs⟩ := observed_consistent settings script h
  rcases hc.running_cases with ⟨hr, hflight⟩ | ⟨g, hr, -⟩
  · refine ⟨hr, hflight, ?_⟩
    rw [hc.stored, ← hcalls, ← fetches_observed events now, hc.calls, hr, List.append_nil]
  · -- the call that runs would be the last one, which is over
    have hlast : (calls ++ [f]).getLast? = (ended ++ [g]).getLast? := by
      rw [← hcalls, ← hr, ← hc.calls, fetches_observed]
    rw [List.getLast?_concat, List.getLast?_concat] at hlast
    obtain rfl := Option.some.inj hlast
    exact absurd (hs f (by rw [hr]; exact List.mem_singleton_self f)) (Nat.not_lt.mpr hend)

/-- Where a call starts, what is stored comes from all calls so far, since none of them runs any
longer.  It is what a failure of the new call will leave in place. -/
theorem stored_before_start (h : HappenedBy t pre) {cancelled : Bool} {f : Fetch α}
    (hstart : callsOf settings script (pre ++ [(t, .get cancelled)]) =
      callsOf settings script pre ++ [f]) :
    (observed settings script pre t).source.cache.stored =
      lastStored (callsOf settings script pre) := by
  obtain ⟨ended, hc, hs⟩ := observed_consistent settings script h
  by_cases hvain : AsksInVain settings script pre t (.get cancelled)
  · have hr := (hc.lookup_absent hs ((hc.stale_iff hs).mp hvain.2.1) hvain.2.2).2
    rw [hc.stored, ← fetches_observed pre t, hc.calls, hr, List.append_nil]
  · rw [callsOf_of_not_asksInVain h hvain] at hstart
    exact absurd (congrArg List.length hstart) (by simp)

/-- The cache after a call without a value, until the next call starts.  Nothing tells it from the
cache before that call, so that whoever finds nothing fresh tries again. -/
theorem recovers_of_failure {cancelled : Bool} {mid : List (Nat × CacheEvent)} {f : Fetch α}
    {e : Error} (h : HappenedBy now (pre ++ (t, .get cancelled) :: mid))
    (hstart : callsOf settings script (pre ++ [(t, .get cancelled)]) =
      callsOf settings script pre ++ [f])
    (hfail : f.outcome = .error e) (hend : f.ends ≤ now)
    (hlast : callsOf settings script (pre ++ (t, .get cancelled) :: mid) =
      callsOf settings script pre ++ [f]) :
    let cache := (observed settings script (pre ++ (t, .get cancelled) :: mid) now).source.cache
    cache.flight = none ∧
    cache.stored = (observed settings script pre t).source.cache.stored ∧
    (cache.Stale settings.retention now → ∀ token,
      callsOf settings script (pre ++ (t, .get cancelled) :: mid ++ [(now, .get token)]) =
        callsOf settings script pre ++
          [f, Fetch.ofScript settings script ((callsOf settings script pre).length + 1) now]) := by
  obtain ⟨hr, hflight, hstored⟩ := idle_of_last_over h hlast hend
  have hnothing : f.stored? = none := by
    unfold Fetch.stored?
    rw [hfail]
  refine ⟨hflight, ?_, fun hstale token => ?_⟩
  · rw [hstored, stored_before_start h.before.1 hstart, lastStored_concat, hnothing]
    rfl
  · have hidle : ∀ g ∈ callsOf settings script (pre ++ (t, .get cancelled) :: mid),
        ¬ g.RunningAt now := by
      obtain ⟨ended, hc, -⟩ := observed_consistent settings script h
      intro g hg hrun
      have hone := (hc.running_of_mem hg hrun.2).1
      rw [hr] at hone
      cases hone
    rw [callsOf_of_asksInVain h ⟨⟨token, rfl⟩, hstale, hidle⟩, hlast, List.length_append,
      List.append_assoc]
    rfl

/-- **One call at a time, and not too often**: in every run of every cache over every script.  The
invariant of a session (`Consistent`) gives what the cache shows and when the calls of a run have
started and ended; that a request in vain starts a call, and no other event does, is said of the
session before the event.  The source recovers from a failure because a failed call leaves nothing
behind that would answer for it. -/
theorem run_singleFlight (settings : CacheSettings) (script : Script α)
    {events : List (Nat × CacheEvent)} (h : Chronological events) :
    SingleFlight settings script events := by
  obtain ⟨now, hnow⟩ := h.happenedBy
  obtain ⟨ended, hc, -⟩ := observed_consistent settings script hnow
  have hapart : (callsOf settings script events).Pairwise (Fetch.Before settings.retention) :=
    hc.apart
  constructor
  case alone =>
    exact hapart.imp Fetch.Before.finished
  case shown =>
    intro pre _ now _ hpast
    obtain ⟨ended, hc, hs⟩ := observed_consistent settings script hpast
    refine ⟨hc.linked, fun f => hc.mem_running_iff hs, ?_⟩
    rw [hc.stored, ← fetches_observed pre now, hc.filter_ends_le hs]
  case starts =>
    intro pre t e post hsplit
    subst hsplit
    exact ⟨callsOf_of_asksInVain hnow.before.1, callsOf_of_not_asksInVain hnow.before.1⟩
  case limited =>
    intro f hf
    exact ⟨hc.started_le hf, hc.ends_le hf⟩
  case spaced =>
    exact hapart.imp Fetch.Before.aged
  case recovers =>
    intro pre t cancelled mid post f e now _ hpast hstart hfail hend hlast
    exact recovers_of_failure hpast hstart hfail hend hlast

/-- A source that fails, then never answers, and then works.  The second call ends at its limit
though everybody who waited for it has gone, and the third leaves a value that is fresh until
115. -/
theorem singleFlight_of_recovering_source :
    let settings : CacheSettings := ⟨.ofMillis 50, .ofMillis 30, by decide, by decide⟩
    let script : Script Nat :=
      ⟨[⟨some 10, .panic "lost"⟩, ⟨none, .value 1⟩, ⟨some 5, .value 7⟩]⟩
    let events : List (Nat × CacheEvent) :=
      [(0, .get false), (4, .get false), (6, .cancel 0), (12, .get true), (15, .drop 1),
        (60, .get false), (114, .get false), (115, .get false)]
    Chronological events ∧
      (callsOf settings script events).map (·.started) = [0, 12, 60, 115] ∧
      SingleFlight settings script events :=
  ⟨by decide, by decide +kernel, run_singleFlight _ _ (by decide)⟩

end Telemetry.CacheSession
