import Telemetry.Coalesce.CachedSource
import Telemetry.Proofs.Chronology

/-! # What a cached source has come to

The calls of a source run on their own, and the end of a call frees the place of whatever call the
cache shows as in flight: nothing in the operation itself checks that this is the call that has
ended.  That it always is, that a second call never runs beside it, and that the stored value is
that of the last call that yielded one, is one invariant (`Consistent`).  It links the place, the
calls that run, the stored value and the calls made so far.

Both operations of a source keep the invariant: time passes, and what is due ends (`settle`); or
somebody asks, and is given a fresh value, joins the call that runs, or starts the next
(`get_cases`, `get`).  The case analysis of a caller is stated without the cache, in terms of the
calls made so far, because this is what the promises about runs speak of.

Behind both stands the distance that calls keep from each other (`Fetch.Before`): since no call
starts while an earlier one runs or has left a fresh value, the last call decides alone what a
caller finds (`last_of_fresh`, `idle_of_fresh`).
-/

namespace Telemetry

variable {α : Type}

/-! ## Calls -/

namespace Fetch

/-- The call with a number in a script that starts at a moment.  Its end and its outcome are settled
by then, since a call depends on nothing that happens later. -/
def ofScript (settings : CacheSettings) (script : Script α) (number started : Nat) : Fetch α :=
  let (length, outcome) := (script.call number).limited settings.fetchTimeout
  ⟨number, started, started + length, outcome⟩

/-- What a call leaves behind in the cache: its value with the moment of its end, from which its age
counts, and nothing if it fails. -/
def stored? (f : Fetch α) : Option (Stored α) :=
  match f.outcome with
  | .ok v => some ⟨v, f.ends⟩
  | .error _ => none

/-- Whether a call ended by a moment with a value that is younger than a span.  A value that is just
as old as the span is not fresh any longer. -/
def FreshAt (retention : Span) (now : Nat) (f : Fetch α) : Prop :=
  f.ends ≤ now ∧ (∃ v, f.outcome = .ok v) ∧ (now - f.ends) * 1000000 < retention.nanos

/-- Whether a call runs at a moment: it has started, and it has not ended. -/
def RunningAt (now : Nat) (f : Fetch α) : Prop := f.started ≤ now ∧ now < f.ends

/-- A later call keeps its distance: it starts when the earlier one is over, and
when a value that this one yielded is as old as the retention. -/
structure Before (retention : Span) (f g : Fetch α) : Prop where
  finished : f.ends ≤ g.started
  aged : ∀ v, f.outcome = .ok v → f.ends * 1000000 + retention.nanos ≤ g.started * 1000000

theorem stored?_eq_some {f : Fetch α} {s : Stored α} :
    f.stored? = some s ↔ f.outcome = .ok s.value ∧ f.ends = s.storedAt := by
  obtain ⟨v, at_⟩ := s
  unfold stored?
  cases f.outcome with
  | ok w => simp
  | error e => simp

theorem ofScript_started_le (settings : CacheSettings) (script : Script α) (n t : Nat) :
    (ofScript settings script n t).started ≤ (ofScript settings script n t).ends :=
  Nat.le_add_right t _

end Fetch

/-- No limit lasts longer than its span, rounded up to a whole millisecond.  A limit beyond the
reach of the clock is cut to a moment far away, which comes earlier. -/
theorem Span.limitMillis_le_ceilMillis (s : Span) : s.limitMillis ≤ s.ceilMillis := by
  unfold limitMillis
  split
  · exact Nat.le_refl _
  · rename_i h
    have hlong : clockLimit ≤ s.nanos / 1000000000 :=
      Nat.not_lt.mp (of_decide_eq_false (Bool.eq_false_iff.mpr h))
    unfold clockLimit at hlong
    unfold farAway ceilMillis
    omega

namespace Call

/-- A call that needs no longer than the limit ends by itself. -/
theorem limited_of_le {c : Call α} {limit : Span} {d : Nat} (hd : c.delay = some d)
    (hle : d ≤ limit.limitMillis) : c.limited limit = (d, c.ending.shared) := by
  unfold limited
  rw [hd]
  exact if_pos hle

/-- A call that needs longer, or never ends, ends at the limit. -/
theorem limited_of_lt {c : Call α} {limit : Span}
    (h : ∀ d, c.delay = some d → limit.limitMillis < d) :
    c.limited limit = (limit.limitMillis, .error (.timeout limit)) := by
  unfold limited
  cases hd : c.delay with
  | none => rfl
  | some d => exact if_neg (Nat.not_le.mpr (h d hd))

theorem limited_length_le (c : Call α) (limit : Span) :
    (c.limited limit).1 ≤ limit.ceilMillis := by
  have hlimit := limit.limitMillis_le_ceilMillis
  by_cases h : ∃ d, c.delay = some d ∧ d ≤ limit.limitMillis
  · obtain ⟨d, hd, hle⟩ := h
    rw [limited_of_le hd hle]
    exact Nat.le_trans hle hlimit
  · rw [limited_of_lt fun d hd => Nat.not_le.mp fun hle => h ⟨d, hd, hle⟩]
    exact hlimit

end Call

/-- The value that calls leave behind in the cache: that of the last one with a
value. -/
def lastStored (calls : List (Fetch α)) : Option (Stored α) :=
  (calls.filterMap Fetch.stored?).getLast?

theorem lastStored_concat (calls : List (Fetch α)) (f : Fetch α) :
    lastStored (calls ++ [f]) = f.stored?.or (lastStored calls) := by
  unfold lastStored
  cases h : f.stored? <;> simp [h]

/-- What is stored comes from a call. -/
theorem exists_of_lastStored {calls : List (Fetch α)} {s : Stored α}
    (h : lastStored calls = some s) : ∃ f ∈ calls, f.stored? = some s := by
  have hmem := List.mem_of_getLast? h
  obtain ⟨f, hf, hs⟩ := List.mem_filterMap.mp hmem
  exact ⟨f, hf, hs⟩

namespace Cache

variable {φ : Type}

/-- Nothing that a cache has stored is younger than a span. -/
def Stale (retention : Span) (now : Nat) (c : Cache α φ) : Prop :=
  ∀ s, c.stored = some s → retention.nanos ≤ (now - s.storedAt) * 1000000

theorem filter_isFresh_of_stale {c : Cache α φ} {now : Nat}
    (h : c.Stale c.settings.retention now) : c.stored.filter (c.isFresh now) = none := by
  rw [Option.filter_eq_none_iff]
  intro s hs hfresh
  exact absurd (of_decide_eq_true hfresh) (Nat.not_lt.mpr (h s hs))

/-- Without a fresh value a caller is sent to the call in flight. -/
theorem lookup_inFlight {c : Cache α φ} {now : Nat} (h : c.Stale c.settings.retention now)
    {f : φ} (hf : c.flight = some f) : c.lookup now = .inFlight f := by
  unfold lookup
  rw [filter_isFresh_of_stale h, hf]

/-- With neither a fresh value nor a call in flight a caller has to start one. -/
theorem lookup_absent {c : Cache α φ} {now : Nat} (h : c.Stale c.settings.retention now)
    (hf : c.flight = none) : c.lookup now = .absent := by
  unfold lookup
  rw [filter_isFresh_of_stale h, hf]

end Cache

namespace CachedSource

/-! ## The calls that end -/

theorem settle_idle {s : CachedSource α} (h : s.running = []) (now : Nat) : s.settle now = s := by
  obtain ⟨cache, script, running, fetches⟩ := s
  subst h
  simp [settle]

theorem settle_one {s : CachedSource α} {f : Fetch α} (h : s.running = [f]) (now : Nat) :
    s.settle now =
      if f.ends ≤ now then
        { s with cache := s.cache.finish f.ends f.outcome, running := [] }
      else s := by
  obtain ⟨cache, script, running, fetches⟩ := s
  subst h
  by_cases hf : f.ends ≤ now <;> simp [settle, List.partition_eq_filter_filter, hf]

/-! ## The invariant -/

/-- What a source has come to by a moment.  Its calls so far are the calls `ended`, which are over,
and behind them those that run.  The witness `ended` is not part of the source: it is determined by
the moment, and given so that each field can be read without a filter. -/
structure Consistent (settings : CacheSettings) (script : Script α) (now : Nat)
    (s : CachedSource α) (ended : List (Fetch α)) : Prop where
  settings_eq : s.cache.settings = settings
  script_eq : s.script = script
  /-- The place of the call in flight shows exactly the calls that run. -/
  linked : s.running = s.cache.flight.toList
  calls : s.fetches = ended ++ s.running
  scripted : ∀ i f, s.fetches[i]? = some f → f = Fetch.ofScript settings script i f.started
  apart : s.fetches.Pairwise (Fetch.Before settings.retention)
  begun : ∀ f ∈ s.fetches, f.started ≤ now
  finished : ∀ f ∈ ended, f.ends ≤ now
  stored : s.cache.stored = lastStored ended

/-- Every call that is due has ended.  This holds just after settling, and it is what tells the
calls that run from those that are over. -/
def Settled (now : Nat) (s : CachedSource α) : Prop := ∀ f ∈ s.running, now < f.ends

variable {settings : CacheSettings} {script : Script α} {s : CachedSource α}
  {ended : List (Fetch α)} {now later : Nat}

theorem consistent_create (settings : CacheSettings) (script : Script α) (now : Nat) :
    Consistent settings script now (create settings script) [] where
  settings_eq := rfl
  script_eq := rfl
  linked := rfl
  calls := rfl
  scripted := fun i f h => by cases h
  apart := List.Pairwise.nil
  begun := fun f h => by cases h
  finished := fun f h => by cases h
  stored := rfl

namespace Consistent

/-- A source has no call that runs, or a single one, which its cache shows.  The place in the cache
and the list of running calls never disagree. -/
theorem running_cases (h : Consistent settings script now s ended) :
    (s.running = [] ∧ s.cache.flight = none) ∨
      ∃ f, s.running = [f] ∧ s.cache.flight = some f := by
  have hl := h.linked
  cases hf : s.cache.flight with
  | none => exact .inl ⟨by rw [hl, hf]; rfl, rfl⟩
  | some f => exact .inr ⟨f, by rw [hl, hf]; rfl, rfl⟩

theorem mono (h : Consistent settings script now s ended) (hle : now ≤ later) :
    Consistent settings script later s ended :=
  { h with
    begun := fun f hf => Nat.le_trans (h.begun f hf) hle
    finished := fun f hf => Nat.le_trans (h.finished f hf) hle }

/-- The end of the call in flight keeps the invariant: the place is freed by the very call that
holds it, and what it yields is stored as the last value. -/
theorem finish {f : Fetch α} (h : Consistent settings script now s ended)
    (hr : s.running = [f]) (hend : f.ends ≤ now) :
    Consistent settings script now
      { s with cache := s.cache.finish f.ends f.outcome, running := [] } (ended ++ [f]) where
  settings_eq := by
    rw [← h.settings_eq]
    unfold Cache.finish Cache.record
    cases f.outcome <;> rfl
  script_eq := h.script_eq
  linked := rfl
  calls := by rw [List.append_nil, h.calls, hr]
  scripted := h.scripted
  apart := h.apart
  begun := h.begun
  finished := by
    intro g hg
    rcases List.mem_append.mp hg with hg | hg
    · exact h.finished g hg
    · rw [List.mem_singleton.mp hg]; exact hend
  stored := by
    rw [lastStored_concat, ← h.stored]
    unfold Cache.finish Cache.record Fetch.stored?
    cases f.outcome <;> rfl

/-- **Settling keeps the invariant**, and afterwards no call is due.  At most one call can end,
since at most one runs. -/
theorem settle (h : Consistent settings script now s ended) (hle : now ≤ later) :
    ∃ ended', Consistent settings script later (s.settle later) ended' ∧
      Settled later (s.settle later) := by
  have h := h.mono hle
  rcases h.running_cases with ⟨hr, -⟩ | ⟨f, hr, -⟩
  · rw [settle_idle hr]
    exact ⟨ended, h, fun f hf => by rw [hr] at hf; cases hf⟩
  · rw [settle_one hr]
    split
    next hend => exact ⟨ended ++ [f], h.finish hr hend, fun f hf => by cases hf⟩
    next hend =>
      refine ⟨ended, h, fun g hg => ?_⟩
      rw [hr] at hg
      rw [List.mem_singleton.mp hg]
      exact Nat.not_le.mp hend

/-! ## What a caller finds -/

theorem started_le (h : Consistent settings script now s ended) {f : Fetch α}
    (hf : f ∈ s.fetches) : f.started ≤ f.ends := by
  obtain ⟨i, hi⟩ := List.getElem?_of_mem hf
  rw [h.scripted i f hi]
  exact Fetch.ofScript_started_le ..

theorem ends_le (h : Consistent settings script now s ended) {f : Fetch α}
    (hf : f ∈ s.fetches) : f.ends ≤ f.started + settings.fetchTimeout.ceilMillis := by
  obtain ⟨i, hi⟩ := List.getElem?_of_mem hf
  rw [h.scripted i f hi]
  exact Nat.add_le_add_left (Call.limited_length_le _ _) _

/-- A call that is not over is the one that runs, for all calls but the last have ended before the
next began. -/
theorem running_of_mem (h : Consistent settings script now s ended) {f : Fetch α}
    (hf : f ∈ s.fetches) (hend : now < f.ends) : s.running = [f] ∧ s.cache.flight = some f := by
  have hrun : f ∈ s.running := by
    rw [h.calls] at hf
    rcases List.mem_append.mp hf with hf | hf
    · exact absurd (h.finished f hf) (Nat.not_le.mpr hend)
    · exact hf
  rcases h.running_cases with ⟨hr, -⟩ | ⟨g, hr, hg⟩
  · rw [hr] at hrun; cases hrun
  · rw [hr] at hrun
    rw [List.mem_singleton.mp hrun]
    exact ⟨hr, hg⟩

/-- The calls that are over are those whose end has come. -/
theorem filter_ends_le (h : Consistent settings script now s ended) (hs : Settled now s) :
    s.fetches.filter (·.ends ≤ now) = ended := by
  rw [h.calls, List.filter_append,
    List.filter_eq_self.mpr fun f hf => decide_eq_true (h.finished f hf),
    List.filter_eq_nil_iff.mpr fun f hf hend =>
      absurd (of_decide_eq_true hend) (Nat.not_le.mpr (hs f hf)),
    List.append_nil]

/-- The calls that run are those that have started and are not over. -/
theorem mem_running_iff (h : Consistent settings script now s ended) (hs : Settled now s)
    {f : Fetch α} : f ∈ s.running ↔ f ∈ s.fetches ∧ f.RunningAt now := by
  constructor
  · intro hf
    have hmem : f ∈ s.fetches := by rw [h.calls]; exact List.mem_append_right _ hf
    exact ⟨hmem, h.begun f hmem, hs f hf⟩
  · rintro ⟨hf, -, hend⟩
    rw [(h.running_of_mem hf hend).1]
    exact List.mem_singleton_self f

/-- **A call whose value is fresh is the last one**: no call starts before the value is as old as
the retention.  The distance that calls keep is counted from the end of the call, just as the age of
its value is. -/
theorem last_of_fresh (h : Consistent settings script now s ended) {f : Fetch α}
    (hf : f ∈ s.fetches) (hfresh : f.FreshAt settings.retention now) :
    s.fetches.getLast? = some f := by
  obtain ⟨-, ⟨v, hv⟩, hage⟩ := hfresh
  refine getLast?_of_pairwise h.apart hf fun g hg hbefore => ?_
  -- the later call has started, and so the value is too old to be fresh
  have hold := hbefore.aged v hv
  have hbegun := h.begun g hg
  omega

/-- When a call has left a fresh value, nothing else runs. -/
theorem idle_of_fresh (h : Consistent settings script now s ended) (hs : Settled now s)
    {f : Fetch α} (hf : f ∈ s.fetches) (hfresh : f.FreshAt settings.retention now) :
    s.running = [] := by
  rcases h.running_cases with ⟨hr, -⟩ | ⟨g, hr, -⟩
  · exact hr
  · -- the call that runs comes last, and so does the one that is over
    have hlast := h.last_of_fresh hf hfresh
    rw [h.calls, hr, List.getLast?_concat] at hlast
    obtain rfl := Option.some.inj hlast
    have hdue := hs g (by rw [hr]; exact List.mem_singleton_self g)
    exact absurd hfresh.1 (Nat.not_le.mpr hdue)

/-- A fresh value is what the cache has stored: the call that left it came last, and has ended, so
that no later value has taken its place. -/
theorem stored_of_fresh (h : Consistent settings script now s ended) (hs : Settled now s)
    {f : Fetch α} (hf : f ∈ s.fetches) (hfresh : f.FreshAt settings.retention now) {v : α}
    (hv : f.outcome = .ok v) : s.cache.stored = some ⟨v, f.ends⟩ := by
  have hidle := h.idle_of_fresh hs hf hfresh
  obtain ⟨init, hinit⟩ := List.getLast?_eq_some_iff.mp (h.last_of_fresh hf hfresh)
  have hended : ended = init ++ [f] := by rw [← hinit, h.calls, hidle, List.append_nil]
  have hleft : f.stored? = some ⟨v, f.ends⟩ := Fetch.stored?_eq_some.mpr ⟨hv, rfl⟩
  rw [h.stored, hended, lastStored_concat, hleft]
  rfl

theorem lookup_fresh (h : Consistent settings script now s ended) (hs : Settled now s)
    {f : Fetch α} (hf : f ∈ s.fetches) (hfresh : f.FreshAt settings.retention now) {v : α}
    (hv : f.outcome = .ok v) : s.cache.lookup now = .fresh v := by
  have hage : s.cache.isFresh now ⟨v, f.ends⟩ = true := by
    unfold Cache.isFresh
    rw [h.settings_eq]
    exact decide_eq_true hfresh.2.2
  unfold Cache.lookup
  rw [h.stored_of_fresh hs hf hfresh hv, Option.filter_some, if_pos hage]

/-- What is stored is stale exactly when no call has left a fresh value.  So a caller need not know
what the cache has stored, but only what the calls so far have come to. -/
theorem stale_iff (h : Consistent settings script now s ended) (hs : Settled now s) :
    s.cache.Stale settings.retention now ↔
      ∀ f ∈ s.fetches, ¬ f.FreshAt settings.retention now := by
  constructor
  · intro hstale f hf hfresh
    obtain ⟨v, hv⟩ := hfresh.2.1
    have hold := hstale _ (h.stored_of_fresh hs hf hfresh hv)
    exact absurd hfresh.2.2 (Nat.not_lt.mpr hold)
  · intro hstale st hst
    rw [h.stored] at hst
    obtain ⟨f, hf, hfst⟩ := exists_of_lastStored hst
    obtain ⟨hv, hat⟩ := Fetch.stored?_eq_some.mp hfst
    have hmem : f ∈ s.fetches := by rw [h.calls]; exact List.mem_append_left _ hf
    rw [← hat]
    exact Nat.not_lt.mp fun hage => hstale f hmem ⟨h.finished f hf, ⟨st.value, hv⟩, hage⟩

/-- Where no call has left a fresh value, the cache finds none by its own retention. -/
theorem stale_of_not_fresh (h : Consistent settings script now s ended) (hs : Settled now s)
    (hstale : ∀ f ∈ s.fetches, ¬ f.FreshAt settings.retention now) :
    s.cache.Stale s.cache.settings.retention now := by
  rw [h.settings_eq]
  exact (h.stale_iff hs).mpr hstale

theorem lookup_running (h : Consistent settings script now s ended) (hs : Settled now s)
    (hstale : ∀ f ∈ s.fetches, ¬ f.FreshAt settings.retention now) {f : Fetch α}
    (hf : f ∈ s.fetches) (hrun : f.RunningAt now) : s.cache.lookup now = .inFlight f :=
  Cache.lookup_inFlight (h.stale_of_not_fresh hs hstale) (h.running_of_mem hf hrun.2).2

theorem lookup_absent (h : Consistent settings script now s ended) (hs : Settled now s)
    (hstale : ∀ f ∈ s.fetches, ¬ f.FreshAt settings.retention now)
    (hidle : ∀ f ∈ s.fetches, ¬ f.RunningAt now) :
    s.cache.lookup now = .absent ∧ s.running = [] := by
  rcases h.running_cases with ⟨hr, hf⟩ | ⟨f, hr, -⟩
  · exact ⟨Cache.lookup_absent (h.stale_of_not_fresh hs hstale) hf, hr⟩
  · -- what runs would have started and not ended
    obtain ⟨hf, hrun⟩ := (h.mem_running_iff hs).mp (by rw [hr]; exact List.mem_singleton_self f)
    exact absurd hrun (hidle f hf)

theorem nextFetch_eq (h : Consistent settings script now s ended) (t : Nat) :
    s.nextFetch t = Fetch.ofScript settings script s.fetches.length t := by
  rw [← h.settings_eq, ← h.script_eq]
  rfl

/-- The call that a source would start keeps its distance from all calls so far.  This is the step
that carries the promise about the spacing of calls. -/
theorem nextFetch_before (h : Consistent settings script now s ended)
    (hstale : ∀ f ∈ s.fetches, ¬ f.FreshAt settings.retention now) (hr : s.running = [])
    {f : Fetch α} (hf : f ∈ s.fetches) : f.Before settings.retention (s.nextFetch now) := by
  have hend : f.ends ≤ now := by
    rw [h.calls, hr, List.append_nil] at hf
    exact h.finished f hf
  refine ⟨hend, fun v hv => ?_⟩
  have hold : settings.retention.nanos ≤ (now - f.ends) * 1000000 :=
    Nat.not_lt.mp fun hage => hstale f hf ⟨hend, ⟨v, hv⟩, hage⟩
  show _ ≤ now * 1000000
  omega

/-- The start of a call keeps the invariant where nothing fresh is found and no call runs.  It
becomes the next of the record, under the number that the script expects. -/
theorem start (h : Consistent settings script now s ended)
    (hstale : ∀ f ∈ s.fetches, ¬ f.FreshAt settings.retention now) (hr : s.running = []) :
    Consistent settings script now
      { s with
        cache := s.cache.start (s.nextFetch now)
        running := s.running ++ [s.nextFetch now]
        fetches := s.fetches ++ [s.nextFetch now] } ended where
  settings_eq := h.settings_eq
  script_eq := h.script_eq
  linked := by rw [hr]; rfl
  calls := by rw [h.calls, List.append_assoc]
  scripted := by
    intro i f hi
    rcases Nat.lt_or_ge i s.fetches.length with hlt | hge
    · rw [List.getElem?_append_left hlt] at hi
      exact h.scripted i f hi
    · rw [List.getElem?_append_right hge, List.getElem?_singleton] at hi
      split at hi
      next hz =>
        obtain rfl := Option.some.inj hi
        rw [show i = s.fetches.length by omega]
        exact h.nextFetch_eq now
      next => cases hi
  apart := by
    refine List.pairwise_append.mpr ⟨h.apart, List.pairwise_singleton _ _, ?_⟩
    intro f hf g hg
    rw [List.mem_singleton.mp hg]
    exact h.nextFetch_before hstale hr hf
  begun := by
    intro f hf
    rcases List.mem_append.mp hf with hf | hf
    · exact h.begun f hf
    · rw [List.mem_singleton.mp hf]; exact Nat.le_refl now
  finished := h.finished
  stored := h.stored

/-- **A caller finds** a fresh value, the call that runs, or neither; only then a call starts.  The
three answers exclude each other, and each says what the source is afterwards. -/
theorem get_cases (h : Consistent settings script now s ended) (hs : Settled now s) :
    (∃ f v, f ∈ s.fetches ∧ f.FreshAt settings.retention now ∧ f.outcome = .ok v ∧
        s.get now = (s, .atOnce v)) ∨
      (∀ f ∈ s.fetches, ¬ f.FreshAt settings.retention now) ∧
        ((∃ f ∈ s.fetches, f.RunningAt now ∧ s.get now = (s, .pending f false)) ∨
          (∀ f ∈ s.fetches, ¬ f.RunningAt now) ∧ s.running = [] ∧
            s.get now =
              ({ s with
                  cache := s.cache.start (s.nextFetch now)
                  running := s.running ++ [s.nextFetch now]
                  fetches := s.fetches ++ [s.nextFetch now] },
                .pending (s.nextFetch now) true)) := by
  by_cases hfresh : ∃ f ∈ s.fetches, f.FreshAt settings.retention now
  · obtain ⟨f, hf, hfresh⟩ := hfresh
    obtain ⟨v, hv⟩ := hfresh.2.1
    refine .inl ⟨f, v, hf, hfresh, hv, ?_⟩
    unfold get
    rw [h.lookup_fresh hs hf hfresh hv]
  have hstale : ∀ f ∈ s.fetches, ¬ f.FreshAt settings.retention now :=
    fun f hf hfr => hfresh ⟨f, hf, hfr⟩
  refine .inr ⟨hstale, ?_⟩
  by_cases hrun : ∃ f ∈ s.fetches, f.RunningAt now
  · obtain ⟨f, hf, hrun⟩ := hrun
    refine .inl ⟨f, hf, hrun, ?_⟩
    unfold get
    rw [h.lookup_running hs hstale hf hrun]
  · have hidle : ∀ f ∈ s.fetches, ¬ f.RunningAt now := fun f hf hr => hrun ⟨f, hf, hr⟩
    obtain ⟨habsent, hr⟩ := h.lookup_absent hs hstale hidle
    refine .inr ⟨hidle, hr, ?_⟩
    unfold get
    rw [habsent]

/-- **Asking keeps the invariant**, whatever the caller finds: only the third answer changes the
source at all. -/
theorem get (h : Consistent settings script now s ended) (hs : Settled now s) :
    Consistent settings script now (s.get now).1 ended := by
  rcases h.get_cases hs with ⟨f, v, -, -, -, hget⟩ | ⟨hstale, ⟨f, -, -, hget⟩ | ⟨-, hr, hget⟩⟩
  · rw [hget]; exact h
  · rw [hget]; exact h
  · rw [hget]; exact h.start hstale hr

/-- Settling twice is settling once, at the later moment. -/
theorem settle_settle (h : Consistent settings script now s ended) {t u : Nat} (hle : t ≤ u) :
    (s.settle t).settle u = s.settle u := by
  rcases h.running_cases with ⟨hr, -⟩ | ⟨f, hr, -⟩
  · rw [settle_idle hr]
  · rw [settle_one hr t]
    split
    next hend => rw [settle_idle rfl, settle_one hr, if_pos (Nat.le_trans hend hle)]
    next => rfl

end Consistent

end CachedSource

end Telemetry
