import Telemetry.Coalesce.Shared

/-! # The steps of a shared call

What a caller of a shared cache is given (`get_cases`), and what becomes of a call in flight
(`advance_cases`), is said here once for every case.  Everything that is known of the shared listing
of a topology and of the shared snapshot is derived from these two, and neither operation is opened
anywhere else.

The outcomes of a shared call are kept in a list, and whoever waits for a call knows its number,
which is the place that its outcome will have.  So what is known of an outcome is known by its
number: it stays once it is there, and it comes when the call in flight ends (`Follows`).
-/

namespace Telemetry

/-- Settings that are accepted are those that were asked for. -/
theorem CacheSettings.eq_of_create {retention fetchTimeout : Span} {c : CacheSettings}
    (h : create retention fetchTimeout = .ok c) :
    c.retention = retention ∧ c.fetchTimeout = fetchTimeout := by
  unfold create at h
  split at h
  · split at h
    · obtain rfl := Except.ok.inj h
      exact ⟨rfl, rfl⟩
    · cases h
  · cases h

/-- A value that is found fresh is stored and young, whatever may be in flight beside it. -/
theorem Cache.lookup_eq_fresh {α φ : Type} {c : Cache α φ} {now : Nat} {v : α}
    (h : c.lookup now = .fresh v) :
    ∃ s, c.stored = some s ∧ c.isFresh now s = true ∧ s.value = v := by
  unfold lookup at h
  cases hfilter : c.stored.filter (c.isFresh now) with
  | some s =>
    rw [hfilter] at h
    obtain ⟨hstored, hfresh⟩ := Option.filter_eq_some_iff.mp hfilter
    exact ⟨s, hstored, hfresh, Lookup.fresh.inj h⟩
  | none =>
    rw [hfilter] at h
    cases hflight : c.flight <;> rw [hflight] at h <;> cases h

/-- What is shared as a value is the value that a call has ended with: a panic is shared as a
failure, and never as a value. -/
theorem Ending.eq_value_of_shared {α : Type} {ending : Ending α} {v : α}
    (h : ending.shared = .ok v) : ending = .value v := by
  cases ending with
  | value w => exact congrArg _ (Except.ok.inj h)
  | failure e => cases h
  | panic message => cases h

/-- What a result leaves stored, over what was stored before: a value with the moment at which it
was shared, and after a failure what was there. -/
def Stored.after {α : Type} (now : Nat) (outcome : Result α) (before : Option (Stored α)) :
    Option (Stored α) :=
  match outcome with
  | .ok v => some ⟨v, now⟩
  | .error _ => before

namespace Shared

variable {α σ : Type}

/-- A caller is given a fresh value, joins the call in flight, or starts one.  The limit of the new
call counts from this moment, and its number is that of the next outcome. -/
theorem get_cases (s : Shared α σ) (now : Nat) (fresh : σ) :
    (∃ v, s.cache.stored = some v ∧ s.cache.isFresh now v = true ∧
      s.get now fresh = (s, .atOnce v.value)) ∨
    (s.cache.flight.isSome ∧ s.get now fresh = (s, .call s.outcomes.length)) ∨
    (s.cache.flight = none ∧ s.get now fresh =
      (⟨s.cache.start ⟨now + s.cache.settings.fetchTimeout.limitMillis, fresh⟩, s.outcomes⟩,
        .call s.outcomes.length)) := by
  unfold get
  cases h : s.cache.lookup now with
  | fresh v =>
    obtain ⟨st, hstored, hfresh, rfl⟩ := Cache.lookup_eq_fresh h
    exact .inl ⟨st, hstored, hfresh, rfl⟩
  | inFlight f =>
    refine .inr (.inl ⟨?_, rfl⟩)
    unfold Cache.lookup at h
    cases hflight : s.cache.flight with
    | some g => rfl
    | none => rw [hflight] at h; cases hf : s.cache.stored.filter _ <;> rw [hf] at h <;> cases h
  | absent =>
    refine .inr (.inr ⟨?_, rfl⟩)
    unfold Cache.lookup at h
    cases hflight : s.cache.flight with
    | some g => rw [hflight] at h; cases hf : s.cache.stored.filter _ <;> rw [hf] at h <;> cases h
    | none => rfl

/-- A caller who finds a fresh value is given it, and leaves no trace. -/
theorem get_of_fresh {s : Shared α σ} {now : Nat} {v : Stored α} (fresh : σ)
    (hstored : s.cache.stored = some v) (hfresh : s.cache.isFresh now v = true) :
    s.get now fresh = (s, .atOnce v.value) := by
  have hlookup : s.cache.lookup now = .fresh v.value := by
    unfold Cache.lookup
    rw [hstored, Option.filter_some, if_pos hfresh]
  unfold get
  rw [hlookup]

/-- A caller who finds no fresh value waits for the call in flight, which he may have started. -/
theorem get_of_stale {s : Shared α σ} {now : Nat} (fresh : σ)
    (hstale : ∀ v, s.cache.stored = some v → s.cache.isFresh now v = false) :
    (s.get now fresh).2 = .call s.outcomes.length := by
  rcases s.get_cases now fresh with ⟨v, hstored, hfresh, -⟩ | ⟨-, hget⟩ | ⟨-, hget⟩
  · rw [hstale v hstored] at hfresh
    cases hfresh
  · rw [hget]
  · rw [hget]

/-- Asking changes no value and no outcome: at most it starts a call. -/
theorem get_frame (s : Shared α σ) (now : Nat) (fresh : σ) :
    (s.get now fresh).1.cache.settings = s.cache.settings ∧
      (s.get now fresh).1.cache.stored = s.cache.stored ∧
      (s.get now fresh).1.outcomes = s.outcomes := by
  rcases s.get_cases now fresh with ⟨v, -, -, h⟩ | ⟨-, h⟩ | ⟨-, h⟩ <;> rw [h] <;>
    exact ⟨rfl, rfl, rfl⟩

/-- Asking leaves a call in flight alone, and so its limit does not depend on who joins it later. -/
theorem get_flight (s : Shared α σ) (now : Nat) (fresh : σ) :
    (s.get now fresh).1.cache.flight = s.cache.flight ∨
      s.cache.flight = none ∧ (s.get now fresh).1.cache.flight =
        some ⟨now + s.cache.settings.fetchTimeout.limitMillis, fresh⟩ := by
  rcases s.get_cases now fresh with ⟨v, -, -, h⟩ | ⟨-, h⟩ | ⟨hnone, h⟩ <;> rw [h]
  · exact .inl rfl
  · exact .inl rfl
  · exact .inr ⟨hnone, rfl⟩

theorem stored_finish (s : Shared α σ) (now : Nat) (outcome : Result α) :
    (s.finish now outcome).cache.stored = Stored.after now outcome s.cache.stored := by
  cases outcome <;> rfl

theorem settings_finish (s : Shared α σ) (now : Nat) (outcome : Result α) :
    (s.finish now outcome).cache.settings = s.cache.settings := by
  cases outcome <;> rfl

/-- A call in flight ends, runs out of time, or waits on.  If it ends just when its limit strikes,
its own end counts. -/
theorem advance_cases (s : Shared α σ) (now : Nat) (call : SharedCall σ)
    (progress : Progress σ α) :
    (∃ ending, progress = .done ending ∧
      s.advance now call progress = s.finish now ending.shared) ∨
    (∃ stage, progress = .pending stage ∧ call.limit ≤ now ∧ s.advance now call progress =
      s.finish now (.error (.timeout s.cache.settings.fetchTimeout))) ∨
    (∃ stage, progress = .pending stage ∧ now < call.limit ∧ s.advance now call progress =
      ⟨s.cache.start ⟨call.limit, stage⟩, s.outcomes⟩) := by
  cases progress with
  | done ending => exact .inl ⟨ending, rfl, rfl⟩
  | pending stage =>
    by_cases h : call.limit ≤ now
    · exact .inr (.inl ⟨stage, rfl, h, if_pos h⟩)
    · exact .inr (.inr ⟨stage, rfl, Nat.not_le.mp h, if_neg h⟩)

/-! ## What is held afterwards -/

theorem settings_advance (s : Shared α σ) (now : Nat) (call : SharedCall σ)
    (progress : Progress σ α) :
    (s.advance now call progress).cache.settings = s.cache.settings := by
  rcases s.advance_cases now call progress with
    ⟨_, -, h⟩ | ⟨_, -, -, h⟩ | ⟨_, -, -, h⟩ <;> rw [h]
  · exact s.settings_finish ..
  · exact s.settings_finish ..
  · rfl

/-- What is stored was stored before, or the call has just ended with it, and then its age counts
from now. -/
theorem stored_advance {s : Shared α σ} {now : Nat} {call : SharedCall σ}
    {progress : Progress σ α} {held : Stored α}
    (h : (s.advance now call progress).cache.stored = some held) :
    s.cache.stored = some held ∨ progress = .done (.value held.value) ∧ held.storedAt = now := by
  rcases s.advance_cases now call progress with
    ⟨ending, hdone, hadvance⟩ | ⟨_, -, -, hadvance⟩ | ⟨_, -, -, hadvance⟩ <;>
    rw [hadvance] at h
  · rw [stored_finish] at h
    cases hshared : ending.shared with
    | ok v =>
      rw [hshared] at h
      obtain rfl := Option.some.inj h
      exact .inr ⟨Ending.eq_value_of_shared hshared ▸ hdone, rfl⟩
    | error e =>
      rw [hshared] at h
      exact .inl h
  · rw [stored_finish] at h
    exact .inl h
  · exact .inl h

/-- A value that a call has ended with was there before, or the call has just ended.  A time-out
adds no value. -/
theorem outcome?_advance {s : Shared α σ} {now number : Nat} {call : SharedCall σ}
    {progress : Progress σ α} {v : α}
    (h : (s.advance now call progress).outcome? number = some (.ok v)) :
    s.outcome? number = some (.ok v) ∨ progress = .done (.value v) := by
  have hfinish {outcome : Result α} (h : (s.finish now outcome).outcome? number = some (.ok v)) :
      s.outcome? number = some (.ok v) ∨ outcome = .ok v := by
    have h : (s.outcomes ++ [outcome])[number]? = some (.ok v) := h
    rw [List.getElem?_append] at h
    split at h
    · exact .inl h
    · rw [List.getElem?_singleton] at h
      split at h
      · exact .inr (Option.some.inj h)
      · cases h
  rcases s.advance_cases now call progress with
    ⟨ending, hdone, hadvance⟩ | ⟨_, -, -, hadvance⟩ | ⟨_, -, -, hadvance⟩ <;>
    rw [hadvance] at h
  · exact (hfinish h).imp_right fun hok => Ending.eq_value_of_shared hok ▸ hdone
  · exact .inl ((hfinish h).resolve_right fun hok => by cases hok)
  · exact .inl h

/-- An outcome was there before, or the call has just ended with it or run out of time.  These are
the only ways to an outcome, so that no failure comes from anywhere else. -/
theorem mem_outcomes_advance {s : Shared α σ} {now : Nat} {call : SharedCall σ}
    {progress : Progress σ α} {r : Result α} (h : r ∈ (s.advance now call progress).outcomes) :
    r ∈ s.outcomes ∨ (∃ ending, progress = .done ending ∧ r = ending.shared) ∨
      r = .error (.timeout s.cache.settings.fetchTimeout) := by
  rcases s.advance_cases now call progress with
    ⟨ending, hdone, hadvance⟩ | ⟨_, -, -, hadvance⟩ | ⟨_, -, -, hadvance⟩ <;> rw [hadvance] at h
  · exact (List.mem_append.mp h).imp_right fun hr =>
      .inl ⟨ending, hdone, List.mem_singleton.mp hr⟩
  · exact (List.mem_append.mp h).imp_right fun hr => .inr (List.mem_singleton.mp hr)
  · exact .inl h

/-- A call that is still in flight waits on, within its limit, which does not change. -/
theorem flight_advance {s : Shared α σ} {now : Nat} {call call' : SharedCall σ}
    {progress : Progress σ α} (h : (s.advance now call progress).cache.flight = some call') :
    ∃ stage, progress = .pending stage ∧ now < call.limit ∧ call' = ⟨call.limit, stage⟩ := by
  rcases s.advance_cases now call progress with
    ⟨_, -, hadvance⟩ | ⟨_, -, -, hadvance⟩ | ⟨stage, hpending, hlt, hadvance⟩ <;>
    rw [hadvance] at h
  · cases h
  · cases h
  · exact ⟨stage, hpending, hlt, (Option.some.inj h).symm⟩

/-! ## One call at a time -/

/-- How one state of a shared cache follows another: a call in flight goes on or ends, and another
starts only when none is in flight.  What has come to an end stays as it was, under the number that
it had. -/
inductive Follows (s s' : Shared α σ) : Prop where
  | stays : s'.cache.flight = s.cache.flight → s'.outcomes = s.outcomes → Follows s s'
  | goesOn {call call' : SharedCall σ} : s.cache.flight = some call →
      s'.cache.flight = some call' → call'.limit = call.limit → s'.outcomes = s.outcomes →
      Follows s s'
  | ends {call : SharedCall σ} {outcome : Result α} : s.cache.flight = some call →
      s'.cache.flight = none → s'.outcomes = s.outcomes ++ [outcome] → Follows s s'
  | starts {call : SharedCall σ} : s.cache.flight = none → s'.cache.flight = some call →
      s'.outcomes = s.outcomes → Follows s s'

theorem Follows.refl (s : Shared α σ) : s.Follows s := .stays rfl rfl

theorem follows_get (s : Shared α σ) (now : Nat) (fresh : σ) : s.Follows (s.get now fresh).1 := by
  obtain ⟨-, -, houtcomes⟩ := s.get_frame now fresh
  rcases s.get_flight now fresh with hflight | ⟨hnone, hflight⟩
  · exact .stays hflight houtcomes
  · exact .starts hnone hflight houtcomes

theorem follows_advance {s : Shared α σ} {call : SharedCall σ} (h : s.cache.flight = some call)
    (now : Nat) (progress : Progress σ α) : s.Follows (s.advance now call progress) := by
  rcases s.advance_cases now call progress with
    ⟨_, -, hadvance⟩ | ⟨_, -, -, hadvance⟩ | ⟨_, -, -, hadvance⟩ <;> rw [hadvance]
  · exact .ends h rfl rfl
  · exact .ends h rfl rfl
  · exact .goesOn h rfl rfl rfl

/-- What has been started stays so, whether it is over or not; numbers are given out once. -/
theorem Follows.started_le {s s' : Shared α σ} (h : s.Follows s') : s.started ≤ s'.started := by
  unfold started
  cases h with
  | stays hflight houtcomes => exact Nat.le_of_eq (by rw [hflight, houtcomes])
  | goesOn hcall hcall' _ houtcomes => exact Nat.le_of_eq (by rw [hcall, hcall', houtcomes]; rfl)
  | ends hcall hnone houtcomes =>
    rw [hcall, hnone, houtcomes, List.length_append]
    exact Nat.le_refl _
  | starts hnone hcall houtcomes =>
    rw [hnone, hcall, houtcomes]
    exact Nat.le_add_right _ _

end Shared

end Telemetry
