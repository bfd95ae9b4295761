import Telemetry.Proofs.Coalesce.SingleFlight

/-! # Every answer is justified

A caller is served by one call, the last that has started when it has asked: the call whose value is
still fresh, the one that runs, or the one that it starts itself (`servingCall`).  What it is given
is the outcome of that call, unless it gives up before the call is over.  So no caller is given a
failure that was over when it asked, and of two callers the later one is never given an older value.

What becomes of a caller who waits is told by a function of the events that follow (`verdict`): it
gives up by the first of them that names it while the call still runs, and otherwise has the outcome
from the moment at which the call ends.  That the session agrees with this function is a matter of
one event (`verdict_concat`), and `waiter_append` carries it through the run.

The four promises then follow from one case analysis of a caller (`served_cases`), and from the fact
that calls are numbered in the order in which they start, so that of two callers the later one is
served by a call with no smaller number (`servingCall_mono`).
-/

namespace Telemetry

variable {α : Type}

/-- The event by which a caller gives up, if it does so before a moment: the first cancellation of
its token or the drop of its task.  Whatever comes after that event, or after the end of the call,
makes no difference any more. -/
def givesUp (i limit : Nat) (events : List (Nat × CacheEvent)) : Option (Nat × CacheEvent) :=
  events.find? fun e => e.1 < limit ∧ (e.2 = .cancel i ∨ e.2 = .drop i)

theorem of_givesUp {i limit : Nat} {events : List (Nat × CacheEvent)} {e : Nat × CacheEvent}
    (h : givesUp i limit events = some e) :
    e ∈ events ∧ e.1 < limit ∧ (e.2 = .cancel i ∨ e.2 = .drop i) := by
  unfold givesUp at h
  exact ⟨List.mem_of_find?_eq_some h, by simpa using List.find?_some h⟩

namespace Fetch

/-- What has become at a moment of a caller who waits for a call, and does not wait any longer once
it has given up.  A cancelled caller is told so at the moment of the cancellation, and a dropped one
is never told anything. -/
def verdict (i now : Nat) (events : List (Nat × CacheEvent)) (f : Fetch α) : Waiter α :=
  match givesUp i f.ends events with
  | some (u, .cancel _) => .done u (.error .cancelled)
  | some _ => .dropped
  | none => if f.ends ≤ now then .done f.ends f.outcome else .waiting f

/-- A call ends as its step of the script does, if that takes no longer than the limit: with a
value, with a failure, or with an internal failure that quotes a panic.  Otherwise it ends at the
limit, and the failure says so.  A call that ends just at the limit is in time. -/
structure Follows (settings : CacheSettings) (script : Script α) (f : Fetch α) : Prop where
  inTime : ∀ d, (script.call f.number).delay = some d → d ≤ settings.fetchTimeout.limitMillis →
    f.ends = f.started + d ∧
    match (script.call f.number).ending with
    | .value v => f.outcome = .ok v
    | .failure e => f.outcome = .error e
    | .panic m => f.outcome = .error (.internal
        ("coalesced call did not complete: task # panicked with message " ++ Text.quoted m))
  late : (∀ d, (script.call f.number).delay = some d → settings.fetchTimeout.limitMillis < d) →
    f.ends = f.started + settings.fetchTimeout.limitMillis ∧
    f.outcome = .error (.timeout settings.fetchTimeout)

theorem follows_ofScript (settings : CacheSettings) (script : Script α) (n t : Nat) :
    (ofScript settings script n t).Follows settings script := by
  have hnumber : (ofScript settings script n t).number = n := rfl
  constructor
  · rw [hnumber]
    intro d hd hle
    unfold ofScript
    rw [Call.limited_of_le hd hle]
    refine ⟨rfl, ?_⟩
    cases (script.call n).ending <;> rfl
  · rw [hnumber]
    intro hlate
    unfold ofScript
    rw [Call.limited_of_lt hlate]
    exact ⟨rfl, rfl⟩

/-- A value that a caller waited for is that of the call, for giving up never yields one. -/
theorem outcome_of_verdict {i now u : Nat} {events : List (Nat × CacheEvent)} {f : Fetch α}
    {v : α} (h : f.verdict i now events = .done u (.ok v)) : f.outcome = .ok v := by
  unfold verdict at h
  split at h
  · cases h
  · cases h
  · split at h
    · injection h
    · cases h

/-- One more event, as a caller who waits for a call sees it.  It matters only if it names the
caller, and comes before the call is over. -/
theorem verdict_concat (i : Nat) {u now : Nat} (hle : u ≤ now)
    (events : List (Nat × CacheEvent)) (e : CacheEvent) (f : Fetch α) :
    f.verdict i now (events ++ [(u, e)]) =
      ((f.verdict i u events).heed i u e).settle now := by
  unfold verdict givesUp
  rw [List.find?_append]
  cases hbefore : events.find? fun e => e.1 < f.ends ∧ (e.2 = .cancel i ∨ e.2 = .drop i) with
  | some given =>
    -- it gave up before, and nothing happens to it any more
    obtain ⟨v, ev⟩ := given
    cases ev <;> cases e <;> simp [Waiter.heed, Waiter.cancel, Waiter.drop, Waiter.settle]
  | none =>
    by_cases hend : f.ends ≤ u
    · -- the call is over, and the caller has its outcome
      have hnot : ¬ u < f.ends := Nat.not_lt.mpr hend
      have hnow : f.ends ≤ now := Nat.le_trans hend hle
      cases e <;>
        simp [Waiter.heed, Waiter.cancel, Waiter.drop, Waiter.settle, hend, hnot, hnow]
    · have hlt : u < f.ends := Nat.not_le.mp hend
      cases e with
      | get c => simp [Waiter.heed, Waiter.settle, hend]
      | cancel j | drop j =>
        by_cases hj : j = i <;>
          simp [Waiter.heed, Waiter.cancel, Waiter.drop, Waiter.settle, hend, hlt, hj]

end Fetch

namespace CacheSession

variable (settings : CacheSettings) (script : Script α)

/-- The call that serves a caller who asks at a moment: the last one that has started then.  Whether
it was there before, or has been started for this caller, is told by comparing it with the calls
before the event. -/
def servingCall (pre : List (Nat × CacheEvent)) (t : Nat) (cancelled : Bool) :
    Option (Fetch α) :=
  (callsOf settings script (pre ++ [(t, .get cancelled)])).getLast?

/-- A call is the one that runs when somebody asks, or the one that starts there because none does.
Both alternatives say what the event makes of the list of calls. -/
def Attached (pre : List (Nat × CacheEvent)) (t : Nat) (cancelled : Bool) (f : Fetch α) :
    Prop :=
  (f ∈ callsOf settings script pre ∧ f.RunningAt t ∧
      callsOf settings script (pre ++ [(t, .get cancelled)]) = callsOf settings script pre) ∨
    ((∀ g ∈ callsOf settings script pre, ¬ g.RunningAt t) ∧ f.started = t ∧
      callsOf settings script (pre ++ [(t, .get cancelled)]) =
        callsOf settings script pre ++ [f])

/-- What holds of the answers that the callers of a run are given.  Every field is about one caller,
or two, at any place in the run, and at any later moment. -/
structure JustifiedAnswers (events : List (Nat × CacheEvent)) : Prop where
  /-- While some call has left a fresh value, a caller is given the value of the
  latest call with one, at once, whatever becomes of its token. -/
  fresh : ∀ pre t cancelled post now, events = pre ++ (t, .get cancelled) :: post →
    HappenedBy now events →
    (∃ g ∈ callsOf settings script pre, g.FreshAt settings.retention t) →
    ∃ f v, servingCall settings script pre t cancelled = some f ∧
      f ∈ callsOf settings script pre ∧ f.ends ≤ t ∧ f.outcome = .ok v ∧
      (∀ g ∈ callsOf settings script pre, g.ends ≤ t → (∃ w, g.outcome = .ok w) →
        g.number ≤ f.number) ∧
      (observed settings script events now).waiters[callers pre]? = some (.done t (.ok v))
  /-- Otherwise a caller is attached to exactly one call.  Unless its token is
  cancelled before this call is over, or its task dropped, it is given the outcome
  of the call when it is over; with its token cancelled it is told so at once. -/
  attached : ∀ pre t cancelled post now, events = pre ++ (t, .get cancelled) :: post →
    HappenedBy now events →
    (∀ g ∈ callsOf settings script pre, ¬ g.FreshAt settings.retention t) →
    ∃ f, servingCall settings script pre t cancelled = some f ∧
      Attached settings script pre t cancelled f ∧
      (∀ g, Attached settings script pre t cancelled g → g = f) ∧
      f.Follows settings script ∧
      let waiter := (observed settings script events now).waiters[callers pre]?
      (cancelled = true → waiter = some (.done t (.error .cancelled))) ∧
      (cancelled = false → givesUp (callers pre) f.ends post = none →
        (f.ends ≤ now → waiter = some (.done f.ends f.outcome)) ∧
        (now < f.ends → waiter = some (.waiting f))) ∧
      (cancelled = false → ∀ u i, givesUp (callers pre) f.ends post = some (u, .cancel i) →
        waiter = some (.done u (.error .cancelled)))
  /-- A failure that a caller is given is the cancellation of its own token, or that
  of a call that was not over when it asked. -/
  noOldFailure : ∀ pre t cancelled post now u e, events = pre ++ (t, .get cancelled) :: post →
    HappenedBy now events →
    (observed settings script events now).waiters[callers pre]? = some (.done u (.error e)) →
    (e = .cancelled ∧ (cancelled = true ∧ u = t ∨ (u, .cancel (callers pre)) ∈ post)) ∨
    ∃ f, servingCall settings script pre t cancelled = some f ∧ f.outcome = .error e ∧
      u = f.ends ∧ ¬ (f ∈ callsOf settings script pre ∧ f.ends ≤ t)
  /-- When one caller has been given a value before another one asks, a value that
  the other one is given comes from the same call or from a later one. -/
  forward : ∀ pre t cancelled mid t' cancelled' post now u v u' v',
    events = pre ++ (t, .get cancelled) :: mid ++ (t', .get cancelled') :: post →
    HappenedBy now events →
    (observed settings script (pre ++ (t, .get cancelled) :: mid) t').waiters[callers pre]? =
      some (.done u (.ok v)) →
    (observed settings script events now).waiters[callers (pre ++ (t, .get cancelled) :: mid)]? =
      some (.done u' (.ok v')) →
    ∃ f f', servingCall settings script pre t cancelled = some f ∧
      servingCall settings script (pre ++ (t, .get cancelled) :: mid) t' cancelled' = some f' ∧
      f.outcome = .ok v ∧ f'.outcome = .ok v' ∧ f.number ≤ f'.number

variable {settings script} {pre post events : List (Nat × CacheEvent)} {now t : Nat}
  {cancelled : Bool}

/-- The calls of a run are those of the script, in order: the number of a call is its place in the
record, and decides what it comes to. -/
theorem callsOf_scripted (h : HappenedBy now events) {i : Nat} {f : Fetch α}
    (hi : (callsOf settings script events)[i]? = some f) :
    f = Fetch.ofScript settings script i f.started := by
  obtain ⟨ended, hc, -⟩ := observed_consistent settings script h
  exact hc.scripted i f hi

theorem follows_of_mem (h : HappenedBy now events) {f : Fetch α}
    (hf : f ∈ callsOf settings script events) : f.Follows settings script := by
  obtain ⟨i, hi⟩ := List.getElem?_of_mem hf
  rw [callsOf_scripted h hi]
  exact Fetch.follows_ofScript ..

theorem number_of_getLast? (h : HappenedBy now events) {f : Fetch α}
    (hf : (callsOf settings script events).getLast? = some f) :
    f.number + 1 = (callsOf settings script events).length := by
  have hpos : 0 < (callsOf settings script events).length :=
    List.length_pos_of_mem (List.mem_of_getLast? hf)
  rw [List.getLast?_eq_getElem?] at hf
  rw [callsOf_scripted h hf]
  show (callsOf settings script events).length - 1 + 1 = _
  omega

theorem number_lt_of_mem (h : HappenedBy now events) {f : Fetch α}
    (hf : f ∈ callsOf settings script events) :
    f.number < (callsOf settings script events).length := by
  obtain ⟨i, hi⟩ := List.getElem?_of_mem hf
  rw [callsOf_scripted h hi]
  exact (List.getElem?_eq_some_iff.mp hi).1

/-- A caller who is given a value has it at once and for good: neither a cancellation nor the end of
another call takes it back. -/
theorem waiter_atOnce (h : HappenedBy now (pre ++ (t, .get cancelled) :: post)) {v : α}
    (ha : ((observed settings script pre t).source.get t).2 = .atOnce v) :
    (observed settings script (pre ++ (t, .get cancelled) :: post) now).waiters[callers pre]? =
      some (.done t (.ok v)) := by
  refine waiter_append (fun _ _ => .done t (.ok v)) h ?_ ?_
  · intro u _
    rw [ha]
    rfl
  · intro _ u e _ _
    exact (Waiter.settle_done_heed ..).symm

/-- A caller who is given a call waits for it, or does not wait at all because its token is
cancelled already.  The call goes on in either case. -/
theorem waiter_pending (h : HappenedBy now (pre ++ (t, .get cancelled) :: post)) {f : Fetch α}
    {own : Bool} (ha : ((observed settings script pre t).source.get t).2 = .pending f own) :
    (observed settings script (pre ++ (t, .get cancelled) :: post) now).waiters[callers pre]? =
      some (if cancelled then .done t (.error .cancelled)
        else f.verdict (callers pre) now post) := by
  cases cancelled with
  | true =>
    refine waiter_append (fun _ _ => .done t (.error .cancelled)) h ?_ ?_
    · intro u _
      rw [ha]
      rfl
    · intro _ u e _ _
      exact (Waiter.settle_done_heed ..).symm
  | false =>
    refine waiter_append (fun events u => f.verdict (callers pre) u events) h ?_ ?_
    · intro u _
      rw [ha]
      rfl
    · intro mid u e _ hle
      exact f.verdict_concat (callers pre) hle mid e

/-- **How a caller is served**: at once with the value of the last call, which is fresh, or by the
call that it attaches to.  Everything that is promised of answers is read off these two cases. -/
theorem served_cases (h : HappenedBy now (pre ++ (t, .get cancelled) :: post)) :
    ∃ f, servingCall settings script pre t cancelled = some f ∧
      (f ∈ callsOf settings script pre ∧ f.FreshAt settings.retention t ∧
        (∃ v, f.outcome = .ok v ∧
          (observed settings script (pre ++ (t, .get cancelled) :: post) now).waiters[callers pre]?
            = some (.done t (.ok v))) ∨
      (∀ g ∈ callsOf settings script pre, ¬ g.FreshAt settings.retention t) ∧
        Attached settings script pre t cancelled f ∧
        (observed settings script (pre ++ (t, .get cancelled) :: post) now).waiters[callers pre]?
          = some (if cancelled then .done t (.error .cancelled)
              else f.verdict (callers pre) now post)) := by
  obtain ⟨hpre, -⟩ := h.before
  obtain ⟨ended, hc, hs⟩ := observed_consistent settings script hpre
  have hcalls : callsOf settings script (pre ++ [(t, .get cancelled)]) =
      ((observed settings script pre t).source.get t).1.fetches := by
    rw [callsOf_concat, apply_source]
  unfold servingCall
  rcases hc.get_cases hs with
    ⟨f, v, hf, hfresh, hv, hg⟩ | ⟨hstale, ⟨f, hf, hrun, hg⟩ | ⟨hidle, -, hg⟩⟩
  · refine ⟨f, ?_, .inl ⟨hf, hfresh, v, hv, waiter_atOnce h (by rw [hg])⟩⟩
    rw [hcalls, hg]
    exact hc.last_of_fresh hf hfresh
  · have hsame : callsOf settings script (pre ++ [(t, .get cancelled)]) =
        callsOf settings script pre := by
      rw [hcalls, hg]
      rfl
    refine ⟨f, ?_, .inr ⟨hstale, .inl ⟨hf, hrun, hsame⟩, waiter_pending h (by rw [hg])⟩⟩
    rw [hsame, ← fetches_observed pre t, hc.calls, (hc.running_of_mem hf hrun.2).1,
      List.getLast?_concat]
  · have hmore : callsOf settings script (pre ++ [(t, .get cancelled)]) =
        callsOf settings script pre ++ [(observed settings script pre t).source.nextFetch t] := by
      rw [hcalls, hg]
      rfl
    refine ⟨_, ?_, .inr ⟨hstale, .inr ⟨hidle, rfl, hmore⟩, waiter_pending h (by rw [hg])⟩⟩
    rw [hmore, List.getLast?_concat]

/-- A caller attaches to no second call.  This is what makes it meaningful to speak of the call that
serves a caller. -/
theorem attached_unique (h : HappenedBy t pre) {f g : Fetch α}
    (hf : Attached settings script pre t cancelled f)
    (hg : Attached settings script pre t cancelled g) : g = f := by
  obtain ⟨ended, hc, -⟩ := observed_consistent settings script h
  -- a call that runs and a call that starts exclude each other, and of each there is one
  rcases hf with ⟨hf, hrun, -⟩ | ⟨hidle, -, hf⟩
  · rcases hg with ⟨hg, hrun', -⟩ | ⟨hidle, -, -⟩
    · have hone := (hc.running_of_mem hf hrun.2).1
      rw [(hc.running_of_mem hg hrun'.2).1] at hone
      exact List.singleton_inj.mp hone
    · exact absurd hrun (hidle f hf)
  · rcases hg with ⟨hg, hrun, -⟩ | ⟨-, -, hg⟩
    · exact absurd hrun (hidle g hg)
    · rw [hf] at hg
      exact (List.singleton_inj.mp (List.append_cancel_left hg)).symm

/-- The value that a caller is given is that of the call that serves it, whether the caller has
found it fresh or has waited for it. -/
theorem value_of_servingCall (h : HappenedBy now (pre ++ (t, .get cancelled) :: post)) {u : Nat}
    {v : α}
    (hw : (observed settings script (pre ++ (t, .get cancelled) :: post) now).waiters[callers pre]?
      = some (.done u (.ok v))) :
    ∃ f, servingCall settings script pre t cancelled = some f ∧ f.outcome = .ok v := by
  obtain ⟨f, hserve, ⟨-, -, w, hw', hdone⟩ | ⟨-, -, hwait⟩⟩ := served_cases h
  · rw [hdone] at hw
    cases hw
    exact ⟨f, hserve, hw'⟩
  · rw [hwait] at hw
    refine ⟨f, hserve, ?_⟩
    cases cancelled with
    | true => cases hw
    | false => exact f.outcome_of_verdict (Option.some.inj hw)

/-- Later callers are served by later calls, or by the same.  A call once started stays the last
until another one starts, and numbers grow in that order. -/
theorem servingCall_mono {mid : List (Nat × CacheEvent)} {t' : Nat} {cancelled' : Bool}
    (h : HappenedBy t' (pre ++ (t, .get cancelled) :: mid)) {f f' : Fetch α}
    (hf : servingCall settings script pre t cancelled = some f)
    (hf' : servingCall settings script (pre ++ (t, .get cancelled) :: mid) t' cancelled' =
      some f') :
    f.number ≤ f'.number := by
  have hlater : HappenedBy t' (pre ++ (t, .get cancelled) :: mid ++ [(t', .get cancelled')]) :=
    HappenedBy.concat_iff.mpr ⟨h, Nat.le_refl t'⟩
  have hnumber := number_of_getLast? h.upTo hf
  have hnumber' := number_of_getLast? hlater hf'
  rw [List.append_cons pre, List.append_assoc] at hlater hnumber'
  have hlength := (callsOf_append settings script hlater).length_le
  omega

/-- A failure that a caller waited for is that of the call, or tells that its token was cancelled.
The second comes at the end of the call and not before. -/
theorem failure_of_verdict {i u : Nat} {f : Fetch α} {e : Error}
    (h : f.verdict i now post = .done u (.error e)) :
    (e = .cancelled ∧ (u, .cancel i) ∈ post) ∨ (f.outcome = .error e ∧ u = f.ends) := by
  unfold Fetch.verdict at h
  split at h
  next v j hgive =>
    injection h with hv he
    injection he with he
    obtain ⟨hmem, -, hown⟩ := of_givesUp hgive
    rcases hown with hown | hown
    · injection hown with hj
      rw [hv, hj] at hmem
      exact .inl ⟨he.symm, hmem⟩
    · cases hown
  next => cases h
  next =>
    split at h
    · injection h with hu he
      exact .inr ⟨he, hu.symm⟩
    · cases h

/-- A caller who finds a fresh value.  It is the value of the latest call with one, for a later call
would have started only once this value had become too old. -/
theorem served_fresh (h : HappenedBy now (pre ++ (t, .get cancelled) :: post))
    (hfresh : ∃ g ∈ callsOf settings script pre, g.FreshAt settings.retention t) :
    ∃ f v, servingCall settings script pre t cancelled = some f ∧
      f ∈ callsOf settings script pre ∧ f.ends ≤ t ∧ f.outcome = .ok v ∧
      (∀ g ∈ callsOf settings script pre, g.ends ≤ t → (∃ w, g.outcome = .ok w) →
        g.number ≤ f.number) ∧
      (observed settings script (pre ++ (t, .get cancelled) :: post) now).waiters[callers pre]? =
        some (.done t (.ok v)) := by
  obtain ⟨f, hserve, ⟨hf, hfr, v, hv, hdone⟩ | ⟨hstale, -, -⟩⟩ := served_cases h
  · refine ⟨f, v, hserve, hf, hfr.1, hv, fun g hg _ _ => ?_, hdone⟩
    -- the fresh call is the last of all, so no call has a higher number
    obtain ⟨ended, hc, -⟩ := observed_consistent settings script h.before.1
    have hnumber := number_of_getLast? h.before.1 (hc.last_of_fresh hf hfr)
    have hlt := number_lt_of_mem h.before.1 hg
    omega
  · obtain ⟨g, hg, hfr⟩ := hfresh
    exact absurd hfr (hstale g hg)

/-- A caller who finds no fresh value is attached to the call that runs, or to its own. -/
theorem served_attached (h : HappenedBy now (pre ++ (t, .get cancelled) :: post))
    (hstale : ∀ g ∈ callsOf settings script pre, ¬ g.FreshAt settings.retention t) :
    ∃ f, servingCall settings script pre t cancelled = some f ∧
      Attached settings script pre t cancelled f ∧
      (observed settings script (pre ++ (t, .get cancelled) :: post) now).waiters[callers pre]? =
        some (if cancelled then .done t (.error .cancelled)
          else f.verdict (callers pre) now post) := by
  obtain ⟨f, hserve, ⟨hf, hfr, -⟩ | ⟨-, hatt, hwait⟩⟩ := served_cases h
  · exact absurd hfr (hstale f hf)
  · exact ⟨f, hserve, hatt, hwait⟩

/-- A caller is not served by a failure that was over when it asked.  The call that serves it was
then running or had not begun, so that a failure is never handed out from memory. -/
theorem failure_of_servingCall (h : HappenedBy now (pre ++ (t, .get cancelled) :: post)) {u : Nat}
    {e : Error}
    (hw : (observed settings script (pre ++ (t, .get cancelled) :: post) now).waiters[callers pre]?
      = some (.done u (.error e))) :
    (e = .cancelled ∧ (cancelled = true ∧ u = t ∨ (u, .cancel (callers pre)) ∈ post)) ∨
    ∃ f, servingCall settings script pre t cancelled = some f ∧ f.outcome = .error e ∧
      u = f.ends ∧ ¬ (f ∈ callsOf settings script pre ∧ f.ends ≤ t) := by
  obtain ⟨f, hserve, ⟨-, -, v, -, hdone⟩ | ⟨-, hatt, hwait⟩⟩ := served_cases h
  · rw [hdone] at hw
    cases hw
  rw [hwait] at hw
  have hw := Option.some.inj hw
  cases cancelled with
  | true =>
    injection hw with hu he
    injection he with he
    exact .inl ⟨he.symm, .inl ⟨rfl, hu.symm⟩⟩
  | false =>
    rcases failure_of_verdict hw with ⟨he, hmem⟩ | ⟨hout, hu⟩
    · exact .inl ⟨he, .inr hmem⟩
    · -- a call that was over could only be the one that runs, or the new one
      refine .inr ⟨f, hserve, hout, hu, fun ⟨hf, hend⟩ => ?_⟩
      rcases hatt with ⟨-, hrun, -⟩ | ⟨-, -, hmore⟩
      · exact absurd hend (Nat.not_le.mpr hrun.2)
      · have hnumber := number_of_getLast? h.upTo hserve
        have hlt := number_lt_of_mem h.before.1 hf
        rw [hmore, List.length_append, List.length_singleton] at hnumber
        omega

/-- **Every answer is justified**: in every run of every cache over every script.  A list of events
that are out of order has not happened by any moment, so that nothing is asked of it.  The four
promises are about the one call that a request is served from: it is fresh, or in flight when the
request comes, or begins with it; and of two requests the later one is served from a call that is
not older (`servingCall_mono`). -/
theorem run_justifiedAnswers (settings : CacheSettings) (script : Script α)
    (events : List (Nat × CacheEvent)) : JustifiedAnswers settings script events := by
  constructor
  case fresh =>
    intro pre t cancelled post now hsplit h hfresh
    subst hsplit
    exact served_fresh h hfresh
  case attached =>
    intro pre t cancelled post now hsplit h hstale
    subst hsplit
    -- the fetch that serves the request settles what it waits for; the last three goals read off
    -- how that ends
    obtain ⟨f, hserve, hatt, hwait⟩ := served_attached h hstale
    refine ⟨f, hserve, hatt, fun g hg => attached_unique h.before.1 hatt hg,
      follows_of_mem h.upTo (List.mem_of_getLast? hserve), ?_, ?_, ?_⟩
    · intro htoken
      rw [hwait, htoken]
      rfl
    · intro htoken hstays
      rw [hwait, htoken]
      unfold Fetch.verdict
      rw [hstays]
      exact ⟨fun hend => by simp [hend], fun hend => by simp [Nat.not_le.mpr hend]⟩
    · intro htoken u i hgive
      rw [hwait, htoken]
      unfold Fetch.verdict
      rw [hgive]
      rfl
  case noOldFailure =>
    intro pre t cancelled post now u e hsplit h hw
    subst hsplit
    exact failure_of_servingCall h hw
  case forward =>
    intro pre t cancelled mid t' cancelled' post now u v u' v' hsplit h hw hw'
    subst hsplit
    have hfirst := h.before.1
    obtain ⟨f, hf, hv⟩ := value_of_servingCall hfirst hw
    obtain ⟨f', hf', hv'⟩ := value_of_servingCall h hw'
    exact ⟨f, f', hf, hf', hv, hv', servingCall_mono hfirst hf hf'⟩

end CacheSession

end Telemetry
