import Telemetry.Coalesce.CacheSession
import Telemetry.Proofs.Chronology
import Telemetry.Proofs.Coalesce.CachedSource

/-! # Runs of a cache and its callers

What is seen of a cache at a moment is the session after the events up to then, settled
(`observed`): every call that is due has ended and has handed its outcome to whoever waited for it.
Settling at an earlier moment in between makes no difference (`settle_settle`), so one more event is
one more `apply` (`observed_concat`), and the passing of time alone is one more `settle`
(`observed_settle`).  The source stays consistent all along (`observed_consistent`), which is proved
once, by induction along the run, and is all that later modules use of it.

Callers are numbered in the order in which they come.  A caller changes only with the events that
name its number and with the end of the call that it waits for, so that what becomes of it is a
function of the later events alone (`waiter_append`): whoever knows what it is at first and how each
event changes it, knows what it is at the end.
-/

namespace Telemetry

variable {α : Type}

namespace Waiter

/-- Settling twice is settling once, at the later moment: an outcome is handed out with the moment
of the call's end, and not with that at which somebody looks. -/
theorem settle_settle (w : Waiter α) {t u : Nat} (hle : t ≤ u) :
    (w.settle t).settle u = w.settle u := by
  cases w with
  | done | dropped => rfl
  | waiting f =>
    by_cases ht : f.ends ≤ t
    · simp [settle, ht, Nat.le_trans ht hle]
    · simp [settle, ht]

/-- What an event does to the caller with a number.  A new caller does nothing to those who are
there before it, and a cancellation or a drop concerns the one that it names. -/
def heed (i now : Nat) (e : CacheEvent) (w : Waiter α) : Waiter α :=
  match e with
  | .get _ => w
  | .cancel j => if j = i then w.cancel now else w
  | .drop j => if j = i then w.drop else w

/-- An answer once given stays, whatever happens to the caller afterwards and however late one
looks. -/
theorem settle_done_heed (i u now v : Nat) (r : Result α) (e : CacheEvent) :
    ((done v r).heed i u e).settle now = done v r := by
  cases e with
  | get => rfl
  | cancel j | drop j => by_cases hj : j = i <;> simp [heed, cancel, drop, settle, hj]

end Waiter

/-- Whether an event brings a new caller.  Cancellations and drops concern callers who are there
already. -/
def CacheEvent.isGet : CacheEvent → Bool
  | .get _ => true
  | _ => false

/-- The number of callers that events bring. -/
def callers (events : List (Nat × CacheEvent)) : Nat := events.countP (·.2.isGet)

theorem callers_cons (t : Nat) (e : CacheEvent) (rest : List (Nat × CacheEvent)) :
    callers ((t, e) :: rest) = callers rest + if e.isGet then 1 else 0 := List.countP_cons

theorem callers_append (pre post : List (Nat × CacheEvent)) :
    callers (pre ++ post) = callers pre + callers post := List.countP_append

namespace CacheSession

variable (settings : CacheSettings) (script : Script α)

/-- The session at a moment, after the events up to then and all that is due.  It is what somebody
sees who looks at that moment, and every promise about a run speaks of it. -/
def observed (events : List (Nat × CacheEvent)) (now : Nat) : CacheSession α :=
  ((create settings script).run events).settle now

/-- The calls that the events of a run have started, in order, whether they are over or not. -/
def callsOf (events : List (Nat × CacheEvent)) : List (Fetch α) :=
  ((create settings script).run events).source.fetches

variable {settings script} {pre post events : List (Nat × CacheEvent)} {now t : Nat}
  {e : CacheEvent}

theorem run_concat (s : CacheSession α) (pre : List (Nat × CacheEvent)) (t : Nat)
    (e : CacheEvent) :
    s.run (pre ++ [(t, e)]) = (((s.run pre).settle t).apply t e).settle t := by
  unfold run
  rw [List.foldl_append]
  rfl

theorem observed_nil (now : Nat) :
    observed settings script [] now = create settings script := by
  show (create settings script).settle now = _
  unfold settle
  rw [show (create settings script).source.settle now = (create settings script).source from
    CachedSource.settle_idle rfl now]
  rfl

theorem fetches_observed (events : List (Nat × CacheEvent)) (now : Nat) :
    (observed settings script events now).source.fetches = callsOf settings script events := rfl

theorem apply_source (s : CacheSession α) (now : Nat) (e : CacheEvent) :
    (s.apply now e).source = match e with
      | .get _ => (s.source.get now).1
      | _ => s.source := by
  cases e <;> rfl

theorem settle_settle {s : CacheSession α} {ended : List (Fetch α)}
    (h : s.source.Consistent settings script now ended) {t u : Nat} (hle : t ≤ u) :
    (s.settle t).settle u = s.settle u := by
  unfold settle
  rw [h.settle_settle hle, List.map_map]
  exact congrArg (CacheSession.mk _)
    (List.map_congr_left fun w _ => w.settle_settle hle)

/-- An event keeps the source consistent. -/
theorem apply_consistent {s : CacheSession α} {ended : List (Fetch α)}
    (h : s.source.Consistent settings script now ended) (hs : s.source.Settled now)
    (e : CacheEvent) : (s.apply now e).source.Consistent settings script now ended := by
  rw [apply_source]
  cases e with
  | get => exact h.get hs
  | cancel | drop => exact h

/-- **At every moment of every run the source is consistent**, and nothing is due.  Every statement
about a run begins with this: what the invariant says of a source holds at whatever moment one looks
at it. -/
theorem observed_consistent (settings : CacheSettings) (script : Script α)
    (h : HappenedBy now events) :
    ∃ ended, (observed settings script events now).source.Consistent settings script now ended ∧
      (observed settings script events now).source.Settled now := by
  refine HappenedBy.induction ?_ ?_ h
  · intro now
    rw [observed_nil]
    exact ⟨[], CachedSource.consistent_create settings script now, fun f hf => by cases hf⟩
  · intro now pre t e hpre hle ⟨ended, hc, hs⟩
    obtain ⟨ended', hc', -⟩ := (apply_consistent hc hs e).settle (Nat.le_refl t)
    unfold observed
    rw [run_concat]
    exact hc'.settle hle

/-- One more event is one more `apply`.  What was due before the event has happened by then, and
what becomes due after it is settled at the moment of looking. -/
theorem observed_concat (h : HappenedBy t pre) (hle : t ≤ now) (e : CacheEvent) :
    observed settings script (pre ++ [(t, e)]) now =
      ((observed settings script pre t).apply t e).settle now := by
  obtain ⟨ended, hc, hs⟩ := observed_consistent settings script h
  unfold observed
  rw [run_concat]
  exact settle_settle (apply_consistent hc hs e) hle

/-- As time passes without events, what is due happens. -/
theorem observed_settle (settings : CacheSettings) (script : Script α) (h : HappenedBy t pre)
    (hle : t ≤ now) :
    (observed settings script pre t).settle now = observed settings script pre now := by
  refine HappenedBy.induction (motive := fun t pre => t ≤ now →
    (observed settings script pre t).settle now = observed settings script pre now) ?_ ?_ h hle
  · intro t _
    rw [observed_nil]
    rfl
  · intro t pre u e hpre hut _ hle
    obtain ⟨ended, hc, hs⟩ := observed_consistent settings script hpre
    rw [observed_concat hpre hut, observed_concat hpre (Nat.le_trans hut hle)]
    exact settle_settle (apply_consistent hc hs e) hle

theorem callsOf_concat (pre : List (Nat × CacheEvent)) (t : Nat) (e : CacheEvent) :
    callsOf settings script (pre ++ [(t, e)]) =
      ((observed settings script pre t).apply t e).source.fetches := by
  unfold callsOf
  rw [run_concat]
  rfl

/-- An event starts no call, or it asks and starts the next call of the script.  No event starts
two, and none takes a call out of the record. -/
theorem callsOf_concat_cases (settings : CacheSettings) (script : Script α)
    (h : HappenedBy t pre) (e : CacheEvent) :
    callsOf settings script (pre ++ [(t, e)]) = callsOf settings script pre ∨
      callsOf settings script (pre ++ [(t, e)]) =
        callsOf settings script pre ++
          [Fetch.ofScript settings script (callsOf settings script pre).length t] := by
  obtain ⟨ended, hc, hs⟩ := observed_consistent settings script h
  rw [callsOf_concat, apply_source]
  cases e with
  | cancel | drop => exact .inl rfl
  | get c =>
    rcases hc.get_cases hs with ⟨f, v, -, -, -, hg⟩ | ⟨-, ⟨f, -, -, hg⟩ | ⟨-, -, hg⟩⟩
    · rw [hg]; exact .inl rfl
    · rw [hg]; exact .inl rfl
    · rw [hg]
      exact .inr (congrArg (fun f => callsOf settings script pre ++ [f]) (hc.nextFetch_eq t))

/-- The calls of a run begin with the calls of its first events.  What is known of the calls up to
some event is known of them ever after. -/
theorem callsOf_append (settings : CacheSettings) (script : Script α)
    (h : HappenedBy now (pre ++ post)) :
    callsOf settings script pre <+: callsOf settings script (pre ++ post) := by
  induction post using List.reverseRecOn generalizing now with
  | nil => exact ⟨[], by rw [List.append_nil, List.append_nil]⟩
  | append_singleton mid e ih =>
    rw [← List.append_assoc] at h ⊢
    obtain ⟨hpre, -⟩ := HappenedBy.concat_iff.mp h
    refine (ih hpre).trans ?_
    rcases callsOf_concat_cases settings script hpre e.2 with hc | hc
    · exact ⟨[], (List.append_nil _).trans hc.symm⟩
    · rw [hc]
      exact List.prefix_append _ _

/-! ## Callers -/

theorem apply_waiters (s : CacheSession α) (now : Nat) (e : CacheEvent) :
    (s.apply now e).waiters = match e with
      | .get cancelled => s.waiters ++ [.ofAnswer now cancelled (s.source.get now).2]
      | .cancel i => s.waiters.modify i (Waiter.cancel now)
      | .drop i => s.waiters.modify i Waiter.drop := by
  cases e <;> rfl

theorem length_apply (s : CacheSession α) (now : Nat) (e : CacheEvent) :
    (s.apply now e).waiters.length = s.waiters.length + if e.isGet then 1 else 0 := by
  rw [apply_waiters]
  cases e <;> simp [CacheEvent.isGet]

theorem getElem?_apply (s : CacheSession α) (now : Nat) (e : CacheEvent) {i : Nat}
    (hi : i < s.waiters.length) :
    (s.apply now e).waiters[i]? = s.waiters[i]?.map (Waiter.heed i now e) := by
  rw [apply_waiters]
  cases e with
  | get c =>
    rw [List.getElem?_append_left hi]
    cases s.waiters[i]? <;> rfl
  | cancel j | drop j =>
    rw [List.getElem?_modify]
    by_cases hj : j = i <;> cases s.waiters[i]? <;> simp [Waiter.heed, hj]

theorem length_waiters (settings : CacheSettings) (script : Script α)
    (events : List (Nat × CacheEvent)) (now : Nat) :
    (observed settings script events now).waiters.length = callers events := by
  have hsettle (s : CacheSession α) (t : Nat) : (s.settle t).waiters.length = s.waiters.length :=
    List.length_map _
  unfold observed
  rw [hsettle]
  induction events using List.reverseRecOn with
  | nil => rfl
  | append_singleton pre e ih =>
    rw [run_concat, hsettle, length_apply, hsettle, ih, callers_append]
    simp [callers, List.countP_singleton]

/-- One more event, as a caller who was there before sees it: it heeds the event if that names it,
and is then handed what is due. -/
theorem waiter_concat (settings : CacheSettings) (script : Script α) (h : HappenedBy t pre)
    (hle : t ≤ now) (e : CacheEvent) {i : Nat} (hi : i < callers pre) :
    (observed settings script (pre ++ [(t, e)]) now).waiters[i]? =
      (observed settings script pre t).waiters[i]?.map
        fun w => (w.heed i t e).settle now := by
  rw [← length_waiters settings script pre t] at hi
  rw [observed_concat h hle]
  show (List.map _ _)[i]? = _
  rw [List.getElem?_map, getElem?_apply _ _ _ hi, Option.map_map]
  rfl

/-- A new caller.  It takes the next number, and what it has at first is what the source answers it,
unless its token is cancelled from the outset. -/
theorem waiter_new (settings : CacheSettings) (script : Script α) (h : HappenedBy t pre)
    (hle : t ≤ now) (cancelled : Bool) :
    (observed settings script (pre ++ [(t, .get cancelled)]) now).waiters[callers pre]? =
      some ((Waiter.ofAnswer t cancelled
        ((observed settings script pre t).source.get t).2).settle now) := by
  rw [observed_concat h hle, ← length_waiters settings script pre t]
  show (List.map _ _)[_]? = _
  rw [List.getElem?_map, apply_waiters, List.getElem?_concat_length]
  rfl

theorem callers_lt (pre : List (Nat × CacheEvent)) (t : Nat) (cancelled : Bool) :
    callers pre < callers (pre ++ [(t, .get cancelled)]) := by
  rw [callers_append]
  exact Nat.lt_succ_self _

/-- What becomes of a caller: whatever it is at first and becomes with each later event, it is at
the end.  The function `fate` guesses what it has become after some later events, and the two
hypotheses are the check of that guess, step by step. -/
theorem waiter_append {cancelled : Bool} (fate : List (Nat × CacheEvent) → Nat → Waiter α)
    (h : HappenedBy now (pre ++ (t, .get cancelled) :: post))
    (start : ∀ u, t ≤ u → (Waiter.ofAnswer t cancelled
      ((observed settings script pre t).source.get t).2).settle u = fate [] u)
    (event : ∀ mid t e u, t ≤ u →
      fate (mid ++ [(t, e)]) u = ((fate mid t).heed (callers pre) t e).settle u) :
    (observed settings script (pre ++ (t, .get cancelled) :: post) now).waiters[callers pre]? =
      some (fate post now) := by
  rw [List.append_cons] at h ⊢
  -- by the later events, the last one first
  induction post using List.reverseRecOn generalizing now with
  | nil =>
    rw [List.append_nil] at h ⊢
    obtain ⟨hpre, hle⟩ := HappenedBy.concat_iff.mp h
    rw [waiter_new settings script hpre hle, start now hle]
  | append_singleton mid e ih =>
    rw [← List.append_assoc] at h ⊢
    obtain ⟨hpre, hle⟩ := HappenedBy.concat_iff.mp h
    have hi : callers pre < callers (pre ++ [(t, .get cancelled)] ++ mid) := by
      rw [callers_append]
      exact Nat.lt_add_right _ (callers_lt pre t cancelled)
    rw [waiter_concat settings script hpre hle e.2 hi, ih hpre, event mid e.1 e.2 now hle]
    rfl

end CacheSession

end Telemetry
