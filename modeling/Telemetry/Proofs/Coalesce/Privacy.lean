import Telemetry.Proofs.Coalesce.CacheSession

/-! # Giving up is private

Two runs of a cache in which the same callers come at the same moments, and which differ only in how
one caller gives up, are the same for everybody else: the same calls start at the same moments, the
cache is the same at every moment, and every other caller is given the same at the same moment.

The proof compares both runs with the one in which this caller never gives up (`patient`).  Leaving
out the events by which it does changes nothing but its own entry, step by step (`Alike`,
`observed_patient`), because a call is started for whoever asks, whether or not its token is
cancelled, and runs on its own from then on.  Two runs that have the same patient run are therefore
alike.

The comparison is made at every moment, and not only at the end: `upTo_patient` says that leaving
out events and cutting a run off at a moment may be exchanged.
-/

namespace Telemetry

variable {α : Type}

/-- The events of a run without those by which a caller gives up: its token is not cancelled, and
its task not dropped.  The first caller to come has number `next`.  Its own request stays, with a
token that is not cancelled; who comes is told by counting the requests. -/
def patient (i : Nat) : (next : Nat) → List (Nat × CacheEvent) → List (Nat × CacheEvent)
  | _, [] => []
  | next, (t, .get cancelled) :: rest =>
    (t, .get (if next = i then false else cancelled)) :: patient i (next + 1) rest
  | next, (t, .cancel j) :: rest =>
    if j = i then patient i next rest else (t, .cancel j) :: patient i next rest
  | next, (t, .drop j) :: rest =>
    if j = i then patient i next rest else (t, .drop j) :: patient i next rest

theorem patient_append (i next : Nat) (pre post : List (Nat × CacheEvent)) :
    patient i next (pre ++ post) = patient i next pre ++ patient i (next + callers pre) post := by
  induction pre generalizing next with
  | nil => rfl
  | cons e pre ih =>
    obtain ⟨t, e⟩ := e
    cases e with
    | get c =>
      have hcallers : callers ((t, .get c) :: pre) = callers pre + 1 := callers_cons t _ pre
      rw [hcallers, Nat.add_comm (callers pre), ← Nat.add_assoc]
      simp only [List.cons_append, patient, ih]
    | cancel j | drop j =>
      simp only [List.cons_append, patient, ih]
      split <;> rfl

/-- The events that are left keep their moments and their order, so that a run stays one. -/
theorem patient_moments (i next : Nat) (events : List (Nat × CacheEvent)) :
    ((patient i next events).map Prod.fst).Sublist (events.map Prod.fst) := by
  induction events generalizing next with
  | nil => exact List.Sublist.refl _
  | cons e rest ih =>
    obtain ⟨t, e⟩ := e
    cases e with
    | get c => exact (ih _).cons_cons t
    | cancel j | drop j =>
      unfold patient
      split
      · exact (ih next).cons t
      · exact (ih next).cons_cons t

/-- Leaving out the events of a caller leaves nothing where there was nothing, since no event is
moved to an earlier moment. -/
theorem upTo_patient_of_late (i next : Nat) {events : List (Nat × CacheEvent)} {now : Nat}
    (h : ∀ e ∈ events, now < e.1) : upTo (patient i next events) now = [] := by
  refine upTo_of_late fun e he => ?_
  have hmoment : e.1 ∈ events.map Prod.fst :=
    (patient_moments i next events).subset (List.mem_map_of_mem he)
  obtain ⟨a, ha, hae⟩ := List.mem_map.mp hmoment
  exact hae ▸ h a ha

theorem upTo_patient (i next : Nat) {events : List (Nat × CacheEvent)} (h : Chronological events)
    (now : Nat) : upTo (patient i next events) now = patient i next (upTo events now) := by
  induction events generalizing next with
  | nil => rfl
  | cons e rest ih =>
    obtain ⟨hfirst, hrest⟩ := List.pairwise_cons.mp h
    by_cases hle : e.1 ≤ now
    · rw [upTo_cons_of_le rest hle]
      obtain ⟨t, e⟩ := e
      cases e with
      | get c =>
        unfold patient
        rw [← ih _ hrest]
        exact upTo_cons_of_le _ hle
      | cancel j | drop j =>
        unfold patient
        rw [← ih _ hrest]
        split
        · rfl
        · exact upTo_cons_of_le _ hle
    · have hlate : ∀ a ∈ e :: rest, now < a.1 := by
        intro a ha
        rcases List.mem_cons.mp ha with rfl | ha
        · exact Nat.lt_of_not_le hle
        · exact Nat.lt_of_lt_of_le (Nat.lt_of_not_le hle) (hfirst a ha)
      rw [upTo_patient_of_late i next hlate, upTo_of_late hlate]
      rfl

namespace CacheSession

/-- Two sessions with the same cache and callers, except that one caller may have fared differently.
They number their callers alike, and so a later event names the same caller in both. -/
structure Alike (i : Nat) (s s' : CacheSession α) : Prop where
  source : s.source = s'.source
  callers : s.waiters.length = s'.waiters.length
  others : ∀ j, j ≠ i → s.waiters[j]? = s'.waiters[j]?

namespace Alike

variable {i now : Nat} {s s' r : CacheSession α}

theorem refl (i : Nat) (s : CacheSession α) : Alike i s s := ⟨rfl, rfl, fun _ _ => rfl⟩

theorem symm (h : Alike i s s') : Alike i s' s :=
  ⟨h.source.symm, h.callers.symm, fun j hj => (h.others j hj).symm⟩

theorem trans (h : Alike i s s') (h' : Alike i s' r) : Alike i s r :=
  ⟨h.source.trans h'.source, h.callers.trans h'.callers,
    fun j hj => (h.others j hj).trans (h'.others j hj)⟩

theorem settle (h : Alike i s s') (now : Nat) : Alike i (s.settle now) (s'.settle now) := by
  refine ⟨congrArg (·.settle now) h.source, ?_, ?_⟩
  · show (List.map _ _).length = (List.map _ _).length
    rw [List.length_map, List.length_map, h.callers]
  · intro j hj
    show (List.map _ _)[j]? = (List.map _ _)[j]?
    rw [List.getElem?_map, List.getElem?_map, h.others j hj]

/-- Changing one caller leaves every other as it is, and the cache too: nothing is asked of it. -/
theorem modify (s : CacheSession α) (i : Nat) (f : Waiter α → Waiter α) :
    Alike i { s with waiters := s.waiters.modify i f } s := by
  refine ⟨rfl, List.length_modify _ _ _, ?_⟩
  intro j hj
  show (s.waiters.modify i f)[j]? = _
  exact List.getElem?_modify_ne _ _ (Ne.symm hj)

/-- Two sessions that are alike do the same with a new caller; only the caller who may fare
differently may bring another token.  What the cache answers does not depend on the token; what the
caller makes of the answer does. -/
theorem get (h : Alike i s s') (now : Nat) {c c' : Bool}
    (htoken : s.waiters.length ≠ i → c = c') :
    Alike i (s.apply now (.get c)) (s'.apply now (.get c')) := by
  refine ⟨?_, ?_, ?_⟩
  · rw [apply_source, apply_source, h.source]
  · rw [length_apply, length_apply, h.callers]
    rfl
  · intro j hj
    rw [apply_waiters, apply_waiters, h.source]
    rcases Nat.lt_trichotomy j s.waiters.length with hlt | rfl | hgt
    · rw [List.getElem?_append_left hlt, List.getElem?_append_left (h.callers ▸ hlt)]
      exact h.others j hj
    · rw [htoken hj, List.getElem?_concat_length, h.callers, List.getElem?_concat_length]
    · have hcount := h.callers
      rw [List.getElem?_eq_none, List.getElem?_eq_none]
      · rw [List.length_append, List.length_singleton]
        omega
      · rw [List.length_append, List.length_singleton]
        omega

/-- The same event keeps two sessions alike, also one that names the caller who fares
differently. -/
theorem apply (h : Alike i s s') (now : Nat) (e : CacheEvent) :
    Alike i (s.apply now e) (s'.apply now e) := by
  cases e with
  | get c => exact h.get now fun _ => rfl
  | cancel k | drop k =>
    refine ⟨h.source, ?_, ?_⟩
    · rw [length_apply, length_apply, h.callers]
    · intro j hj
      rw [apply_waiters, apply_waiters]
      show (s.waiters.modify k _)[j]? = (s'.waiters.modify k _)[j]?
      rw [List.getElem?_modify, List.getElem?_modify, h.others j hj]

end Alike

variable (settings : CacheSettings) (script : Script α)

variable {settings script} in
/-- A last event keeps two runs alike when the second leaves it out and it changes nothing for the
others, or when both have an event that does the same for them.  With one of the two alternatives
for each event the induction along the run goes through. -/
theorem alike_concat {i now t : Nat} {pre pre' last : List (Nat × CacheEvent)} {e : CacheEvent}
    (h : HappenedBy t pre) (h' : HappenedBy t pre') (hle : t ≤ now)
    (hlast : last = [] ∧ Alike i ((observed settings script pre t).apply t e)
        (observed settings script pre' t) ∨
      ∃ e', last = [(t, e')] ∧ Alike i ((observed settings script pre t).apply t e)
        ((observed settings script pre' t).apply t e')) :
    Alike i (observed settings script (pre ++ [(t, e)]) now)
      (observed settings script (pre' ++ last) now) := by
  rw [observed_concat h hle]
  rcases hlast with ⟨rfl, halike⟩ | ⟨e', rfl, halike⟩
  · rw [List.append_nil, ← observed_settle settings script h' hle]
    exact halike.settle now
  · rw [observed_concat h' hle]
    exact halike.settle now

/-- A caller who gives up changes nothing for the others: the run is, to them, the one in which this
caller never does.  The induction is along the run, and the only events to look at are those that
are left out. -/
theorem observed_patient (i : Nat) {now : Nat} {events : List (Nat × CacheEvent)}
    (h : HappenedBy now events) :
    Alike i (observed settings script events now)
      (observed settings script (patient i 0 events) now) := by
  refine HappenedBy.induction ?_ ?_ h
  · intro now
    exact Alike.refl i _
  · intro now pre t e hpre hle ih
    have hpatient : HappenedBy t (patient i 0 pre) := hpre.of_sublist (patient_moments i 0 pre)
    rw [patient_append, Nat.zero_add]
    refine alike_concat hpre hpatient hle ?_
    cases e with
    | get c =>
      refine .inr ⟨_, rfl, ih.get t fun hother => ?_⟩
      rw [length_waiters] at hother
      exact (if_neg hother).symm
    | cancel j | drop j =>
      by_cases hj : j = i
      · -- the event is about the caller himself, and left out
        subst hj
        exact .inl ⟨if_pos rfl, (Alike.modify _ j _).trans ih⟩
      · exact .inr ⟨_, if_neg hj, ih.apply t _⟩

/-- Two runs that are the same for everybody but one caller, at every moment: in the calls that have
started, in the cache, and in what each other caller has been given. -/
structure SameForOthers (i : Nat) (events events' : List (Nat × CacheEvent)) : Prop where
  calls : callsOf settings script events = callsOf settings script events'
  source : ∀ now, (observed settings script (upTo events now) now).source =
    (observed settings script (upTo events' now) now).source
  others : ∀ now j, j ≠ i → (observed settings script (upTo events now) now).waiters[j]? =
    (observed settings script (upTo events' now) now).waiters[j]?

/-- **Giving up is private**: when two runs have the same callers at the same moments and differ
only in how one caller gives up, the same calls start in both, at the same moments; and at every
moment the cache and every other caller are the same.  The one caller may be the one who started the
call.  The two sessions are compared event by event (`Alike`), and the events of the one caller
change nothing but its own state. -/
theorem run_private (i : Nat) {events events' : List (Nat × CacheEvent)}
    (h : Chronological events) (h' : Chronological events')
    (hsame : patient i 0 events = patient i 0 events') :
    SameForOthers settings script i events events' := by
  have hmoment (now : Nat) : Alike i (observed settings script (upTo events now) now)
      (observed settings script (upTo events' now) now) := by
    have hupTo : patient i 0 (upTo events now) = patient i 0 (upTo events' now) := by
      rw [← upTo_patient i 0 h, ← upTo_patient i 0 h', hsame]
    have halike := observed_patient settings script i (happenedBy_upTo h now)
    have halike' := observed_patient settings script i (happenedBy_upTo h' now)
    rw [hupTo] at halike
    exact halike.trans halike'.symm
  refine ⟨?_, fun now => (hmoment now).source, fun now j hj => (hmoment now).others j hj⟩
  -- both runs have started all their calls when both are over
  obtain ⟨now, hnow⟩ := h.happenedBy
  obtain ⟨now', hnow'⟩ := h'.happenedBy
  have hall : upTo events (max now now') = events :=
    upTo_of_happenedBy (hnow.mono (Nat.le_max_left _ _))
  have hall' : upTo events' (max now now') = events' :=
    upTo_of_happenedBy (hnow'.mono (Nat.le_max_right _ _))
  have hsource := (hmoment (max now now')).source
  rw [hall, hall'] at hsource
  exact congrArg (·.fetches) hsource

/-- The caller who starts the call may give up at once or be dropped: it is all the same to the
caller who joins.  One run has the token cancelled from the outset, and the other has the task
dropped while the call runs. -/
theorem sameForOthers_of_starter_gone :
    let settings : CacheSettings := ⟨.ofMillis 50, .ofMillis 30, by decide, by decide⟩
    let script : Script Nat := ⟨[⟨some 10, .value 7⟩]⟩
    let cancelled : List (Nat × CacheEvent) := [(0, .get true), (3, .get false), (10, .drop 0)]
    let dropped : List (Nat × CacheEvent) := [(0, .get false), (2, .drop 0), (3, .get false)]
    Chronological cancelled ∧ Chronological dropped ∧
      patient 0 0 cancelled = patient 0 0 dropped ∧
      SameForOthers settings script 0 cancelled dropped :=
  ⟨by decide, by decide, by decide, run_private _ _ 0 (by decide) (by decide) (by decide)⟩

end CacheSession

end Telemetry
