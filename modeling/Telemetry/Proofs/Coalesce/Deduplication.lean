import Telemetry.Proofs.Coalesce.CallSession

/-! # One call per key at a time

In every run of a call group the calls for one key follow one another.  A caller joins the last of
them if it still runs and starts the next otherwise, and then gets the outcome of that call.  A call
goes on though everybody who waited for it has been dropped, and keeps its place in the table until
it ends, so that whoever comes meanwhile joins it.

What the calls for a key are, and what a caller for it gets, follows from the callers for this key
alone (`flightsOn_eq`), so keys do not disturb one another: `Flight.serving` and `Flight.addCaller`
compute the flights of a key without looking at any other.  With this the promise about separate
keys is one about equal inputs of one function.

That nobody is served by an outcome that somebody has already is a matter of time
(`servingWork_ne`): a caller is served by a call that starts with it or still runs, and an outcome
is handed out only when the call is over.
-/

namespace Telemetry

variable {κ α : Type}

/-- The flight that a caller finds at a moment when certain flights have started for its key, or
else the one that it starts; and whether it joins.  A flight that ends at this very moment is over,
and is not joined any more. -/
def Flight.serving (flights : List (Flight α)) (now : Nat) (work : Call α) : Flight α × Bool :=
  match flights.getLast?.filter fun f => (f.endedBy now).isNone with
  | some f => (f, true)
  | none => (.ofCall work now, false)

/-- The flights for a key after one more caller: as they were if it joins, and one more
otherwise. -/
def Flight.addCaller (flights : List (Flight α)) (c : Nat × Call α) : List (Flight α) :=
  let (f, joined) := Flight.serving flights c.1 c.2
  if joined then flights else flights ++ [f]

/-- A flight carries a call from a moment on: it ends when the call does, if that ever does, with
its value, with its failure, or with an internal failure that quotes its panic. -/
structure Flight.Carries (f : Flight α) (work : Call α) (t : Nat) : Prop where
  started : f.started = t
  ends : ∀ delay, work.delay = some delay → f.ends = some (t + delay)
  never : work.delay = none → f.ends = none
  outcome : match work.ending with
    | .value v => f.outcome = .ok v
    | .failure e => f.outcome = .error e
    | .panic m => f.outcome = .error (.internal
        ("coalesced call did not complete: task # panicked with message " ++ Text.quoted m))

theorem Flight.carries_ofCall (work : Call α) (t : Nat) : (ofCall work t).Carries work t where
  started := rfl
  ends delay hdelay := by
    unfold ofCall
    rw [hdelay]
    rfl
  never hdelay := by
    unfold ofCall
    rw [hdelay]
    rfl
  outcome := by cases h : work.ending <;> simp [ofCall, Ending.shared, h]

namespace CallSession

variable [DecidableEq κ]

/-- The callers for a key, each with its moment and what it would start.  What a caller would start
matters only if it finds no flight. -/
def callersOn (k : κ) (events : List (Nat × GroupEvent κ α)) : List (Nat × Call α) :=
  events.filterMap fun e => match e.2 with
    | .run k' work => if k' = k then some (e.1, work) else none
    | _ => none

variable [Ord κ] [Std.TransOrd κ] [Std.LawfulEqOrd κ]

/-- The calls that a run has started for a key, in order, with the numbers that they have in the
group. -/
def worksOn (k : κ) (events : List (Nat × GroupEvent κ α)) : List (Work κ α) :=
  (worksOf events).filter (·.key = k)

/-- The flights of the calls for a key. -/
def flightsOn (k : κ) (events : List (Nat × GroupEvent κ α)) : List (Flight α) :=
  (worksOn k events).map (·.flight)

/-- The last call for a key has not ended.  All earlier calls for the key are over by then, so that
there is no other that could be meant. -/
def InFlight (k : κ) (events : List (Nat × GroupEvent κ α)) (now : Nat) (w : Work κ α) : Prop :=
  (worksOn k events).getLast? = some w ∧ w.flight.endedBy now = none

/-- The call whose outcome a caller gets: the last one for its key once it has come.  Whether the
caller has started it or has joined it, it is the last in the record. -/
def servingWork (pre : List (Nat × GroupEvent κ α)) (t : Nat) (k : κ) (work : Call α) :
    Option (Work κ α) :=
  (worksOn k (pre ++ [(t, .run k work)])).getLast?

variable {pre post events : List (Nat × GroupEvent κ α)} {now t : Nat} {k : κ} {w : Work κ α}
  {work : Call α}

theorem mem_worksOn : w ∈ worksOn k events ↔ w ∈ worksOf events ∧ w.key = k := by
  unfold worksOn
  rw [List.mem_filter, decide_eq_true_iff]

/-- The calls for a key follow one another, whatever happens meanwhile under other keys. -/
theorem worksOn_apart (h : HappenedBy now events) (k : κ) :
    (worksOn k events).Pairwise Work.Before := by
  refine ((observed_consistent h).apart.filter _).imp_of_mem fun {a b} ha hb hab => hab ?_
  rw [(mem_worksOn.mp ha).2, (mem_worksOn.mp hb).2]

/-- **The table lists the last call for each key**, as long as it runs.  The table itself is an
internal matter; through this it is seen to say when a caller joins. -/
theorem find?_eq_some (h : HappenedBy now events) {e : Entry (Flight α)} :
    (observed events now).group.find? k = some e ↔ InFlight k events now ⟨k, e.id, e.call⟩ := by
  have hc := observed_consistent h
  rw [hc.listed, hc.mem_running_iff (settled_observed events now)]
  constructor
  · rintro ⟨hw, hgoes⟩
    refine ⟨getLast?_of_pairwise (worksOn_apart h k) (mem_worksOn.mpr ⟨hw, rfl⟩) ?_, hgoes⟩
    -- with a later call for the key this one would be over by now
    rintro b hb ⟨u, hu, hle⟩
    have hstarted := hc.started b (mem_worksOn.mp hb).1
    rw [Flight.endedBy_eq_some.mpr ⟨hu, Nat.le_trans hle hstarted⟩] at hgoes
    cases hgoes
  · rintro ⟨hlast, hgoes⟩
    exact ⟨(mem_worksOn.mp (List.mem_of_getLast? hlast)).1, hgoes⟩

theorem find?_of_inFlight (h : HappenedBy now events) (hw : InFlight k events now w) :
    (observed events now).group.find? k = some ⟨w.id, w.flight⟩ := by
  have hkey := (mem_worksOn.mp (List.mem_of_getLast? hw.1)).2
  rw [find?_eq_some h]
  subst hkey
  exact hw

theorem find?_of_not_inFlight (h : HappenedBy now events) (hnone : ∀ w, ¬ InFlight k events now w) :
    (observed events now).group.find? k = none := by
  cases hfind : (observed events now).group.find? k with
  | none => rfl
  | some e => exact absurd ((find?_eq_some h).mp hfind) (hnone _)

theorem isInFlight_iff (h : HappenedBy now events) (k : κ) :
    (observed events now).group.isInFlight k = true ↔ ∃ w, InFlight k events now w := by
  rw [CallGroup.isInFlight_iff]
  constructor
  · rintro ⟨e, he⟩
    exact ⟨_, (find?_eq_some h).mp he⟩
  · rintro ⟨w, hw⟩
    exact ⟨_, find?_of_inFlight h hw⟩

/-! ## Callers -/

/-- A caller for a key with a call in flight joins it: the group is as before, and what the caller
has brought is not started. -/
theorem apply_joins (h : HappenedBy t pre) (hw : InFlight k pre t w) (work : Call α) :
    (observed pre t).apply t (.run k work) =
      { observed pre t with
        answers := (observed pre t).answers ++ [.caller (.waiting w.flight true)] } := by
  show (observed pre t).call t k work = _
  unfold call
  rw [find?_of_inFlight h hw]

/-- Any other caller starts its own, under the next number, and waits for it like everybody who
joins. -/
theorem apply_starts (h : HappenedBy t pre) (hnone : ∀ w, ¬ InFlight k pre t w)
    (work : Call α) :
    ((observed pre t).apply t (.run k work)).works =
        worksOf pre ++ [⟨k, (worksOf pre).length, .ofCall work t⟩] ∧
      ((observed pre t).apply t (.run k work)).answers =
        (observed pre t).answers ++ [.caller (.waiting (.ofCall work t) false)] := by
  have hnext := (observed_consistent h).next
  rw [works_observed] at hnext
  show ((observed pre t).call t k work).works = _ ∧ ((observed pre t).call t k work).answers = _
  unfold call
  rw [find?_of_not_inFlight h hnone, ← hnext]
  exact ⟨rfl, rfl⟩

theorem worksOf_joins (h : HappenedBy t pre) (hw : InFlight k pre t w) (work : Call α) :
    worksOf (pre ++ [(t, .run k work)]) = worksOf pre := by
  rw [worksOf_concat, apply_joins h hw]
  rfl

theorem worksOf_starts (h : HappenedBy t pre) (hnone : ∀ w, ¬ InFlight k pre t w)
    (work : Call α) :
    worksOf (pre ++ [(t, .run k work)]) =
      worksOf pre ++ [⟨k, (worksOf pre).length, .ofCall work t⟩] := by
  rw [worksOf_concat, (apply_starts h hnone work).1]

theorem worksOn_starts (h : HappenedBy t pre) (hnone : ∀ w, ¬ InFlight k pre t w)
    (work : Call α) :
    worksOn k (pre ++ [(t, .run k work)]) =
      worksOn k pre ++ [⟨k, (worksOf pre).length, .ofCall work t⟩] := by
  unfold worksOn
  rw [worksOf_starts h hnone, List.filter_append]
  simp

/-- The calls of a run begin with the calls of its first events.  What has been started is never
taken out of the record. -/
theorem worksOf_append (h : HappenedBy now (pre ++ post)) :
    worksOf pre <+: worksOf (pre ++ post) := by
  induction post using List.reverseRecOn generalizing now with
  | nil => exact ⟨[], by rw [List.append_nil, List.append_nil]⟩
  | append_singleton mid e ih =>
    rw [← List.append_assoc] at h ⊢
    obtain ⟨hpre, -⟩ := HappenedBy.concat_iff.mp h
    refine (ih hpre).trans ?_
    obtain ⟨t, e⟩ := e
    cases e with
    | run k work =>
      by_cases hw : ∃ w, InFlight k (pre ++ mid) t w
      · obtain ⟨w, hw⟩ := hw
        exact ⟨[], (List.append_nil _).trans (worksOf_joins hpre hw work).symm⟩
      · rw [worksOf_starts hpre (not_exists.mp hw)]
        exact List.prefix_append _ _
    | isInFlight | count | drop =>
      exact ⟨[], (List.append_nil _).trans (worksOf_others fun _ _ h => by cases h).symm⟩

/-! ## Keys do not disturb one another -/

theorem flightsOn_getLast? (events : List (Nat × GroupEvent κ α)) (k : κ) :
    (flightsOn k events).getLast? = (worksOn k events).getLast?.map (·.flight) :=
  List.getLast?_map

theorem serving_of_inFlight (hw : InFlight k events now w) (work : Call α) :
    Flight.serving (flightsOn k events) now work = (w.flight, true) := by
  unfold Flight.serving
  rw [flightsOn_getLast?, hw.1, Option.map_some, Option.filter_some_pos]
  rw [hw.2]
  rfl

theorem serving_of_not_inFlight (hnone : ∀ w, ¬ InFlight k events now w) (work : Call α) :
    Flight.serving (flightsOn k events) now work = (.ofCall work now, false) := by
  unfold Flight.serving
  rw [flightsOn_getLast?]
  cases hlast : (worksOn k events).getLast? with
  | none => rfl
  | some w =>
    cases hend : w.flight.endedBy now with
    | none => exact absurd ⟨hlast, hend⟩ (hnone w)
    | some u =>
      rw [Option.map_some, Option.filter_some_neg]
      rw [hend]
      rfl

/-- Whether a key is in flight follows from its flights.  In particular it does not depend on what
runs under other keys. -/
theorem isInFlight_eq (h : HappenedBy now events) (k : κ) :
    (observed events now).group.isInFlight k =
      (flightsOn k events).getLast?.any fun f => (f.endedBy now).isNone := by
  rw [flightsOn_getLast?, Bool.eq_iff_iff, isInFlight_iff h, Option.any_map, Option.any_eq_true]
  unfold InFlight
  simp

/-- A caller gets the outcome of the flight that serves its key, unless it is dropped first. -/
theorem answer_run (h : HappenedBy now (pre ++ (t, .run k work) :: post)) :
    (observed (pre ++ (t, .run k work) :: post) now).answers[pre.length]? =
      some (.caller ((Flight.serving (flightsOn k pre) t work).1.verdict
        (Flight.serving (flightsOn k pre) t work).2 (dropsOf pre.length post) now)) := by
  obtain ⟨hpre, -⟩ := h.before
  by_cases hw : ∃ w, InFlight k pre t w
  · obtain ⟨w, hw⟩ := hw
    rw [serving_of_inFlight hw]
    exact answer_of_waiting h (by rw [apply_joins hpre hw])
  · rw [serving_of_not_inFlight (not_exists.mp hw)]
    exact answer_of_waiting h (apply_starts hpre (not_exists.mp hw) work).2

/-- **The flights for a key come from the callers for this key.**  The numbers of the calls do not:
they are counted over the whole group. -/
theorem flightsOn_eq (h : HappenedBy now events) (k : κ) :
    flightsOn k events = (callersOn k events).foldl Flight.addCaller [] := by
  refine HappenedBy.induction (motive := fun _ events =>
    flightsOn k events = (callersOn k events).foldl Flight.addCaller []) ?_ ?_ h
  · intro _
    rfl
  · intro _ pre t e hpre _ ih
    have hcallers : callersOn k (pre ++ [(t, e)]) = callersOn k pre ++ callersOn k [(t, e)] :=
      List.filterMap_append
    have hsame (hworks : worksOf (pre ++ [(t, e)]) = worksOf pre) :
        flightsOn k (pre ++ [(t, e)]) = flightsOn k pre := by
      unfold flightsOn worksOn
      rw [hworks]
    rw [hcallers, List.foldl_append, ← ih]
    cases e with
    | isInFlight | count | drop => exact hsame (worksOf_others fun _ _ h => by cases h)
    | run k' work =>
      by_cases hk : k' = k
      · subst hk
        have hone : callersOn k' [(t, (.run k' work : GroupEvent κ α))] = [(t, work)] := by
          simp [callersOn]
        rw [hone]
        show _ = Flight.addCaller _ _
        unfold Flight.addCaller
        by_cases hw : ∃ w, InFlight k' pre t w
        · obtain ⟨w, hw⟩ := hw
          rw [serving_of_inFlight hw]
          exact hsame (worksOf_joins hpre hw work)
        · rw [serving_of_not_inFlight (not_exists.mp hw)]
          unfold flightsOn
          rw [worksOn_starts hpre (not_exists.mp hw), List.map_append]
          rfl
      · -- a call for another key may start, but it is not listed here
        have hone : callersOn k [(t, (.run k' work : GroupEvent κ α))] = [] := by
          simp [callersOn, hk]
        rw [hone]
        by_cases hw : ∃ w, InFlight k' pre t w
        · obtain ⟨w, hw⟩ := hw
          exact hsame (worksOf_joins hpre hw work)
        · unfold flightsOn worksOn
          rw [worksOf_starts hpre (not_exists.mp hw)]
          simp [hk]

/-- The keys in flight, and how many they are: the table has one entry for each. -/
theorem inFlight_keys (h : HappenedBy now events) :
    ∃ keys : List κ, keys.Nodup ∧ (∀ k, k ∈ keys ↔ ∃ w, InFlight k events now w) ∧
      (observed events now).group.inFlightCount = keys.length := by
  refine ⟨(observed events now).group.flights.keys, SortedMap.nodup_keys _, fun k => ?_,
    SortedMap.size_eq _⟩
  rw [SortedMap.mem_keys]
  exact isInFlight_iff h k

theorem servingWork_joins (h : HappenedBy t pre) (hw : InFlight k pre t w) (work : Call α) :
    servingWork pre t k work = some w := by
  unfold servingWork worksOn
  rw [worksOf_joins h hw]
  exact hw.1

theorem servingWork_starts (h : HappenedBy t pre) (hnone : ∀ w, ¬ InFlight k pre t w)
    (work : Call α) :
    servingWork pre t k work = some ⟨k, (worksOf pre).length, .ofCall work t⟩ := by
  unfold servingWork
  rw [worksOn_starts h hnone, List.getLast?_concat]

/-- The flight of the call that serves a caller is the one that is computed from the flights of its
key. -/
theorem serving_eq (h : HappenedBy t pre) (hw : servingWork pre t k work = some w) :
    (Flight.serving (flightsOn k pre) t work).1 = w.flight := by
  by_cases hflies : ∃ w, InFlight k pre t w
  · obtain ⟨v, hv⟩ := hflies
    rw [servingWork_joins h hv] at hw
    rw [serving_of_inFlight hv, Option.some.inj hw]
  · rw [servingWork_starts h (not_exists.mp hflies)] at hw
    rw [serving_of_not_inFlight (not_exists.mp hflies), ← Option.some.inj hw]

/-- Who has an outcome has it because the flight is over: being dropped yields none. -/
theorem endedBy_of_verdict {f : Flight α} {joined joined' : Bool} {drops : List Nat} {u : Nat}
    {r : Result α} (h : f.verdict joined drops now = .done u r joined') :
    f.endedBy now = some u := by
  unfold Flight.verdict at h
  split at h
  · cases h
  · split at h
    next e he =>
      injection h with hu
      rw [he, hu]
    next => cases h

/-- A caller is served by a new call, or by one that still runs.  In neither case is the call over
when the caller comes. -/
theorem servingWork_cases (h : HappenedBy t pre) (hw : servingWork pre t k work = some w) :
    w.id = (worksOf pre).length ∨ w ∈ worksOf pre ∧ w.flight.endedBy t = none := by
  by_cases hflies : ∃ w, InFlight k pre t w
  · obtain ⟨v, hv⟩ := hflies
    rw [servingWork_joins h hv] at hw
    obtain rfl := Option.some.inj hw
    exact .inr ⟨(mem_worksOn.mp (List.mem_of_getLast? hv.1)).1, hv.2⟩
  · rw [servingWork_starts h (not_exists.mp hflies)] at hw
    obtain rfl := Option.some.inj hw
    exact .inl rfl

/-- A caller is not served by a call whose outcome somebody has already.  What is over when the
second caller comes, because the first has its outcome, cannot be what serves the second. -/
theorem servingWork_ne {mid : List (Nat × GroupEvent κ α)} {t' u : Nat} {k' : κ}
    {work' : Call α} {r : Result α} {joined : Bool} {w' : Work κ α}
    (h : HappenedBy t' (pre ++ (t, .run k work) :: mid))
    (hdone : (observed (pre ++ (t, .run k work) :: mid) t').answers[pre.length]? =
      some (.caller (.done u r joined)))
    (hw : servingWork pre t k work = some w)
    (hw' : servingWork (pre ++ (t, .run k work) :: mid) t' k' work' = some w') :
    w.id ≠ w'.id := by
  have hc := observed_consistent h
  rw [answer_run h, serving_eq h.before.1 hw] at hdone
  have hover := endedBy_of_verdict (GroupAnswer.caller.inj (Option.some.inj hdone))
  have hmem : w ∈ worksOf (pre ++ (t, .run k work) :: mid) := by
    have hstarted := (mem_worksOn.mp (List.mem_of_getLast? hw)).1
    rw [List.append_cons] at h ⊢
    exact (worksOf_append h).subset hstarted
  rcases servingWork_cases h hw' with hnew | ⟨hmem', hgoes⟩
  · -- a new call has a number that no earlier one has
    have hlt := hc.id_lt hmem
    rw [works_observed] at hlt
    omega
  · intro hid
    rw [← hc.eq_of_id hmem hmem' hid, hover] at hgoes
    cases hgoes

/-! ## The whole -/

/-- What is promised of a run of a call group.  It is said of every place in the run at which
something is asked, and of every moment at which one looks. -/
structure Deduplicates (events : List (Nat × GroupEvent κ α)) : Prop where
  /-- The calls for one key follow one another. -/
  apart : ∀ k, (worksOn k events).Pairwise Work.Before
  /-- At every moment just those calls run that have started and not ended, whoever
  still waits for them, and one for each key at most. -/
  running : ∀ pre post now, events = pre ++ post → HappenedBy now pre →
    (∀ w, w ∈ (observed pre now).running ↔
      w ∈ worksOf pre ∧ w.flight.endedBy now = none) ∧
    (observed pre now).running.Pairwise fun w w' => w.key ≠ w'.key
  /-- A key is in flight while the last call for it has not ended. -/
  inFlight : ∀ pre post now, events = pre ++ post → HappenedBy now pre → ∀ k,
    (observed pre now).group.isInFlight k = true ↔ ∃ w, InFlight k pre now w
  /-- The number of calls in flight is the number of such keys. -/
  count : ∀ pre post now, events = pre ++ post → HappenedBy now pre →
    ∃ keys : List κ, keys.Nodup ∧ (∀ k, k ∈ keys ↔ ∃ w, InFlight k pre now w) ∧
      (observed pre now).group.inFlightCount = keys.length
  /-- Whoever asks is told what holds at that moment. -/
  asked : ∀ pre t k post now, events = pre ++ (t, .isInFlight k) :: post →
    HappenedBy now events →
    (observed events now).answers[pre.length]? =
      some (.isInFlight ((observed pre t).group.isInFlight k))
  counted : ∀ pre t post now, events = pre ++ (t, .count) :: post → HappenedBy now events →
    (observed events now).answers[pre.length]? =
      some (.count (observed pre t).group.inFlightCount)
  /-- A caller who finds a flight for its key starts nothing and gets the outcome of
  this flight. -/
  joins : ∀ pre t k work post now w, events = pre ++ (t, .run k work) :: post →
    HappenedBy now events → InFlight k pre t w →
    worksOf (pre ++ [(t, .run k work)]) = worksOf pre ∧
    (observed events now).answers[pre.length]? =
      some (.caller (w.flight.verdict true (dropsOf pre.length post) now))
  /-- A caller who finds none starts its own call, whose flight carries it, and gets the outcome
  of this flight. -/
  starts : ∀ pre t k work post now, events = pre ++ (t, .run k work) :: post →
    HappenedBy now events → (∀ w, ¬ InFlight k pre t w) →
    (Flight.ofCall work t).Carries work t ∧
    worksOf (pre ++ [(t, .run k work)]) =
      worksOf pre ++ [⟨k, (worksOf pre).length, .ofCall work t⟩] ∧
    (observed events now).answers[pre.length]? =
      some (.caller ((Flight.ofCall work t).verdict false (dropsOf pre.length post) now))
  /-- Nothing else starts a call, and a call once started stays in the record. -/
  others : ∀ pre t e post, events = pre ++ (t, e) :: post → (∀ k work, e ≠ .run k work) →
    worksOf (pre ++ [(t, e)]) = worksOf pre
  kept : ∀ pre post, events = pre ++ post → worksOf pre <+: worksOf events
  /-- Who comes when somebody has the outcome of a call already is not served by
  that call. -/
  fresh : ∀ pre t k work mid t' k' work' post u r joined w w',
    events = pre ++ (t, .run k work) :: mid ++ (t', .run k' work') :: post →
    (observed (pre ++ (t, .run k work) :: mid) t').answers[pre.length]? =
      some (.caller (.done u r joined)) →
    servingWork pre t k work = some w →
    servingWork (pre ++ (t, .run k work) :: mid) t' k' work' = some w' → w.id ≠ w'.id
  /-- The calls for a key, whether it is in flight, and what its callers get are the
  same in every other run with the same callers for this key. -/
  separate : ∀ k events', Chronological events' →
    (callersOn k events = callersOn k events' → flightsOn k events = flightsOn k events' ∧
      ∀ now, HappenedBy now events → HappenedBy now events' →
        (observed events now).group.isInFlight k = (observed events' now).group.isInFlight k) ∧
    ∀ pre pre' t work post post' now, events = pre ++ (t, .run k work) :: post →
      events' = pre' ++ (t, .run k work) :: post' → HappenedBy now events →
      HappenedBy now events' → callersOn k pre = callersOn k pre' →
      dropsOf pre.length post = dropsOf pre'.length post' →
      (observed events now).answers[pre.length]? =
        (observed events' now).answers[pre'.length]?

/-- **One call per key at a time**: in every run of every call group, over any keys that are
ordered.  What is said of a run is said of its flights, which are a function of the events so far: a
request joins the flight of its key if that has not ended, and starts one otherwise.  Each promise
is first shown of a run and its next event, and then holds of every run that goes on from there,
since no event changes what has been served. -/
theorem run_deduplicates {events : List (Nat × GroupEvent κ α)} (h : Chronological events) :
    Deduplicates events := by
  obtain ⟨last, hlast⟩ := h.happenedBy
  constructor
  case apart =>
    exact worksOn_apart hlast
  case running =>
    intro pre _ now _ hpre
    have hc := observed_consistent hpre
    exact ⟨fun _ => hc.mem_running_iff (settled_observed pre now), hc.keys_apart⟩
  case inFlight =>
    intro pre _ now _ hpre
    exact isInFlight_iff hpre
  case count =>
    intro pre _ now _ hpre
    exact inFlight_keys hpre
  case asked =>
    intro pre t k post now hsplit hnow
    subst hsplit
    exact answer_fixed hnow List.getLast?_concat fun _ => rfl
  case counted =>
    intro pre t post now hsplit hnow
    subst hsplit
    exact answer_fixed hnow List.getLast?_concat fun _ => rfl
  case joins =>
    intro pre t k work post now w hsplit hnow hw
    subst hsplit
    refine ⟨worksOf_joins hnow.before.1 hw work, ?_⟩
    rw [answer_run hnow, serving_of_inFlight hw]
  case starts =>
    intro pre t k work post now hsplit hnow hnone
    subst hsplit
    refine ⟨Flight.carries_ofCall work t, worksOf_starts hnow.before.1 hnone work, ?_⟩
    rw [answer_run hnow, serving_of_not_inFlight hnone]
  case others =>
    intro pre t e _ _ he
    exact worksOf_others he
  case kept =>
    intro pre post hsplit
    subst hsplit
    exact worksOf_append hlast
  case fresh =>
    intro pre t k work mid t' k' work' post u r joined w w' hsplit hdone hw hw'
    subst hsplit
    exact servingWork_ne hlast.before.1 hdone hw hw'
  -- runs with the same callers of a key have the same flights on it, whatever else is called for
  case separate =>
    intro k events' h'
    obtain ⟨last', hlast'⟩ := h'.happenedBy
    constructor
    · intro hcallers
      have hflights : flightsOn k events = flightsOn k events' := by
        rw [flightsOn_eq hlast, flightsOn_eq hlast', hcallers]
      refine ⟨hflights, fun now hnow hnow' => ?_⟩
      rw [isInFlight_eq hnow, isInFlight_eq hnow', hflights]
    · intro pre pre' t work post post' now hsplit hsplit' hnow hnow' hcallers hdrops
      subst hsplit
      subst hsplit'
      rw [answer_run hnow, answer_run hnow', flightsOn_eq hnow.before.1,
        flightsOn_eq hnow'.before.1, hcallers, hdrops]

/-- Two keys; the caller who starts the first call is dropped, and the call goes on and serves the
one who has joined it.  At the moment of its end the key is free again. -/
theorem deduplicates_of_dropped_starter :
    let events : List (Nat × GroupEvent String Nat) :=
      [(0, .run "cpu" ⟨some 10, .value 7⟩), (2, .run "gpu" ⟨none, .value 1⟩),
        (3, .run "cpu" ⟨some 1, .value 8⟩), (4, .drop 0), (5, .count), (9, .isInFlight "cpu"),
        (10, .run "cpu" ⟨some 5, .panic "lost"⟩)]
    Chronological events ∧
      (worksOf events).map (fun w => (w.key, w.flight.started, w.flight.ends)) =
        [("cpu", 0, some 10), ("gpu", 2, none), ("cpu", 10, some 15)] ∧
      Deduplicates events :=
  ⟨by decide, by decide +kernel, run_deduplicates (by decide)⟩

end CallSession

end Telemetry
