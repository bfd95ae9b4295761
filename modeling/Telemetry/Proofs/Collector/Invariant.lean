import Telemetry.Proofs.Collector.Events
import Telemetry.Proofs.Collector.Succession

/-! # What a collector has come to

One invariant says what holds of a collector between events, whatever its providers do: every lane
is sound, nothing that is due is missing, the loop's next round is still to come, and what the loop
waits for are collections of the sources (`Collector.Sound`).  It has a part for the sources
(`FanOut.Sound`) and one for the loop beside them (`CollectLoop.Sound`).

Each operation keeps it, and starts collections only at the moments of its rounds (`FanOut.Grown`).
The second fact is stated beside the first because it is what a cancelled loop is known by: whatever
starts after the cancellation was started by a round of somebody else.

The rounds of a loop up to a moment are not counted by anything but time, so that what all of them
keep is proved by an induction of its own (`CollectLoop.advance_induction`), which ends when the
next round lies beyond the moment.
-/

namespace Telemetry

namespace FanOut

/-- What the sources have come to by a moment, for a policy and providers that nobody had asked
before.  The last field says that the state is settled: a collection in flight has not ended. -/
structure Sound (p : CollectPolicy) (providers : SortedMap String Provider) (now : Nat)
    (s : FanOut) : Prop where
  linked : s.Linked
  policy : s.policy = p
  sources : ∀ name, (s.providers.find? name).isSome = (providers.find? name).isSome
  lanes : ∀ name provider, providers.find? name = some provider →
    ∃ past, (s.lane name).Sound p name provider now past
  settled : ∀ name c, (s.lane name).flight = some c → now < c.ends

/-- From one state to another, the collections that were started at certain moments have come in
addition.  Nothing is taken from the record of any source. -/
def Grown (moments : List Nat) (s s' : FanOut) : Prop :=
  ∀ name, ∃ more, (s'.lane name).collections = (s.lane name).collections ++ more ∧
    ∀ c ∈ more, c.started ∈ moments

variable {p : CollectPolicy} {providers : SortedMap String Provider} {now later : Nat}
  {s s' s'' : FanOut} {name : String} {c : Collection}

namespace Grown

theorem refl (s : FanOut) : Grown [] s s :=
  fun _ => ⟨[], (List.append_nil _).symm, fun _ h => (by cases h)⟩

theorem trans {moments moments' : List Nat} (h : Grown moments s s') (h' : Grown moments' s' s'') :
    Grown (moments ++ moments') s s'' := by
  intro name
  obtain ⟨more, hs', hmore⟩ := h name
  obtain ⟨more', hs'', hmore'⟩ := h' name
  refine ⟨more ++ more', by rw [hs'', hs', List.append_assoc], ?_⟩
  exact List.forall_mem_append.mpr ⟨fun c hc => List.mem_append_left _ (hmore c hc),
    fun c hc => List.mem_append_right _ (hmore' c hc)⟩

theorem mem {moments : List Nat} (h : Grown moments s s') (hc : c ∈ (s.lane name).collections) :
    c ∈ (s'.lane name).collections := by
  obtain ⟨more, hs', -⟩ := h name
  rw [hs']
  exact List.mem_append_left _ hc

end Grown

theorem sound_create (hfresh : ∀ name provider, providers.find? name = some provider →
    provider.Fresh) (p : CollectPolicy) (now : Nat) :
    (create p providers).Sound p providers now where
  linked := linked_create p providers
  policy := rfl
  sources _ := rfl
  lanes name provider hprovider := by
    rw [lane_create, hprovider]
    exact ⟨[], .create (hfresh name provider hprovider) p name now⟩
  settled _ _ h := by cases h

namespace Sound

/-- Only configured sources have collections: a round reaches the sources that are there, and none
is added later. -/
theorem known (h : s.Sound p providers now) (hc : c ∈ (s.lane name).collections) :
    ∃ provider, providers.find? name = some provider := by
  obtain ⟨hmem, hsource⟩ := List.mem_filter.mp hc
  obtain ⟨e, he, rfl⟩ := List.mem_map.mp hmem
  have hknown := h.linked.known e he
  rw [h.sources, of_decide_eq_true hsource] at hknown
  exact Option.isSome_iff_exists.mp hknown

/-- Every collection keeps within its bounds, and has started by now. -/
theorem kept (h : s.Sound p providers now) (hc : c ∈ (s.lane name).collections) :
    c.source = name ∧ c.Kept p ∧ c.started ≤ now := by
  obtain ⟨provider, hprovider⟩ := h.known hc
  obtain ⟨past, hlane⟩ := h.lanes name provider hprovider
  exact ⟨(hlane.kept hc).1, (hlane.kept hc).2, hlane.begun c hc⟩

theorem settle (h : s.Sound p providers now) (hle : now ≤ later) :
    (s.settle later).Sound p providers later ∧ Grown [] s (s.settle later) := by
  have hlane (name : String) : (s.settle later).lane name = (s.lane name).settle later :=
    lane_land h.linked _ name
  refine ⟨⟨h.linked.land _, ?_, fun name => ?_, fun name provider hprovider => ?_,
    fun name c hc => ?_⟩, fun name => ?_⟩
  · unfold FanOut.settle
    rw [policy_land, h.policy]
  · unfold FanOut.settle
    rw [providers_land, h.sources]
  · obtain ⟨past, hsound⟩ := h.lanes name provider hprovider
    rw [hlane]
    exact hsound.settle hle
  · rw [hlane] at hc
    exact Lane.lt_ends_of_settle hc
  · rw [hlane]
    exact Grown.refl s name

theorem round (h : s.Sound p providers now) (hle : now ≤ later) (armed : Option Nat) :
    (s.round later armed).1.Sound p providers later ∧ Grown [later] s (s.round later armed).1 := by
  have hround := h.linked.round later armed
  have hlane (name : String) := (hround.lane name).1
  rw [h.policy] at hlane
  refine ⟨⟨hround.linked, hround.policy.trans h.policy, fun name => ?_,
    fun name provider hprovider => ?_, fun name c hc => ?_⟩, fun name => ?_⟩
  · rw [hround.sources, h.sources]
  · obtain ⟨past, hsound⟩ := h.lanes name provider hprovider
    rw [hlane]
    exact hsound.round hle armed
  · rw [hlane] at hc
    exact Lane.lt_ends_of_settle hc
  · rw [hlane]
    obtain ⟨more, hmore, hstarted⟩ := Lane.collections_round p name (s.lane name) later armed
    exact ⟨more, hmore, fun c hc => List.mem_singleton.mpr (hstarted c hc)⟩

end Sound

end FanOut

namespace CollectLoop

/-- What a loop has come to by a moment, together with the sources.  It waits for collections that
are there, and not for others. -/
structure Sound (p : CollectPolicy) (providers : SortedMap String Provider) (interval : Span)
    (now : Nat) (s : FanOut) (l : CollectLoop) : Prop where
  fanOut : s.Sound p providers now
  /-- The next round is still to come, if there is one. -/
  punctual : l.last < next interval l.started l.last → now < next interval l.started l.last
  pending : ∀ name, ∀ c ∈ l.pendingOf name, c ∈ (s.lane name).collections

variable {p : CollectPolicy} {providers : SortedMap String Provider} {interval : Span}
  {now later target : Nat} {s s' : FanOut} {l : CollectLoop} {name : String} {c : Collection}

/-- Whatever is done to the sources meanwhile, the loop stays as it is.  A round from outside is
such a change. -/
theorem Sound.of_grown (h : Sound p providers interval now s l) (hs : s'.Sound p providers now)
    {moments : List Nat} (hgrown : FanOut.Grown moments s s') :
    Sound p providers interval now s' l :=
  ⟨hs, h.punctual, fun name c hc => hgrown.mem (h.pending name c hc)⟩

/-- What a loop waits for after a round: what it was waiting for, or what the round was handed.  In
either case it is a collection of the source by then. -/
theorem pendingOf_round_cases (h : s.Linked) {r : Nat × Option Nat}
    (hc : c ∈ (round (s, l) r).2.pendingOf name) :
    c ∈ l.pendingOf name ∨ c ∈ ((round (s, l) r).1.lane name).collections := by
  rw [pendingOf_round h] at hc
  rcases List.mem_append.mp hc with hc | hc
  · exact .inl (List.mem_of_mem_filter hc)
  · obtain ⟨e, he, rfl⟩ := Option.map_eq_some_iff.mp (Option.mem_toList.mp hc)
    exact .inr ((h.round r.1 r.2).handed name e he)

theorem sound_start (h : s.Sound p providers now) (interval : Span) :
    Sound p providers interval now (start s now).1 (start s now).2 := by
  obtain ⟨hs, -⟩ := h.round (Nat.le_refl now) none
  refine ⟨hs, fun h => h, fun name c hc => ?_⟩
  rcases pendingOf_round_cases h.linked hc with hc | hc
  · cases hc
  · exact hc

/-- A round that is due keeps the invariant, and starts collections at its own moment only. -/
theorem Sound.round (h : Sound p providers interval now s l) {r : Nat × Option Nat}
    (hle : now ≤ r.1) :
    Sound p providers interval r.1 (round (s, l) r).1 (round (s, l) r).2 ∧
      FanOut.Grown [r.1] s (round (s, l) r).1 := by
  obtain ⟨hs, hgrown⟩ := h.fanOut.round hle r.2
  refine ⟨⟨hs, fun h => h, fun name c hc => ?_⟩, hgrown⟩
  rcases pendingOf_round_cases h.fanOut.linked hc with hc | hc
  · exact hgrown.mem (h.pending name c hc)
  · exact hc

/-- Whether the next round of a loop is due at a moment.  A loop whose next round would not come
later than the last one makes no more rounds. -/
def Due (interval : Span) (target : Nat) (l : CollectLoop) : Prop :=
  l.last < next interval l.started l.last ∧ next interval l.started l.last ≤ target

/-- The next round of a loop: it comes at the next tick, by a timer that was set at the last one. -/
def nextRound (interval : Span) (l : CollectLoop) : Nat × Option Nat :=
  (next interval l.started l.last, some l.last)

theorem advance_of_due (h : l.Due interval target) (s : FanOut) :
    l.advance interval s target =
      (CollectLoop.round (s, l) (l.nextRound interval)).2.advance interval
        (CollectLoop.round (s, l) (l.nextRound interval)).1 target := by
  unfold Due at h
  unfold advance
  rw [schedule, if_pos h]
  rfl

theorem advance_of_not_due (h : ¬ l.Due interval target) (s : FanOut) :
    l.advance interval s target = (s, l) := by
  unfold Due at h
  unfold advance
  rw [schedule, if_neg h]
  rfl

/-- **Induction along a loop**: what each of its rounds keeps holds after the last one that is due,
and then no further round is. -/
theorem advance_induction {motive : FanOut → CollectLoop → Prop} (interval : Span)
    (target : Nat)
    (step : ∀ s l, motive s l → l.Due interval target →
      motive (CollectLoop.round (s, l) (l.nextRound interval)).1
        (CollectLoop.round (s, l) (l.nextRound interval)).2)
    (s : FanOut) (l : CollectLoop) (h : motive s l) :
    motive (l.advance interval s target).1 (l.advance interval s target).2 ∧
      ¬ (l.advance interval s target).2.Due interval target := by
  -- the last round comes closer to the target, round by round
  generalize hleft : target - l.last = left
  induction left using Nat.strongRecOn generalizing s l with
  | ind left ih =>
    by_cases hdue : l.Due interval target
    · rw [advance_of_due hdue]
      refine ih _ ?_ _ _ (step s l h hdue) rfl
      show target - next interval l.started l.last < left
      have hlater := hdue.1
      have hbefore := hdue.2
      omega
    · rw [advance_of_not_due hdue]
      exact ⟨h, hdue⟩

/-- **The rounds of a loop keep the invariant**; the next one comes later. -/
theorem Sound.advance (h : Sound p providers interval now s l) (hle : now ≤ target) :
    Sound p providers interval target ((l.advance interval s target).1.settle target)
      (l.advance interval s target).2 := by
  obtain ⟨⟨t, ht, hsound⟩, hlater⟩ := advance_induction interval target
    (motive := fun s l => ∃ t ≤ target, Sound p providers interval t s l)
    (fun s l ⟨t, _, hsound⟩ hdue => ⟨_, hdue.2,
      (hsound.round (r := l.nextRound interval) (Nat.le_of_lt (hsound.punctual hdue.1))).1⟩)
    s l ⟨now, hle, h⟩
  obtain ⟨hs, hgrown⟩ := hsound.fanOut.settle ht
  refine ⟨hs, fun hlt => ?_, fun name c hc => hgrown.mem (hsound.pending name c hc)⟩
  exact Nat.not_le.mp fun hle => hlater ⟨hlt, hle⟩

end CollectLoop

namespace Collector

/-- What a collector has come to, for a policy and providers that nobody had asked before.  Without
a loop only the sources are looked at. -/
structure Sound (p : CollectPolicy) (providers : SortedMap String Provider) (c : Collector) :
    Prop where
  fanOut : c.fanOut.Sound p providers c.now
  loop : ∀ l, c.loop = some l → CollectLoop.Sound p providers c.interval c.now c.fanOut l

variable {p : CollectPolicy} {providers : SortedMap String Provider} {c : Collector}
  {events : List (Nat × CollectorEvent)} {now target : Nat}

namespace Sound

theorem advance (h : c.Sound p providers) (hle : c.now ≤ target) :
    (c.advance target).Sound p providers := by
  cases hl : c.loop with
  | none =>
    rw [advance_of_none hl]
    exact ⟨(h.fanOut.settle hle).1, fun l hl' => (by rw [hl] at hl'; cases hl')⟩
  | some l =>
    rw [advance_of_loop hl]
    have hloop := (h.loop l hl).advance hle
    refine ⟨hloop.fanOut, fun l' hl' => ?_⟩
    obtain rfl := Option.some.inj hl'
    exact hloop

theorem apply (h : c.Sound p providers) (e : CollectorEvent) : (c.apply e).Sound p providers := by
  cases e with
  | dispatch =>
    obtain ⟨hs, hgrown⟩ := h.fanOut.round (Nat.le_refl c.now) none
    exact ⟨hs, fun l hl => (h.loop l hl).of_grown hs hgrown⟩
  | cancel => exact ⟨h.fanOut, fun l hl => (by cases hl)⟩
  | start cancelled =>
    cases cancelled with
    | true => exact h
    | false =>
      have hstart := CollectLoop.sound_start h.fanOut c.interval
      refine ⟨hstart.fanOut, fun l hl => ?_⟩
      obtain rfl := Option.some.inj hl
      exact hstart

end Sound

@[simp] theorem now_apply (c : Collector) (e : CollectorEvent) : (c.apply e).now = c.now := by
  cases e with
  | dispatch | cancel => rfl
  | start cancelled => cases cancelled <;> rfl

/-- **In every run of events** the invariant holds, from whatever sound state the run begins
with. -/
theorem Sound.observed (h : c.Sound p providers) (hle : c.now ≤ now)
    (hlater : ∀ e ∈ events, c.now ≤ e.1) (hevents : HappenedBy now events) :
    (c.observed events now).Sound p providers := by
  induction events generalizing c with
  | nil => exact h.advance hle
  | cons e rest ih =>
    obtain ⟨he, -⟩ := List.forall_mem_cons.mp hlater
    obtain ⟨hpast, hbefore, hrest⟩ := hevents.of_cons
    have hnow : (c.step e).now = e.1 := (now_apply _ _).trans (now_advance _ _)
    refine ih ((h.advance he).apply e.2) ?_ ?_ hrest
    · rw [hnow]
      exact hpast
    · rw [hnow]
      exact hbefore

end Collector

end Telemetry
