import Telemetry.Proofs.Collector.Invariant

/-! # A stopped loop leaves nothing behind

A round of a loop is handed every collection that runs from then on, its own ones and those it
joined.  So the handles that a loop keeps cover all that is in flight (`CollectLoop.Covers`), as
long as nobody else makes rounds; and when the loop has waited for them, nothing is left.

Cancelling a loop stops its rounds and nothing else.  The collections under way are not aborted:
they run to their own ends, and the sink is told what they came to, just as if the loop went on
(`Sound.told`).  The loop returns at the last of the ends that it waits for, which lies within the
limit of a collection that starts at the cancellation (`Sound.now_stop_le`), and from then on the
collector rests (`Rests`): whatever time passes, no provider is called, and the sink is told
nothing.

Somebody else may make rounds all the while.  Then collections go on to start, but only at the
moments of those rounds (`Sound.grown_of_no_loop`), and the loop still returns in time.
-/

namespace Telemetry

/-! ## The last end -/

theorem foldl_max_le_iff {l : List Nat} {first bound : Nat} :
    l.foldl max first ≤ bound ↔ first ≤ bound ∧ ∀ n ∈ l, n ≤ bound := by
  induction l generalizing first with
  | nil => simp
  | cons n rest ih => rw [List.foldl_cons, ih, Nat.max_le, List.forall_mem_cons, and_assoc]

theorem lastEnd_le_iff {es : List (Entry Collection)} {bound : Nat} :
    lastEnd es ≤ bound ↔ ∀ e ∈ es, e.call.ends ≤ bound := by
  unfold lastEnd
  rw [foldl_max_le_iff, List.forall_mem_map]
  exact ⟨fun h => h.2, fun h => ⟨Nat.zero_le _, h⟩⟩

namespace FanOut

variable {s : FanOut}

theorem settle_of_idle (h : s.running = []) (now : Nat) : s.settle now = s := by
  obtain ⟨policy, providers, flights, running, collections, sink⟩ := s
  subst h
  simp [settle, land_eq, ended]

/-- Nothing runs where no lane has a collection in flight, and then the table is empty too. -/
theorem Linked.idle (h : s.Linked) (hnone : ∀ name, (s.lane name).flight = none) :
    s.running = [] ∧ ∀ name, s.flights.isInFlight name = false := by
  have hfind (name : String) : s.flights.find? name = none := Option.map_eq_none_iff.mp (hnone name)
  constructor
  · refine List.eq_nil_iff_forall_not_mem.mpr fun e he => ?_
    have hlisted := h.find?_of_mem he
    rw [hfind] at hlisted
    cases hlisted
  · intro name
    unfold CallGroup.isInFlight
    rw [hfind]
    rfl

end FanOut

/-! ## What a loop keeps -/

namespace CollectLoop

/-- The collections in flight are among those that a loop waits for.  It may wait for more, namely
for what has just ended. -/
def Covers (s : FanOut) (l : CollectLoop) : Prop :=
  ∀ name c, (s.lane name).flight = some c → c ∈ l.pendingOf name

variable {s : FanOut} {l : CollectLoop}

/-- **A round covers all that is in flight after it**, whatever the loop kept before.  For each
source the round was handed the collection that runs, and keeps the handle. -/
theorem covers_round (h : s.Linked) (l : CollectLoop) (r : Nat × Option Nat) :
    Covers (round (s, l) r).1 (round (s, l) r).2 := by
  intro name c hc
  obtain ⟨hlane, hhandle⟩ := (h.round r.1 r.2).lane name
  have hflight : ((s.round r.1 r.2).1.lane name).flight = some c := hc
  rw [hlane] at hflight
  -- the round was handed it, joined or started
  rw [pendingOf_round h, hhandle, Lane.handle_of_flight hflight]
  exact List.mem_append_right _ (List.mem_singleton_self c)

theorem Covers.settle (h : Covers s l) (hs : s.Linked) (now : Nat) : Covers (s.settle now) l := by
  intro name c hc
  unfold FanOut.settle at hc
  rw [FanOut.lane_land hs] at hc
  exact h name c (Lane.flight_land.mp hc).1

/-- The rounds of a loop cover all that is in flight, by induction along the loop. -/
theorem Covers.advance (h : Covers s l) (hs : s.Linked) (interval : Span) (target : Nat) :
    Covers ((l.advance interval s target).1.settle target) (l.advance interval s target).2 := by
  obtain ⟨⟨hlinked, hcovers⟩, -⟩ := advance_induction interval target
    (motive := fun s l => s.Linked ∧ Covers s l)
    (fun s l ⟨hs, _⟩ _ => ⟨(hs.round _ _).linked, covers_round hs l _⟩) s l ⟨hs, h⟩
  exact hcovers.settle hlinked target

end CollectLoop

namespace Collector

variable {p : CollectPolicy} {providers : SortedMap String Provider} {c : Collector}
  {l : CollectLoop} {now : Nat}

/-- Rounds that somebody makes at given moments. -/
def dispatches (moments : List Nat) : List (Nat × CollectorEvent) :=
  moments.map fun t => (t, .dispatch)

/-! ## After the cancellation -/

/-- A round that somebody makes of a collector without a loop happens after what was due, and
nothing comes with it. -/
theorem step_of_no_loop (hloop : c.loop = none) (t : Nat) :
    c.step (t, .dispatch) =
      { c with fanOut := ((c.fanOut.settle t).round t none).1, now := t } := by
  unfold step
  rw [advance_of_none hloop]
  rfl

/-- A collector without a loop starts collections only in the rounds that somebody makes.  So from
the cancellation on the loop itself starts nothing. -/
theorem Sound.grown_of_no_loop (h : c.Sound p providers) (hloop : c.loop = none)
    {moments : List Nat} (hle : c.now ≤ now) (hlater : ∀ t ∈ moments, c.now ≤ t)
    (hrounds : HappenedBy now (dispatches moments)) :
    FanOut.Grown moments c.fanOut (c.observed (dispatches moments) now).fanOut := by
  induction moments generalizing c with
  | nil =>
    show FanOut.Grown [] c.fanOut (c.advance now).fanOut
    rw [advance_of_none hloop]
    exact (h.fanOut.settle hle).2
  | cons t rest ih =>
    obtain ⟨ht, -⟩ := List.forall_mem_cons.mp hlater
    obtain ⟨hpast, hbefore, hrest⟩ := hrounds.of_cons
    obtain ⟨hsettled, hsettle⟩ := h.fanOut.settle ht
    obtain ⟨-, hround⟩ := hsettled.round (Nat.le_refl t) none
    have hstep := step_of_no_loop hloop t
    have hgrown : FanOut.Grown [t] c.fanOut (c.step (t, .dispatch)).fanOut := by
      rw [hstep]
      exact hsettle.trans hround
    -- the rest of the run starts at the first round, without a loop as before
    refine hgrown.trans (ih ((h.advance ht).apply .dispatch) ?_ ?_ (fun u hu => ?_) hrest)
    · show (c.step (t, .dispatch)).loop = none
      rw [hstep]
      exact hloop
    · show (c.step (t, .dispatch)).now ≤ now
      rw [hstep]
      exact hpast
    · show (c.step (t, .dispatch)).now ≤ u
      rw [hstep]
      exact hbefore _ (List.mem_map_of_mem hu)

/-- What the sink has been told of a source, and what of it is in flight: a collection is the one or
the other, according to its end. -/
theorem Sound.told (h : c.Sound p providers) (hnow : c.now = now) {name : String}
    {provider : Provider} (hprovider : providers.find? name = some provider) :
    let l := c.fanOut.lane name
    l.sink = (l.collections.filter fun x => x.ends ≤ now).flatMap Collection.told ∧
      ∀ x, l.flight = some x ↔ x ∈ l.collections ∧ now < x.ends := by
  subst hnow
  obtain ⟨past, hlane⟩ := h.fanOut.lanes name provider hprovider
  exact ⟨hlane.sink_eq (h.fanOut.settled name), fun x => hlane.flight_iff (h.fanOut.settled name)⟩

/-! ## The return -/

theorem stop_of_loop (hl : c.loop = some l) :
    c.stop = c.cancel.advance (max c.now (lastEnd l.pending)) := by
  unfold stop
  rw [hl]

/-- A stopped loop returns at some later moment, and nothing else has happened by then than that
collections have ended.  Waiting is the passing of time and no operation on the sources. -/
theorem Sound.stop (h : c.Sound p providers) (hl : c.loop = some l) :
    c.stop = c.cancel.advance c.stop.now ∧ c.now ≤ c.stop.now ∧ c.stop.Sound p providers ∧
      c.stop.loop = none := by
  rw [stop_of_loop hl, now_advance]
  have hle : c.now ≤ max c.now (lastEnd l.pending) := Nat.le_max_left _ _
  refine ⟨rfl, hle, (h.apply .cancel).advance hle, ?_⟩
  rw [advance_of_none rfl]
  rfl

/-- A loop that is stopped returns when the limit of a collection that starts now would strike, or
earlier.  Every collection that it waits for has started by then, and none takes longer than its
limit. -/
theorem Sound.now_stop_le (h : c.Sound p providers) (hl : c.loop = some l) :
    c.stop.now ≤ c.now + p.timeout.ceilMillis := by
  rw [stop_of_loop hl, now_advance, Nat.max_le, lastEnd_le_iff]
  refine ⟨Nat.le_add_right _ _, fun e he => ?_⟩
  have hmem := (h.loop l hl).pending e.call.source e.call
    (CollectLoop.mem_pendingOf.mpr ⟨e, he, rfl, rfl⟩)
  obtain ⟨-, hkept, hbegun⟩ := h.fanOut.kept hmem
  exact Nat.le_trans hkept.limited (Nat.add_le_add_right hbegun _)

/-- A stopped loop that covers all that is in flight leaves nothing in flight: it has waited for the
end of each. -/
theorem Sound.flight_stop (h : c.Sound p providers) (hl : c.loop = some l)
    (hcovers : CollectLoop.Covers c.fanOut l) (name : String) :
    (c.stop.fanOut.lane name).flight = none := by
  rw [stop_of_loop hl, advance_of_none (c := c.cancel) rfl]
  show ((c.fanOut.settle _).lane name).flight = none
  unfold FanOut.settle
  rw [FanOut.lane_land h.fanOut.linked]
  refine Option.eq_none_iff_forall_ne_some.mpr fun x hx => ?_
  obtain ⟨hflight, hlate⟩ := Lane.flight_land.mp hx
  obtain ⟨e, he, -, rfl⟩ := CollectLoop.mem_pendingOf.mp (hcovers name x hflight)
  have hends : e.call.ends ≤ lastEnd l.pending := lastEnd_le_iff.mp (Nat.le_refl _) e he
  exact absurd (Nat.le_trans hends (Nat.le_max_right _ _)) (of_decide_eq_false hlate)

/-- When nothing of a source is in flight, all calls of its provider were made before, as attempts
of collections that are over. -/
theorem Sound.calls_le (h : c.Sound p providers) {name : String} {provider q : Provider}
    (hprovider : providers.find? name = some provider) (hfresh : provider.Fresh)
    (hq : c.fanOut.providers.find? name = some q)
    (hidle : (c.fanOut.lane name).flight = none) : ∀ t ∈ q.calls, t ≤ c.now := by
  obtain ⟨past, hlane⟩ := h.fanOut.lanes name provider hprovider
  obtain ⟨asked, hasked, hcalls, -⟩ := hlane.asked
  obtain rfl : q = asked := Option.some.inj (hq.symm.trans hasked)
  obtain ⟨made, hmade, hsub, -⟩ := hcalls.calls
  rw [hfresh.calls_eq, List.nil_append] at hmade
  intro t ht
  rw [hmade] at ht
  obtain ⟨x, hx, ht⟩ := List.mem_flatMap.mp (hsub.subset ht)
  obtain ⟨a, ha, rfl⟩ := List.mem_map.mp ht
  -- a call is an attempt of a collection that is over
  have hwithin := (hlane.kept hx).2.within a ha
  rw [hlane.collections, hidle, Option.toList_none, List.append_nil] at hx
  exact Nat.le_trans hwithin.2 (hlane.ended x hx)

/-- No source is in flight, and from now on nothing is called and nothing is told, however long one
waits. -/
structure Rests (c : Collector) : Prop where
  idle : c.fanOut.running = [] ∧ ∀ name, c.fanOut.flights.isInFlight name = false
  stays : ∀ now, c.now ≤ now →
    (c.advance now).fanOut = c.fanOut ∧ (c.advance now).calls = c.calls

/-- A collector without a loop and with nothing in flight rests, since only rounds and the ends of
collections bring anything about. -/
theorem Sound.rests (h : c.Sound p providers)
    (hfresh : ∀ name provider, providers.find? name = some provider → provider.Fresh)
    (hloop : c.loop = none) (hnone : ∀ name, (c.fanOut.lane name).flight = none) : c.Rests := by
  have hidle := h.fanOut.linked.idle hnone
  refine ⟨hidle, fun now hle => ?_⟩
  have hstays : c.fanOut.settle now = c.fanOut := FanOut.settle_of_idle hidle.1 now
  rw [advance_of_none hloop]
  refine ⟨hstays, SortedMap.ext_find? fun name => ?_⟩
  show ((c.fanOut.settle now).providers.map _).find? name = (c.fanOut.providers.map _).find? name
  rw [hstays, SortedMap.find?_map, SortedMap.find?_map]
  cases hq : c.fanOut.providers.find? name with
  | none => rfl
  | some q =>
    have hknown := h.fanOut.sources name
    rw [hq] at hknown
    obtain ⟨provider, hprovider⟩ := Option.isSome_iff_exists.mp hknown.symm
    have hcalls := h.calls_le hprovider (hfresh name provider hprovider) hq (hnone name)
    refine congrArg some ?_
    show q.calls.filter (· ≤ now) = q.calls.filter (· ≤ c.now)
    rw [List.filter_eq_self.mpr fun t ht => decide_eq_true (hcalls t ht),
      List.filter_eq_self.mpr fun t ht => decide_eq_true (Nat.le_trans (hcalls t ht) hle)]

/-! ## Starting and stopping -/

/-- A collector whose loop has been started on it as it was and runs until a moment, while others
make rounds.  This is the collector that is cancelled. -/
def looping (idle : Collector) (others : List Nat) (now : Nat) : Collector :=
  (idle.start false).observed (dispatches others) now

/-- What holds when a loop is started on a collector, with a limit for its collections, and
cancelled at a moment, while others make rounds.  The fields follow the loop from its start: whether
it begins at all, what its cancellation stops and what it does not stop, and what is left when it
returns. -/
structure Shutdown (providers : SortedMap String Provider) (timeout : Span) (idle : Collector)
    (others : List Nat) (cancelled : Nat) : Prop where
  /-- A loop whose token is cancelled beforehand makes no round and is over at once; if
  nothing else goes on, the collector rests. -/
  beforehand : idle.start true = idle ∧
    (idle.loop = none → idle.fanOut.running = [] → idle.Rests)
  /-- From the cancellation on the loop makes no round: a collection that starts later
  was started by somebody else. -/
  halts : ∀ later now, cancelled ≤ now → (∀ t ∈ later, cancelled ≤ t) →
    HappenedBy now (dispatches later) →
      FanOut.Grown later (idle.looping others cancelled).fanOut
        ((idle.looping others cancelled).cancel.observed (dispatches later) now).fanOut
  /-- No collection is aborted: each one, those under way at the cancellation too, is in
  flight until its own end, and then the sink is told what it came to. -/
  completes : ∀ later now, cancelled ≤ now → (∀ t ∈ later, cancelled ≤ t) →
    HappenedBy now (dispatches later) → ∀ name provider, providers.find? name = some provider →
      let l := ((idle.looping others cancelled).cancel.observed (dispatches later) now).fanOut.lane
        name
      l.sink = (l.collections.filter fun c => c.ends ≤ now).flatMap Collection.told ∧
        ∀ c, l.flight = some c ↔ c ∈ l.collections ∧ now < c.ends
  /-- The loop returns after the cancellation, and within the limit of a collection,
  rounded up to a whole millisecond. -/
  returns : cancelled ≤ (idle.looping others cancelled).stop.now ∧
    (idle.looping others cancelled).stop.now ≤ cancelled + timeout.ceilMillis ∧
    (idle.looping others cancelled).stop =
      (idle.looping others cancelled).cancel.advance (idle.looping others cancelled).stop.now
  /-- If nobody else has made rounds meanwhile, the collector rests when the loop returns. -/
  quiet : others = [] → (idle.looping others cancelled).stop.Rests

variable {idle : Collector} {others : List Nat} {cancelled : Nat}

theorem Sound.looping (h : idle.Sound p providers) (hle : idle.now ≤ now)
    (hsince : ∀ t ∈ others, idle.now ≤ t) (hothers : HappenedBy now (dispatches others)) :
    (idle.looping others now).Sound p providers :=
  (h.apply (.start false)).observed hle (List.forall_mem_map.mpr hsince) hothers

theorem isSome_loop_advance (c : Collector) (target : Nat) :
    (c.advance target).loop.isSome = c.loop.isSome := by
  cases hl : c.loop with
  | none => rw [advance_of_none hl, hl]
  | some l => rw [advance_of_loop hl]; rfl

/-- The loop is there until it is cancelled; nothing else ends it. -/
theorem exists_loop_looping (idle : Collector) (others : List Nat) (now : Nat) :
    ∃ l, (idle.looping others now).loop = some l := by
  have hruns : ∀ c : Collector, (c.run (dispatches others)).loop.isSome = c.loop.isSome := by
    induction others with
    | nil => exact fun c => rfl
    | cons t rest ih => exact fun c => (ih _).trans (isSome_loop_advance c t)
  refine Option.isSome_iff_exists.mp ?_
  exact (isSome_loop_advance _ now).trans (hruns (idle.start false))

/-- With nobody else about, a loop covers all that is in flight: its first round was handed what ran
before it. -/
theorem covers_looping (h : idle.fanOut.Linked) (hl : (idle.looping [] now).loop = some l) :
    CollectLoop.Covers (idle.looping [] now).fanOut l := by
  have hstart := CollectLoop.covers_round h ⟨idle.now, idle.now, []⟩ (idle.now, none)
  have hlinked := (h.round idle.now none).linked
  have hadvance := hstart.advance hlinked idle.interval now
  obtain rfl := Option.some.inj hl
  exact hadvance

theorem Sound.shutdown (h : idle.Sound p providers)
    (hfresh : ∀ name provider, providers.find? name = some provider → provider.Fresh)
    (hle : idle.now ≤ cancelled) (hsince : ∀ t ∈ others, idle.now ≤ t)
    (hothers : HappenedBy cancelled (dispatches others)) :
    Shutdown providers p.timeout idle others cancelled := by
  have hrunning := h.looping hle hsince hothers
  have hnow : (idle.looping others cancelled).now = cancelled := now_advance _ _
  obtain ⟨l, hl⟩ := exists_loop_looping idle others cancelled
  obtain ⟨hstop, hreturn, hreturned, hgone⟩ := hrunning.stop hl
  constructor
  case beforehand =>
    refine ⟨rfl, fun hloop hrun => h.rests hfresh hloop fun name => ?_⟩
    have hlisted := h.fanOut.linked.listed name
    rw [hrun] at hlisted
    exact Option.map_eq_none_iff.mpr (Option.toList_eq_nil_iff.mp hlisted.symm)
  case halts =>
    intro later now hle hlater hrounds
    rw [← hnow] at hle hlater
    exact (hrunning.apply .cancel).grown_of_no_loop rfl hle hlater hrounds
  case completes =>
    intro later now hle hlater hrounds name provider hprovider
    rw [← hnow] at hle hlater
    have hafter := (hrunning.apply .cancel).observed hle (List.forall_mem_map.mpr hlater) hrounds
    exact hafter.told (now_advance _ _) hprovider
  case returns =>
    have hlimited := hrunning.now_stop_le hl
    rw [hnow] at hreturn hlimited
    exact ⟨hreturn, hlimited, hstop⟩
  case quiet =>
    rintro rfl
    exact hreturned.rests hfresh hgone
      (hrunning.flight_stop hl (covers_looping h.fanOut.linked hl))

/-- **A stopped loop leaves nothing behind**: on every collector, whatever its providers do,
whatever has happened before, and whenever the loop is started and cancelled.  The providers may
hang, fail or panic; none of them keeps a collection longer than its limit.  So the loop returns
when the last collection that it waits for is over, and from then on the collector rests, unless
somebody else has asked it for a round. -/
theorem create_shutdown {interval timeout : Span} {attempts : Nat} {backoff : Backoff}
    {jitter : String → Nat → Nat → Float} {countsFailures : Bool}
    (hnew : create providers interval timeout attempts backoff jitter countsFailures = .ok c)
    (hfresh : ∀ name provider, providers.find? name = some provider → provider.Fresh)
    {before : List (Nat × CollectorEvent)} {started : Nat} (hbefore : HappenedBy started before)
    (hle : started ≤ cancelled) (hsince : ∀ t ∈ others, started ≤ t)
    (hothers : HappenedBy cancelled (dispatches others)) :
    Shutdown providers timeout (c.observed before started) others cancelled := by
  obtain ⟨hpos, rfl⟩ := eq_of_create hnew
  let p : CollectPolicy := ⟨⟨attempts, backoff, hpos⟩, timeout, jitter⟩
  have hcreated : (⟨.create p providers, interval, countsFailures, none, 0⟩ : Collector).Sound p
      providers :=
    ⟨FanOut.sound_create hfresh p 0, fun l hl => (by cases hl)⟩
  have hidle := hcreated.observed (Nat.zero_le started) (fun e _ => Nat.zero_le e.1) hbefore
  exact hidle.shutdown hfresh (by rw [observed, now_advance]; exact hle)
    (by rw [observed, now_advance]; exact hsince) hothers

/-- One source never answers and one panics; somebody else makes a round before the loop
starts and one while it runs, and the loop is cancelled while the first collection of the
silent source still runs. -/
theorem shutdown_of_hanging_source :
    let providers : SortedMap String Provider :=
      .ofList [("beta", .ofScript ⟨[⟨some 4, .panic "lost"⟩]⟩), ("alpha", .ofScript ⟨[.hanging]⟩)]
    let backoff : Backoff := ⟨1, 2.0, 0.0, 5⟩
    let before : List (Nat × CollectorEvent) := [(0, .dispatch)]
    let others : List Nat := [12]
    ∃ c, create providers (.ofMillis 20) (.ofMillis 100) 2 backoff (fun _ _ _ => 0.0) true = .ok c ∧
      (∀ name provider, providers.find? name = some provider → provider.Fresh) ∧
      HappenedBy 5 before ∧ 5 ≤ 30 ∧ (∀ t ∈ others, 5 ≤ t) ∧ HappenedBy 30 (dispatches others) ∧
      Shutdown providers (.ofMillis 100) (c.observed before 5) others 30 := by
  intro providers backoff before others
  let policy : CollectPolicy := ⟨⟨2, backoff, by decide⟩, .ofMillis 100, fun _ _ _ => 0.0⟩
  have hnew : create providers (.ofMillis 20) (.ofMillis 100) 2 backoff (fun _ _ _ => 0.0) true =
      .ok ⟨.create policy providers, .ofMillis 20, true, none, 0⟩ :=
    create_eq _ _ _ (by decide +kernel) (by decide) (by decide) (by decide)
  have hfresh : ∀ name provider, providers.find? name = some provider → provider.Fresh := by
    intro name provider h
    rw [show providers = (SortedMap.empty.insert _ _).insert _ _ from rfl,
      SortedMap.find?_insert, SortedMap.find?_insert] at h
    split at h
    · obtain rfl := Option.some.inj h
      exact .ofScript _
    split at h
    · obtain rfl := Option.some.inj h
      exact .ofScript _
    · cases h
  have hbefore : HappenedBy 5 before := by decide
  have hsince : ∀ t ∈ others, 5 ≤ t := by decide
  have hothers : HappenedBy 30 (dispatches others) := by decide
  exact ⟨_, hnew, hfresh, hbefore, by decide, hsince, hothers,
    create_shutdown hnew hfresh hbefore (by decide) hsince hothers⟩

end Collector

end Telemetry
