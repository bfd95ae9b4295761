import Telemetry.Proofs.Collector.Events

/-! # Sources do not disturb one another

Whatever the other sources do, and whatever others there are, a source sees the same: two collectors
that agree on its provider and its waits stay the same on its lane, event by event (`Alike`).  So
neither a source that hangs nor one that panics can delay, repeat or falsify what is collected from
another.

The relation has three layers: the sources, the loop, and the collector that holds both.  The
moments of rounds are the same in both, because they depend on the interval and on time alone; and
what a round does on the lane of a source is an operation of the lane's own (`FanOut.Linked.round`),
so that equal lanes stay equal.

Of the settings only those are to agree that bear on the source.  The jitter may be another one for
other sources (`CollectPolicy.collect_eq`).
-/

namespace Telemetry

/-- A collection depends on the waits that the jitter leads to, and on nothing else of it.  So two
jitters that lead to the same waits need not be the same function. -/
theorem CollectPolicy.collect_eq {retry : RetryPolicy} {timeout : Span}
    {jitter jitter' : String → Nat → Nat → Float} {name : String}
    (hwaits : ∀ started n, retry.backoff.millis n (jitter name started n) =
      retry.backoff.millis n (jitter' name started n)) :
    collect ⟨retry, timeout, jitter⟩ name = collect ⟨retry, timeout, jitter'⟩ name := by
  have hdelays (started : Nat) :
      retry.delays (jitter name started) = retry.delays (jitter' name started) := by
    funext n
    unfold RetryPolicy.delays
    rw [hwaits]
  funext provider now
  unfold collect attempts RetryPolicy.start RetryPolicy.run
  rw [hdelays]

namespace FanOut

/-- Two states with the same lane of a source, and the same way to collect from it.  All other
sources may differ. -/
structure Alike (name : String) (s s' : FanOut) : Prop where
  linked : s.Linked
  linked' : s'.Linked
  collect : s.policy.collect name = s'.policy.collect name
  lane : s.lane name = s'.lane name

variable {name : String} {s s' : FanOut}

theorem Alike.settle (h : Alike name s s') (now : Nat) :
    Alike name (s.settle now) (s'.settle now) where
  linked := h.linked.land _
  linked' := h.linked'.land _
  collect := by
    unfold FanOut.settle
    rw [policy_land, policy_land, h.collect]
  lane := by
    unfold FanOut.settle
    rw [lane_land h.linked, lane_land h.linked', h.lane]

/-- The same round hands out the same for the source, and leaves the two states alike. -/
theorem Alike.round (h : Alike name s s') (now : Nat) (armed : Option Nat) :
    Alike name (s.round now armed).1 (s'.round now armed).1 ∧
      ((s.round now armed).2.find? name).map Entry.call =
        ((s'.round now armed).2.find? name).map Entry.call := by
  have hround := h.linked.round now armed
  have hround' := h.linked'.round now armed
  refine ⟨⟨hround.linked, hround'.linked, ?_, ?_⟩, ?_⟩
  · rw [hround.policy, hround'.policy, h.collect]
  · rw [(hround.lane name).1, (hround'.lane name).1, h.collect, h.lane]
  · rw [(hround.lane name).2, (hround'.lane name).2, h.collect, h.lane]

end FanOut

namespace CollectLoop

/-- Two loops at the same point that wait for the same collections of a source, and so make their
next rounds at the same moments. -/
structure Alike (name : String) (l l' : CollectLoop) : Prop where
  started : l.started = l'.started
  last : l.last = l'.last
  pending : l.pendingOf name = l'.pendingOf name

variable {name : String} {s s' : FanOut} {l l' : CollectLoop}

theorem Alike.round (hs : FanOut.Alike name s s') (hl : Alike name l l') (r : Nat × Option Nat) :
    FanOut.Alike name (round (s, l) r).1 (round (s', l') r).1 ∧
      Alike name (round (s, l) r).2 (round (s', l') r).2 := by
  obtain ⟨halike, hhandle⟩ := hs.round r.1 r.2
  refine ⟨halike, hl.started, rfl, ?_⟩
  rw [pendingOf_round hs.linked, pendingOf_round hs.linked', hl.pending, hhandle]

theorem Alike.rounds (rs : List (Nat × Option Nat)) (hs : FanOut.Alike name s s')
    (hl : Alike name l l') :
    FanOut.Alike name (rs.foldl CollectLoop.round (s, l)).1
        (rs.foldl CollectLoop.round (s', l')).1 ∧
      Alike name (rs.foldl CollectLoop.round (s, l)).2 (rs.foldl CollectLoop.round (s', l')).2 := by
  induction rs generalizing s s' l l' with
  | nil => exact ⟨hs, hl⟩
  | cons r rest ih =>
    obtain ⟨hs, hl⟩ := Alike.round hs hl r
    exact ih hs hl

end CollectLoop

namespace Collector

/-- Two collectors that are the same to a source: either both have a loop or none has. -/
structure Alike (name : String) (c c' : Collector) : Prop where
  fanOut : c.fanOut.Alike name c'.fanOut
  interval : c.interval = c'.interval
  now : c.now = c'.now
  loop : Option.Rel (CollectLoop.Alike name) c.loop c'.loop

namespace Alike

variable {name : String} {c c' : Collector}

/-- The loops of both make the same rounds, since when a round is due does not depend on what the
sources do. -/
theorem advance (h : Alike name c c') (target : Nat) :
    Alike name (c.advance target) (c'.advance target) := by
  obtain ⟨hs, hinterval, -, hloop⟩ := h
  generalize hl : c.loop = l at hloop
  generalize hl' : c'.loop = l' at hloop
  cases hloop with
  | none =>
    rw [advance_of_none hl, advance_of_none hl']
    exact ⟨hs.settle target, hinterval, rfl, by rw [hl, hl']; exact .none⟩
  | @some l l' hll =>
    rw [advance_of_loop hl, advance_of_loop hl']
    unfold CollectLoop.advance
    rw [← hinterval, ← hll.started, ← hll.last]
    obtain ⟨hs, hll⟩ := CollectLoop.Alike.rounds
      (CollectLoop.schedule c.interval l.started target l.last) hs hll
    exact ⟨hs.settle target, rfl, rfl, .some hll⟩

/-- A round from outside hands out the same for the source, however long its other handles take. -/
theorem dispatch (h : Alike name c c') :
    Alike name c.dispatch.1 c'.dispatch.1 ∧
      (c.dispatch.2.find? name).map Entry.call = (c'.dispatch.2.find? name).map Entry.call := by
  obtain ⟨hs, hhandle⟩ := h.fanOut.round c.now none
  unfold Collector.dispatch
  rw [← h.now]
  exact ⟨⟨hs, h.interval, rfl, h.loop⟩, hhandle⟩

theorem apply (h : Alike name c c') (e : CollectorEvent) : Alike name (c.apply e) (c'.apply e) := by
  cases e with
  | dispatch => exact h.dispatch.1
  | cancel => exact ⟨h.fanOut, h.interval, h.now, .none⟩
  | start cancelled =>
    cases cancelled with
    | true => exact h
    | false =>
      have hnew : CollectLoop.Alike name ⟨c.now, c.now, []⟩ ⟨c.now, c.now, []⟩ := ⟨rfl, rfl, rfl⟩
      obtain ⟨hs, hl⟩ := CollectLoop.Alike.round h.fanOut hnew (c.now, none)
      show Alike name (c.start false) (c'.start false)
      unfold Collector.start CollectLoop.start
      rw [← h.now]
      exact ⟨hs, h.interval, rfl, .some hl⟩

theorem run (h : Alike name c c') (events : List (Nat × CollectorEvent)) :
    Alike name (c.run events) (c'.run events) := by
  induction events generalizing c c' with
  | nil => exact h
  | cons e rest ih => exact ih ((h.advance e.1).apply e.2)

theorem observed (h : Alike name c c') (events : List (Nat × CollectorEvent)) (now : Nat) :
    Alike name (c.observed events now) (c'.observed events now) :=
  (h.run events).advance now

/-- The calls of the source's provider are the same, at the same moments. -/
theorem calls (h : Alike name c c') : c.calls.find? name = c'.calls.find? name := by
  have hprovider : c.fanOut.providers.find? name = c'.fanOut.providers.find? name :=
    congrArg Lane.provider h.fanOut.lane
  unfold Collector.calls
  rw [SortedMap.find?_map, SortedMap.find?_map, hprovider, h.now]

/-- The loops of both wait for the same collections of the source. -/
theorem pending (h : Alike name c c') :
    c.loop.map (CollectLoop.pendingOf · name) = c'.loop.map (CollectLoop.pendingOf · name) := by
  have hloop := h.loop
  generalize c.loop = l at hloop ⊢
  generalize c'.loop = l' at hloop ⊢
  cases hloop with
  | none => rfl
  | some hll => exact congrArg some hll.pending

end Alike

/-- Two collectors show the same of a source, in a run of events and at a moment after it.  All that
can be seen of a source is listed: its calls, its collections, its handles, and what the sink was
told. -/
structure SameForSource (name : String) (c c' : Collector) (events : List (Nat × CollectorEvent))
    (now : Nat) : Prop where
  /-- The moments at which calls of its provider start. -/
  calls : (c.observed events now).calls.find? name = (c'.observed events now).calls.find? name
  /-- Its collections: when and how its provider is asked for each of them, when it ends,
  and what it comes to. -/
  collections : ((c.observed events now).fanOut.lane name).collections =
    ((c'.observed events now).fanOut.lane name).collections
  /-- What a round from outside is handed. -/
  handles : ∀ pre t post, events = pre ++ (t, .dispatch) :: post →
    ((c.observed pre t).dispatch.2.find? name).map Entry.call =
      ((c'.observed pre t).dispatch.2.find? name).map Entry.call
  /-- What the loop waits for. -/
  pending : (c.observed events now).loop.map (CollectLoop.pendingOf · name) =
    (c'.observed events now).loop.map (CollectLoop.pendingOf · name)
  /-- What the sink has been told of it, in order, and when. -/
  sink : ((c.observed events now).fanOut.lane name).sink =
    ((c'.observed events now).fanOut.lane name).sink

variable {providers providers' : SortedMap String Provider} {interval timeout : Span}
  {attempts : Nat} {backoff : Backoff} {jitter jitter' : String → Nat → Nat → Float}
  {countsFailures countsFailures' : Bool} {c c' : Collector} {name : String}

/-- **Sources do not disturb one another**: two collectors with the same settings and the same
provider for a source, whose jitter makes no difference to its waits, show the same of that source
in every run of events, whatever their other sources are and do.  What a collector does for one
source is a function of the lane of that source, so two collectors with the same lane keep it the
same (`Alike`); what the source is seen by is read off the lane. -/
theorem create_sameForSource
    (hnew : create providers interval timeout attempts backoff jitter countsFailures = .ok c)
    (hnew' : create providers' interval timeout attempts backoff jitter' countsFailures' = .ok c')
    (hprovider : providers.find? name = providers'.find? name)
    (hwaits : ∀ started n, backoff.millis n (jitter name started n) =
      backoff.millis n (jitter' name started n))
    (events : List (Nat × CollectorEvent)) (now : Nat) :
    SameForSource name c c' events now := by
  obtain ⟨hpos, rfl⟩ := eq_of_create hnew
  obtain ⟨_, rfl⟩ := eq_of_create hnew'
  have hlane : (FanOut.create ⟨⟨attempts, backoff, hpos⟩, timeout, jitter⟩ providers).lane name =
      (FanOut.create ⟨⟨attempts, backoff, hpos⟩, timeout, jitter'⟩ providers').lane name := by
    rw [FanOut.lane_create, FanOut.lane_create, hprovider]
  have halike : Alike name
      ⟨.create ⟨⟨attempts, backoff, hpos⟩, timeout, jitter⟩ providers, interval, countsFailures,
        none, 0⟩
      ⟨.create ⟨⟨attempts, backoff, hpos⟩, timeout, jitter'⟩ providers', interval,
        countsFailures', none, 0⟩ :=
    ⟨⟨FanOut.linked_create .., FanOut.linked_create .., CollectPolicy.collect_eq hwaits, hlane⟩,
      rfl, rfl, .none⟩
  have hseen := halike.observed events now
  constructor
  case calls => exact hseen.calls
  case collections => exact congrArg Lane.collections hseen.fanOut.lane
  case handles => exact fun pre t _ _ => (halike.observed pre t).dispatch.2
  case pending => exact hseen.pending
  case sink => exact congrArg Lane.sink hseen.fanOut.lane

/-- Beside a source that never answers, or beside one that panics and one that fails, it is all the
same to a source that is slow.  Rounds of a loop and from outside are mixed. -/
theorem sameForSource_of_bad_neighbours :
    let provider : Provider := .ofScript
      ⟨[⟨some 10, .failure (.dependency "GET" "reset")⟩, ⟨some 30, .value ⟨default, []⟩⟩]⟩
    let providers : SortedMap String Provider :=
      .ofList [("beta", .ofScript ⟨[.hanging]⟩), ("alpha", provider)]
    let providers' : SortedMap String Provider :=
      .ofList [("gamma", .ofScript ⟨[⟨some 4, .panic "lost"⟩]⟩),
        ("delta", .ofScript ⟨[⟨some 1, .failure .cancelled⟩]⟩), ("alpha", provider)]
    let backoff : Backoff := ⟨1, 2.0, 0.0, 5⟩
    let jitter : String → Nat → Nat → Float := fun _ _ _ => 0.0
    let events : List (Nat × CollectorEvent) :=
      [(0, .start false), (3, .dispatch), (25, .dispatch), (60, .cancel)]
    ∃ c c', create providers (.ofMillis 20) (.ofMillis 100) 2 backoff jitter true = .ok c ∧
      create providers' (.ofMillis 20) (.ofMillis 100) 2 backoff jitter true = .ok c' ∧
      providers.find? "alpha" = providers'.find? "alpha" ∧
      (∀ started n, backoff.millis n (jitter "alpha" started n) =
        backoff.millis n (jitter "alpha" started n)) ∧
      SameForSource "alpha" c c' events 200 := by
  intro provider providers providers' backoff jitter events
  let policy : CollectPolicy := ⟨⟨2, backoff, by decide⟩, .ofMillis 100, jitter⟩
  have hnew : create providers (.ofMillis 20) (.ofMillis 100) 2 backoff jitter true =
      .ok ⟨.create policy providers, .ofMillis 20, true, none, 0⟩ :=
    create_eq _ _ _ (by decide +kernel) (by decide) (by decide) (by decide)
  have hnew' : create providers' (.ofMillis 20) (.ofMillis 100) 2 backoff jitter true =
      .ok ⟨.create policy providers', .ofMillis 20, true, none, 0⟩ :=
    create_eq _ _ _ (by decide +kernel) (by decide) (by decide) (by decide)
  have hprovider : providers.find? "alpha" = providers'.find? "alpha" := by
    rw [show providers.find? "alpha" = some provider from
        (SortedMap.find?_insert _ _ _ _).trans (if_pos Std.ReflCmp.compare_self),
      show providers'.find? "alpha" = some provider from
        (SortedMap.find?_insert _ _ _ _).trans (if_pos Std.ReflCmp.compare_self)]
  exact ⟨_, _, hnew, hnew', hprovider, fun _ _ => rfl,
    create_sameForSource hnew hnew' hprovider (fun _ _ => rfl) events 200⟩

end Collector

end Telemetry
