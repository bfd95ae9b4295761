import Telemetry.Proofs.Daemon.CurrentValues
import Telemetry.Proofs.Daemon.Surveys
import Telemetry.Proofs.Service.Freshness

/-! # How old the current values are

A request for the current values is answered out of two caches that stand one behind the other and
expire each for itself, while cycles refresh the inner one at other times.  As long as time waits
for whoever can go on, the answer is bounded: its readings are younger than the retention of the
snapshots, and its topology is younger than both retentions and the limit of a fetch together.

The invariant of a run is that of its world (`World.Dated`) and two facts about its tasks: who waits
for a snapshot that has been fetched waits at the moment of the fetch, and no task calls the
inspector for its hardware itself.

What has been seen in a run is a matter of its events alone (`sightings`): where the inspector has
answered a shared listing, and where a shared fetch has ended.  The invariant is carried along with
what has been seen growing from event to event, so that an answer can be put down to a listing and a
fetch that did take place in the run (`ShowsRecent`).
-/

namespace Telemetry

variable {d first : Daemon} {e : DaemonEvent} {events pre post : List DaemonEvent}
  {number joined : Nat} {t : Task} {seen seen' : Sightings} {inner outer : CacheSettings}

/-! ## The turns of tasks -/

namespace World

variable {w w' : World} {retention : Retention}

/-- The turn of a task leaves dated what was, since no turn of a task ends a shared call. -/
theorem Dated.turns (h : w.Dated seen inner outer) (hturns : w.Turns retention w') :
    w'.Dated seen inner outer := by
  cases hturns with
  | surveys hsurveying => exact (h.surveying hsurveying).congr rfl rfl rfl
  | rests => exact h
  | asks => exact h.getSnapshot
  | prunes =>
    rw [prune_frame]
    exact h.congr rfl rfl rfl

/-- Behind a cache no turn of a task calls the inspector for its hardware; the shared listing does,
in its own turn. -/
theorem Turns.topologyProbe (h : w.Turns retention w') (hcached : w.topology.isSome) :
    w'.inspector.topology = w.inspector.topology := by
  cases h with
  | surveys hsurveying => exact hsurveying.cached hcached
  | rests => rfl
  | asks => rfl
  | prunes => rw [prune_frame]

theorem Turns.listingFollows (h : w.Turns retention w') : w.ListingFollows w' := by
  cases h with
  | surveys hsurveying => exact hsurveying.listingFollows
  | rests => exact .of_eq rfl
  | asks => exact .of_eq rfl
  | prunes =>
    rw [prune_frame]
    exact .of_eq rfl

theorem Turns.follows (h : w.Turns retention w') : w.snapshots.Follows w'.snapshots := by
  cases h with
  | surveys hsurveying =>
    rw [hsurveying.frame]
    exact .refl _
  | rests => exact .refl _
  | asks => exact w.snapshots.follows_get ..
  | prunes =>
    rw [prune_frame]
    exact .refl _

end World

namespace Daemon

/-! ## The invariant -/

/-- Everything that a daemon holds and waits for dates from when it was seen.  A task that waits for
a snapshot holds nothing yet, and its snapshot must not grow old before its turn. -/
structure Dated (d : Daemon) (seen : Sightings) (inner outer : CacheSettings) : Prop where
  world : d.world.Dated seen inner outer
  /-- A snapshot that somebody waits for has been fetched now, if it has been fetched. -/
  waiting : ∀ t ∈ d.tasks, ∀ number snapshot, t.awaited? = some number →
    d.world.snapshots.outcome? number = some (.ok snapshot) →
    seen.fetched snapshot d.world.now
  surveys : ∀ t ∈ d.tasks, ∀ due, t.survey? ≠ some (.listing due)

theorem Dated.mono (h : d.Dated seen inner outer) (hle : seen.Le seen') :
    d.Dated seen' inner outer where
  world := h.world.mono hle
  waiting t ht number snapshot hawaited houtcome :=
    hle.fetched _ _ (h.waiting t ht number snapshot hawaited houtcome)
  surveys := h.surveys

/-- What is seen in an event is noted: what the inspector answers to a shared listing, and what a
shared fetch ends with. -/
structure Notes (d : Daemon) (seen : Sightings) (inner outer : CacheSettings)
    (e : DaemonEvent) : Prop where
  listed : e = .turn .listing → ∀ topology, d.world.Answers topology →
    seen.listed topology d.world.now
  fetched : e = .turn .snapshot → ∀ s date, d.world.Fetches s → seen.listed s.topology date →
    YoungerThan (World.fetchAge inner.retention outer.fetchTimeout) date d.world.now →
    seen.fetched (d.world.snapshotOf s) d.world.now

/-- When time has waited, no fetch has run out of time unnoticed: at its limit it would have had a
turn. -/
theorem Waits.le_limit {later : Nat} (h : d.Waits (.pass later)) {call : SharedCall Survey}
    (hcall : d.world.snapshots.cache.flight = some call) (hnow : d.world.now < later) :
    later ≤ call.limit := by
  -- at the last moment before, the fetch could not go on
  have hrest := h (later - 1) (by omega) (by omega) .snapshot
  have hlt := World.lt_limit_of_advanceSnapshot (w := (d.passTo (later - 1)).world)
    (congrArg Daemon.world hrest) hcall
  have hmoment : (d.passTo (later - 1)).world.now = max d.world.now (later - 1) := rfl
  omega

theorem Dated.world_apply (h : d.Dated seen inner outer) (hwaits : d.Waits e)
    (hnotes : d.Notes seen inner outer e) : (d.apply e).world.Dated seen inner outer := by
  cases e with
  | prune =>
    rw [apply, World.prune_frame]
    exact h.world.congr rfl rfl rfl
  | pass later =>
    refine h.world.later rfl rfl (Nat.le_max_left ..) fun call hcall => ?_
    obtain ⟨began, hfetching⟩ := h.world.flight call hcall
    show max d.world.now later ≤ call.limit
    by_cases hnow : d.world.now < later
    · exact Nat.max_le.mpr ⟨hfetching.now_le, hwaits.le_limit hcall hnow⟩
    · exact Nat.max_le.mpr ⟨hfetching.now_le,
        Nat.le_trans (Nat.not_lt.mp hnow) hfetching.now_le⟩
  | turn a =>
    cases a with
    | listing => exact h.world.advanceListing (hnotes.listed rfl)
    | snapshot => exact (h.world.advanceSnapshot (hnotes.fetched rfl)).1
    | task number => exact h.world.turns (d.turns_turn number)
  | request | call | startPolling | startPruning => exact h.world
  | _ => exact h.world.congr rfl rfl rfl

/-- A snapshot that is there after an event was there before, or has just been fetched, in the turn
of the shared snapshot. -/
theorem Dated.outcome?_apply (h : d.Dated seen inner outer)
    (hnotes : d.Notes seen inner outer e) {snapshot : Snapshot}
    (houtcome : (d.apply e).world.snapshots.outcome? joined = some (.ok snapshot)) :
    d.world.snapshots.outcome? joined = some (.ok snapshot) ∨
      seen.fetched snapshot (d.apply e).world.now := by
  cases e with
  | prune =>
    rw [apply, World.prune_frame] at houtcome
    exact .inl houtcome
  | turn a =>
    cases a with
    | listing => exact .inl (d.world.snapshots_advanceListing ▸ houtcome)
    | snapshot =>
      have hended := (h.world.advanceSnapshot (hnotes.fetched rfl)).2 _ _ houtcome
      refine hended.imp_right fun hseen => ?_
      have hnow : (d.apply (.turn .snapshot)).world.now = d.world.now :=
        d.world.steady_advanceSnapshot.now
      exact hnow ▸ hseen
    | task number =>
      have hsame : (d.turn (.task number)).world.snapshots.outcomes =
          d.world.snapshots.outcomes := (d.turns_turn number).outcomes
      exact .inl ((congrArg (·[joined]?) hsame).symm.trans houtcome)
  | _ => exact .inl houtcome

/-- Who waits for a snapshot that has been fetched waits at the moment of the fetch, since time has
not passed between the two. -/
theorem Dated.waiting_apply (h : d.Dated seen inner outer) (hwaits : d.Waits e)
    (hnotes : d.Notes seen inner outer e) (ht : t ∈ (d.apply e).tasks) {snapshot : Snapshot}
    (hawaited : t.awaited? = some joined)
    (houtcome : (d.apply e).world.snapshots.outcome? joined = some (.ok snapshot)) :
    seen.fetched snapshot (d.apply e).world.now := by
  rcases mem_tasks_apply ht with ⟨number, before, hbefore, rfl⟩ | hnew
  · rcases awaited?_taskAfter hawaited with hwaited | ⟨rfl, hnone⟩
    · rcases h.outcome?_apply hnotes houtcome with hold | hseen
      · have hmem := List.mem_of_getElem? hbefore
        rw [hwaits.now_apply hmem hwaited hold]
        exact h.waiting before hmem joined snapshot hwaited hold
      · exact hseen
    · have houtcome : (d.turn (.task number)).world.snapshots.outcome? joined = _ := houtcome
      rw [turn_task hbefore] at houtcome
      cases houtcome.symm.trans hnone
  · rw [awaited?_taskOf? hnew] at hawaited
    cases hawaited

/-- **An event keeps everything dated**, provided that time has waited and what is seen in the event
is noted. -/
theorem Dated.apply (h : d.Dated seen inner outer) (hwaits : d.Waits e)
    (hnotes : d.Notes seen inner outer e) : (d.apply e).Dated seen inner outer where
  world := h.world_apply hwaits hnotes
  waiting _ ht _ _ := h.waiting_apply hwaits hnotes ht
  surveys _ ht := ne_listing_apply h.world.cached h.surveys ht

/-! ## What is seen in a run -/

/-- In a run the inspector has answered the shared call for its hardware with a topology, at a
moment. -/
def Listed (first : Daemon) (events : List DaemonEvent) (topology : Topology) (date : Nat) :
    Prop :=
  ∃ pre post, events = pre ++ .turn .listing :: post ∧
    (first.run pre).world.now = date ∧ (first.run pre).world.Answers topology

/-- In a run a shared call for a snapshot has ended at a moment with a survey: with a topology
that was listed at a moment before, and with the readings that the inspector then answers. -/
def Fetched (first : Daemon) (events : List DaemonEvent) (snapshot : Snapshot)
    (listed fetched : Nat) : Prop :=
  ∃ pre post s, events = pre ++ .turn .snapshot :: post ∧
    (first.run pre).world.now = fetched ∧ (first.run pre).world.Fetches s ∧
    (first.run pre).world.inspector.readings.ending = .value s.readings ∧
    first.Listed pre s.topology listed ∧
    snapshot = .build s.topology s.readings (first.run pre).world.clock

/-- What has been seen in a run: the listings in it, and the fetches of snapshots whose topologies
were young enough. -/
def sightings (first : Daemon) (inner outer : CacheSettings) (events : List DaemonEvent) :
    Sightings where
  listed := first.Listed events
  fetched snapshot fetched := ∃ listed, first.Fetched events snapshot listed fetched ∧
    YoungerThan (World.fetchAge inner.retention outer.fetchTimeout) listed fetched

theorem Listed.append {topology : Topology} {date : Nat} (h : first.Listed pre topology date)
    (post : List DaemonEvent) : first.Listed (pre ++ post) topology date := by
  obtain ⟨before, after, rfl, hlisted⟩ := h
  exact ⟨before, after ++ post, by simp, hlisted⟩

theorem Fetched.append {snapshot : Snapshot} {listed fetched : Nat}
    (h : first.Fetched pre snapshot listed fetched) (post : List DaemonEvent) :
    first.Fetched (pre ++ post) snapshot listed fetched := by
  obtain ⟨before, after, s, rfl, hfetched⟩ := h
  exact ⟨before, after ++ post, s, by simp, hfetched⟩

theorem sightings_append_le (first : Daemon) (inner outer : CacheSettings)
    (pre post : List DaemonEvent) :
    (first.sightings inner outer pre).Le (first.sightings inner outer (pre ++ post)) where
  listed _ _ h := h.append post
  fetched _ _ h :=
    let ⟨listed, hfetched, hage⟩ := h
    ⟨listed, hfetched.append post, hage⟩

/-- What has been listed was listed before the last event, if that is no turn of the listing.  Only
such a turn adds to what has been listed. -/
theorem Listed.of_concat {topology : Topology} {date : Nat}
    (h : first.Listed (events ++ [e]) topology date) (he : e ≠ .turn .listing) :
    first.Listed events topology date := by
  obtain ⟨before, after, hsplit, hlisted⟩ := h
  rcases last_or_before hsplit with ⟨-, -, hlast⟩ | ⟨rest, -, hbefore⟩
  · exact absurd hlast he
  · exact ⟨before, rest, hbefore, hlisted⟩

/-- A run notes what it sees, event by event. -/
theorem notes_run (first : Daemon) (inner outer : CacheSettings) (events : List DaemonEvent)
    (e : DaemonEvent) :
    (first.run events).Notes (first.sightings inner outer (events ++ [e])) inner outer e where
  listed he topology hanswers := ⟨events, [], he ▸ rfl, rfl, hanswers⟩
  fetched he s date hfetches hlisted hage := by
    subst he
    have ⟨_, _, hsurvey⟩ := hfetches
    exact ⟨date, ⟨events, [], s, rfl, rfl, hfetches, (World.supplies_of_survey hsurvey).2,
      Listed.of_concat hlisted fun h => (by cases h), rfl⟩, hage⟩

/-- **Everything that a daemon holds in a run dates from when it was seen**, in a run in which time
waits. -/
theorem dated_run (h : first.Dated (first.sightings inner outer []) inner outer)
    (hprompt : first.Prompt events) :
    (first.run events).Dated (first.sightings inner outer events) inner outer := by
  induction events using List.reverseRecOn with
  | nil => exact h
  | append_singleton events e ih =>
    obtain ⟨hbefore, hwaits, -⟩ := (first.prompt_append events [e]).mp hprompt
    rw [run_concat]
    exact ((ih hbefore).mono (sightings_append_le ..)).apply hwaits (notes_run ..)

/-! ## Answers -/

/-- The turn of a task that ends it, with a response to a request for the current values. -/
structure AnswersAt (first : Daemon) (pre : List DaemonEvent) (number : Nat)
    (request : Http.Request) (r : Http.Response) : Prop where
  working : ∃ limit joined,
    (first.run pre).tasks[number]? = some (.request request limit (.stats joined))
  answered : (first.run (pre ++ [.turn (.task number)])).tasks[number]? =
    some (.ended (.response r))

/-- What is answered after some events is a snapshot that was fetched in them, no longer ago
than the retention of snapshots; its topology was listed no longer ago than both retentions and
the limit of a fetch allow together. -/
def ShowsRecent (first : Daemon) (pre : List DaemonEvent) (request : Http.Request)
    (listingRetention retention limit : Span) (r : Http.Response) : Prop :=
  ∃ snapshot listed fetched, r = (Http.Response.json snapshot.encode).sentTo request ∧
    first.Fetched pre snapshot listed fetched ∧
    YoungerThan retention.nanos fetched (first.run pre).world.now ∧
    YoungerThan (World.fetchAge listingRetention limit + retention.nanos) listed
      (first.run pre).world.now

/-- Where a request has its snapshot from, the snapshot is recent: the cache holds nothing older,
and what was waited for has just been fetched. -/
theorem Obtains.recent {joined : Option Nat} {snapshot : Snapshot}
    (h : Obtains d.world joined snapshot) (hdated : d.Dated seen inner outer) (ht : t ∈ d.tasks)
    (hawaited : t.awaited? = joined) :
    ∃ date, seen.fetched snapshot date ∧ YoungerThan outer.retention.nanos date d.world.now := by
  cases h with
  | @held s hstored hfresh =>
    refine ⟨s.storedAt, hdated.world.stored s hstored, ?_⟩
    rw [← hdated.world.settings]
    exact Cache.youngerThan_of_isFresh hfresh
  | joined houtcome =>
    exact ⟨d.world.now, hdated.waiting t ht _ _ hawaited houtcome,
      youngerThan_of_le outer.retention_pos (Nat.le_refl _)⟩

/-- How a request for the current values stands, some time after it has arrived: it works at them,
or it has ended in a turn in which it was recent. -/
inductive Attended (first : Daemon) (pre : List DaemonEvent) (number : Nat)
    (request : Http.Request) (inner outer : CacheSettings) (post : List DaemonEvent) :
    Task → Prop where
  | working {limit : Nat} {joined : Option Nat} :
      Attended first pre number request inner outer post (.request request limit (.stats joined))
  | ended {last : TaskEnd} :
      (∀ r, last = .response r → r.status = 200 → ∃ mid rest,
        post = mid ++ .turn (.task number) :: rest ∧
        first.AnswersAt (pre ++ mid) number request r ∧
        first.ShowsRecent (pre ++ mid) request inner.retention outer.retention
          outer.fetchTimeout r) →
      Attended first pre number request inner outer post (.ended last)

/-- One more event, of which only the turn of the request itself ends it. -/
theorem Attended.concat {request : Http.Request}
    (hdated : (first.run (pre ++ post)).Dated (first.sightings inner outer (pre ++ post))
      inner outer)
    (ht : (first.run (pre ++ post)).tasks[number]? = some t)
    (h : first.Attended pre number request inner outer post t) (e : DaemonEvent) :
    first.Attended pre number request inner outer (post ++ [e])
      ((first.run (pre ++ post)).taskAfter number t e) := by
  cases h with
  | @ended last hlast =>
    rw [over_taskAfter (show (Task.ended last).Over from trivial)]
    refine .ended fun r hr hstatus => ?_
    obtain ⟨mid, rest, rfl, hanswers⟩ := hlast r hr hstatus
    exact ⟨mid, rest ++ [e], by simp, hanswers⟩
  | @working limit joined =>
    rcases (first.run (pre ++ post)).taskAfter_cases number
      (.request request limit (.stats joined)) e with
      ⟨-, hafter⟩ | ⟨-, hafter⟩ | ⟨-, hafter⟩ | ⟨rfl, hafter⟩
    · rw [hafter]
      exact .working
    · rw [hafter]
      exact .working
    · rw [hafter]
      exact .ended fun r hr => by cases hr
    · have hserves := (first.run (pre ++ post)).serves_advanceTask request limit joined
      rw [← hafter] at hserves
      have hturn := getElem?_apply ht (.turn (.task number))
      generalize (first.run (pre ++ post)).taskAfter number _ _ = after at hserves hturn ⊢
      cases hserves with
      | waits => exact .working
      | shows hobtains =>
        refine .ended fun r hr _ => ⟨post, [], rfl, ⟨⟨limit, joined, ht⟩, ?_⟩, ?_⟩
        · rw [run_concat, hturn, hr]
        · obtain ⟨date, ⟨listed, hfetched, hage⟩, hyoung⟩ :=
            hobtains.recent hdated (List.mem_of_getElem? ht) rfl
          exact ⟨_, listed, date, (TaskEnd.response.inj hr).symm, hfetched, hyoung,
            hage.trans hyoung⟩
      | fails =>
        -- a failure is no answer with the status that counts
        refine .ended fun r hr hstatus => absurd hstatus ?_
        rw [← TaskEnd.response.inj hr, Http.Response.status_sentTo]
        exact Api.status_failure_ne _

theorem attended_run {request : Http.Request}
    (hdated : ∀ mid, mid <+: post → (first.run (pre ++ mid)).Dated
      (first.sightings inner outer (pre ++ mid)) inner outer)
    {limit : Nat} (ht : (first.run pre).tasks[number]? =
      some (.request request limit (.stats none))) :
    ∃ last, (first.run (pre ++ post)).tasks[number]? = some last ∧
      first.Attended pre number request inner outer post last := by
  induction post using List.reverseRecOn with
  | nil => exact ⟨_, by rw [List.append_nil]; exact ht, .working⟩
  | append_singleton post e ih =>
    obtain ⟨last, hlast, hattended⟩ := ih fun mid hmid =>
      hdated mid (hmid.trans (List.prefix_append _ _))
    refine ⟨_, ?_, hattended.concat (hdated post (List.prefix_append _ _)) hlast e⟩
    rw [← List.append_assoc, run_concat]
    exact getElem?_apply hlast e

/-! ## One call at a time -/

/-- The surveys in progress: that of the shared snapshot and those of tasks. -/
def surveys (d : Daemon) : List Survey :=
  (d.world.snapshots.cache.flight.map SharedCall.stage).toList ++ d.tasks.filterMap Task.survey?

/-- How many calls of the inspector for its hardware are running: that of the shared listing, and
those that surveys make themselves.  Calls for readings are not counted. -/
def runningListings (d : Daemon) : Nat :=
  (if d.world.listingRuns then 1 else 0) + d.surveys.countP Survey.lists

/-- Behind a cache no survey calls the inspector for its hardware itself, neither that of a task nor
the shared one. -/
theorem Dated.countP_lists (h : d.Dated seen inner outer) :
    d.surveys.countP Survey.lists = 0 := by
  have hflight : ∀ stage ∈ d.world.snapshots.cache.flight.map SharedCall.stage,
      stage.lists = false := by
    intro stage hstage
    obtain ⟨call, hcall, rfl⟩ := Option.map_eq_some_iff.mp hstage
    obtain ⟨began, hfetching⟩ := h.world.flight call hcall
    cases hcalled : call.stage with
    | listing due => exact absurd hcalled (hfetching.sources.ne_listing due)
    | _ => rfl
  have htasks : ∀ stage ∈ d.tasks.filterMap Task.survey?, stage.lists = false := by
    intro stage hstage
    obtain ⟨t, ht, hsurvey⟩ := List.mem_filterMap.mp hstage
    cases stage with
    | listing due => exact absurd hsurvey (h.surveys t ht due)
    | _ => rfl
  rw [List.countP_eq_zero]
  intro stage hstage
  rcases List.mem_append.mp hstage with hmem | hmem
  · rw [hflight stage (Option.mem_toList.mp hmem)]
    exact Bool.false_ne_true
  · rw [htasks stage hmem]
    exact Bool.false_ne_true

theorem Dated.runningListings_eq (h : d.Dated seen inner outer) :
    d.runningListings = if d.world.listingRuns then 1 else 0 := by
  unfold runningListings
  rw [h.countP_lists, Nat.add_zero]

/-- How an event leaves one call at a time: the inspector is called for its hardware only while
no such call is running, and no shared call is displaced by another. -/
structure OneAtATime (d d' : Daemon) : Prop where
  calls : d'.world.inspector.topology.calls = d.world.inspector.topology.calls ∨
    d'.world.inspector.topology.calls = d.world.inspector.topology.calls + 1 ∧
      d.runningListings = 0
  listing : d.world.ListingFollows d'.world
  fetches : d.world.snapshots.Follows d'.world.snapshots

/-- What leaves the three of them as they are: the calls of the inspector and both caches. -/
theorem OneAtATime.of_eq {d' : Daemon}
    (hcalls : d'.world.inspector.topology.calls = d.world.inspector.topology.calls)
    (htopology : d'.world.topology = d.world.topology)
    (hsnapshots : d'.world.snapshots = d.world.snapshots) : d.OneAtATime d' :=
  ⟨.inl hcalls, .of_eq htopology, hsnapshots ▸ .refl _⟩

/-- **No event starts a second call beside one that is running**, be it a call of the inspector for
its hardware or a shared one. -/
theorem Dated.oneAtATime_apply (h : d.Dated seen inner outer) (e : DaemonEvent) :
    d.OneAtATime (d.apply e) := by
  cases e with
  | prune =>
    rw [Daemon.apply, World.prune_frame]
    exact .of_eq rfl rfl rfl
  | turn a =>
    cases a with
    | listing =>
      refine ⟨?_, d.world.listingFollows_advanceListing, ?_⟩
      · rcases d.world.calls_advanceListing with hsame | ⟨hcalls, hruns⟩
        · exact .inl hsame
        · refine .inr ⟨hcalls, ?_⟩
          rw [h.runningListings_eq, hruns]
          rfl
      · show d.world.snapshots.Follows d.world.advanceListing.snapshots
        rw [d.world.snapshots_advanceListing]
        exact .refl _
    | snapshot =>
      obtain ⟨hlisting, hprobe⟩ := d.world.listing_advanceSnapshot
      exact ⟨.inl (congrArg Probe.calls (hprobe h.world.cached)), hlisting,
        d.world.follows_advanceSnapshot⟩
    | task number =>
      have hturns := d.turns_turn number
      exact ⟨.inl (congrArg Probe.calls (hturns.topologyProbe h.world.cached)),
        hturns.listingFollows, hturns.follows⟩
  | _ => exact .of_eq rfl rfl rfl

/-! ## A whole run -/

/-- What a run promises of the current values that it shows, by the retention of the listing,
that of snapshots, and the limit of a fetch of a snapshot. -/
structure BoundedStaleness (first : Daemon) (events : List DaemonEvent)
    (listingRetention retention limit : Span) : Prop where
  /-- A request for the current values that is answered with them is answered in a turn in which
  they are recent. -/
  answers : ∀ pre request post r, events = pre ++ .request request :: post →
    request.route Api.pages = .ok .stats →
    let number := (first.run pre).tasks.length
    (first.run events).tasks[number]? = some (.ended (.response r)) → r.status = 200 →
    ∃ mid rest, post = mid ++ .turn (.task number) :: rest ∧
      first.AnswersAt (pre ++ .request request :: mid) number request r ∧
      first.ShowsRecent (pre ++ .request request :: mid) request listingRetention retention
        limit r
  /-- At most one call of the inspector for its hardware is running. -/
  running : ∀ pre, pre <+: events → (first.run pre).runningListings ≤ 1
  /-- No call for the hardware, and no fetch of a snapshot, starts while another is running. -/
  oneAtATime : ∀ pre e post, events = pre ++ e :: post →
    (first.run pre).OneAtATime (first.run (pre ++ [e]))

/-- A new daemon with a cache in front of the listing holds nothing, and so everything that it holds
is dated. -/
theorem dated_create {settings : DaemonSettings} {listingRetention listingLimit : Span}
    (hcreate : create settings = .ok first)
    (hcache : settings.topologyCache = some (listingRetention, listingLimit)) :
    ∃ inner outer : CacheSettings, inner.retention = listingRetention ∧
      outer.retention = settings.snapshotRetention ∧
      outer.fetchTimeout = settings.snapshotFetchTimeout ∧
      first.Dated (first.sightings inner outer []) inner outer := by
  obtain ⟨cache, retention, outer, hinner, -, houter, rfl⟩ := create_eq_ok hcreate
  obtain ⟨hretention, hlimit⟩ := CacheSettings.eq_of_create houter
  rw [hcache] at hinner
  have hinner : Except.map some (CacheSettings.create listingRetention listingLimit) =
      .ok cache := hinner
  cases hnew : CacheSettings.create listingRetention listingLimit with
  | error e =>
    rw [hnew] at hinner
    cases hinner
  | ok inner =>
    rw [hnew] at hinner
    obtain rfl := Except.ok.inj hinner
    refine ⟨inner, outer, (CacheSettings.eq_of_create hnew).1, hretention, hlimit, ?_⟩
    constructor
    case world =>
      exact ⟨⟨_, rfl, rfl, fun s hs => (by cases hs)⟩, rfl, fun s hs => (by cases hs),
        fun call hcall => (by cases hcall)⟩
    case waiting => exact fun t ht => (by cases ht)
    case surveys => exact fun t ht => (by cases ht)

/-- **The staleness of the current values is bounded through both caches**, in every run in which
time waits for whoever can go on.  Both bounds are read off the invariant at the turn in which the
request is answered (`Obtains.recent`): what the cache holds is younger than its retention, and what
has been waited for was fetched at this very moment.  The topology was young enough when it was
fetched, and has aged by the same time since. -/
theorem create_boundedStaleness {settings : DaemonSettings} {listingRetention listingLimit : Span}
    (hcreate : create settings = .ok first)
    (hcache : settings.topologyCache = some (listingRetention, listingLimit))
    (hprompt : first.Prompt events) :
    first.BoundedStaleness events listingRetention settings.snapshotRetention
      settings.snapshotFetchTimeout := by
  obtain ⟨inner, outer, rfl, hretention, hlimit, hfirst⟩ := dated_create hcreate hcache
  rw [← hretention, ← hlimit]
  -- everything is dated at every moment of the run, by what has been seen until then
  have hdated (pre : List DaemonEvent) (hpre : pre <+: events) :
      (first.run pre).Dated (first.sightings inner outer pre) inner outer := by
    obtain ⟨post, rfl⟩ := hpre
    exact dated_run hfirst ((first.prompt_append pre post).mp hprompt).1
  constructor
  case answers =>
    rintro pre request post r rfl hroute number hended hstatus
    obtain ⟨limit, htask⟩ := requestTask_of_stats hroute (first.run pre)
    have hstart : (first.run (pre ++ [.request request])).tasks[number]? =
        some (.request request limit (.stats none)) := by
      rw [run_concat]
      exact getElem?_apply_new (congrArg some htask)
    rw [List.append_cons] at hdated hended
    obtain ⟨last, hlast, hattended⟩ := attended_run (fun mid hmid =>
      hdated _ ((List.prefix_append_right_inj _).mpr hmid)) hstart
    obtain rfl := Option.some.inj (hended.symm.trans hlast)
    cases hattended with
    | ended hanswers =>
      obtain ⟨mid, rest, hsplit, hat, hrecent⟩ := hanswers r rfl hstatus
      rw [← List.append_cons] at hat hrecent
      exact ⟨mid, rest, hsplit, hat, hrecent⟩
  case running =>
    intro pre hpre
    rw [(hdated pre hpre).runningListings_eq]
    split <;> decide
  case oneAtATime =>
    rintro pre e post rfl
    rw [run_concat]
    exact (hdated pre (List.prefix_append _ _)).oneAtATime_apply e

/-- The current values are requested while a poll lists the hardware, which takes a millisecond,
and again a millisecond later. -/
def requestedTwice : List DaemonEvent :=
  [.showTopology { Probe.showing SmallMachine.topology with delay := some 1 },
    .showReadings (.showing SmallMachine.readings),
    .call false .poll, .request ⟨"GET", "/api/v1/stats", none⟩,
    .turn (.task 1), .turn .snapshot, .turn (.task 0), .turn .listing, .pass 1,
    .turn .listing, .turn .snapshot, .turn (.task 0), .turn (.task 1), .pass 2,
    .request ⟨"GET", "/api/v1/stats", none⟩, .turn (.task 2)]

theorem prompt_requestedTwice (h : create SmallMachine.settings = .ok d) :
    d.Prompt requestedTwice := by
  have hnew : create SmallMachine.settings = .ok _ := rfl
  obtain rfl := Except.ok.inj (hnew.symm.trans h)
  refine ⟨trivial, trivial, trivial, trivial, trivial, trivial, trivial, trivial, ?_, trivial,
    trivial, trivial, trivial, ?_, trivial, trivial, trivial⟩
  · intro moment _ hlt a
    obtain rfl : moment = 0 := Nat.lt_one_iff.mp hlt
    match a with
    | .listing | .snapshot | .task 0 | .task 1 => with_unfolding_all rfl
    | .task (number + 2) => exact turn_task_none (by with_unfolding_all rfl)
  · intro moment hle hlt a
    have hle : 1 ≤ moment := by with_unfolding_all exact hle
    obtain rfl : moment = 1 := Nat.le_antisymm (Nat.le_of_lt_succ hlt) hle
    match a with
    | .listing | .snapshot | .task 0 | .task 1 => with_unfolding_all rfl
    | .task (number + 2) => exact turn_task_none (by with_unfolding_all rfl)

/-- The second request is answered out of the cache, with the snapshot that was fetched for the
first one a millisecond before. -/
theorem boundedStaleness_of_second_request :
    ∃ d, create SmallMachine.settings = .ok d ∧ d.Prompt requestedTwice ∧
      (d.run requestedTwice).tasks[2]? = some (.ended (.response (.json
        (Snapshot.build SmallMachine.topology SmallMachine.readings .epoch).encode))) ∧
      d.BoundedStaleness requestedTwice (.ofSeconds 60) (.ofSeconds 5) (.ofSeconds 2) := by
  have hnew : create SmallMachine.settings = .ok _ := rfl
  exact ⟨_, hnew, prompt_requestedTwice hnew, by with_unfolding_all rfl,
    create_boundedStaleness hnew rfl (prompt_requestedTwice hnew)⟩

end Daemon

end Telemetry
