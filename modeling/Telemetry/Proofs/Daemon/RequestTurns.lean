import Telemetry.Proofs.Daemon.CurrentValues
import Telemetry.Proofs.Daemon.Failures

/-! # What the turn of a request comes to

A request for a history blames the client for nothing but the range that it names
(`Daemon.RangeAtFault`), which is checked before the survey begins and again when it has ended.
Every failure of the inspector passes the step of the survey that met it, and comes out as an
upstream failure, a time-out or a cancellation; no other failure is left once nothing panics and the
store has no faults (`Daemon.Calm`).

What else it is answered with is put down to what has ended its survey (`World.HistoryAnswer`): a
report when the inspector has answered, the status of a failure and the step that it met when the
inspector, a shared listing or a token has ended one of the two steps, and a time-out when nothing
has ended the survey and the time of the request is up.  The four are told by the ends of calls and
listings, so that no status can be given for another reason.

A request for the current values waits for a shared snapshot instead, which fails for the same
reasons; of its answers only the statuses are stated (`Calm.turn_stats`).
-/

namespace Telemetry

variable {d first : Daemon} {e : DaemonEvent} {events : List DaemonEvent} {number : Nat} {t : Task}

/-! ## Runs in which nothing panics -/

/-- After an event the inspector does not panic, and no fault of the store hits a cycle. -/
def DaemonEvent.Calm : DaemonEvent → Prop
  | .showTopology p => p.Calm
  | .showReadings p => p.Calm
  | .setFaults f => f.write = none ∧ f.range = none
  | _ => True

namespace World

/-- The inspector does not panic, and no fault of the store hits a cycle.  The inspector may hang,
fail, or cancel its calls. -/
structure Calm (w : World) : Prop where
  topology : w.inspector.topology.Calm
  readings : w.inspector.readings.Calm
  faultless : w.Faultless

variable {w : World} {cancelled : Bool} {stage : Survey}

theorem Calm.not_dies (h : w.Calm) {message : String} :
    ¬ w.SurveyEnds cancelled stage (.panic message) := by
  intro hdies
  cases hdies with
  | measuringDies _ hmeasured => exact h.readings.not_ends hmeasured
  | listingDies hlisted =>
    obtain ⟨-, due, hpanic⟩ := hlisted.of_panic
    exact h.topology.not_ends hpanic

theorem Calm.advanceCycle_ne_panic (h : w.Calm) {purpose : Purpose} {message : String} :
    (w.advanceCycle cancelled purpose stage).2 ≠ .done (.panic message) := by
  intro hpanic
  have hends := ends_advanceCycle hpanic
  generalize hending : Ending.panic message = ending at hends
  cases hends with
  | refused | fails => cases hending
  | dies hsurvey => exact h.not_dies hsurvey
  | @completes s =>
    generalize ((w.advanceSurvey cancelled stage).1.complete purpose s).2 = result at hending
    cases result <;> cases hending

theorem of_surveyStage_done {progress : Progress Survey Surveyed} {e : Error}
    {ending : Ending Snapshot} (h : w.surveyStage progress = .done ending)
    (he : ending.shared = .error e) :
    progress = .done (.failure e) ∨ ∃ message, progress = .done (.panic message) := by
  rcases progress with stage | (s | failed | message)
  · cases h
  · cases h
    cases he
  · cases h
    exact .inl (by rw [Except.error.inj he])
  · exact .inr ⟨message, rfl⟩

/-- A shared snapshot fails because of what is upstream, and so does one that is late, with a
time-out. -/
theorem Calm.upstream_advanceSnapshot (h : w.Calm)
    (hold : ∀ e, .error e ∈ w.snapshots.outcomes → e.Upstream) {e : Error}
    (he : .error e ∈ w.advanceSnapshot.snapshots.outcomes) : e.Upstream := by
  cases hcall : w.snapshots.cache.flight with
  | none =>
    unfold advanceSnapshot at he
    rw [hcall] at he
    exact hold e he
  | some call =>
    rw [advanceSnapshot_of_flight hcall] at he
    rcases Shared.mem_outcomes_advance he with hmem | ⟨ending, hdone, hshared⟩ | hlate
    · exact hold e hmem
    · rcases of_surveyStage_done hdone hshared.symm with hfailed | ⟨message, hpanic⟩
      · exact (advanceSurvey_eq_done_iff.mp hfailed).upstream
      · exact absurd (advanceSurvey_eq_done_iff.mp hpanic) h.not_dies
    · rw [Except.error.inj hlate]
      rfl

end World

namespace Daemon

/-- A daemon in which nothing panics, no fault of the store hits a cycle, and no shared snapshot
has failed but because of what is upstream. -/
structure Calm (d : Daemon) : Prop where
  world : d.world.Calm
  snapshots : ∀ e, .error e ∈ d.world.snapshots.outcomes → e.Upstream

/-- No other event adds to what the shared snapshots have come to, so only their own turn is looked
at. -/
theorem snapshotOutcomes_apply (h : e ≠ .turn .snapshot) :
    (d.apply e).world.snapshots.outcomes = d.world.snapshots.outcomes := by
  cases e with
  | prune => rw [apply, World.prune_frame]
  | turn a =>
    cases a with
    | listing => exact congrArg Shared.outcomes d.world.snapshots_advanceListing
    | snapshot => exact absurd rfl h
    | task number => exact (d.turns_turn number).outcomes
  | _ => rfl

theorem Calm.world_apply (h : d.Calm) (he : e.Calm) : (d.apply e).world.Calm := by
  obtain ⟨htopology, hreadings, hfaultless⟩ := h.world
  cases e with
  | showTopology p => exact ⟨he, hreadings, hfaultless.congr rfl⟩
  | showReadings p => exact ⟨htopology, he, hfaultless.congr rfl⟩
  | setFaults f => exact ⟨htopology, hreadings, ⟨he.1, he.2⟩⟩
  | prune =>
    rw [apply, World.prune_frame]
    exact ⟨htopology, hreadings, hfaultless.congr rfl⟩
  | turn a =>
    have hsteady := d.steady_turn a
    refine ⟨?_, ?_, hfaultless.congr hsteady.faults⟩
    · show (d.turn a).world.inspector.topology.Calm
      rw [hsteady.topologyProbe]
      exact htopology
    · show (d.turn a).world.inspector.readings.Calm
      rw [hsteady.readingsProbe]
      exact hreadings
  | _ => exact ⟨htopology, hreadings, hfaultless.congr rfl⟩

theorem Calm.apply (h : d.Calm) (he : e.Calm) : (d.apply e).Calm where
  world := h.world_apply he
  snapshots _ hmem := by
    by_cases hturn : e = .turn .snapshot
    · subst hturn
      exact h.world.upstream_advanceSnapshot h.snapshots hmem
    · rw [snapshotOutcomes_apply hturn] at hmem
      exact h.snapshots _ hmem

/-- **In every run** in which nothing panics and the store has no faults, a daemon is calm at every
moment. -/
theorem calm_run (h : first.Calm) (hevents : ∀ e ∈ events, e.Calm) : (first.run events).Calm := by
  induction events using List.reverseRecOn with
  | nil => exact h
  | append_singleton events e ih =>
    rw [List.forall_mem_append, List.forall_mem_singleton] at hevents
    rw [run_concat]
    exact (ih hevents.1).apply hevents.2

theorem calm_create {settings : DaemonSettings} (h : create settings = .ok first) :
    first.Calm := by
  obtain ⟨cache, retention, snapshots, -, -, -, rfl⟩ := create_eq_ok h
  exact ⟨⟨fun _ h => (by cases h), fun _ h => (by cases h), ⟨rfl, rfl⟩⟩, fun _ h => by cases h⟩

/-! ## Requests for a history -/

/-- The range that a request for a history names is at fault at its turn, or on its arrival. -/
inductive RangeAtFault (d : Daemon) (number : Nat) (seconds : Int) : Prop where
  | notPositive : seconds ≤ 0 → RangeAtFault d number seconds
  | tooLong : Delta.ofSeconds? seconds = none → RangeAtFault d number seconds
  /-- The inspector has answered both calls of the survey, and the range reaches back beyond the
  earliest instant from the moment at which it has. -/
  | tooEarly {request : Http.Request} {limit : Nat} {range : Delta} {stage : Survey}
      {s : Surveyed} : d.tasks[number]? = some (.request request limit (.history range stage)) →
      d.world.SurveyEnds d.world.shutdown stage (.value s) →
      d.world.clock.counted - seconds < Instant.minSeconds → RangeAtFault d number seconds

end Daemon

/-- What a request for a history is answered with if its range is not at fault, by what has ended
its survey in a stage: the inspector's answers, a failure of one of them, or the limit of the
request.  A failure sets the status, and one that is neither a time-out nor a cancellation is
told in the body under the name of the step. -/
inductive World.HistoryAnswer (w : World) (stage : Survey) (limit : Nat) (r : Http.Response) :
    Prop where
  | reports {s : Surveyed} : w.SurveyEnds w.shutdown stage (.value s) → r.status = 200 →
      HistoryAnswer w stage limit r
  /-- The hardware was not listed: the inspector or the shared listing has failed, or the daemon
  is shutting down. -/
  | unlisted {e : Error} : w.ListingEnds w.shutdown stage (.failure e) →
      r.status = e.upstreamStatus →
      (e.upstreamStatus = 502 → ∃ rest, r.body = "Upstream error: get sensors: " ++ rest) →
      HistoryAnswer w stage limit r
  /-- The hardware was listed, and its values could not be read. -/
  | unmeasured {topology : Topology} {due : Option Nat} {e : Error} :
      w.Measures w.shutdown stage topology due →
      w.inspector.readings.Ends w.shutdown w.now due (.failure e) → r.status = e.upstreamStatus →
      (e.upstreamStatus = 502 → ∃ rest, r.body = "Upstream error: get current values: " ++ rest) →
      HistoryAnswer w stage limit r
  /-- Nothing has ended the survey, and the time of the request is up. -/
  | late : (∀ ending, ¬ w.SurveyEnds w.shutdown stage ending) → limit ≤ w.now → r.status = 504 →
      HistoryAnswer w stage limit r

theorem World.HistoryAnswer.status_ne {w : World} {stage : Survey} {limit : Nat}
    {r : Http.Response} (h : w.HistoryAnswer stage limit r) : r.status ≠ 400 := by
  cases h with
  | reports _ hstatus | late _ _ hstatus =>
    rw [hstatus]
    decide
  | @unlisted e _ hstatus _ | @unmeasured _ _ e _ _ hstatus _ =>
    rw [hstatus]
    rcases e.upstreamStatus_cases with h | h | h <;> rw [h] <;> decide

namespace Daemon

/-- What the turn of a request for a history comes to, whose survey is in a stage: it waits on, or
it is answered for one of two reasons. -/
inductive HistoryTurns (d : Daemon) (number : Nat) (seconds : Int) (request : Http.Request)
    (limit : Nat) (range : Delta) (stage : Survey) : Task → Prop where
  | waits {stage' : Survey} : HistoryTurns d number seconds request limit range stage
      (.request request limit (.history range stage'))
  | refuses {r : Http.Response} : d.RangeAtFault number seconds → r.status = 400 →
      HistoryTurns d number seconds request limit range stage (.ended (.response r))
  | answers {r : Http.Response} : ¬ d.RangeAtFault number seconds →
      d.world.HistoryAnswer stage limit r →
      HistoryTurns d number seconds request limit range stage (.ended (.response r))

variable {request : Http.Request} {limit : Nat} {range : Delta} {stage : Survey} {seconds : Int}

/-- The range in nanoseconds is at fault just when it is in seconds.  It reaches back too far when
no instant lies so long before the clock. -/
theorem rangeAtFault_iff
    (ht : d.tasks[number]? = some (.request request limit (.history range stage)))
    (hrange : Delta.ofSeconds? seconds = some range) :
    d.RangeAtFault number seconds ↔ range.nanos ≤ 0 ∨
      (∃ s, d.world.SurveyEnds d.world.shutdown stage (.value s)) ∧
        d.world.clock.sub? range = none := by
  have hnanos := Delta.nanos_of_ofSeconds? hrange
  constructor
  · intro h
    cases h with
    | notPositive hle => exact .inl (by omega)
    | tooLong hnone =>
      rw [hrange] at hnone
      cases hnone
    | tooEarly ht' hsurvey hearly =>
      cases ht.symm.trans ht'
      rcases Int.lt_or_le 0 seconds with hpos | hle
      · exact .inr ⟨⟨_, hsurvey⟩, (Instant.sub?_eq_none hpos hnanos).mpr hearly⟩
      · exact .inl (by omega)
  · rintro (hle | ⟨⟨s, hsurvey⟩, hnone⟩)
    · exact .notPositive (by omega)
    · rcases Int.lt_or_le 0 seconds with hpos | hle
      · exact .tooEarly ht hsurvey ((Instant.sub?_eq_none hpos hnanos).mp hnone)
      · exact .notPositive hle

/-- The range of a cycle that is not refused is not at fault before its survey has a result. -/
theorem not_rangeAtFault
    (ht : d.tasks[number]? = some (.request request limit (.history range stage)))
    (hrange : Delta.ofSeconds? seconds = some range) (hpos : 0 < range.nanos)
    (hnot : ∀ s, d.world.SurveyEnds d.world.shutdown stage (.value s) →
      d.world.clock.sub? range ≠ none) : ¬ d.RangeAtFault number seconds := by
  rw [rangeAtFault_iff ht hrange]
  rintro (hle | ⟨⟨s, hsurvey⟩, hnone⟩)
  · exact absurd hpos (Int.not_lt.mpr hle)
  · exact hnot s hsurvey hnone

/-- The failure of a survey, as a response, by the step of the survey that has failed. -/
theorem historyAnswer_of_failure {e : Error} (hget : request.method = "GET")
    (h : d.world.SurveyEnds d.world.shutdown stage (.failure e)) :
    d.world.HistoryAnswer stage limit ((Api.failure e).sentTo request) := by
  rw [Http.Response.sentTo_get hget]
  cases h with
  | unlisted hlisted => exact .unlisted hlisted Error.httpStatus_within Error.display_within
  | unmeasured hmeasures hmeasured =>
    exact .unmeasured hmeasures hmeasured Error.httpStatus_within Error.display_within

/-- The turn of a request for a history that ends its cycle, by the ways in which a cycle ends. -/
theorem historyTurns_of_done (hget : request.method = "GET") (hcalm : d.Calm)
    (ht : d.tasks[number]? = some (.request request limit (.history range stage)))
    (hadmitted : stage = .fresh ∨ (Purpose.history range).refusal = none)
    (hrange : Delta.ofSeconds? seconds = some range) {ending : Ending CycleYield}
    (hends : d.world.CycleEnds d.world.shutdown (.history range) stage ending) :
    d.HistoryTurns number seconds request limit range stage
      (d.afterWork request limit (Api.historyProgress range (.done ending))) := by
  have hfault := rangeAtFault_iff ht hrange
  cases hends with
  | refused _ hrefused =>
    obtain ⟨hle, hstatus⟩ := Purpose.status_of_refusal hrefused
    exact .refuses (hfault.mpr (.inl hle)) ((Http.Response.status_sentTo ..).trans hstatus)
  | dies hpanic => exact absurd hpanic hcalm.world.not_dies
  | fails hfresh hsurvey =>
    refine .answers (not_rangeAtFault ht hrange (Purpose.pos_of_refusal (hadmitted.elim hfresh id))
      fun s hvalue => ?_) (historyAnswer_of_failure hget hsurvey)
    cases hsurvey.unique hvalue
  | @completes s hfresh hsurvey =>
    have hpos := Purpose.pos_of_refusal (hadmitted.elim hfresh id)
    have hframe := (d.world.surveying_advanceSurvey d.world.shutdown stage).1.frame
    generalize hw : (d.world.advanceSurvey d.world.shutdown stage).1 = w at hframe ⊢
    -- the clock is read after the survey, which does not move it
    have hclock : w.clock = d.world.clock := by rw [hframe]
    cases hfirst : w.clock.sub? range with
    | none =>
      have hatFault : d.RangeAtFault number seconds :=
        hfault.mpr (.inr ⟨⟨s, hsurvey⟩, hclock ▸ hfirst⟩)
      unfold World.complete
      simp only [hfirst]
      exact .refuses hatFault (Http.Response.status_sentTo ..)
    | some earliest =>
      have hfaultless : w.Faultless := hcalm.world.faultless.congr (by rw [hframe])
      have hfine := not_rangeAtFault ht hrange hpos fun _ _ => by
        rw [← hclock, hfirst]
        exact Option.some_ne_none earliest
      rw [World.complete_history hfaultless hpos hfirst]
      exact .answers hfine (.reports hsurvey (Http.Response.status_sentTo ..))

/-- **The turn of a request for a history**: its cycle ends in it, its time is up, or it waits
on. -/
theorem historyTurns (hget : request.method = "GET") (hcalm : d.Calm)
    (ht : d.tasks[number]? = some (.request request limit (.history range stage)))
    (hadmitted : stage = .fresh ∨ (Purpose.history range).refusal = none)
    (hrange : Delta.ofSeconds? seconds = some range) :
    d.HistoryTurns number seconds request limit range stage
      (d.advanceTask (.request request limit (.history range stage))).2 := by
  rw [advanceTask_of_cycle (c := ⟨_, .history range, stage⟩) rfl]
  unfold afterStep World.goOn
  dsimp only
  cases hgo : (d.world.advanceCycle d.world.shutdown (.history range) stage).2 with
  | done ending =>
    exact historyTurns_of_done hget hcalm ht hadmitted hrange (World.ends_advanceCycle hgo)
  | pending stage' =>
    obtain ⟨hfresh, hpending⟩ := World.pending_advanceCycle hgo
    have hnot : ∀ ending, ¬ d.world.SurveyEnds d.world.shutdown stage ending := fun ending h => by
      cases hpending.symm.trans (World.advanceSurvey_eq_done_iff.mpr h)
    unfold Api.historyProgress afterWork
    dsimp only
    split
    next hlate =>
      exact .answers (not_rangeAtFault ht hrange
        (Purpose.pos_of_refusal (hadmitted.elim hfresh id)) fun s hvalue => absurd hvalue (hnot _))
        (.late hnot hlate (Http.Response.status_sentTo ..))
    next => exact .waits

/-- The turn of a request that is refused leaves the world alone: the range is looked at before the
inspector is called. -/
theorem advanceTask_of_refused (hle : range.nanos ≤ 0)
    (hadmitted : stage = .fresh ∨ (Purpose.history range).refusal = none) :
    (d.advanceTask (.request request limit (.history range stage))).1 = d.world := by
  rw [advanceTask_of_cycle (c := ⟨_, .history range, stage⟩) rfl]
  rcases d.world.advanceCycle_cases d.world.shutdown (.history range) stage with
    ⟨e, -, -, hstep⟩ | ⟨hfresh, -⟩
  · exact congrArg Prod.fst hstep
  · exact absurd (Purpose.pos_of_refusal (hadmitted.elim hfresh id)) (Int.not_lt.mpr hle)

/-- The turn of a request for a history answers it, or it waits on, over the same range and until
the same limit. -/
theorem Calm.turn_history (h : d.Calm) :
    (∃ stage', (d.advanceTask (.request request limit (.history range stage))).2 =
        .request request limit (.history range stage')) ∨
      ∃ r, (d.advanceTask (.request request limit (.history range stage))).2 =
        .ended (.response r) := by
  rw [advanceTask_of_cycle (c := ⟨_, .history range, stage⟩) rfl]
  unfold afterStep World.goOn
  dsimp only
  cases hgo : (d.world.advanceCycle d.world.shutdown (.history range) stage).2 with
  | pending stage' =>
    unfold Api.historyProgress afterWork
    dsimp only
    split
    · exact .inr ⟨_, rfl⟩
    · exact .inl ⟨_, rfl⟩
  | done ending =>
    cases ending with
    | value y => exact .inr ⟨_, rfl⟩
    | failure e => exact .inr ⟨_, rfl⟩
    | panic message => exact absurd hgo h.world.advanceCycle_ne_panic

/-- The turn of a request for the current values answers it, and not with a client error or an
internal one, or it waits on. -/
theorem Calm.turn_stats (h : d.Calm) (request : Http.Request) (limit : Nat)
    (joined : Option Nat) :
    (∃ joined', (d.advanceTask (.request request limit (.stats joined))).2 =
        .request request limit (.stats joined')) ∨
      ∃ r, (d.advanceTask (.request request limit (.stats joined))).2 = .ended (.response r) ∧
        r.status ∈ [200, 502, 503, 504] := by
  have hserves := d.serves_advanceTask request limit joined
  generalize (d.advanceTask (.request request limit (.stats joined))).2 = after at hserves ⊢
  cases hserves with
  | waits => exact .inl ⟨_, rfl⟩
  | shows =>
    refine .inr ⟨_, rfl, ?_⟩
    rw [Http.Response.status_sentTo]
    exact List.mem_cons_self
  | @fails e hreason =>
    refine .inr ⟨_, rfl, ?_⟩
    rw [Http.Response.status_sentTo]
    have hupstream : e.Upstream := by
      rcases hreason with rfl | ⟨span, rfl⟩ | hmem
      · rfl
      · rfl
      · exact h.snapshots e hmem
    show e.httpStatus ∈ _
    rw [show e.httpStatus = e.upstreamStatus from hupstream]
    rcases e.upstreamStatus_cases with hstatus | hstatus | hstatus <;> rw [hstatus] <;> decide

end Daemon

end Telemetry
