import Telemetry.Proofs.Chronology
import Telemetry.Proofs.Daemon.Events

/-! # Where surveys have their topologies from

Every topology that a task measures after was answered by the inspector at some moment of the run:
to the task itself, or to a shared listing whose topology the cache has handed on.

A topology is known to a daemon while a cache has it or a task measures after it (`Knows`).  An
event brings no other than those that are known already and the one that the inspector shows
(`knows_apply`), so a topology that is known at the end of a run has been shown somewhere in it, if
none was known at its start.
-/

namespace Telemetry

variable {d : Daemon} {e : DaemonEvent} {number : Nat} {t : Task} {c : CycleCall}
  {stage : Survey} {topology : Topology}

/-! ## The surveys of tasks -/

namespace World

/-- A task goes on with the survey that it is making, or begins one, as a poller does at its
tick. -/
theorem survey?_of_cycleOf? {w : World} (h : w.cycleOf? t = some c) :
    t.survey? = some c.stage ∨ t.survey? = none ∧ c.stage = .fresh := by
  cases t with
  | request request limit work =>
    cases work with
    | stats joined => cases h
    | history range stage => exact .inl (by rw [← Option.some.inj h]; rfl)
  | cycle cancelled purpose stage => exact .inl (by rw [← Option.some.inj h]; rfl)
  | poller p =>
    obtain ⟨ticker, stopped, cycle⟩ := p
    cases cycle with
    | some stage => exact .inl (by rw [← Option.some.inj h]; rfl)
    | none =>
      unfold cycleOf? at h
      dsimp only at h
      split at h
      · cases h
      · split at h
        · exact .inr ⟨rfl, by rw [← Option.some.inj h]⟩
        · cases h
  | pruner p => cases h
  | ended e => cases h

end World

namespace Daemon

theorem survey?_requestTask (d : Daemon) (request : Http.Request) :
    (d.requestTask request).survey? = none ∨ (d.requestTask request).survey? = some .fresh := by
  unfold requestTask
  cases h : Api.receive 0 request with
  | answered r => exact .inl rfl
  | working work =>
    rcases Api.receive_working h with rfl | ⟨range, rfl⟩
    · exact .inl rfl
    · exact .inr rfl

/-- A new task has not begun a survey, even one that is to make one. -/
theorem survey?_taskOf? (h : d.taskOf? e = some t) :
    t.survey? = none ∨ t.survey? = some .fresh := by
  cases e with
  | request r =>
    obtain rfl := Option.some.inj h
    exact d.survey?_requestTask r
  | call cancelled purpose =>
    obtain rfl := Option.some.inj h
    exact .inr rfl
  | startPolling interval =>
    obtain rfl := Option.some.inj h
    unfold Poller.start
    split <;> exact .inl rfl
  | startPruning =>
    obtain rfl := Option.some.inj h
    exact .inl (survey?_loopTask_pruner _)
  | _ => cases h

/-- The survey of a task after an event is what it was, or what a step of it has come to. -/
theorem survey?_taskAfter (h : (d.taskAfter number t e).survey? = some stage) :
    t.survey? = some stage ∨
      ∃ c, e = .turn (.task number) ∧ d.world.cycleOf? t = some c ∧
        (d.world.goOn c).2 = .pending stage := by
  rcases d.taskAfter_cases number t e with
    ⟨-, hafter⟩ | ⟨-, hafter⟩ | ⟨-, hafter⟩ | ⟨rfl, hafter⟩ <;> rw [hafter] at h
  · exact .inl h
  · exact .inl (t.survey?_cancel ▸ h)
  · rw [t.survey?_drop] at h
    cases h
  · cases hcycle : d.world.cycleOf? t with
    | none =>
      rw [(advanceTask_of_idle hcycle).1] at h
      cases h
    | some c =>
      rw [advanceTask_of_cycle hcycle] at h
      exact .inr ⟨c, rfl, rfl, survey?_afterStep h⟩

/-- Behind a cache no cycle of a task calls the inspector for its hardware. -/
theorem not_callsItself_of_cycleOf? (hcached : d.world.topology.isSome)
    (hlisting : ∀ due, t.survey? ≠ some (.listing due)) (hc : d.world.cycleOf? t = some c) :
    ¬ d.world.CallsItself c.stage := by
  refine World.not_callsItself hcached fun due hstage => ?_
  rcases World.survey?_of_cycleOf? hc with hsurvey | ⟨-, hfresh⟩
  · exact hlisting due (hstage ▸ hsurvey)
  · rw [hstage] at hfresh
    cases hfresh

/-- Behind a cache no survey of a task calls the inspector for its hardware itself. -/
theorem ne_listing_apply (hcached : d.world.topology.isSome)
    (h : ∀ t ∈ d.tasks, ∀ due, t.survey? ≠ some (.listing due)) (ht : t ∈ (d.apply e).tasks)
    (due : Option Nat) : t.survey? ≠ some (.listing due) := by
  intro hlisting
  rcases mem_tasks_apply ht with ⟨number, before, hbefore, rfl⟩ | hnew
  · have hmem := List.mem_of_getElem? hbefore
    rcases survey?_taskAfter hlisting with hsame | ⟨c, rfl, hc, hpending⟩
    · exact h before hmem due hsame
    · obtain ⟨_, -, -, hcomes⟩ := d.world.surveying_advanceCycle c.cancelled c.purpose c.stage
      cases hcomes _ hpending with
      | lists hcalls => exact not_callsItself_of_cycleOf? hcached (h before hmem) hc hcalls
  · rcases survey?_taskOf? hnew with hnone | hfresh
    · rw [hnone] at hlisting
      cases hlisting
    · rw [hfresh] at hlisting
      cases hlisting

end Daemon

/-! ## The topologies that a daemon knows -/

/-- The cache has a topology: stored, or as the outcome of a shared listing. -/
def World.Caches (w : World) (topology : Topology) : Prop :=
  ∃ shared, w.topology = some shared ∧
    ((∃ s, shared.cache.stored = some s ∧ s.value = topology) ∨ .ok topology ∈ shared.outcomes)

/-- The inspector would answer with a topology now, if it were called and did answer. -/
def World.Shows (w : World) (topology : Topology) : Prop :=
  w.inspector.topology.ending = .value topology

namespace World

variable {w w' : World}

theorem Surveying.caches (h : w.Surveying w') (hcaches : w'.Caches topology) :
    w.Caches topology := by
  obtain ⟨shared, hshared, hhas⟩ := hcaches
  rcases h.shared with heq | ⟨before, hbefore, heq⟩
  · exact ⟨shared, heq ▸ hshared, hhas⟩
  · rw [heq] at hshared
    obtain rfl := Option.some.inj hshared
    obtain ⟨-, hstored, houtcomes⟩ := before.get_frame w.now .fresh
    rw [hstored, houtcomes] at hhas
    exact ⟨before, hbefore, hhas⟩

theorem Turns.caches {r : Retention} (h : w.Turns r w') (hcaches : w'.Caches topology) :
    w.Caches topology := by
  cases h with
  | surveys hsurveying => exact hsurveying.caches hcaches
  | rests => exact hcaches
  | asks => exact hcaches
  | prunes =>
    rw [prune_frame] at hcaches
    exact hcaches

/-- A topology that a survey is given was cached or is shown, unless the survey had it. -/
theorem Supplies.cases_known (h : w.Supplies stage topology) :
    (∃ due, stage = .measuring topology due) ∨ w.Caches topology ∨ w.Shows topology := by
  cases h with
  | @had topology due => exact .inl ⟨due, rfl⟩
  | called _ hshown => exact .inr (.inr hshown)
  | @cached shared s hshared hstored _ =>
    exact .inr (.inl ⟨shared, hshared, .inl ⟨s, hstored, rfl⟩⟩)
  | @joined number topology hlisting =>
    unfold listing? at hlisting
    obtain ⟨shared, hshared, houtcome⟩ := Option.bind_eq_some_iff.mp hlisting
    exact .inr (.inl ⟨shared, hshared, .inr (List.mem_of_getElem? houtcome)⟩)

/-- The inspector answers a shared listing with what it shows, however long ago it was called. -/
theorem answerListing_value {listing : Listing}
    (h : (w.answerListing listing).2 = .done (.value topology)) : w.Shows topology := by
  have hresume (due : Option Nat)
      (h : w.inspector.topology.resume false w.now due = .done (.value topology)) :
      w.Shows topology := by
    rcases w.inspector.topology.resume_cases false w.now due with hr | hr | hr <;> rw [hr] at h
    · cases h
    · cases h
    · exact Progress.done.inj h
  cases listing with
  | fresh => exact hresume _ h
  | waiting due => exact hresume due h

/-- After a turn of the shared listing the cache has what it had, and what is shown. -/
theorem caches_advanceListing (h : w.advanceListing.Caches topology) :
    w.Caches topology ∨ w.Shows topology := by
  cases hshared : w.topology with
  | none =>
    unfold advanceListing at h
    rw [hshared] at h
    exact .inl h
  | some shared =>
    cases hcall : shared.cache.flight with
    | none =>
      unfold advanceListing at h
      rw [hshared] at h
      simp only [hcall] at h
      exact .inl h
    | some call =>
      rw [advanceListing_of_flight hshared hcall] at h
      obtain ⟨after, hafter, hhas⟩ := h
      obtain rfl := Option.some.inj hafter
      have hshown (hdone : listingStage (w.answerListing call.stage).2 = .done (.value topology)) :
          w.Shows topology := answerListing_value (listingStage_done hdone)
      rcases hhas with ⟨s, hs, rfl⟩ | hmem
      · rcases Shared.stored_advance hs with hold | ⟨hdone, -⟩
        · exact .inl ⟨shared, hshared, .inl ⟨s, hold, rfl⟩⟩
        · exact .inr (hshown hdone)
      · obtain ⟨number, hended⟩ := List.getElem?_of_mem hmem
        rcases Shared.outcome?_advance hended with hold | hdone
        · exact .inl ⟨shared, hshared, .inr (List.mem_of_getElem? hold)⟩
        · exact .inr (hshown hdone)

end World

namespace Daemon

/-- A topology is known: the cache has it, or a task measures after it.  Without a cache only the
latter is possible. -/
def Knows (d : Daemon) (topology : Topology) : Prop :=
  d.world.Caches topology ∨ ∃ t ∈ d.tasks, ∃ due, t.survey? = some (.measuring topology due)

/-- What a step of a task's cycle supplies a survey with is known, or shown. -/
theorem known_of_supplies (ht : t ∈ d.tasks) (hc : d.world.cycleOf? t = some c)
    (h : d.world.Supplies c.stage topology) : d.Knows topology ∨ d.world.Shows topology := by
  rcases h.cases_known with ⟨due, hstage⟩ | hcaches | hshows
  · rcases World.survey?_of_cycleOf? hc with hsurvey | ⟨-, hfresh⟩
    · exact .inl (.inr ⟨t, ht, due, hstage ▸ hsurvey⟩)
    · rw [hstage] at hfresh
      cases hfresh
  · exact .inl (.inl hcaches)
  · exact .inr hshows

theorem caches_apply (h : (d.apply e).world.Caches topology) :
    d.world.Caches topology ∨ d.world.Shows topology := by
  cases e with
  | prune =>
    rw [apply, World.prune_frame] at h
    exact .inl h
  | turn a =>
    cases a with
    | listing => exact World.caches_advanceListing h
    | snapshot =>
      refine .inl ?_
      have hcaches : d.world.advanceSnapshot.Caches topology := h
      unfold World.advanceSnapshot at hcaches
      cases hflight : d.world.snapshots.cache.flight with
      | none =>
        rw [hflight] at hcaches
        exact hcaches
      | some call =>
        rw [hflight] at hcaches
        exact (d.world.surveying_advanceSurvey false call.stage).1.caches hcaches
    | task number => exact .inl ((d.turns_turn number).caches h)
  | _ => exact .inl h

/-- An event brings no topology that was neither known nor shown. -/
theorem knows_apply (h : (d.apply e).Knows topology) :
    d.Knows topology ∨ d.world.Shows topology := by
  rcases h with hcaches | ⟨t, ht, due, hstage⟩
  · exact (caches_apply hcaches).imp_left .inl
  · rcases mem_tasks_apply ht with ⟨number, before, hbefore, rfl⟩ | hnew
    · have hmem := List.mem_of_getElem? hbefore
      rcases survey?_taskAfter hstage with hsame | ⟨c, rfl, hc, hpending⟩
      · exact .inl (.inr ⟨before, hmem, due, hsame⟩)
      · -- a step has come to measuring, after what it was supplied with
        obtain ⟨w₁, -, -, hcomes⟩ :=
          d.world.surveying_advanceCycle c.cancelled c.purpose c.stage
        cases hcomes _ hpending with
        | measures hsupplies => exact known_of_supplies hmem hc hsupplies
    · rcases survey?_taskOf? hnew with hnone | hfresh
      · rw [hnone] at hstage
        cases hstage
      · rw [hfresh] at hstage
        cases hstage

/-- **Every topology that is known has been shown** at some moment of the run, by induction on the
run from its end. -/
theorem shown_of_knows_run {first : Daemon} (h : ∀ topology, ¬ first.Knows topology)
    {events : List DaemonEvent} (hknows : (first.run events).Knows topology) :
    ∃ pre, pre <+: events ∧ (first.run pre).world.Shows topology := by
  induction events using List.reverseRecOn with
  | nil => exact absurd hknows (h topology)
  | append_singleton events e ih =>
    rw [run_concat] at hknows
    rcases knows_apply hknows with hbefore | hshows
    · obtain ⟨pre, hpre, hshown⟩ := ih hbefore
      exact ⟨pre, hpre.trans (List.prefix_append _ _), hshown⟩
    · exact ⟨events, List.prefix_append _ _, hshows⟩

end Daemon

end Telemetry
