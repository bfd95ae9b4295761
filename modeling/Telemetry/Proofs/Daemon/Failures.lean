import Telemetry.Proofs.Daemon.Listings

/-! # Which failures reach a cycle

A shared listing has no token but its own, which nothing cancels while the listing is waited for:
it comes to what the inspector answers, or to the time-out of the cache (`listing?_apply`).
So where the inspector and the store cancel nothing of their own accord, a poll is cancelled by
its own token and by nothing else (`Candid.poll_ends`), whoever shares the listings that it waits
for, and however these come to an end.

The invariant of a run is `Candid`.  Besides what the inspector and the store may do it says that
no shared listing has come to a cancellation, and that behind a cache nobody lists the hardware
for himself, where a panic of the inspector would end more than a shared listing.
-/

namespace Telemetry

variable {d : Daemon} {e : DaemonEvent}

/-! ## Inspectors that cancel nothing -/

/-- After an event the inspector and the store still cancel nothing of their own accord, and nothing
panics but a shared listing.  Behind a cache a panic of the inspector ends a shared listing only. -/
def DaemonEvent.Candid (cached : Bool) : DaemonEvent → Prop
  | .showTopology p => p.Candid ∧ (cached = false → p.Calm)
  | .showReadings p => p.Candid ∧ p.Calm
  | .setFaults f => ∀ fault sensor, f.write = some (fault, sensor) → fault ≠ .cancelled
  | _ => True

namespace World

/-- The inspector and the store cancel nothing of their own accord, no shared listing has been
cancelled, and nothing panics but a shared listing. -/
structure Candid (cached : Bool) (w : World) : Prop where
  behind : w.topology.isSome = cached
  topology : w.inspector.topology.Candid
  direct : cached = false → w.inspector.topology.Calm
  readings : w.inspector.readings.Candid
  calm : w.inspector.readings.Calm
  write : ∀ fault sensor, w.faults.write = some (fault, sensor) → fault ≠ .cancelled
  listings : ∀ number, w.listing? number ≠ some (.error .cancelled)

variable {cached : Bool} {w w' : World} {c : CycleCall} {ending : Ending CycleYield}

theorem Candid.congr (h : w.Candid cached) (hbehind : w'.topology.isSome = cached)
    (htopology : w.inspector.topology.Same w'.inspector.topology)
    (hreadings : w.inspector.readings.Same w'.inspector.readings)
    (hfaults : w'.faults = w.faults)
    (hlistings : ∀ number, w'.listing? number ≠ some (.error .cancelled)) :
    w'.Candid cached where
  behind := hbehind
  topology := by
    rw [htopology]
    exact h.topology
  direct hdirect := by
    rw [htopology]
    exact h.direct hdirect
  readings := by
    rw [hreadings]
    exact h.readings
  calm := by
    rw [hreadings]
    exact h.calm
  write := by
    rw [hfaults]
    exact h.write
  listings := hlistings

/-- A shared listing is not cancelled: what it comes to is answered by the inspector, or is a
time-out.  A panic of the inspector is shared as a failure of another kind. -/
theorem Candid.not_comesTo_cancelled (h : w.Candid cached) {call : SharedCall Listing} :
    ¬ w.ListingComesTo call (.error .cancelled) := by
  intro hcomes
  cases hcomes with
  | late _ _ _ heq => cases heq
  | @answered ending hends heq =>
    cases ending with
    | value topology => cases heq
    | panic message => cases heq
    | failure e =>
      obtain rfl := Except.error.inj heq
      cases h.topology.cancelled_of_ends hends

end World

namespace Daemon

variable {cached : Bool} {events : List DaemonEvent} {t : Task}

/-- A daemon whose inspector and store cancel nothing, and behind whose cache nobody lists the
hardware for himself.  The latter needs no assumption about events. -/
structure Candid (cached : Bool) (d : Daemon) : Prop where
  world : d.world.Candid cached
  surveys : cached = true → ∀ t ∈ d.tasks, ∀ due, t.survey? ≠ some (.listing due)

theorem Candid.world_apply (h : d.Candid cached) (he : e.Candid cached) :
    (d.apply e).world.Candid cached := by
  have hlistings (number : Nat) :
      (d.apply e).world.listing? number ≠ some (.error .cancelled) := by
    intro hended
    rcases listing?_apply hended with hbefore | ⟨-, call, -, hcomes⟩
    · exact h.world.listings number hbefore
    · exact h.world.not_comesTo_cancelled hcomes
  have hbehind := (d.isSome_topology_apply e).trans h.world.behind
  cases e with
  | showTopology p =>
    exact ⟨hbehind, he.1, he.2, h.world.readings, h.world.calm, h.world.write, hlistings⟩
  | showReadings p =>
    exact ⟨hbehind, h.world.topology, h.world.direct, he.1, he.2, h.world.write, hlistings⟩
  | setFaults f =>
    exact ⟨hbehind, h.world.topology, h.world.direct, h.world.readings, h.world.calm, he, hlistings⟩
  | turn a =>
    have hsteady := d.steady_turn a
    exact h.world.congr hbehind hsteady.topologyProbe hsteady.readingsProbe hsteady.faults hlistings
  | prune =>
    refine h.world.congr hbehind ?_ ?_ ?_ hlistings <;> rw [apply, World.prune_frame]
    · rfl
    · rfl
  | _ => exact h.world.congr hbehind rfl rfl rfl hlistings

theorem Candid.apply (h : d.Candid cached) (he : e.Candid cached) : (d.apply e).Candid cached where
  world := h.world_apply he
  surveys hcached _ ht :=
    ne_listing_apply (h.world.behind.trans hcached) (h.surveys hcached) ht

/-- **In every run** in which the inspector and the store cancel nothing, a daemon is candid at
every moment. -/
theorem candid_run (h : d.Candid cached) (hevents : ∀ e ∈ events, e.Candid cached) :
    (d.run events).Candid cached := by
  induction events using List.reverseRecOn with
  | nil => exact h
  | append_singleton events e ih =>
    rw [List.forall_mem_append, List.forall_mem_singleton] at hevents
    rw [run_concat]
    exact (ih hevents.1).apply hevents.2

theorem candid_create {settings : DaemonSettings} (h : create settings = .ok d) :
    d.Candid settings.topologyCache.isSome := by
  obtain ⟨⟨hlistings, -⟩, hsettings⟩ := listings_create h
  have hbehind : d.world.topology.isSome = settings.topologyCache.isSome := by
    have hsome := congrArg Option.isSome hsettings
    unfold World.listingSettings at hsome
    rwa [Option.isSome_map, Option.isSome_map, Option.isSome_map] at hsome
  obtain ⟨topology, retention, snapshots, -, -, -, rfl⟩ := create_eq_ok h
  refine ⟨?_, fun _ t ht => absurd ht List.not_mem_nil⟩
  constructor
  case behind => exact hbehind
  case listings =>
    intro number
    rw [hlistings number]
    exact nofun
  case topology | readings => exact fun h => by cases h
  case direct => exact fun _ _ h => by cases h
  case calm => exact fun _ h => by cases h
  case write => exact fun _ _ h => by cases h

/-- A survey is cancelled by its own token only, whichever way it asks for the hardware: neither
the inspector nor a shared listing cancels it. -/
theorem Candid.cancelled_of_survey (h : d.Candid cached) {cancelled : Bool} {stage : Survey}
    (hends : d.world.SurveyEnds cancelled stage (.failure .cancelled)) : cancelled = true := by
  generalize hending : (Ending.failure Error.cancelled : Ending Surveyed) = ending at hends
  cases hends with
  | surveyed | listingDies | measuringDies => cases hending
  | unmeasured _ hmeasured =>
    obtain rfl := Error.within_eq_cancelled.mp (Ending.failure.inj hending).symm
    exact h.world.readings.cancelled_of_ends hmeasured
  | unlisted hlisted =>
    obtain rfl := Error.within_eq_cancelled.mp (Ending.failure.inj hending).symm
    cases hlisted with
    | asks _ hends | asked hends => exact h.world.topology.cancelled_of_ends hends
    | unshared _ hlisting => exact absurd hlisting (h.world.listings _)
    | withdraws hcancelled | withdrawn hcancelled => exact hcancelled

/-- **No poll is cancelled but by its own token, and none dies.**  Its failures come from its survey
or from what is to be stored, and neither is a cancellation. -/
theorem Candid.poll_ends {c : CycleCall} {ending : Ending CycleYield} (h : d.Candid cached)
    (ht : t ∈ d.tasks) (hc : d.world.cycleOf? t = some c) (hpoll : c.purpose = .poll)
    (hends : (d.world.goOn c).2 = .done ending) :
    (∀ message, ending ≠ .panic message) ∧ (ending = .failure .cancelled → c.cancelled = true) := by
  have hcycle := World.ends_advanceCycle hends
  rw [hpoll] at hcycle
  cases hcycle with
  | refused _ hrefused => cases hrefused
  | completes _ hsurvey =>
    generalize hresult : ((d.world.advanceSurvey c.cancelled c.stage).1.complete .poll _).2 = result
    cases result with
    | ok y => exact ⟨fun _ heq => (by cases heq), fun heq => (by cases heq)⟩
    | error e =>
      refine ⟨fun _ heq => (by cases heq), fun heq => ?_⟩
      obtain ⟨fault, sensor, hfault, rfl⟩ := World.complete_poll_error hresult
      rw [(d.world.surveying_advanceSurvey c.cancelled c.stage).1.frame] at hfault
      exact absurd (Error.within_eq_cancelled.mp (Ending.failure.inj heq))
        (h.world.write fault sensor hfault)
  | dies hsurvey =>
    cases hsurvey with
    | measuringDies _ hmeasured => exact absurd hmeasured h.world.calm.not_ends
    | listingDies hlisted =>
      obtain ⟨hcalls, due, hpanic⟩ := hlisted.of_panic
      cases cached with
      | false => exact absurd hpanic (h.world.direct rfl).not_ends
      | true =>
        exact absurd hcalls (not_callsItself_of_cycleOf? h.world.behind (h.surveys rfl t ht) hc)
  | fails _ hsurvey =>
    refine ⟨fun _ heq => (by cases heq), fun heq => ?_⟩
    obtain rfl := Ending.failure.inj heq
    exact h.cancelled_of_survey hsurvey

end Daemon

end Telemetry
