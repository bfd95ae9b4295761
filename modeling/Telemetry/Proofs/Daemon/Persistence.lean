import Telemetry.Proofs.Daemon.Surveys

/-! # A cycle persists all or nothing

A cycle that is called for, a request for a history and a poll of a loop each store the samples of
one survey in a single turn and succeed, or they store nothing; whatever else goes on, and wherever
they are cancelled or dropped.

What carries this along a run is an invariant of the tasks (`Task.Admitted`): no cycle has begun its
survey that should have been refused, so that a report never fails behind the samples that were
stored for it.

What is stored is said three times over: the turn writes a batch (`StoresAt.store`), which has one
sample for every sensor of its survey that has a value (`Surveyed.Yields`); and after the turn the
store holds that batch beside what it held before (`Store.Takes`).  A task that makes one cycle is
then followed through the run (`Stands`): it has stored nothing yet, or never will, or has stored
its batch once.
-/

namespace Telemetry

variable {d first : Daemon} {e : DaemonEvent} {events pre post : List DaemonEvent}
  {number : Nat} {t : Task} {c : CycleCall} {purpose : Purpose}

/-! ## Tasks that make one cycle -/

namespace Task

/-- A task has ended in success: with the result of its cycle, or with a response that has one. -/
def Succeeded : Task → Prop
  | .ended (.cycle (.ok _)) => True
  | .ended (.response r) => r.status = 200
  | _ => False

/-- No cycle of a task has begun its survey that was to be refused; polls are never refused. -/
def Admitted : Task → Prop
  | .request _ _ (.history range stage) => stage = .fresh ∨ (Purpose.history range).refusal = none
  | .cycle _ purpose stage => stage = .fresh ∨ purpose.refusal = none
  | _ => True

end Task

/-! ## The conditions of a run -/

namespace World

/-- No fault of the store hits a cycle, and no two sensors that the inspector shows have the
same identifier, in its topology or in its readings. -/
structure Clean (w : World) : Prop where
  faultless : w.Faultless
  topology : w.inspector.topology.value.Distinct
  readings : w.inspector.readings.value.Distinct

end World

/-- An event neither sets a fault for cycles nor lets the inspector repeat an identifier; faults of
deletions are left open. -/
def DaemonEvent.Clean : DaemonEvent → Prop
  | .setFaults f => f.write = none ∧ f.range = none
  | .showTopology p => p.value.Distinct
  | .showReadings p => p.value.Distinct
  | _ => True

theorem Probe.value_of_ending {α : Type} {p : Probe α} {v : α} (h : p.ending = .value v) :
    p.value = v := by
  unfold ending at h
  split at h
  · exact Ending.value.inj h
  · cases h
  · cases h

namespace Daemon

theorem clean_apply (h : d.world.Clean) (he : e.Clean) : (d.apply e).world.Clean := by
  have hsame {w : World} (hfaults : w.faults = d.world.faults)
      (htopology : w.inspector.topology.value = d.world.inspector.topology.value)
      (hreadings : w.inspector.readings.value = d.world.inspector.readings.value) : w.Clean :=
    ⟨h.faultless.congr hfaults, htopology ▸ h.topology, hreadings ▸ h.readings⟩
  cases e with
  | setFaults f => exact ⟨⟨he.1, he.2⟩, h.topology, h.readings⟩
  | showTopology p => exact ⟨h.faultless.congr rfl, he, h.readings⟩
  | showReadings p => exact ⟨h.faultless.congr rfl, h.topology, he⟩
  | prune =>
    rw [apply, World.prune_frame]
    exact hsame rfl rfl rfl
  | turn a =>
    have hsteady := d.steady_turn a
    refine hsame hsteady.faults ?_ ?_
    · show (d.turn a).world.inspector.topology.value = _
      rw [hsteady.topologyProbe]
    · show (d.turn a).world.inspector.readings.value = _
      rw [hsteady.readingsProbe]
  | _ => exact hsame rfl rfl rfl

theorem clean_run (h : first.world.Clean) (hevents : ∀ e ∈ events, e.Clean) :
    (first.run events).world.Clean := by
  induction events using List.reverseRecOn with
  | nil => exact h
  | append_singleton events e ih =>
    rw [List.forall_mem_append, List.forall_mem_singleton] at hevents
    rw [run_concat]
    exact clean_apply (ih hevents.1) hevents.2

end Daemon

/-! ## Only admitted cycles survey -/

namespace Task

theorem admitted_of_survey?_none (h : t.survey? = none) : t.Admitted := by
  cases t with
  | request request limit work =>
    cases work with
    | stats joined => trivial
    | history range stage => cases h
  | cycle cancelled purpose stage => cases h
  | _ => trivial

/-- A cycle of an admitted task has not begun its survey, or is not to be refused: it will be
refused now or never. -/
theorem Admitted.of_cycleOf? {w : World} (h : t.Admitted) (hc : w.cycleOf? t = some c) :
    c.stage = .fresh ∨ c.purpose.refusal = none := by
  cases t with
  | request request limit work =>
    cases work with
    | stats joined => cases hc
    | history range stage =>
      obtain rfl := Option.some.inj hc
      exact h
  | cycle cancelled purpose stage =>
    obtain rfl := Option.some.inj hc
    exact h
  | poller p =>
    rw [World.purpose_of_poller hc]
    exact .inr rfl
  | pruner p => cases hc
  | ended e => cases hc

end Task

namespace World

/-- A step of an admitted cycle that is not over is not to be refused later, so that the task stays
admitted. -/
theorem refusal_of_pending {w : World} {stage : Survey}
    (h : c.stage = .fresh ∨ c.purpose.refusal = none) (hpending : (w.goOn c).2 = .pending stage) :
    c.purpose.refusal = none := by
  rcases w.advanceCycle_cases c.cancelled c.purpose c.stage with ⟨e, -, -, hstep⟩ | ⟨hfresh, -⟩
  · unfold goOn at hpending
    rw [hstep] at hpending
    cases hpending
  · exact h.elim hfresh id

end World

namespace Daemon

theorem admitted_afterStep {progress : Progress Survey CycleYield}
    (hc : d.world.cycleOf? t = some c)
    (h : ∀ stage, progress = .pending stage → c.purpose.refusal = none) :
    (d.afterStep t progress).Admitted := by
  cases t with
  | request request limit work =>
    cases work with
    | stats joined => cases hc
    | history range stage =>
      obtain rfl := Option.some.inj hc
      rcases progress with stage' | (_ | _ | _)
      · unfold afterStep Api.historyProgress afterWork
        dsimp only
        split
        · trivial
        · exact .inr (h stage' rfl)
      all_goals trivial
  | cycle cancelled purpose stage =>
    obtain rfl := Option.some.inj hc
    rcases progress with stage' | (_ | _ | _)
    · exact .inr (h stage' rfl)
    all_goals trivial
  | poller p =>
    rcases progress with stage' | (y | e | message)
    · trivial
    · trivial
    · cases e <;> trivial
    · trivial
  | pruner p => cases hc
  | ended e => cases hc

theorem admitted_taskAfter (h : t.Admitted) (number : Nat) (e : DaemonEvent) :
    (d.taskAfter number t e).Admitted := by
  rcases d.taskAfter_cases number t e with ⟨-, hafter⟩ | ⟨-, hafter⟩ | ⟨-, hafter⟩ | ⟨-, hafter⟩ <;>
    rw [hafter]
  · exact h
  · cases t with
    | cycle cancelled purpose stage => exact h
    | request request limit work => exact h
    | _ => trivial
  · exact Task.admitted_of_survey?_none t.survey?_drop
  · cases hc : d.world.cycleOf? t with
    | none => exact Task.admitted_of_survey?_none (advanceTask_of_idle hc).1
    | some c =>
      rw [advanceTask_of_cycle hc]
      exact admitted_afterStep hc fun stage hpending =>
        World.refusal_of_pending (h.of_cycleOf? hc) hpending

theorem admitted_taskOf? (h : d.taskOf? e = some t) : t.Admitted := by
  rcases survey?_taskOf? h with hnone | hfresh
  · exact Task.admitted_of_survey?_none hnone
  · cases t with
    | request request limit work =>
      cases work with
      | stats joined => trivial
      | history range stage => exact .inl (Option.some.inj hfresh)
    | cycle cancelled purpose stage => exact .inl (Option.some.inj hfresh)
    | _ => trivial

/-- **Every task of a run is admitted**, when the tasks before the run are. -/
theorem admitted_run (h : ∀ t ∈ first.tasks, t.Admitted) :
    ∀ t ∈ (first.run events).tasks, t.Admitted := by
  induction events using List.reverseRecOn with
  | nil => exact h
  | append_singleton events e ih =>
    intro t ht
    rw [run_concat] at ht
    rcases mem_tasks_apply ht with ⟨number, before, hbefore, rfl⟩ | hnew
    · exact admitted_taskAfter (ih before (List.mem_of_getElem? hbefore)) number e
    · exact admitted_taskOf? hnew

end Daemon

/-! ## What the turn of a task does to the store -/

/-- A turn of a task in which a cycle stores a batch: one sample for every sensor with a value,
of the topology and the values of its own survey.  The values have just been answered, and the
topology earlier in the run. -/
structure Daemon.StoresAt (first : Daemon) (pre : List DaemonEvent) (number : Nat)
    (batch : List (SensorId × Sample)) : Prop where
  survey : ∃ t c s, (first.run pre).tasks[number]? = some t ∧
    (first.run pre).world.cycleOf? t = some c ∧
    ((first.run pre).world.advanceSurvey c.cancelled c.stage).2 = .done (.value s) ∧
    (∃ before, before <+: pre ∧ (first.run before).world.Shows s.topology) ∧
    (first.run pre).world.inspector.readings.ending = .value s.readings ∧
    s.Yields (first.run pre).world.clock batch
  store : (first.run (pre ++ [.turn (.task number)])).world.store =
    (first.run pre).world.store.writeAll batch
  /-- Nothing is stored but the batch, and all of it is. -/
  takes : (first.run pre).world.store.Takes batch
    (first.run (pre ++ [.turn (.task number)])).world.store

/-- An event after others leaves the store as it is: what it was before the event it is
afterwards. -/
def Daemon.LeavesStore (first : Daemon) (pre : List DaemonEvent) (e : DaemonEvent) : Prop :=
  (first.run (pre ++ [e])).world.store = (first.run pre).world.store

/-- Of the events that concern a task, from some moment on, none touches the store. -/
def Daemon.KeepsStore (first : Daemon) (pre : List DaemonEvent) (number : Nat)
    (post : List DaemonEvent) : Prop :=
  ∀ mid e rest, post = mid ++ e :: rest → e.Concerns number → first.LeavesStore (pre ++ mid) e

/-- A task stores a batch in a single turn; nothing else that concerns it touches the store. -/
structure Daemon.StoresOnce (first : Daemon) (pre : List DaemonEvent) (number : Nat)
    (post : List DaemonEvent) (batch : List (SensorId × Sample)) : Prop where
  turn : ∃ mid rest, post = mid ++ .turn (.task number) :: rest ∧
    first.StoresAt (pre ++ mid) number batch ∧ first.KeepsStore pre number mid ∧
    first.KeepsStore (pre ++ mid ++ [.turn (.task number)]) number rest

/-- What a run promises of its cycles: turn by turn for every task, and over the whole run for a
task that makes one cycle.  A loop makes many of them, one after the other, and is described by its
turns. -/
structure Daemon.AllOrNothing (first : Daemon) (events : List DaemonEvent) : Prop where
  /-- In the turn of a task its cycle succeeds, and its batch is stored; or it does not, or not
  yet, and the store stays as it is.  For a loop this is what its polls come to. -/
  turn : ∀ pre number post t c, events = pre ++ .turn (.task number) :: post →
    (first.run pre).tasks[number]? = some t → (first.run pre).world.cycleOf? t = some c →
    c.purpose.Stores →
    (∃ y batch, ((first.run pre).world.goOn c).2 = .done (.value y) ∧
      c.purpose.Reports batch.length y ∧ first.StoresAt pre number batch) ∨
    (∀ y, ((first.run pre).world.goOn c).2 ≠ .done (.value y)) ∧
      first.LeavesStore pre (.turn (.task number))
  /-- The turns of the shared calls leave the store as it is. -/
  shared : ∀ pre a post, events = pre ++ .turn a :: post → (∀ number, a ≠ .task number) →
    first.LeavesStore pre (.turn a)
  /-- A cycle that is called for, or that a request makes, succeeds and has stored its batch
  once; or it has not succeeded and has stored nothing. -/
  once : ∀ pre e post t purpose, events = pre ++ e :: post →
    (first.run pre).taskOf? e = some t → t.Makes purpose → purpose.Stores →
    let number := (first.run pre).tasks.length
    first.LeavesStore pre e ∧ ∃ last, (first.run events).tasks[number]? = some last ∧
      ((last.Succeeded ∧ ∃ batch,
          (∀ y, last = .ended (.cycle (.ok y)) → purpose.Reports batch.length y) ∧
          first.StoresOnce (pre ++ [e]) number post batch) ∨
        (¬ last.Succeeded ∧ first.KeepsStore (pre ++ [e]) number post))

/-! ## One turn -/

namespace Task

theorem not_succeeded_drop (h : t.Makes purpose) : t.drop.Over ∧ ¬ t.drop.Succeeded := by
  cases h <;> exact ⟨trivial, id⟩

end Task

namespace Daemon

/-- A task whose cycle succeeds has ended in success, with the result of the cycle. -/
theorem succeeded_afterStep (h : t.Makes purpose) (y : CycleYield) :
    let last := d.afterStep t (.done (.value y))
    last.Over ∧ last.Succeeded ∧ ∀ y', last = .ended (.cycle (.ok y')) → y' = y := by
  cases h with
  | call =>
    refine ⟨trivial, trivial, fun y' heq => ?_⟩
    cases heq
    rfl
  | request =>
    refine ⟨trivial, ?_, fun y' heq => by cases heq⟩
    show ((Api.respondYield y).sentTo _).status = 200
    rw [Http.Response.status_sentTo]
    cases y <;> rfl

/-- A task whose cycle does not succeed goes on with it, or has ended without success. -/
theorem not_succeeded_afterStep (h : t.Makes purpose) {progress : Progress Survey CycleYield}
    (hnot : ∀ y, progress ≠ .done (.value y)) :
    let last := d.afterStep t progress
    last.Makes purpose ∨ last.Over ∧ ¬ last.Succeeded := by
  have hfailed (e : Error) (request : Http.Request) :
      ¬ Task.Succeeded (.ended (.response ((Api.failure e).sentTo request))) := by
    show ¬ ((Api.failure e).sentTo request).status = 200
    rw [Http.Response.status_sentTo]
    exact Api.status_failure_ne e
  rcases progress with stage | (y | e | message)
  · cases h with
    | call => exact .inl .call
    | request hpurpose =>
      unfold afterStep Api.historyProgress afterWork
      dsimp only
      split
      · exact .inr ⟨trivial, hfailed _ _⟩
      · exact .inl (.request hpurpose)
  · exact absurd rfl (hnot y)
  · cases h with
    | call => exact .inr ⟨trivial, id⟩
    | request => exact .inr ⟨trivial, hfailed _ _⟩
  · cases h <;> exact .inr ⟨trivial, id⟩

/-- **The turn of a task**: its cycle succeeds and all samples of its survey are stored, or it
does not, and the store stays as it is. -/
theorem stores_turn (hclean : d.world.Clean) (hadmitted : t.Admitted)
    (ht : d.tasks[number]? = some t) (hc : d.world.cycleOf? t = some c)
    (hstores : c.purpose.Stores) :
    (∃ y s, (d.world.goOn c).2 = .done (.value y) ∧
      (d.world.advanceSurvey c.cancelled c.stage).2 = .done (.value s) ∧
      c.purpose.Reports (s.samplesAt d.world.clock).length y ∧
      (d.turn (.task number)).world.store =
        d.world.store.writeAll (s.samplesAt d.world.clock)) ∨
    (∀ y, (d.world.goOn c).2 ≠ .done (.value y)) ∧
      (d.turn (.task number)).world.store = d.world.store := by
  have hpersists : World.Persists d.world (d.world.goOn c).1 c.cancelled c.purpose c.stage
      (d.world.goOn c).2 :=
    World.persists_advanceCycle hclean.faultless hstores (hadmitted.of_cycleOf? hc) c.cancelled
  have hstore : (d.turn (.task number)).world.store = (d.world.goOn c).1.store := by
    rw [turn_task ht, advanceTask_of_cycle hc]
  rw [hstore]
  generalize (d.world.goOn c).2 = progress at hpersists ⊢
  cases hpersists with
  | @all s y hsurvey hwritten hreports => exact .inl ⟨y, s, rfl, hsurvey, hreports, hwritten⟩
  | nothing hnot hleft => exact .inr ⟨hnot, hleft⟩

/-- What the samples of a survey that ends in the turn of a task are: its topology was shown before
in the run, and its values are shown now. -/
theorem storesAt_of_survey {s : Surveyed} (hnone : ∀ topology, ¬ first.Knows topology)
    (hclean : ∀ pre, pre <+: events → (first.run pre).world.Clean)
    (ht : (first.run events).tasks[number]? = some t)
    (hc : (first.run events).world.cycleOf? t = some c)
    (hsurvey : ((first.run events).world.advanceSurvey c.cancelled c.stage).2 =
      .done (.value s))
    (hstore : ((first.run events).turn (.task number)).world.store =
      (first.run events).world.store.writeAll (s.samplesAt (first.run events).world.clock)) :
    first.StoresAt events number (s.samplesAt (first.run events).world.clock) := by
  obtain ⟨hsupplies, hreadings⟩ := World.supplies_of_survey hsurvey
  obtain ⟨before, hbefore, hshown⟩ :
      ∃ pre, pre <+: events ∧ (first.run pre).world.Shows s.topology := by
    rcases known_of_supplies (List.mem_of_getElem? ht) hc hsupplies with hknown | hshows
    · exact shown_of_knows_run hnone hknown
    · exact ⟨events, List.prefix_rfl, hshows⟩
  have htopology : s.topology.Distinct := by
    rw [← Probe.value_of_ending hshown]
    exact (hclean before hbefore).topology
  have hdistinct : s.readings.Distinct := by
    rw [← Probe.value_of_ending hreadings]
    exact (hclean events List.prefix_rfl).readings
  have hyields := Surveyed.yields_samplesAt htopology hdistinct (first.run events).world.clock
  refine ⟨⟨t, c, s, ht, hc, hsurvey, ⟨before, hbefore, hshown⟩, hreadings, hyields⟩, ?_, ?_⟩ <;>
    rw [run_concat]
  · exact hstore
  · have htakes := Store.takes_writeAll hyields.once (first.run events).world.store
    rwa [← hstore] at htakes

/-! ## A whole run -/

theorem leavesStore_iff : first.LeavesStore pre e ↔
    ((first.run pre).apply e).world.store = (first.run pre).world.store := by
  unfold LeavesStore
  rw [run_concat]

theorem KeepsStore.concat (h : first.KeepsStore pre number post)
    (he : e.Concerns number → first.LeavesStore (pre ++ post) e) :
    first.KeepsStore pre number (post ++ [e]) := by
  intro mid e' rest hsplit hconcerns
  rcases last_or_before hsplit with ⟨-, rfl, rfl⟩ | ⟨rest, -, rfl⟩
  · exact he hconcerns
  · exact h mid e' rest rfl hconcerns

theorem StoresOnce.concat {batch : List (SensorId × Sample)}
    (h : first.StoresOnce pre number post batch)
    (he : e.Concerns number → first.LeavesStore (pre ++ post) e) :
    first.StoresOnce pre number (post ++ [e]) batch := by
  obtain ⟨mid, rest, rfl, hstores, hbefore, hafter⟩ := h.turn
  refine ⟨mid, rest ++ [e], by simp, hstores, hbefore, hafter.concat fun hconcerns => ?_⟩
  have hlast := he hconcerns
  rw [List.append_cons, ← List.append_assoc, ← List.append_assoc] at hlast
  exact hlast

/-- The last turn of a task so far stores its batch, and nothing that concerned the task before has
touched the store. -/
theorem StoresAt.storesOnce {batch : List (SensorId × Sample)}
    (h : first.StoresAt (pre ++ post) number batch) (hkeeps : first.KeepsStore pre number post) :
    first.StoresOnce pre number (post ++ [.turn (.task number)]) batch :=
  ⟨post, [], rfl, h, hkeeps, fun mid e rest hsplit => by
    rcases mid with _ | ⟨a, mid⟩ <;> cases hsplit⟩

/-- The turns of a task that is over leave the store alone. -/
theorem store_apply_of_over (hover : t.Over) (ht : d.tasks[number]? = some t)
    (hconcerns : e.Concerns number) : (d.apply e).world.store = d.world.store := by
  cases e with
  | cancel other | drop other => rfl
  | turn a =>
    cases a with
    | listing | snapshot => cases hconcerns
    | task other =>
      obtain rfl : other = number := hconcerns
      show (d.turn (.task other)).world.store = _
      rw [turn_task ht]
      cases t with
      | ended last => rfl
      | _ => cases hover
  | _ => cases hconcerns

/-- How a task that makes one cycle stands, some time after it has started: on its way, over without
success, or over with its batch stored. -/
inductive Stands (first : Daemon) (pre : List DaemonEvent) (number : Nat) (purpose : Purpose)
    (post : List DaemonEvent) (t : Task) : Prop where
  | making : t.Makes purpose → first.KeepsStore pre number post →
      Stands first pre number purpose post t
  | failed : t.Over → ¬ t.Succeeded → first.KeepsStore pre number post →
      Stands first pre number purpose post t
  | stored {batch : List (SensorId × Sample)} : t.Over → t.Succeeded →
      (∀ y, t = .ended (.cycle (.ok y)) → purpose.Reports batch.length y) →
      first.StoresOnce pre number post batch → Stands first pre number purpose post t

/-- A task that has stored nothing goes on with its cycle, or it has failed. -/
theorem KeepsStore.stands (hkeeps : first.KeepsStore pre number post)
    (h : t.Makes purpose ∨ t.Over ∧ ¬ t.Succeeded) : first.Stands pre number purpose post t := by
  rcases h with hmakes | ⟨hend, hnot⟩
  · exact .making hmakes hkeeps
  · exact .failed hend hnot hkeeps

/-- The turn of a task that makes a cycle and has stored nothing, by the two cases of a step of the
cycle. -/
theorem stands_turn (hnone : ∀ topology, ¬ first.Knows topology)
    (hclean : ∀ mid, mid <+: pre ++ post → (first.run mid).world.Clean)
    (hadmitted : ∀ t ∈ (first.run (pre ++ post)).tasks, t.Admitted) (hstores : purpose.Stores)
    (ht : (first.run (pre ++ post)).tasks[number]? = some t) (hmakes : t.Makes purpose)
    (hkeeps : first.KeepsStore pre number post) :
    first.Stands pre number purpose (post ++ [.turn (.task number)])
      ((first.run (pre ++ post)).advanceTask t).2 := by
  obtain ⟨c, hc, rfl⟩ := hmakes.cycleOf? (first.run (pre ++ post)).world
  rw [advanceTask_of_cycle hc]
  rcases stores_turn (hclean _ List.prefix_rfl) (hadmitted t (List.mem_of_getElem? ht)) ht hc
    hstores with ⟨y, s, hdone, hsurvey, hreports, hstore⟩ | ⟨hnot, hstore⟩
  · obtain ⟨hend, hsucceeded, hyield⟩ :=
      (first.run (pre ++ post)).succeeded_afterStep hmakes y
    rw [hdone]
    exact .stored hend hsucceeded (fun y' heq => hyield y' heq ▸ hreports)
      ((storesAt_of_survey hnone hclean ht hc hsurvey hstore).storesOnce hkeeps)
  · have hleaves : first.LeavesStore (pre ++ post) (.turn (.task number)) :=
      leavesStore_iff.mpr hstore
    exact (hkeeps.concat fun _ => hleaves).stands
      ((first.run (pre ++ post)).not_succeeded_afterStep hmakes hnot)

/-- One more event.  Once the task is over nothing concerns the store any more that concerns the
task. -/
theorem Stands.concat (hnone : ∀ topology, ¬ first.Knows topology)
    (hclean : ∀ mid, mid <+: pre ++ post → (first.run mid).world.Clean)
    (hadmitted : ∀ t ∈ (first.run (pre ++ post)).tasks, t.Admitted) (hstores : purpose.Stores)
    (ht : (first.run (pre ++ post)).tasks[number]? = some t)
    (h : first.Stands pre number purpose post t) (e : DaemonEvent) :
    first.Stands pre number purpose (post ++ [e])
      ((first.run (pre ++ post)).taskAfter number t e) := by
  have hleaves (hover : t.Over) (hconcerns : e.Concerns number) :
      first.LeavesStore (pre ++ post) e :=
    leavesStore_iff.mpr (store_apply_of_over hover ht hconcerns)
  cases h with
  | failed hend hnot hkeeps =>
    rw [over_taskAfter hend]
    exact .failed hend hnot (hkeeps.concat (hleaves hend))
  | stored hend hsucceeded hreports honce =>
    rw [over_taskAfter hend]
    exact .stored hend hsucceeded hreports (honce.concat (hleaves hend))
  | making hmakes hkeeps =>
    rcases (first.run (pre ++ post)).taskAfter_cases number t e with
      ⟨hother, hafter⟩ | ⟨rfl, hafter⟩ | ⟨rfl, hafter⟩ | ⟨rfl, hafter⟩ <;> rw [hafter]
    · exact (hkeeps.concat fun hconcerns => absurd hconcerns hother).stands (.inl hmakes)
    · exact (hkeeps.concat fun _ => leavesStore_iff.mpr rfl).stands (.inl hmakes.cancel)
    · exact (hkeeps.concat fun _ => leavesStore_iff.mpr rfl).stands
        (.inr (Task.not_succeeded_drop hmakes))
    · exact stands_turn hnone hclean hadmitted hstores ht hmakes hkeeps

theorem stands_run (hnone : ∀ topology, ¬ first.Knows topology)
    (hclean : ∀ mid, mid <+: pre ++ post → (first.run mid).world.Clean)
    (hadmitted : ∀ mid, mid <+: pre ++ post → ∀ t ∈ (first.run mid).tasks, t.Admitted)
    (hstores : purpose.Stores) (ht : (first.run pre).tasks[number]? = some t)
    (hmakes : t.Makes purpose) :
    ∃ last, (first.run (pre ++ post)).tasks[number]? = some last ∧
      first.Stands pre number purpose post last := by
  induction post using List.reverseRecOn with
  | nil =>
    refine ⟨t, by rw [List.append_nil]; exact ht, .making hmakes fun mid e rest hsplit => ?_⟩
    rcases mid with _ | ⟨a, mid⟩ <;> cases hsplit
  | append_singleton post e ih =>
    have hprefix : pre ++ post <+: pre ++ (post ++ [e]) :=
      ⟨[e], List.append_assoc ..⟩
    obtain ⟨last, hlast, hstands⟩ := ih (fun mid hmid => hclean mid (hmid.trans hprefix))
      (fun mid hmid => hadmitted mid (hmid.trans hprefix))
    refine ⟨_, ?_, hstands.concat hnone (fun mid hmid => hclean mid (hmid.trans hprefix))
      (hadmitted _ hprefix) hstores hlast e⟩
    rw [← List.append_assoc, run_concat]
    exact getElem?_apply hlast e

/-- A new daemon knows no topology, and nothing is wrong with what it shows, which is nothing at
all. -/
theorem clean_create {settings : DaemonSettings} (h : create settings = .ok first) :
    first.world.Clean ∧ first.tasks = [] ∧ ∀ topology, ¬ first.Knows topology := by
  obtain ⟨cache, retention, snapshots, -, -, -, rfl⟩ := create_eq_ok h
  refine ⟨⟨⟨rfl, rfl⟩, List.nodup_nil, List.nodup_nil⟩, rfl, ?_⟩
  rintro topology (⟨shared, hshared, hhas⟩ | ⟨t, ht, -⟩)
  · obtain ⟨settings, -, rfl⟩ := Option.map_eq_some_iff.mp hshared
    rcases hhas with ⟨s, hs, -⟩ | hmem
    · cases hs
    · cases hmem
  · cases ht

/-- **A cycle persists all or nothing**, in every run without faults of the store in which the
inspector repeats no identifier.  In one turn this is a matter of the step of the cycle
(`stores_turn`): it writes exactly when it succeeds, and its refusals come before the writes.  Over
a run it is one of the tasks: a cycle that has stored is over in the same turn, so that no
cancellation and no drop can come between, and nothing that concerns the task afterwards touches the
store. -/
theorem create_allOrNothing {settings : DaemonSettings} (hcreate : create settings = .ok first)
    (hevents : ∀ e ∈ events, e.Clean) : first.AllOrNothing events := by
  obtain ⟨hfirst, htasks, hnone⟩ := clean_create hcreate
  have hclean (pre : List DaemonEvent) (hpre : pre <+: events) : (first.run pre).world.Clean :=
    clean_run hfirst fun e he => hevents e (hpre.subset he)
  have hadmitted (pre : List DaemonEvent) : ∀ t ∈ (first.run pre).tasks, t.Admitted :=
    admitted_run fun t ht => by rw [htasks] at ht; cases ht
  constructor
  case turn =>
    rintro pre number post t c rfl ht hc hstores
    have hpre : pre <+: pre ++ .turn (.task number) :: post := List.prefix_append _ _
    rcases stores_turn (hclean pre hpre) (hadmitted pre t (List.mem_of_getElem? ht)) ht hc
      hstores with ⟨y, s, hdone, hsurvey, hreports, hstore⟩ | ⟨hnot, hstore⟩
    · exact .inl ⟨y, _, hdone, hreports, storesAt_of_survey hnone
        (fun mid hmid => hclean mid (hmid.trans hpre)) ht hc hsurvey hstore⟩
    · exact .inr ⟨hnot, leavesStore_iff.mpr hstore⟩
  case shared =>
    rintro pre a post - ha
    exact leavesStore_iff.mpr (store_turn_shared ha)
  case once =>
    rintro pre e post t purpose rfl hnew hmakes hstores
    have hstart : (first.run (pre ++ [e])).tasks[(first.run pre).tasks.length]? = some t := by
      rw [run_concat]
      exact getElem?_apply_new hnew
    rw [List.append_cons] at hclean ⊢
    obtain ⟨last, hlast, hstands⟩ := stands_run hnone hclean (fun mid _ => hadmitted mid) hstores
      hstart hmakes
    refine ⟨?_, last, hlast, ?_⟩
    -- of the events that add a task none does anything else
    · refine leavesStore_iff.mpr ?_
      cases e <;> first | rfl | cases hnew
    · cases hstands with
      | making hmakes hkeeps => exact .inr ⟨by cases hmakes <;> exact id, hkeeps⟩
      | failed _ hnot hkeeps => exact .inr ⟨hnot, hkeeps⟩
      | stored _ hsucceeded hreports honce => exact .inl ⟨hsucceeded, _, hreports, honce⟩

/-- A poll and a request for a history measure side by side; the sender of the request goes
before the inspector answers. -/
def droppedRequest : List DaemonEvent :=
  [.showTopology (.showing SmallMachine.topology),
    .showReadings { Probe.showing SmallMachine.readings with delay := some 20 },
    .call false .poll, .request ⟨"GET", "/api/v1/stats/history", some "range_secs=60"⟩,
    .turn (.task 0), .turn (.task 1), .turn .listing, .turn (.task 0), .turn (.task 1),
    .drop 1, .pass 20, .turn (.task 0), .turn (.task 1)]

/-- The poll has stored its one sample, of the thermometer; the fan is not known to the store, and
the dropped request has stored nothing. -/
theorem allOrNothing_of_dropped_request :
    ∃ d, create SmallMachine.settings = .ok d ∧ (∀ e ∈ droppedRequest, e.Clean) ∧
      (d.run droppedRequest).tasks = [.ended (.cycle (.ok (.stored 1))), .ended .stopped] ∧
      (d.run droppedRequest).world.store.Holds SmallMachine.thermometer.id
        (.ofReading 21.5 .epoch) ∧
      ¬ (d.run droppedRequest).world.store.Knows SmallMachine.fan.id ∧
      d.AllOrNothing droppedRequest := by
  have hclean : ∀ e ∈ droppedRequest, e.Clean := by
    have htopology : SmallMachine.topology.Distinct := by decide
    have hreadings : SmallMachine.readings.Distinct := by decide
    unfold droppedRequest
    simp only [List.forall_mem_cons]
    exact ⟨htopology, hreadings, trivial, trivial, trivial, trivial, trivial, trivial, trivial,
      trivial, trivial, trivial, trivial, fun _ h => (by cases h)⟩
  have hnew : create SmallMachine.settings = .ok _ := rfl
  exact ⟨_, hnew, hclean, by with_unfolding_all rfl, by with_unfolding_all rfl,
    Bool.eq_false_iff.mp (by with_unfolding_all rfl), create_allOrNothing hnew hclean⟩

end Daemon

end Telemetry
