import Telemetry.Proofs.Daemon.Surveys
import Telemetry.Proofs.Service.Window

/-! # Retention is invisible inside its window

A run is compared with the run without its prunings.  The two stores differ more and more, but only
in samples that have grown older than the window, and as the clock never goes back no history that
is as short as the window ever looks there.

The invariant is `Daemon.AgreeIn`: the worlds agree inside the window, and every task is the same in
both runs or has no more to say: it prunes, or it has ended.

Tasks may differ for two reasons.  A pruner has turns in one run only, and a history that is longer
than the window may end otherwise.  Neither does anything afterwards that the other run could miss,
so it is enough to know of such a task that it is idle in both.  A query that looks no further than
the window is the same task throughout (`AgreeIn.query`).
-/

namespace Telemetry

variable {d d' first : Daemon} {e : DaemonEvent} {events : List DaemonEvent} {number : Nat}
  {t t' : Task} {window : Delta} {purpose : Purpose} {start : Instant}

/-! ## Runs without prunings -/

/-- Whether a task is a pruner, and its turns are left out of a run without prunings. -/
def Task.isPruner : Task → Bool
  | .pruner _ => true
  | _ => false

namespace Daemon

/-- Whether an event is a pruning: somebody prunes, or it is the turn of a pruner. -/
def isPruning (d : Daemon) : DaemonEvent → Bool
  | .prune => true
  | .turn (.task number) => d.tasks[number]?.any Task.isPruner
  | _ => false

/-- An event takes place unless it is a pruning, in which case nothing happens. -/
def applyUnpruned (d : Daemon) (e : DaemonEvent) : Daemon := if d.isPruning e then d else d.apply e

/-- The events in order, without the prunings: the run that a run is compared with. -/
def runUnpruned (d : Daemon) (events : List DaemonEvent) : Daemon := events.foldl applyUnpruned d

/-- The store is pruned in an event: somebody prunes, or the tick of a pruner is due. -/
def Prunes (d : Daemon) (e : DaemonEvent) : Prop :=
  e = .prune ∨ ∃ number p, e = .turn (.task number) ∧ d.tasks[number]? = some (.pruner p) ∧
    (p.stopped || d.world.shutdown) = false ∧ p.ticker.isDue d.world.now = true

end Daemon

/-! ## The clock -/

/-- What the clock is set to in an event, which is the only way in which it moves. -/
def DaemonEvent.clock? : DaemonEvent → Option Instant
  | .setClock t => some t
  | _ => none

/-- What the clock reads in a run: it never goes back and never shows a leap second. -/
structure ForwardClock (start : Instant) (events : List DaemonEvent) : Prop where
  inOrder : (start :: events.filterMap DaemonEvent.clock?).Pairwise (· ≤ ·)
  regular : ∀ t ∈ start :: events.filterMap DaemonEvent.clock?, t.Regular

instance (start : Instant) (events : List DaemonEvent) : Decidable (ForwardClock start events) :=
  decidable_of_iff ((start :: events.filterMap DaemonEvent.clock?).Pairwise (· ≤ ·) ∧
    ∀ t ∈ start :: events.filterMap DaemonEvent.clock?, t.Regular)
    ⟨fun h => ⟨h.1, h.2⟩, fun h => ⟨h.1, h.2⟩⟩

namespace ForwardClock

theorem start_regular (h : ForwardClock start events) : start.Regular :=
  h.regular start List.mem_cons_self

/-- The clock after the first event is the start for the others, and not earlier than the start. -/
theorem of_cons (h : ForwardClock start (e :: events)) :
    ForwardClock (e.clock?.getD start) events ∧
      ∀ t, e.clock? = some t → t.Regular ∧ start ≤ t := by
  obtain ⟨hinOrder, hregular⟩ := h
  cases hclock : e.clock? with
  | none =>
    rw [List.filterMap_cons_none hclock] at hinOrder hregular
    exact ⟨⟨hinOrder, hregular⟩, fun t ht => by cases ht⟩
  | some t =>
    rw [List.filterMap_cons_some hclock] at hinOrder hregular
    obtain ⟨hfirst, hrest⟩ := List.pairwise_cons.mp hinOrder
    obtain ⟨-, hregular⟩ := List.forall_mem_cons.mp hregular
    refine ⟨⟨hrest, hregular⟩, fun u hu => ?_⟩
    obtain rfl := Option.some.inj hu
    exact ⟨hregular _ List.mem_cons_self, hfirst _ List.mem_cons_self⟩

end ForwardClock

theorem Daemon.clock_apply (d : Daemon) (e : DaemonEvent) :
    (d.apply e).world.clock = e.clock?.getD d.world.clock := by
  cases e with
  | turn a => exact (d.steady_turn a).clock
  | prune =>
    rw [apply, World.prune_frame]
    rfl
  | _ => rfl

/-! ## Two runs -/

/-- A task has no more to say: it prunes, or it has ended. -/
def Task.Idle : Task → Prop
  | .pruner _ | .ended _ => True
  | _ => False

namespace Daemon

/-- Two daemons whose worlds agree inside a window and whose tasks are the same, as far as they have
something to say.  A task that is idle in one of them is idle in the other, though it need not have
ended there in the same way. -/
structure AgreeIn (window : Delta) (d d' : Daemon) : Prop where
  retention : d'.retention = d.retention
  requestTimeout : d'.requestTimeout = d.requestTimeout
  world : d.world.AgreeIn window d'.world
  length : d'.tasks.length = d.tasks.length
  tasks : ∀ (number : Nat) (t t' : Task), d.tasks[number]? = some t → d'.tasks[number]? = some t' →
    t = t' ∨ t.Idle ∧ t'.Idle

theorem idle_loopTask_pruner (progress : LoopProgress Pruner) :
    (loopTask .pruner progress).Idle := by
  cases progress <;> trivial

/-- A task with nothing more to say stays so, whatever happens to it. -/
theorem idle_taskAfter (h : t.Idle) (d : Daemon) (number : Nat) (e : DaemonEvent) :
    (d.taskAfter number t e).Idle := by
  have hidle : t.cancel.Idle ∧ t.drop.Idle ∧ (d.advanceTask t).2.Idle := by
    cases t with
    | pruner p => exact ⟨trivial, trivial, idle_loopTask_pruner _⟩
    | ended last => exact ⟨trivial, trivial, trivial⟩
    | _ => cases h
  rcases d.taskAfter_cases number t e with ⟨-, hafter⟩ | ⟨-, hafter⟩ | ⟨-, hafter⟩ | ⟨-, hafter⟩ <;>
    rw [hafter]
  · exact h
  · exact hidle.1
  · exact hidle.2.1
  · exact hidle.2.2

/-- A task whose cycle looks beyond the window is over when its cycle is, since a loop makes no such
cycle. -/
theorem idle_afterStep {c : CycleCall} (hc : d.world.cycleOf? t = some c)
    (hlong : ¬ c.purpose.LooksWithin window) (ending : Ending CycleYield) :
    (d.afterStep t (.done ending)).Idle ∧ t.Makes c.purpose := by
  cases t with
  | request request limit work =>
    cases work with
    | stats joined => cases hc
    | history range stage =>
      obtain rfl := Option.some.inj hc
      refine ⟨?_, .request rfl⟩
      cases ending <;> trivial
  | cycle cancelled purpose stage =>
    obtain rfl := Option.some.inj hc
    refine ⟨?_, .call⟩
    cases ending <;> trivial
  | poller p =>
    refine absurd ?_ hlong
    rw [World.purpose_of_poller hc]
    trivial
  | pruner p => cases hc
  | ended last => cases hc

/-- A task without a cycle does the same whatever is stored, unless it is a pruner. -/
theorem advanceTask_withStore (hc : d.world.cycleOf? t = none) (hpruner : ∀ p, t ≠ .pruner p)
    {s : Store} {n : Nat} (hworld : d'.world = d.world.withStore s n)
    (htimeout : d'.requestTimeout = d.requestTimeout) :
    d'.advanceTask t = ((d.advanceTask t).1.withStore s n, (d.advanceTask t).2) := by
  cases t with
  | request request limit work =>
    have hafter (progress : Progress Api.Work Http.Response) :
        d'.afterWork request limit progress = d.afterWork request limit progress := by
      unfold afterWork
      rw [hworld, htimeout]
      rfl
    cases work with
    | history range stage => cases hc
    | stats joined =>
      unfold advanceTask
      simp only [hafter, hworld]
      cases joined with
      | some number => rfl
      | none =>
        unfold World.advanceWork
        have hget : (d.world.withStore s n).snapshots.get (d.world.withStore s n).now .fresh =
            d.world.snapshots.get d.world.now .fresh := rfl
        rw [hget]
        rcases d.world.snapshots.get d.world.now .fresh with ⟨shared, v | number⟩ <;> rfl
  | cycle cancelled purpose stage => cases hc
  | poller p =>
    obtain ⟨ticker, stopped, cycle⟩ := p
    cases cycle with
    | some stage => cases hc
    | none =>
      -- the poller has no poll to go on with: it is stopped, or its tick is not due
      unfold World.cycleOf? at hc
      unfold advanceTask World.advancePoller
      rw [hworld]
      dsimp only at hc ⊢
      split at hc
      next hstopped =>
        have hstopped' : (stopped || (d.world.withStore s n).shutdown) = true := hstopped
        rw [if_pos hstopped, if_pos hstopped']
      next hrunning =>
        split at hc
        · cases hc
        next hearly =>
          have hrunning' : ¬ (stopped || (d.world.withStore s n).shutdown) = true := hrunning
          have hearly' : ¬ ticker.isDue (d.world.withStore s n).now = true := hearly
          rw [if_neg hrunning, if_neg hearly, if_neg hrunning', if_neg hearly']
  | pruner p => exact absurd rfl (hpruner p)
  | ended last =>
    unfold advanceTask
    rw [hworld]

/-- The turn of a task in two daemons that agree: the worlds agree as before, and the task
fares the same in both, unless its cycle is over and looks further. -/
theorem AgreeIn.advanceTask (h : d.AgreeIn window d') (hregular : d.world.clock.Regular)
    (hpruner : ∀ p, t ≠ .pruner p) :
    (d.advanceTask t).1.AgreeIn window (d'.advanceTask t).1 ∧
      ((d.advanceTask t).2 = (d'.advanceTask t).2 ∨
        (d.advanceTask t).2.Idle ∧ (d'.advanceTask t).2.Idle ∧
          ∃ purpose, t.Makes purpose ∧ ¬ purpose.LooksWithin window) := by
  have hworld := h.world.frame
  cases hc : d.world.cycleOf? t with
  | none =>
    rw [advanceTask_withStore hc hpruner hworld h.requestTimeout]
    refine ⟨⟨rfl, fun sensor u hu => ?_⟩, .inl rfl⟩
    -- the second daemon goes on with the same cycle, and makes the same of what it comes to
    have hclock := (d.turns_advanceTask t).steady.clock
    have hstore : (d.advanceTask t).1.store = d.world.store := by
      rcases (advanceTask_of_idle hc).2 with heq | ⟨_, _, -, heq⟩ | ⟨p, heq, -⟩
      · rw [heq]
      · rw [heq]
      · exact absurd heq (hpruner p)
    unfold World.Within at hu
    rw [hclock] at hu
    rw [hstore]
    exact h.world.store sensor u hu
  | some c =>
    have hc' : d'.world.cycleOf? t = some c := by
      rw [hworld, ← hc]
      rfl
    have hafter (progress : Progress Survey CycleYield) :
        d'.afterStep t progress = d.afterStep t progress := by
      unfold afterStep afterWork
      rw [hworld, h.requestTimeout]
      rfl
    obtain ⟨hagree, hresult⟩ := h.world.advanceCycle hregular c.cancelled c.purpose c.stage
    rw [advanceTask_of_cycle hc, advanceTask_of_cycle hc']
    refine ⟨hagree, ?_⟩
    dsimp only
    rcases hresult with hsame | ⟨hlong, ending, ending', hdone, hdone'⟩
    · exact .inl (by rw [hafter]; exact congrArg (d.afterStep t) hsame)
    · unfold World.goOn
      rw [hdone, hdone', hafter]
      obtain ⟨hidle, hmakes⟩ := idle_afterStep hc hlong ending
      exact .inr ⟨hidle, (idle_afterStep hc hlong ending').1, c.purpose, hmakes, hlong⟩

theorem AgreeIn.refl (window : Delta) (d : Daemon) : d.AgreeIn window d :=
  ⟨rfl, rfl, .refl window d.world, rfl,
    fun _ _ _ ht ht' => .inl (Option.some.inj (ht.symm.trans ht'))⟩

/-! ## One event -/

/-- The world after an event that is no turn and no pruning, seen from the world before.  The clock
may move forward in it. -/
theorem AgreeIn.world_apply (h : d.AgreeIn window d') (hregular : d.world.clock.Regular)
    (hforward : ∀ t, e.clock? = some t → t.Regular ∧ d.world.clock ≤ t)
    (hwindow : 0 ≤ window.nanos) (hturn : ∀ a, e ≠ .turn a) (hprune : e ≠ .prune) :
    (d.apply e).world.AgreeIn window (d'.apply e).world := by
  -- most events change the world without a look at its store or its clock
  have hkept (f : World → World) (hf : ∀ w s n, f (w.withStore s n) = (f w).withStore s n)
      (hclock : ∀ w, (f w).clock = w.clock) (hstore : ∀ w, (f w).store = w.store) :
      (f d.world).AgreeIn window (f d'.world) :=
    h.world.lift (hf d.world) (hclock d.world) (hstore d.world)
  cases e with
  | setClock t =>
    obtain ⟨ht, hle⟩ := hforward t rfl
    exact h.world.setClock hregular ht hle hwindow
  | showTopology p =>
    exact hkept (fun w => { w with
      inspector.topology := { p with calls := w.inspector.topology.calls } })
      (fun _ _ _ => rfl) (fun _ => rfl) (fun _ => rfl)
  | showReadings p =>
    exact hkept (fun w => { w with
      inspector.readings := { p with calls := w.inspector.readings.calls } })
      (fun _ _ _ => rfl) (fun _ => rfl) (fun _ => rfl)
  | setFaults f =>
    exact hkept (fun w => { w with faults := f }) (fun _ _ _ => rfl) (fun _ => rfl)
      (fun _ => rfl)
  | write sensor x => exact h.world.write sensor x
  | close =>
    refine ⟨?_, fun _ _ _ => rfl⟩
    show ({ d'.world with store := .empty } : World) = _
    rw [h.world.frame]
    rfl
  | shutDown =>
    exact hkept (fun w => { w with shutdown := true }) (fun _ _ _ => rfl) (fun _ => rfl)
      (fun _ => rfl)
  | pass now =>
    exact hkept (fun w => { w with now := max w.now now }) (fun _ _ _ => rfl) (fun _ => rfl)
      (fun _ => rfl)
  | prune => exact absurd rfl hprune
  | turn a => exact absurd rfl (hturn a)
  | request | call | startPolling | startPruning | cancel | drop => exact h.world

theorem AgreeIn.taskOf? (h : d.AgreeIn window d') (e : DaemonEvent) :
    d'.taskOf? e = d.taskOf? e := by
  have hnow : d'.world.now = d.world.now := by rw [h.world.frame]; rfl
  cases e with
  | request r =>
    unfold Daemon.taskOf? requestTask
    rw [h.requestTimeout, hnow]
  | startPolling interval =>
    unfold Daemon.taskOf?
    rw [hnow]
  | startPruning =>
    unfold Daemon.taskOf?
    rw [hnow, h.retention]
  | _ => rfl

/-! ### The tasks -/

/-- A task after an event, unless that is a pruning. -/
def taskAfterUnpruned (d : Daemon) (number : Nat) (t : Task) (e : DaemonEvent) : Task :=
  if d.isPruning e then t else d.taskAfter number t e

/-- Only a pruner is left out of a run without prunings; any other task has its turns. -/
theorem taskAfterUnpruned_of_ne_pruner (ht : d.tasks[number]? = some t)
    (hpruner : ∀ p, t ≠ .pruner p) (e : DaemonEvent) :
    d.taskAfterUnpruned number t e = d.taskAfter number t e := by
  unfold taskAfterUnpruned
  split
  next hpruning =>
    refine (d.taskAfter_cases number t e).elim (fun h => h.2.symm) fun hconcerns => ?_
    rcases hconcerns with ⟨rfl, -⟩ | ⟨rfl, -⟩ | ⟨rfl, -⟩
    · cases hpruning
    · cases hpruning
    · have hpruning : d.tasks[number]?.any Task.isPruner = true := hpruning
      rw [ht, Option.any_some] at hpruning
      cases t with
      | pruner p => exact absurd rfl (hpruner p)
      | _ => cases hpruning
  · rfl

theorem isPruning_of_taskOf? (h : d.taskOf? e = some t) : d.isPruning e = false := by
  cases e <;> first | rfl | cases h

theorem getElem?_applyUnpruned_cases (h : (d.applyUnpruned e).tasks[number]? = some t) :
    (∃ before, d.tasks[number]? = some before ∧ t = d.taskAfterUnpruned number before e) ∨
      number = d.tasks.length ∧ d.taskOf? e = some t := by
  unfold applyUnpruned at h
  unfold taskAfterUnpruned
  split at h
  next hpruning => exact .inl ⟨t, h, (if_pos hpruning).symm⟩
  next hkept =>
    simp only [hkept]
    exact getElem?_apply_cases h

/-- A task that is the same in both daemons, or has nothing more to say, is so afterwards, by what
the event does to it. -/
theorem AgreeIn.taskAfter (h : d.AgreeIn window d') (hregular : d.world.clock.Regular)
    (ht : d.tasks[number]? = some t) (ht' : d'.tasks[number]? = some t') (e : DaemonEvent) :
    d.taskAfter number t e = d'.taskAfterUnpruned number t' e ∨
      (d.taskAfter number t e).Idle ∧ (d'.taskAfterUnpruned number t' e).Idle := by
  have hidle (hi : t.Idle) (hi' : t'.Idle) :
      (d.taskAfter number t e).Idle ∧ (d'.taskAfterUnpruned number t' e).Idle := by
    refine ⟨idle_taskAfter hi d number e, ?_⟩
    unfold taskAfterUnpruned
    split
    · exact hi'
    · exact idle_taskAfter hi' d' number e
  rcases h.tasks number t t' ht ht' with rfl | ⟨hi, hi'⟩
  · by_cases hi : t.Idle
    · exact .inr (hidle hi hi)
    · have hpruner (p : Pruner) : t ≠ .pruner p := fun heq => hi (heq ▸ trivial)
      rw [taskAfterUnpruned_of_ne_pruner ht' hpruner]
      by_cases hturn : e = .turn (.task number)
      · subst hturn
        rw [taskAfter_turn, taskAfter_turn]
        rcases (h.advanceTask hregular hpruner).2 with hsame | ⟨hover, hover', -⟩
        · exact .inl hsame
        · exact .inr ⟨hover, hover'⟩
      · exact .inl (taskAfter_of_ne_turn hturn d' d t)
  · exact .inr (hidle hi hi')

/-! ### The worlds -/

/-- The turn of a task with nothing to say changes nothing inside the window. -/
theorem AgreeIn.world_idle (h : d.AgreeIn d.retention.window d') (hi : t.Idle) :
    (d.advanceTask t).1.AgreeIn d.retention.window d'.world := by
  have hnone : d.world.cycleOf? t = none := by
    cases t with
    | pruner p => rfl
    | ended last => rfl
    | _ => cases hi
  rcases (advanceTask_of_idle hnone).2 with heq | ⟨_, _, rfl, -⟩ | ⟨p, -, heq⟩
  · rw [heq]
    exact h.world
  · cases hi
  · rw [heq]
    exact h.world.prune

theorem world_applyUnpruned_task (ht : d.tasks[number]? = some t) :
    (d.applyUnpruned (.turn (.task number))).world =
      if t.isPruner then d.world else (d.advanceTask t).1 := by
  unfold applyUnpruned isPruning
  simp only [ht, Option.any_some]
  split
  · rfl
  · show (d.turn (.task number)).world = _
    rw [turn_task ht]

/-- The world after the turn of a task, which is left out for the second daemon if the task is a
pruner. -/
theorem AgreeIn.world_turn (h : d.AgreeIn d.retention.window d')
    (hregular : d.world.clock.Regular) (number : Nat) :
    (d.turn (.task number)).world.AgreeIn d.retention.window
      (d'.applyUnpruned (.turn (.task number))).world := by
  cases ht : d.tasks[number]? with
  | none =>
    have ht' : d'.tasks[number]? = none := by
      rw [List.getElem?_eq_none_iff] at ht ⊢
      rw [h.length]
      exact ht
    unfold applyUnpruned isPruning
    simp only [ht', Option.any_none]
    rw [turn_task_none ht]
    show d.world.AgreeIn _ (d'.turn (.task number)).world
    rw [turn_task_none ht']
    exact h.world
  | some t =>
    obtain ⟨t', ht'⟩ : ∃ t', d'.tasks[number]? = some t' :=
      ⟨_, List.getElem?_eq_getElem (by rw [h.length]; exact (List.getElem?_eq_some_iff.mp ht).1)⟩
    rw [turn_task ht, world_applyUnpruned_task ht']
    -- of two idle tasks the second may be left out of its run, and the first prunes at most
    have hidle (hi : t.Idle) (hi' : t'.Idle) :
        (d.advanceTask t).1.AgreeIn d.retention.window
          (if t'.isPruner then d'.world else (d'.advanceTask t').1) := by
      cases t' with
      | pruner p => exact h.world_idle hi
      | ended last => exact h.world_idle hi
      | _ => cases hi'
    rcases h.tasks number t t' ht ht' with rfl | ⟨hi, hi'⟩
    · by_cases hi : t.Idle
      · exact hidle hi hi
      · have hpruner (p : Pruner) : t ≠ .pruner p := fun heq => hi (heq ▸ trivial)
        have hagree := (h.advanceTask hregular hpruner).1
        cases t with
        | pruner p => exact absurd rfl (hpruner p)
        | _ => exact hagree
    · exact hidle hi hi'

/-- The world after an event, unless that is a pruning of the second daemon. -/
theorem AgreeIn.world_applyUnpruned (h : d.AgreeIn d.retention.window d')
    (hregular : d.world.clock.Regular)
    (hforward : ∀ t, e.clock? = some t → t.Regular ∧ d.world.clock ≤ t) :
    (d.apply e).world.AgreeIn d.retention.window (d'.applyUnpruned e).world := by
  by_cases hturn : ∃ a, e = .turn a
  · obtain ⟨a, rfl⟩ := hturn
    cases a with
    | listing =>
      exact h.world.lift d.world.advanceListing_withStore (d.steady_turn .listing).clock
        (store_turn_shared (a := .listing) fun number h => by cases h)
    | snapshot =>
      exact h.world.lift d.world.advanceSnapshot_withStore (d.steady_turn .snapshot).clock
        (store_turn_shared (a := .snapshot) fun number h => by cases h)
    | task number => exact h.world_turn hregular number
  · by_cases hprune : e = .prune
    · subst hprune
      exact h.world.prune
    · have hunpruned : d'.applyUnpruned e = d'.apply e := by
        unfold applyUnpruned
        refine if_neg ?_
        cases e with
        | prune => exact absurd rfl hprune
        | turn a => exact absurd ⟨a, rfl⟩ hturn
        | _ => exact Bool.false_ne_true
      rw [hunpruned]
      exact h.world_apply hregular hforward (Int.le_of_lt d.retention.window_pos)
        (fun a heq => hturn ⟨a, heq⟩) hprune

/-- A pruning starts no task. -/
theorem AgreeIn.length_applyUnpruned (h : d.AgreeIn window d') (e : DaemonEvent) :
    (d'.applyUnpruned e).tasks.length = (d.apply e).tasks.length := by
  unfold applyUnpruned
  split
  next hpruning =>
    have hnone : d.taskOf? e = none := by
      rw [← h.taskOf? e]
      by_contra hsome
      obtain ⟨t, ht⟩ := Option.ne_none_iff_exists'.mp hsome
      rw [isPruning_of_taskOf? ht] at hpruning
      cases hpruning
    rw [length_apply, hnone, h.length]
    rfl
  · rw [length_apply, length_apply, h.taskOf?, h.length]

/-- **One event keeps two daemons in agreement**, the second of which is not pruned. -/
theorem AgreeIn.apply (h : d.AgreeIn d.retention.window d')
    (hregular : d.world.clock.Regular)
    (hforward : ∀ t, e.clock? = some t → t.Regular ∧ d.world.clock ≤ t) :
    (d.apply e).AgreeIn d.retention.window (d'.applyUnpruned e) := by
  have hkept : (d'.applyUnpruned e).retention = d'.retention ∧
      (d'.applyUnpruned e).requestTimeout = d'.requestTimeout := by
    unfold applyUnpruned
    split
    · exact ⟨rfl, rfl⟩
    · exact ⟨d'.retention_apply e, d'.requestTimeout_apply e⟩
  constructor
  case retention => rw [hkept.1, retention_apply, h.retention]
  case requestTimeout => rw [hkept.2, requestTimeout_apply, h.requestTimeout]
  case world => exact h.world_applyUnpruned hregular hforward
  case length => exact h.length_applyUnpruned e
  case tasks =>
    -- the two daemons number their tasks alike, so that a task is new in both or in neither
    intro number t t' ht ht'
    rcases getElem?_apply_cases ht with ⟨before, hbefore, rfl⟩ | ⟨hnumber, hnew⟩ <;>
      rcases getElem?_applyUnpruned_cases ht' with ⟨before', hbefore', rfl⟩ | ⟨hnumber', hnew'⟩
    · exact h.taskAfter hregular hbefore hbefore' e
    · have hlt := (List.getElem?_eq_some_iff.mp hbefore).1
      rw [h.length] at hnumber'
      omega
    · have hlt := (List.getElem?_eq_some_iff.mp hbefore').1
      rw [h.length] at hlt
      omega
    · rw [h.taskOf?, hnew] at hnew'
      exact .inl (Option.some.inj hnew')

/-! ## Whole runs -/

/-- A query that looks no further than the window fares the same in one event. -/
theorem AgreeIn.query (h : d.AgreeIn window d') (hregular : d.world.clock.Regular)
    (hshort : purpose.LooksWithin window) (ht : d.tasks[number]? = some t)
    (ht' : d'.tasks[number]? = some t) (hquery : t.Makes purpose ∨ t.Over) (e : DaemonEvent) :
    d'.taskAfterUnpruned number t e = d.taskAfter number t e ∧
      ((d.taskAfter number t e).Makes purpose ∨ (d.taskAfter number t e).Over) := by
  rcases hquery with hmakes | hover
  · refine ⟨?_, makes_taskAfter hmakes d number e⟩
    have hpruner (p : Pruner) : t ≠ .pruner p := by rintro rfl; cases hmakes
    rw [taskAfterUnpruned_of_ne_pruner ht' hpruner]
    by_cases hturn : e = .turn (.task number)
    · subst hturn
      rw [taskAfter_turn, taskAfter_turn]
      rcases (h.advanceTask hregular hpruner).2 with hsame | ⟨-, -, purpose', hmakes', hlong⟩
      · exact hsame.symm
      · -- it would have to make another cycle
        obtain ⟨c, hc, rfl⟩ := hmakes.cycleOf? d.world
        obtain ⟨c', hc', rfl⟩ := hmakes'.cycleOf? d.world
        rw [hc] at hc'
        exact absurd (Option.some.inj hc' ▸ hshort) hlong
    · exact taskAfter_of_ne_turn hturn d d' t
  · refine ⟨?_, .inr (by rw [over_taskAfter hover]; exact hover)⟩
    unfold taskAfterUnpruned
    rw [over_taskAfter hover, over_taskAfter hover, ite_self]

theorem getElem?_applyUnpruned (ht : d.tasks[number]? = some t) (e : DaemonEvent) :
    (d.applyUnpruned e).tasks[number]? = some (d.taskAfterUnpruned number t e) := by
  unfold applyUnpruned taskAfterUnpruned
  split
  · exact ht
  · exact getElem?_apply ht e

/-- **Two daemons that agree still agree after a run**, in one of them without its prunings,
and a query that looks no further than the window has fared the same. -/
theorem AgreeIn.run (h : d.AgreeIn d.retention.window d')
    (hclock : ForwardClock d.world.clock events) :
    (d.run events).AgreeIn d.retention.window (d'.runUnpruned events) ∧
      ∀ (number : Nat) (t : Task) (purpose : Purpose),
        d.tasks[number]? = some t → d'.tasks[number]? = some t →
        t.Makes purpose ∨ t.Over → purpose.LooksWithin d.retention.window →
        (d'.runUnpruned events).tasks[number]? = (d.run events).tasks[number]? := by
  induction events generalizing d d' with
  | nil => exact ⟨h, fun _ _ _ ht ht' _ _ => ht'.trans ht.symm⟩
  | cons e rest ih =>
    have hregular := hclock.start_regular
    obtain ⟨hrest, hforward⟩ := hclock.of_cons
    have hstep := h.apply hregular hforward
    rw [← d.clock_apply] at hrest
    rw [← d.retention_apply e] at hstep
    obtain ⟨hagree, hqueries⟩ := ih hstep hrest
    rw [d.retention_apply e] at hagree hqueries
    refine ⟨hagree, fun number t purpose ht ht' hquery hshort => ?_⟩
    obtain ⟨hsame, hafter⟩ := h.query hregular hshort ht ht' hquery e
    refine hqueries number _ purpose (getElem?_apply ht e) ?_ hafter hshort
    rw [← hsame]
    exact getElem?_applyUnpruned ht' e

theorem forwardClock_append {pre post : List DaemonEvent}
    (h : ForwardClock d.world.clock (pre ++ post)) :
    ForwardClock d.world.clock pre ∧ ForwardClock (d.run pre).world.clock post := by
  constructor
  · obtain ⟨hinOrder, hregular⟩ := h
    rw [List.filterMap_append, ← List.cons_append] at hinOrder hregular
    exact ⟨(List.pairwise_append.mp hinOrder).1, fun t ht =>
      hregular t (List.mem_append_left _ ht)⟩
  · induction pre generalizing d with
    | nil => exact h
    | cons e rest ih =>
      obtain ⟨hrest, -⟩ := h.of_cons
      rw [← d.clock_apply] at hrest
      exact ih hrest

/-- What retention does not disturb in a run, and what it sees to in it. -/
structure RetentionInvisible (first : Daemon) (events : List DaemonEvent) : Prop where
  /-- A history over a range that is not longer than the window, called for or requested,
  comes to the same as in the run without its prunings. -/
  queries : ∀ pre e post t range, events = pre ++ e :: post →
    (first.run pre).taskOf? e = some t → t.Makes (.history range) →
    range.nanos ≤ first.retention.window.nanos →
    let number := (first.run pre).tasks.length
    (first.runUnpruned events).tasks[number]? = (first.run events).tasks[number]?
  /-- Right after a pruning that succeeds the store holds nothing that is older than the
  window. -/
  pruned : ∀ pre e post counts, events = pre ++ e :: post → (first.run pre).Prunes e →
    ((first.run pre).world.prune first.retention).2 = .ok counts →
    ∃ cutoff, (first.run pre).world.clock.sub? first.retention.window = some cutoff ∧
      ∀ sensor x, (first.run (pre ++ [e])).world.store.Holds sensor x → cutoff ≤ x.timestamp

theorem runUnpruned_append (d : Daemon) (pre post : List DaemonEvent) :
    d.runUnpruned (pre ++ post) = (d.runUnpruned pre).runUnpruned post := List.foldl_append

/-- The world after a pruning is the pruned one, whoever prunes. -/
theorem world_apply_of_prunes (h : d.Prunes e) :
    (d.apply e).world = (d.world.prune d.retention).1 := by
  rcases h with rfl | ⟨number, p, rfl, ht, hrunning, hdue⟩
  · rfl
  · show (d.turn (.task number)).world = _
    rw [turn_task ht]
    unfold advanceTask World.advancePruner
    simp only [hrunning, hdue, if_true, Bool.false_eq_true, if_false]

/-- **Retention is invisible inside its window**, in every run in which the clock never goes back
and never shows a leap second.  Up to the query the two runs agree inside the window
(`AgreeIn.run`); the query has the same number in both, and fares the same from then on, since it
never looks at anything older than the window.  What a pruning leaves is a matter of that one
event. -/
theorem create_retentionInvisible {settings : DaemonSettings}
    (hcreate : create settings = .ok first) (hclock : ForwardClock settings.clock events) :
    first.RetentionInvisible events := by
  have hstart : first.world.clock = settings.clock := by
    obtain ⟨cache, retention, snapshots, -, -, -, rfl⟩ := create_eq_ok hcreate
    rfl
  rw [← hstart] at hclock
  constructor
  case queries =>
    rintro pre e post t range rfl hnew hmakes hshort
    obtain ⟨hpre, hrest⟩ := forwardClock_append hclock
    have hagree := ((AgreeIn.refl first.retention.window first).run hpre).1
    obtain ⟨hpost, hforward⟩ := hrest.of_cons
    rw [← clock_apply] at hpost
    rw [← retention_run first pre] at hagree hshort
    -- the two runs agree when the query comes, and it gets the same number in both
    have hafter := hagree.apply hrest.start_regular hforward
    rw [← retention_apply _ e] at hafter
    have hnew' : (first.runUnpruned pre).taskOf? e = some t := by rw [hagree.taskOf?, hnew]
    have hstart' : ((first.runUnpruned pre).applyUnpruned e).tasks[
        (first.run pre).tasks.length]? = some t := by
      unfold applyUnpruned
      rw [if_neg (by rw [isPruning_of_taskOf? hnew']; exact Bool.false_ne_true), ← hagree.length]
      exact getElem?_apply_new hnew'
    have hsame := (hafter.run hpost).2 _ t (.history range) (getElem?_apply_new hnew) hstart'
      (.inl hmakes) (by rw [retention_apply]; exact hshort)
    dsimp only
    rw [List.append_cons, run_append, run_concat, runUnpruned_append, runUnpruned_append]
    exact hsame
  case pruned =>
    rintro pre e post counts - hprunes hok
    rw [run_concat, world_apply_of_prunes hprunes, retention_run]
    exact World.holds_prune hok

/-- A sample two hours old is pruned, and then the history of the last hour is called for. -/
def queryAfterPruning : List DaemonEvent :=
  [.showTopology (.showing SmallMachine.topology), .showReadings (.showing SmallMachine.readings),
    .write SmallMachine.thermometer.id ⟨7, ⟨-7200, 0, by decide, by decide⟩⟩, .prune,
    .call false (.history ⟨3600000000000⟩), .turn (.task 0), .turn .listing, .turn (.task 0)]

/-- The old sample is gone from the one store and not from the other, and the history of the last
hour is the same. -/
theorem retentionInvisible_of_query_after_pruning :
    ∃ d, create SmallMachine.settings = .ok d ∧
      ForwardClock SmallMachine.settings.clock queryAfterPruning ∧
      (d.run queryAfterPruning).world.store.sampleCount SmallMachine.thermometer.id = 1 ∧
      (d.runUnpruned queryAfterPruning).world.store.sampleCount SmallMachine.thermometer.id = 2 ∧
      d.RetentionInvisible queryAfterPruning := by
  have hnew : create SmallMachine.settings = .ok _ := rfl
  have hclock : ForwardClock SmallMachine.settings.clock queryAfterPruning := by decide
  exact ⟨_, hnew, hclock, by with_unfolding_all rfl, by with_unfolding_all rfl,
    create_retentionInvisible hnew hclock⟩

end Daemon

end Telemetry
