import Telemetry.Daemon.Task
import Telemetry.Proofs.Service.Cycle
import Telemetry.Proofs.Service.Retention

/-! # What happens to a daemon

A run of a daemon is a list of events.  Somebody uses the daemon, cancels or drops what is in
progress, time passes, or an agent takes a turn; the clock, the inspector and the faults of the
store change as they like.  Turns come in any order, so a fact about every run is a fact about every
interleaving of what is in progress.

All that a turn of a task can do is a step of the cycle that the task goes on with
(`World.cycleOf?`), a request for the shared snapshot, or a deletion by a pruner.

Tasks are numbered as they come and keep their numbers.  So an event acts on the tasks one by one
(`Daemon.taskAfter`) and adds one at most, which is how a task is followed through a run; and it
acts on what is shared by one of four kinds of turns (`World.Turns`), which is how an invariant of
the world is kept.
-/

namespace Telemetry

/-- What happens to a daemon.  Nothing is assumed here of the order of events, or of what the
inspector shows. -/
inductive DaemonEvent where
  | setClock (t : Instant)
  /-- The inspector answers differently from now on. -/
  | showTopology (p : Probe Topology)
  | showReadings (p : Probe Readings)
  | setFaults (f : StoreFaults)
  /-- Somebody writes to the store. -/
  | write (sensor : SensorId) (x : Sample)
  | close
  /-- Somebody prunes the store once. -/
  | prune
  /-- A request arrives. -/
  | request (r : Http.Request)
  /-- Somebody calls for a cycle, perhaps with a token that is cancelled already. -/
  | call (cancelled : Bool) (purpose : Purpose)
  | startPolling (interval : Span)
  | startPruning
  /-- The token of a task is cancelled. -/
  | cancel (number : Nat)
  /-- A task is dropped, such as a request whose sender has gone. -/
  | drop (number : Nat)
  | shutDown
  /-- Time passes. -/
  | pass (now : Nat)
  | turn (a : Daemon.Agent)

/-- An event is something that a task does, or that is done to it: its turn, its cancellation, or
that it is dropped. -/
def DaemonEvent.Concerns (number : Nat) : DaemonEvent → Prop
  | .turn (.task other) | .cancel other | .drop other => other = number
  | _ => False

variable {d : Daemon} {events : List DaemonEvent} {e : DaemonEvent} {number : Nat} {t : Task}
  {purpose : Purpose}

namespace Task

/-- The token of a task is cancelled; a request depends on that of the daemon alone. -/
def cancel : Task → Task
  | .cycle _ purpose stage => .cycle true purpose stage
  | .poller p => .poller { p with stopped := true }
  | .pruner p => .pruner { p with stopped := true }
  | t => t

/-- A task is dropped where it is, unless it has ended, and does nothing any more. -/
def drop : Task → Task
  | .ended e => .ended e
  | _ => .ended .stopped

/-- How far the survey of a task has come, if it makes one. -/
def survey? : Task → Option Survey
  | .request _ _ (.history _ stage) => some stage
  | .cycle _ _ stage => some stage
  | .poller p => p.cycle
  | _ => none

theorem survey?_cancel (t : Task) : t.cancel.survey? = t.survey? := by
  cases t <;> rfl

theorem survey?_drop (t : Task) : t.drop.survey? = none := by
  cases t <;> rfl

end Task

/-- A cycle that a task goes on with: whether its token is cancelled, what it is for, and how
far its survey has come. -/
structure CycleCall where
  cancelled : Bool
  purpose : Purpose
  stage : Survey

namespace World

/-- The cycle that a task goes on with when it has its turn.  A poller without a poll begins one if
its ticker is due. -/
def cycleOf? (w : World) : Task → Option CycleCall
  | .request _ _ (.history range stage) => some ⟨w.shutdown, .history range, stage⟩
  | .cycle cancelled purpose stage => some ⟨cancelled, purpose, stage⟩
  | .poller p => match p.cycle with
    | some stage => some ⟨p.stopped || w.shutdown, .poll, stage⟩
    | none =>
      if p.stopped || w.shutdown then none
      else if p.ticker.isDue w.now then some ⟨p.stopped || w.shutdown, .poll, .fresh⟩
      else none
  | _ => none

/-- What a poller goes on with is a poll. -/
theorem purpose_of_poller {w : World} {p : Poller} {c : CycleCall}
    (h : w.cycleOf? (.poller p) = some c) : c.purpose = .poll := by
  obtain ⟨ticker, stopped, cycle⟩ := p
  unfold cycleOf? at h
  cases cycle with
  | some stage => rw [← Option.some.inj h]
  | none =>
    dsimp only at h
    split at h
    · cases h
    · split at h
      · rw [← Option.some.inj h]
      · cases h

/-- What the turn of a task does to the shared world, whatever the task is. -/
inductive Turns (w : World) (r : Retention) : World → Prop where
  /-- A step of a survey, and what is stored after it. -/
  | surveys {w₁ : World} {store : Store} : w.Surveying w₁ → Turns w r { w₁ with store := store }
  | rests : Turns w r w
  | asks : Turns w r { w with snapshots := (w.snapshots.get w.now .fresh).1 }
  | prunes : Turns w r (w.prune r).1

/-- A step of a cycle, with the token and the stage of the call. -/
def goOn (w : World) (c : CycleCall) : World × Progress Survey CycleYield :=
  w.advanceCycle c.cancelled c.purpose c.stage

end World

/-! ## Requests -/

/-- What is received as work begins with a survey that has not begun, or waits for no snapshot
yet. -/
theorem Api.receive_working {uptime : Nat} {request : Http.Request} {work : Work}
    (h : receive uptime request = .working work) :
    work = .stats none ∨ ∃ range, work = .history range .fresh := by
  unfold receive at h
  split at h
  · cases h
  · cases h
  · exact .inl (Reception.working.inj h).symm
  · unfold receiveHistory at h
    split at h
    · cases h
    · split at h
      · exact .inr ⟨_, (Reception.working.inj h).symm⟩
      · cases h

theorem Http.Response.status_sentTo (r : Http.Response) (request : Http.Request) :
    (r.sentTo request).status = r.status := by
  unfold sentTo
  split <;> rfl

theorem Http.Response.sentTo_get {request : Request} (h : request.method = "GET") (r : Response) :
    r.sentTo request = r := by
  unfold sentTo
  rw [h]
  exact if_neg (by decide)

/-- No failure is answered as a success, so that the status tells whether there is a result. -/
theorem Api.status_failure_ne (e : Error) : (Api.failure e).status ≠ 200 := by
  show e.httpStatus ≠ 200
  cases e <;> simp [Error.httpStatus]

/-! ## Tasks that make one cycle -/

namespace Task

/-- A task makes a cycle once: it was called for, or it is that of a request for a history. -/
inductive Makes (purpose : Purpose) : Task → Prop where
  | call {cancelled : Bool} {stage : Survey} : Makes purpose (.cycle cancelled purpose stage)
  | request {request : Http.Request} {limit : Nat} {range : Delta} {stage : Survey} :
      purpose = .history range → Makes purpose (.request request limit (.history range stage))

/-- A task has ended, in whichever way. -/
def Over : Task → Prop
  | .ended _ => True
  | _ => False

/-- A task that makes a cycle goes on with it in every turn, with one purpose all along. -/
theorem Makes.cycleOf? (h : t.Makes purpose) (w : World) :
    ∃ c, w.cycleOf? t = some c ∧ c.purpose = purpose := by
  cases h with
  | call => exact ⟨_, rfl, rfl⟩
  | request hpurpose => exact ⟨_, rfl, hpurpose.symm⟩

theorem Makes.cancel (h : t.Makes purpose) : t.cancel.Makes purpose := by
  cases h with
  | call => exact .call
  | request hpurpose => exact .request hpurpose

end Task

/-! ## Runs -/

namespace Daemon

/-- An event takes place: the daemon after it. -/
def apply (d : Daemon) : DaemonEvent → Daemon
  | .setClock t => { d with world.clock := t }
  | .showTopology p =>
    { d with world.inspector.topology := { p with calls := d.world.inspector.topology.calls } }
  | .showReadings p =>
    { d with world.inspector.readings := { p with calls := d.world.inspector.readings.calls } }
  | .setFaults f => { d with world.faults := f }
  | .write sensor x => { d with world.store := d.world.store.write sensor x }
  | .close => { d with world.store := .empty }
  | .prune => { d with world := (d.world.prune d.retention).1 }
  | .request r => d.spawn (d.requestTask r)
  | .call cancelled purpose => d.spawn (.cycle cancelled purpose .fresh)
  | .startPolling interval => d.spawn (loopTask .poller (Poller.start interval d.world.now))
  | .startPruning => d.spawn (loopTask .pruner (Pruner.start d.retention d.world.now))
  | .cancel number => { d with tasks := d.tasks.modify number Task.cancel }
  | .drop number => { d with tasks := d.tasks.modify number Task.drop }
  | .shutDown => d.shutDown
  | .pass now => d.passTo now
  | .turn a => d.turn a

/-- The events in order, from the first to the last. -/
def run (d : Daemon) (events : List DaemonEvent) : Daemon := events.foldl apply d

theorem run_concat (d : Daemon) (events : List DaemonEvent) (e : DaemonEvent) :
    d.run (events ++ [e]) = (d.run events).apply e := by
  unfold run
  rw [List.foldl_append]
  rfl

theorem run_append (d : Daemon) (pre post : List DaemonEvent) :
    d.run (pre ++ post) = (d.run pre).run post := List.foldl_append

/-- The task that an event adds, if it adds one. -/
def taskOf? (d : Daemon) : DaemonEvent → Option Task
  | .request r => some (d.requestTask r)
  | .call cancelled purpose => some (.cycle cancelled purpose .fresh)
  | .startPolling interval => some (loopTask .poller (Poller.start interval d.world.now))
  | .startPruning => some (loopTask .pruner (Pruner.start d.retention d.world.now))
  | _ => none

/-- A task after an event, by its number, which tells whether the event is about this one. -/
def taskAfter (d : Daemon) (number : Nat) (t : Task) : DaemonEvent → Task
  | .cancel other => if other = number then t.cancel else t
  | .drop other => if other = number then t.drop else t
  | .turn (.task other) => if other = number then (d.advanceTask t).2 else t
  | _ => t

/-- What an event does to a task: nothing, or it cancels the task, drops it, or is its turn. -/
theorem taskAfter_cases (d : Daemon) (number : Nat) (t : Task) (e : DaemonEvent) :
    (¬ e.Concerns number ∧ d.taskAfter number t e = t) ∨
    (e = .cancel number ∧ d.taskAfter number t e = t.cancel) ∨
    (e = .drop number ∧ d.taskAfter number t e = t.drop) ∨
    (e = .turn (.task number) ∧ d.taskAfter number t e = (d.advanceTask t).2) := by
  cases e with
  | cancel other =>
    by_cases hother : other = number
    · exact .inr (.inl ⟨by rw [hother], if_pos hother⟩)
    · exact .inl ⟨hother, if_neg hother⟩
  | drop other =>
    by_cases hother : other = number
    · exact .inr (.inr (.inl ⟨by rw [hother], if_pos hother⟩))
    · exact .inl ⟨hother, if_neg hother⟩
  | turn a =>
    cases a with
    | listing | snapshot => exact .inl ⟨id, rfl⟩
    | task other =>
      by_cases hother : other = number
      · exact .inr (.inr (.inr ⟨by rw [hother], if_pos hother⟩))
      · exact .inl ⟨hother, if_neg hother⟩
  | _ => exact .inl ⟨id, rfl⟩

theorem taskAfter_turn (d : Daemon) (number : Nat) (t : Task) :
    d.taskAfter number t (.turn (.task number)) = (d.advanceTask t).2 := if_pos rfl

/-- What else happens to a task depends on nothing but the task: only in its turn it looks at the
rest of the daemon. -/
theorem taskAfter_of_ne_turn (h : e ≠ .turn (.task number)) (d d' : Daemon) (t : Task) :
    d'.taskAfter number t e = d.taskAfter number t e := by
  cases e with
  | turn a =>
    cases a with
    | listing | snapshot => rfl
    | task other =>
      have hother : other ≠ number := fun heq => h (by rw [heq])
      exact (if_neg hother).trans (if_neg hother).symm
  | _ => rfl

theorem turn_task (h : d.tasks[number]? = some t) :
    d.turn (.task number) =
      { d with world := (d.advanceTask t).1, tasks := d.tasks.set number (d.advanceTask t).2 } := by
  unfold turn
  simp only [h]

theorem turn_task_none (h : d.tasks[number]? = none) : d.turn (.task number) = d := by
  unfold turn
  simp only [h]

/-- An event changes the tasks that there are one by one, and adds one at most, behind them. -/
theorem tasks_apply (d : Daemon) (e : DaemonEvent) :
    (d.apply e).tasks =
      d.tasks.mapIdx (fun number t => d.taskAfter number t e) ++ (d.taskOf? e).toList := by
  have hkept (ts : List Task) : ts.mapIdx (fun _ t => t) = ts :=
    List.mapIdx_eq_iff.mpr fun i => by cases ts[i]? <;> rfl
  have hsame : d.tasks = d.tasks.mapIdx (fun _ t => t) ++ [] := by rw [hkept, List.append_nil]
  -- an event that is about one task changes the tasks where its number is
  have hone (number : Nat) (f : Task → Task) (ts : List Task)
      (h : ∀ i, ts[i]? = d.tasks[i]?.map fun t => if number = i then f t else t) :
      ts = d.tasks.mapIdx (fun i t => if number = i then f t else t) ++ [] := by
    rw [List.append_nil]
    exact (List.mapIdx_eq_iff.mpr h).symm
  cases e with
  | setClock | showTopology | showReadings | setFaults | write | close | prune | shutDown | pass =>
    exact hsame
  | request | call | startPolling | startPruning =>
    exact congrArg (· ++ [_]) (hkept d.tasks).symm
  | cancel number | drop number =>
    refine hone number _ _ fun i => (List.getElem?_modify ..).trans ?_
    cases d.tasks[i]? <;> rfl
  | turn a =>
    cases a with
    | listing | snapshot => exact hsame
    | task number =>
      refine hone number _ _ fun i => ?_
      show (d.turn (.task number)).tasks[i]? = _
      cases h : d.tasks[number]? with
      | none =>
        rw [turn_task_none h]
        by_cases hi : number = i
        · subst hi
          rw [h]
          rfl
        · simp [hi]
      | some t =>
        rw [turn_task h, List.getElem?_set]
        by_cases hi : number = i
        · subst hi
          rw [if_pos rfl, if_pos (List.getElem?_eq_some_iff.mp h).1, h, Option.map_some,
            if_pos rfl]
        · simp [hi]

theorem getElem?_apply (h : d.tasks[number]? = some t) (e : DaemonEvent) :
    (d.apply e).tasks[number]? = some (d.taskAfter number t e) := by
  rw [tasks_apply, List.getElem?_append_left (by simpa using (List.getElem?_eq_some_iff.mp h).1),
    List.getElem?_mapIdx, h]
  rfl

/-- A new task gets the next number, and no other task has it. -/
theorem getElem?_apply_new (h : d.taskOf? e = some t) :
    (d.apply e).tasks[d.tasks.length]? = some t := by
  rw [tasks_apply, h, List.getElem?_append_right (Nat.le_of_eq List.length_mapIdx),
    List.length_mapIdx, Nat.sub_self]
  rfl

/-- A task after an event is the task before it, as the event leaves it, or a new one. -/
theorem getElem?_apply_cases (h : (d.apply e).tasks[number]? = some t) :
    (∃ before, d.tasks[number]? = some before ∧ t = d.taskAfter number before e) ∨
      number = d.tasks.length ∧ d.taskOf? e = some t := by
  rw [tasks_apply, List.getElem?_append, List.length_mapIdx] at h
  split at h
  next hlt =>
    rw [List.getElem?_mapIdx, List.getElem?_eq_getElem hlt] at h
    exact .inl ⟨_, List.getElem?_eq_getElem hlt, (Option.some.inj h).symm⟩
  next hge =>
    cases hnew : d.taskOf? e with
    | none =>
      rw [hnew] at h
      cases h
    | some new =>
      rw [hnew, Option.toList_some, List.getElem?_singleton] at h
      split at h
      · exact .inr ⟨by omega, h⟩
      · cases h

theorem mem_tasks_apply (h : t ∈ (d.apply e).tasks) :
    (∃ number before, d.tasks[number]? = some before ∧ t = d.taskAfter number before e) ∨
      d.taskOf? e = some t := by
  obtain ⟨number, hnumber⟩ := List.getElem?_of_mem h
  rcases getElem?_apply_cases hnumber with ⟨before, hbefore, rfl⟩ | ⟨-, hnew⟩
  · exact .inl ⟨number, before, hbefore, rfl⟩
  · exact .inr hnew

theorem length_apply (d : Daemon) (e : DaemonEvent) :
    (d.apply e).tasks.length = d.tasks.length + (d.taskOf? e).toList.length := by
  rw [tasks_apply, List.length_append, List.length_mapIdx]

/-- What becomes of a task with a step of its cycle: it goes on with the cycle, or makes something
of the end of it. -/
def afterStep (d : Daemon) : Task → Progress Survey CycleYield → Task
  | .request request limit (.history range _), progress =>
    d.afterWork request limit (Api.historyProgress range progress)
  | .cycle cancelled purpose _, progress => afterCycle cancelled purpose progress
  | .poller p, progress =>
    let p := if p.cycle.isSome then p else { p with ticker := p.ticker.tick d.world.now }
    loopTask .poller (p.afterCycle progress)
  | t, _ => t

/-- **The turn of a task that makes a survey is a step of its cycle**, and the task is then what
becomes of it with that step. -/
theorem advanceTask_of_cycle {c : CycleCall} (h : d.world.cycleOf? t = some c) :
    d.advanceTask t = ((d.world.goOn c).1, d.afterStep t (d.world.goOn c).2) := by
  cases t with
  | request request limit work =>
    cases work with
    | stats joined => cases h
    | history range stage =>
      obtain rfl := Option.some.inj h
      rfl
  | cycle cancelled purpose stage =>
    obtain rfl := Option.some.inj h
    rfl
  | poller p =>
    obtain ⟨ticker, stopped, cycle⟩ := p
    cases cycle with
    | some stage =>
      obtain rfl := Option.some.inj h
      rfl
    | none =>
      unfold World.cycleOf? at h
      unfold advanceTask World.advancePoller
      dsimp only at h ⊢
      split at h
      · cases h
      next hrunning =>
        split at h
        next hdue =>
          obtain rfl := Option.some.inj h
          rw [if_neg hrunning, if_pos hdue]
          rfl
        · cases h
  | pruner p => cases h
  | ended e => cases h

theorem survey?_loopTask_pruner (progress : LoopProgress Pruner) :
    (loopTask .pruner progress).survey? = none := by
  cases progress <;> rfl

/-- A request for the current values makes no survey of its own; it waits for a shared one. -/
theorem survey?_afterWork_joinSnapshot (d : Daemon) (request : Http.Request) (limit : Nat)
    (w : World) (number : Nat) :
    (d.afterWork request limit (w.joinSnapshot number)).survey? = none := by
  have hwork (work : Option Nat) :
      (d.afterWork request limit (.pending (.stats work))).survey? = none := by
    unfold afterWork
    dsimp only
    split <;> rfl
  unfold World.joinSnapshot
  split
  · rfl
  · cases w.snapshots.outcome? number with
    | none => exact hwork _
    | some outcome => rfl

/-- The turn of any other task asks for the shared snapshot, prunes the store, or leaves the world
alone; the task makes no survey afterwards.  So it is one of three kinds of turns. -/
theorem advanceTask_of_idle (h : d.world.cycleOf? t = none) :
    (d.advanceTask t).2.survey? = none ∧
      ((d.advanceTask t).1 = d.world ∨
        (∃ request limit, t = .request request limit (.stats none) ∧ (d.advanceTask t).1 =
          { d.world with snapshots := (d.world.snapshots.get d.world.now .fresh).1 }) ∨
        ∃ p, t = .pruner p ∧ (d.advanceTask t).1 = (d.world.prune d.retention).1) := by
  cases t with
  | request request limit work =>
    cases work with
    | history range stage => cases h
    | stats joined =>
      cases joined with
      | some number => exact ⟨survey?_afterWork_joinSnapshot .., .inl rfl⟩
      | none =>
        unfold advanceTask World.advanceWork
        rcases d.world.snapshots.get_cases d.world.now .fresh with
          ⟨v, -, -, hget⟩ | ⟨-, hget⟩ | ⟨-, hget⟩ <;> simp only [hget]
        · exact ⟨rfl, .inl trivial⟩
        · exact ⟨survey?_afterWork_joinSnapshot .., .inl trivial⟩
        · exact ⟨survey?_afterWork_joinSnapshot .., .inr (.inl ⟨_, _, rfl, trivial⟩)⟩
  | cycle cancelled purpose stage => cases h
  | poller p =>
    obtain ⟨ticker, stopped, cycle⟩ := p
    cases cycle with
    | some stage => cases h
    | none =>
      unfold World.cycleOf? at h
      unfold advanceTask World.advancePoller
      dsimp only at h ⊢
      split at h
      next hstopped =>
        rw [if_pos hstopped]
        exact ⟨rfl, .inl rfl⟩
      next hrunning =>
        split at h
        · cases h
        next hearly =>
          rw [if_neg hrunning, if_neg hearly]
          exact ⟨rfl, .inl rfl⟩
  | pruner p =>
    refine ⟨survey?_loopTask_pruner _, ?_⟩
    unfold advanceTask World.advancePruner
    dsimp only
    split
    · exact .inl rfl
    · split
      · exact .inr (.inr ⟨p, rfl, rfl⟩)
      · exact .inl rfl
  | ended e => exact ⟨rfl, .inl rfl⟩

/-- The turn of a task goes on with its survey, asks for the shared snapshot, prunes the store,
or leaves the world alone. -/
theorem turns_advanceTask (d : Daemon) (t : Task) :
    d.world.Turns d.retention (d.advanceTask t).1 := by
  cases hc : d.world.cycleOf? t with
  | some c =>
    obtain ⟨w₁, hsurveying, hframe, -⟩ :=
      d.world.surveying_advanceCycle c.cancelled c.purpose c.stage
    rw [advanceTask_of_cycle hc]
    unfold World.goOn
    rw [hframe]
    exact .surveys hsurveying
  | none =>
    rcases (advanceTask_of_idle hc).2 with heq | ⟨_, _, -, heq⟩ | ⟨_, -, heq⟩ <;> rw [heq]
    · exact .rests
    · exact .asks
    · exact .prunes

theorem turns_turn (d : Daemon) (number : Nat) :
    d.world.Turns d.retention (d.turn (.task number)).world := by
  cases ht : d.tasks[number]? with
  | none =>
    rw [turn_task_none ht]
    exact .rests
  | some t =>
    rw [turn_task ht]
    exact d.turns_advanceTask t

/-- A step of a cycle leaves a task with a survey only if the cycle is not over, and then with the
survey that it has come to. -/
theorem survey?_afterStep {progress : Progress Survey CycleYield} {stage : Survey}
    (h : (d.afterStep t progress).survey? = some stage) : progress = .pending stage := by
  cases t with
  | request request limit work =>
    cases work with
    | stats joined => cases h
    | history range old =>
      rcases progress with new | (_ | _ | _)
      · unfold afterStep Api.historyProgress afterWork at h
        dsimp only at h
        split at h
        · cases h
        · rw [Option.some.inj h]
      all_goals cases h
  | cycle cancelled purpose old =>
    rcases progress with new | (_ | _ | _)
    · rw [Option.some.inj h]
    all_goals cases h
  | poller p =>
    rcases progress with new | (y | e | message)
    · rw [Option.some.inj h]
    · cases h
    · cases e <;> cases h
    · cases h
  | pruner p => cases h
  | ended e => cases h

/-! ### Tasks that make one cycle -/

/-- A step of its cycle leaves a task with the cycle, or over: it does not begin another. -/
theorem makes_afterStep (h : t.Makes purpose) (d : Daemon)
    (progress : Progress Survey CycleYield) :
    (d.afterStep t progress).Makes purpose ∨ (d.afterStep t progress).Over := by
  rcases progress with stage | (y | e | message)
  · cases h with
    | call => exact .inl .call
    | request hpurpose =>
      unfold afterStep Api.historyProgress afterWork
      dsimp only
      split
      · exact .inr trivial
      · exact .inl (.request hpurpose)
  all_goals cases h <;> exact .inr trivial

/-- A task makes its cycle until it is over. -/
theorem makes_taskAfter (h : t.Makes purpose) (d : Daemon) (number : Nat) (e : DaemonEvent) :
    (d.taskAfter number t e).Makes purpose ∨ (d.taskAfter number t e).Over := by
  rcases d.taskAfter_cases number t e with ⟨-, hafter⟩ | ⟨-, hafter⟩ | ⟨-, hafter⟩ | ⟨-, hafter⟩ <;>
    rw [hafter]
  · exact .inl h
  · exact .inl h.cancel
  · exact .inr (by cases h <;> trivial)
  · obtain ⟨c, hc, -⟩ := h.cycleOf? d.world
    rw [advanceTask_of_cycle hc]
    exact makes_afterStep h d _

/-- Nothing becomes of a task that is over, whatever happens. -/
theorem over_taskAfter (h : t.Over) (d : Daemon) (number : Nat) (e : DaemonEvent) :
    d.taskAfter number t e = t := by
  cases t with
  | ended last =>
    rcases d.taskAfter_cases number (.ended last) e with
      ⟨-, hafter⟩ | ⟨-, hafter⟩ | ⟨-, hafter⟩ | ⟨-, hafter⟩ <;> exact hafter
  | _ => cases h

theorem getElem?_run_of_over (h : t.Over) (ht : d.tasks[number]? = some t)
    (events : List DaemonEvent) : (d.run events).tasks[number]? = some t := by
  induction events generalizing d with
  | nil => exact ht
  | cons e rest ih =>
    refine ih ?_
    rw [getElem?_apply ht, over_taskAfter h]

end Daemon

/-! ## What no turn changes -/

namespace World

/-- What stays as it is in every turn: what only an event of its own changes, and what the inspector
shows. -/
structure Steady (w w' : World) : Prop where
  now : w'.now = w.now
  clock : w'.clock = w.clock
  faults : w'.faults = w.faults
  shutdown : w'.shutdown = w.shutdown
  topologyProbe : w.inspector.topology.Same w'.inspector.topology
  readingsProbe : w.inspector.readings.Same w'.inspector.readings

variable {w w' : World}

theorem Steady.refl (w : World) : w.Steady w := ⟨rfl, rfl, rfl, rfl, rfl, rfl⟩

theorem Surveying.steady (h : w.Surveying w') : w.Steady w' := by
  have hframe := h.frame
  constructor
  case topologyProbe => exact h.topologyProbe
  case readingsProbe => exact h.readingsProbe
  all_goals rw [hframe]

theorem Turns.steady {r : Retention} (h : w.Turns r w') : w.Steady w' := by
  cases h with
  | surveys hsurveying =>
    have h := hsurveying.steady
    exact ⟨h.now, h.clock, h.faults, h.shutdown, h.topologyProbe, h.readingsProbe⟩
  | rests => exact .refl w
  | asks => exact ⟨rfl, rfl, rfl, rfl, rfl, rfl⟩
  | prunes =>
    rw [prune_frame]
    exact ⟨rfl, rfl, rfl, rfl, rfl, rfl⟩

/-- No turn of a task ends a shared call for a snapshot, which ends in a turn of its own. -/
theorem Turns.outcomes {r : Retention} (h : w.Turns r w') :
    w'.snapshots.outcomes = w.snapshots.outcomes := by
  cases h with
  | surveys hsurveying => rw [hsurveying.frame]
  | rests => rfl
  | asks => exact (w.snapshots.get_frame w.now .fresh).2.2
  | prunes => rw [prune_frame]

theorem steady_advanceListing (w : World) : w.Steady w.advanceListing := by
  unfold advanceListing
  cases w.topology with
  | none => exact .refl w
  | some shared =>
    cases hflight : shared.cache.flight with
    | none => simp only [hflight]; exact .refl w
    | some call =>
      simp only [hflight]
      cases call.stage <;> exact ⟨rfl, rfl, rfl, rfl, rfl, rfl⟩

theorem steady_advanceSnapshot (w : World) : w.Steady w.advanceSnapshot := by
  unfold advanceSnapshot
  cases hflight : w.snapshots.cache.flight with
  | none => exact .refl w
  | some call =>
    have h := (w.surveying_advanceSurvey false call.stage).1.steady
    exact ⟨h.now, h.clock, h.faults, h.shutdown, h.topologyProbe, h.readingsProbe⟩

end World

namespace Daemon

/-- **No turn moves the time, changes what the inspector shows, or sets a fault.** -/
theorem steady_turn (d : Daemon) (a : Agent) : d.world.Steady (d.turn a).world := by
  cases a with
  | listing => exact d.world.steady_advanceListing
  | snapshot => exact d.world.steady_advanceSnapshot
  | task number => exact (d.turns_turn number).steady

theorem retention_apply (d : Daemon) (e : DaemonEvent) : (d.apply e).retention = d.retention := by
  cases e with
  | turn a =>
    cases a with
    | listing | snapshot => rfl
    | task number =>
      show (d.turn (.task number)).retention = _
      cases h : d.tasks[number]? with
      | none => rw [turn_task_none h]
      | some t => rw [turn_task h]
  | _ => rfl

theorem retention_run (d : Daemon) (events : List DaemonEvent) :
    (d.run events).retention = d.retention := by
  induction events generalizing d with
  | nil => rfl
  | cons e rest ih => exact (ih (d.apply e)).trans (d.retention_apply e)

theorem requestTimeout_apply (d : Daemon) (e : DaemonEvent) :
    (d.apply e).requestTimeout = d.requestTimeout := by
  cases e with
  | turn a =>
    cases a with
    | listing | snapshot => rfl
    | task number =>
      show (d.turn (.task number)).requestTimeout = _
      cases h : d.tasks[number]? with
      | none => rw [turn_task_none h]
      | some t => rw [turn_task h]
  | _ => rfl

theorem requestTimeout_run (d : Daemon) (events : List DaemonEvent) :
    (d.run events).requestTimeout = d.requestTimeout := by
  induction events generalizing d with
  | nil => rfl
  | cons e rest ih => exact (ih (d.apply e)).trans (d.requestTimeout_apply e)

/-- The turns of the shared calls leave the store alone, since they survey and do not store. -/
theorem store_turn_shared {a : Agent} (h : ∀ number, a ≠ .task number) :
    (d.turn a).world.store = d.world.store := by
  cases a with
  | task number => exact absurd rfl (h number)
  | listing =>
    show d.world.advanceListing.store = _
    unfold World.advanceListing
    cases d.world.topology with
    | none => rfl
    | some shared =>
      dsimp only
      split <;> rfl
  | snapshot =>
    show d.world.advanceSnapshot.store = _
    unfold World.advanceSnapshot
    cases d.world.snapshots.cache.flight with
    | none => rfl
    | some call =>
      show (d.world.advanceSurvey false call.stage).1.store = _
      rw [(d.world.surveying_advanceSurvey false call.stage).1.frame]

/-! ## Before anything happens -/

/-- A daemon at its start: its settings have been accepted part by part, nothing is stored, and
nothing has been asked. -/
theorem create_eq_ok {s : DaemonSettings} (h : create s = .ok d) :
    ∃ topology retention snapshots,
      s.topologyCache.mapM (fun c => CacheSettings.create c.1 c.2) = .ok topology ∧
      Retention.create s.retentionInterval s.retentionWindow = .ok retention ∧
      CacheSettings.create s.snapshotRetention s.snapshotFetchTimeout = .ok snapshots ∧
      d = ⟨⟨0, s.clock, .blank, .empty, .none, 0, topology.map .create, .create snapshots, false⟩,
        retention, s.requestTimeout, []⟩ := by
  unfold create at h
  cases htopology : s.topologyCache.mapM fun c => CacheSettings.create c.1 c.2 with
  | error e =>
    rw [htopology] at h
    cases h
  | ok topology =>
    cases hretention : Retention.create s.retentionInterval s.retentionWindow with
    | error e =>
      rw [htopology, hretention] at h
      cases h
    | ok retention =>
      cases hsnapshots : CacheSettings.create s.snapshotRetention s.snapshotFetchTimeout with
      | error e =>
        rw [htopology, hretention, hsnapshots] at h
        cases h
      | ok snapshots =>
        rw [htopology, hretention, hsnapshots] at h
        exact ⟨topology, retention, snapshots, rfl, rfl, rfl, (Except.ok.inj h).symm⟩

end Daemon

/-! ## A small machine

One piece of hardware with a thermometer that reports and a fan that stays silent: what the
runs of examples are about. -/

namespace SmallMachine

def thermometer : Sensor := ⟨⟨"cpu0-temp"⟩, ⟨"cpu0"⟩, "Core", .temperature, 100⟩

def fan : Sensor := ⟨⟨"cpu0-fan"⟩, ⟨"cpu0"⟩, "Fan", .fan, 3000⟩

def topology : Topology := ⟨[(⟨⟨"cpu0"⟩, "CPU", .cpu⟩, [thermometer, fan])], by decide⟩

def readings : Readings := ⟨[(thermometer, 21.5)], by decide⟩

/-- A listing stays fresh for a minute and a snapshot for five seconds; a shared snapshot may
take two seconds and a request ten.  Samples are kept for an hour. -/
def settings : DaemonSettings where
  clock := .epoch
  topologyCache := some (.ofSeconds 60, .ofSeconds 5)
  retentionInterval := .ofSeconds 60
  retentionWindow := .ofSeconds 3600
  snapshotRetention := .ofSeconds 5
  snapshotFetchTimeout := .ofSeconds 2
  requestTimeout := .ofSeconds 10

end SmallMachine

end Telemetry
