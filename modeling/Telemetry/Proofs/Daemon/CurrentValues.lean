import Telemetry.Proofs.Daemon.Events

/-! # Requests for the current values

A request for the current values finds a fresh snapshot in the cache, or waits for the shared call
that fetches one.  Time is virtual: it passes only when nobody can go on (`Prompt`), so that nobody
waits for a snapshot that is there.

To be at rest is said of the daemon as a whole (`AtRest`): no turn of anybody changes it.  Then a
task that waits for something waits rightly, since its turn would find nothing new; and in a run
that is prompt whatever a task waits for is taken up at the very moment at which it comes.

What the turn of such a request comes to is said in terms of the caches (`Serves`): where the
snapshot that it shows was, and which failure of the shared call it passes on.
-/

namespace Telemetry

variable {d : Daemon} {e : DaemonEvent} {number joined : Nat} {t : Task}

namespace Daemon

/-! ## Time waits -/

/-- Nobody can go on: whoever had a turn now, the daemon would stay as it is. -/
def AtRest (d : Daemon) : Prop := ∀ a, d.turn a = d

/-- Time waits for whoever can go on: it passes over no moment before everybody has come to
rest. -/
def Waits (d : Daemon) : DaemonEvent → Prop
  | .pass later => ∀ moment, d.world.now ≤ moment → moment < later → (d.passTo moment).AtRest
  | _ => True

/-- Time waits throughout a run; in which order turns are taken is left open, and how many there
are. -/
def Prompt (d : Daemon) : List DaemonEvent → Prop
  | [] => True
  | e :: rest => d.Waits e ∧ (d.apply e).Prompt rest

theorem prompt_append (d : Daemon) (pre post : List DaemonEvent) :
    d.Prompt (pre ++ post) ↔ d.Prompt pre ∧ (d.run pre).Prompt post := by
  induction pre generalizing d with
  | nil => exact ⟨fun h => ⟨trivial, h⟩, And.right⟩
  | cons e pre ih =>
    show d.Waits e ∧ (d.apply e).Prompt (pre ++ post) ↔ _
    rw [ih]
    exact and_assoc.symm

end Daemon

/-! ## Requests for the current values -/

namespace Task

/-- The shared snapshot that a task waits for, by its number. -/
def awaited? : Task → Option Nat
  | .request _ _ (.stats joined) => joined
  | _ => none

theorem awaited?_cancel (t : Task) : t.cancel.awaited? = t.awaited? := by
  cases t <;> rfl

theorem awaited?_drop (t : Task) : t.drop.awaited? = none := by
  cases t <;> rfl

end Task

namespace Daemon

/-- A request for the current values begins to work at them, without a shared call that it waits
for. -/
theorem requestTask_of_stats {request : Http.Request}
    (h : request.route Api.pages = .ok .stats) (d : Daemon) :
    ∃ limit, d.requestTask request = .request request limit (.stats none) := by
  unfold requestTask Api.receive
  rw [h]
  exact ⟨_, rfl⟩

/-- Where a request for the current values has its snapshot from: fresh out of the cache, or
from the shared call that it waits for. -/
inductive Obtains (w : World) : Option Nat → Snapshot → Prop where
  | held {s : Stored Snapshot} : w.snapshots.cache.stored = some s →
      w.snapshots.cache.isFresh w.now s = true → Obtains w none s.value
  | joined {number : Nat} {snapshot : Snapshot} :
      w.snapshots.outcome? number = some (.ok snapshot) → Obtains w (some number) snapshot

/-- What becomes of a request for the current values in its turn: it waits for a shared call that
has not ended, it is answered with a snapshot, or it is answered with a failure. -/
inductive Serves (w w' : World) (request : Http.Request) (limit : Nat) (joined : Option Nat) :
    Task → Prop where
  | waits {number : Nat} : w'.snapshots.outcome? number = none →
      Serves w w' request limit joined (.request request limit (.stats (some number)))
  | shows {snapshot : Snapshot} : Obtains w joined snapshot → Serves w w' request limit joined
      (.ended (.response ((Http.Response.json snapshot.encode).sentTo request)))
  /-- It is cancelled, it runs out of time, or so did the shared call, or that has failed. -/
  | fails {e : Error} :
      e = .cancelled ∨ (∃ span, e = .timeout span) ∨ .error e ∈ w.snapshots.outcomes →
      Serves w w' request limit joined (.ended (.response ((Api.failure e).sentTo request)))

variable {request : Http.Request} {limit : Nat}

/-- A request that waits for a shared call, in a world in which the call has perhaps just been
started.  What has just been started has not ended. -/
theorem serves_joinSnapshot {called : Option Nat} {w : World}
    (h : ∀ outcome, w.snapshots.outcome? number = some outcome →
      called = some number ∧ d.world.snapshots.outcome? number = some outcome) :
    Serves d.world w request limit called
      (d.afterWork request limit (w.joinSnapshot number)) := by
  unfold World.joinSnapshot
  split
  · exact .fails (.inl rfl)
  · cases houtcome : w.snapshots.outcome? number with
    | none =>
      unfold afterWork
      dsimp only
      split
      · exact .fails (.inr (.inl ⟨_, rfl⟩))
      · exact .waits houtcome
    | some outcome =>
      obtain ⟨rfl, houtcome⟩ := h outcome houtcome
      cases outcome with
      | ok snapshot => exact .shows (.joined houtcome)
      | error e => exact .fails (.inr (.inr (List.mem_of_getElem? houtcome)))

/-- **What the turn of a request for the current values comes to**, for a request that has just
arrived and for one that waits. -/
theorem serves_advanceTask (d : Daemon) (request : Http.Request) (limit : Nat)
    (called : Option Nat) :
    Serves d.world (d.advanceTask (.request request limit (.stats called))).1 request limit called
      (d.advanceTask (.request request limit (.stats called))).2 := by
  cases called with
  | some number => exact serves_joinSnapshot fun _ houtcome => ⟨rfl, houtcome⟩
  | none =>
    -- the call that is joined has not ended: its number is the next one
    have hnew : (d.world.snapshots.get d.world.now .fresh).1.outcome?
        d.world.snapshots.outcomes.length = none := by
      show (d.world.snapshots.get d.world.now .fresh).1.outcomes[_]? = none
      rw [(d.world.snapshots.get_frame d.world.now .fresh).2.2]
      exact List.getElem?_eq_none (Nat.le_refl _)
    unfold advanceTask World.advanceWork
    rcases d.world.snapshots.get_cases d.world.now .fresh with
      ⟨s, hstored, hfresh, hget⟩ | ⟨-, hget⟩ | ⟨-, hget⟩ <;> rw [hget] at hnew <;> simp only [hget]
    · exact .shows (.held hstored hfresh)
    all_goals
      refine serves_joinSnapshot fun outcome houtcome => ?_
      rw [hnew] at houtcome
      cases houtcome

/-- A step of a cycle leaves no task that waits for a shared snapshot; only requests for the current
values do. -/
theorem awaited?_afterStep {c : CycleCall} (h : d.world.cycleOf? t = some c)
    (progress : Progress Survey CycleYield) : (d.afterStep t progress).awaited? = none := by
  cases t with
  | request request limit work =>
    cases work with
    | stats joined => cases h
    | history range stage =>
      rcases progress with stage | (_ | _ | _)
      · unfold afterStep Api.historyProgress afterWork
        dsimp only
        split <;> rfl
      all_goals rfl
  | cycle cancelled purpose stage => rcases progress with stage | (_ | _ | _) <;> rfl
  | poller p =>
    rcases progress with stage | (y | e | message)
    · rfl
    · rfl
    · cases e <;> rfl
    · rfl
  | pruner p => cases h
  | ended e => cases h

theorem awaited?_loopTask {σ : Type} {running : σ → Task}
    (h : ∀ state, (running state).awaited? = none) (progress : LoopProgress σ) :
    (loopTask running progress).awaited? = none := by
  cases progress with
  | running state => exact h state
  | stopped | died => rfl

/-- After its turn a task waits for no shared snapshot that is there already. -/
theorem outcome?_of_awaited? (h : (d.advanceTask t).2.awaited? = some number) :
    (d.advanceTask t).1.snapshots.outcome? number = none := by
  cases hc : d.world.cycleOf? t with
  | some c =>
    rw [advanceTask_of_cycle hc, awaited?_afterStep hc] at h
    cases h
  -- of the tasks without a cycle only a request for the current values waits for a snapshot
  | none =>
    cases t with
    | request request limit work =>
      cases work with
      | history range stage => cases hc
      | stats joined =>
        have hserves := d.serves_advanceTask request limit joined
        generalize (d.advanceTask (.request request limit (.stats joined))).2 = after
          at h hserves
        cases hserves with
        | waits hnone =>
          obtain rfl := Option.some.inj h
          exact hnone
        | shows | fails => cases h
    | poller p =>
      rw [show (d.advanceTask (.poller p)).2.awaited? = none from
        awaited?_loopTask (fun _ => rfl) _] at h
      cases h
    | pruner p =>
      rw [show (d.advanceTask (.pruner p)).2.awaited? = none from
        awaited?_loopTask (fun _ => rfl) _] at h
      cases h
    | cycle cancelled purpose stage => cases hc
    | ended e => cases h

/-- Who waits for a shared snapshot after an event has been waiting for it, or has just had a
turn: then the snapshot is not there yet. -/
theorem awaited?_taskAfter (h : (d.taskAfter number t e).awaited? = some joined) :
    t.awaited? = some joined ∨
      e = .turn (.task number) ∧ (d.advanceTask t).1.snapshots.outcome? joined = none := by
  rcases d.taskAfter_cases number t e with
    ⟨-, hafter⟩ | ⟨-, hafter⟩ | ⟨-, hafter⟩ | ⟨he, hafter⟩ <;> rw [hafter] at h
  · exact .inl h
  · exact .inl (t.awaited?_cancel ▸ h)
  · rw [t.awaited?_drop] at h
    cases h
  · exact .inr ⟨he, outcome?_of_awaited? h⟩

/-- A new task waits for no shared snapshot yet, since it asks for one in its first turn. -/
theorem awaited?_taskOf? (h : d.taskOf? e = some t) : t.awaited? = none := by
  cases e with
  | request request =>
    obtain rfl := Option.some.inj h
    unfold requestTask
    cases hreceived : Api.receive 0 request with
    | answered r => rfl
    | working work => rcases Api.receive_working hreceived with rfl | ⟨range, rfl⟩ <;> rfl
  | call cancelled purpose =>
    obtain rfl := Option.some.inj h
    rfl
  | startPolling interval =>
    obtain rfl := Option.some.inj h
    exact awaited?_loopTask (fun _ => rfl) _
  | startPruning =>
    obtain rfl := Option.some.inj h
    exact awaited?_loopTask (fun _ => rfl) _
  | _ => cases h

/-- Nothing becomes of a task in a turn while everybody is at rest, and nothing of what is
shared. -/
theorem AtRest.advanceTask_eq (h : d.AtRest) (ht : d.tasks[number]? = some t) :
    d.advanceTask t = (d.world, t) := by
  have hturn := h (.task number)
  rw [turn_task ht] at hturn
  have hset : (d.tasks.set number (d.advanceTask t).2)[number]? = d.tasks[number]? :=
    congrArg (fun d : Daemon => d.tasks[number]?) hturn
  rw [List.getElem?_set_self (List.getElem?_eq_some_iff.mp ht).1, ht] at hset
  exact Prod.ext (congrArg Daemon.world hturn) (Option.some.inj hset)

/-- Nobody who is at rest waits for a shared snapshot that is there. -/
theorem AtRest.outcome?_eq_none (h : d.AtRest) (ht : t ∈ d.tasks)
    (hawaited : t.awaited? = some joined) : d.world.snapshots.outcome? joined = none := by
  obtain ⟨number, hnumber⟩ := List.getElem?_of_mem ht
  have hrest := h.advanceTask_eq hnumber
  rw [← show (d.advanceTask t).1 = d.world from congrArg Prod.fst hrest]
  refine outcome?_of_awaited? ?_
  rw [show (d.advanceTask t).2 = t from congrArg Prod.snd hrest]
  exact hawaited

/-- Only the passing of time moves the time. -/
theorem now_apply (he : ∀ later, e ≠ .pass later) : (d.apply e).world.now = d.world.now := by
  cases e with
  | pass later => exact absurd rfl (he later)
  | prune => rw [apply, World.prune_frame]
  | turn a => exact (d.steady_turn a).now
  | _ => rfl

/-- Time has not passed while somebody waits for a snapshot that is there: that task could go on. -/
theorem Waits.now_apply {snapshot : Snapshot} (h : d.Waits e) (ht : t ∈ d.tasks)
    (hawaited : t.awaited? = some joined)
    (houtcome : d.world.snapshots.outcome? joined = some (.ok snapshot)) :
    (d.apply e).world.now = d.world.now := by
  by_cases he : ∀ later, e ≠ .pass later
  · exact Daemon.now_apply he
  · obtain ⟨later, rfl⟩ : ∃ later, e = .pass later := by simpa using he
    refine Nat.max_eq_left (Nat.not_lt.mp fun hlt => ?_)
    have hrest : (d.passTo d.world.now).AtRest := h d.world.now (Nat.le_refl _) hlt
    have hnone : (d.passTo d.world.now).world.snapshots.outcome? joined = none :=
      hrest.outcome?_eq_none ht hawaited
    cases houtcome.symm.trans hnone

end Daemon

end Telemetry
