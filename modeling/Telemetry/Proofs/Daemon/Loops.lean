import Mathlib.Data.List.Induction
import Telemetry.Proofs.Daemon.CurrentValues
import Telemetry.Proofs.Time.Ticker

/-! # The loops of a daemon

A loop is a task that goes on until its token is cancelled: its own one, or the one that all loops
depend on.  What it does in a run is read off its turns (`Daemon.turnsOf`).

Cancellation lasts, and so what a loop does not do with its token cancelled it does not do in the
rest of the run (`turnsOf_eq_nil`).  Time does not go back, and waits for whoever can go on; so a
moment at which a loop is not at rest is not passed over (`Waits.now_le`).  Pollers and pruners are
both described by these facts.
-/

namespace Telemetry

namespace Daemon

variable {d : Daemon} {number now : Nat} {e : DaemonEvent} {events : List DaemonEvent} {t : Task}

/-! ## Cancellation -/

/-- By the end of a run the token of a task is cancelled, or the one that all depend on.  The latter
may have been cancelled before the run. -/
def Cancelled (d : Daemon) (number : Nat) (events : List DaemonEvent) : Prop :=
  .cancel number ∈ events ∨ (d.run events).world.shutdown = true

/-- A daemon that shuts down goes on to: no event takes it back. -/
theorem shutdown_apply (h : d.world.shutdown = true) (e : DaemonEvent) :
    (d.apply e).world.shutdown = true := by
  cases e with
  | shutDown => rfl
  | prune =>
    rw [apply, World.prune_frame]
    exact h
  | turn a => exact (d.steady_turn a).shutdown.trans h
  | _ => exact h

theorem shutdown_run (h : d.world.shutdown = true) (events : List DaemonEvent) :
    (d.run events).world.shutdown = true := by
  induction events using List.reverseRecOn with
  | nil => exact h
  | append_singleton events e ih =>
    rw [run_concat]
    exact shutdown_apply ih e

theorem Cancelled.append {pre : List DaemonEvent} (h : d.Cancelled number pre)
    (post : List DaemonEvent) : d.Cancelled number (pre ++ post) := by
  refine h.imp (List.mem_append_left post) fun hshutdown => ?_
  rw [run_append]
  exact shutdown_run hshutdown post

theorem mem_concat_iff {e' : DaemonEvent} (h : e ≠ e') : e' ∈ events ++ [e] ↔ e' ∈ events := by
  rw [List.mem_append, List.mem_singleton]
  exact or_iff_left (Ne.symm h)

/-! ## Turns of one kind -/

/-- An event is a turn of a task, and one of a certain kind, which the world and the task before it
tell. -/
def takes (acts : World → Task → Bool) (number : Nat) (d : Daemon) : DaemonEvent → Bool
  | .turn (.task other) => other = number && (d.tasks[number]?).any (acts d.world)
  | _ => false

/-- The moments at which a task takes turns of a certain kind in a run, in order; two of them may be
the same. -/
def turnsOf (acts : World → Task → Bool) (number : Nat) : Daemon → List DaemonEvent → List Nat
  | _, [] => []
  | d, e :: rest =>
    (if d.takes acts number e then [d.world.now] else []) ++ turnsOf acts number (d.apply e) rest

variable {acts : World → Task → Bool}

theorem takes_turn (ht : d.tasks[number]? = some t) :
    d.takes acts number (.turn (.task number)) = acts d.world t := by
  show (decide (number = number) && (d.tasks[number]?).any (acts d.world)) = _
  rw [ht, decide_eq_true rfl]
  rfl

/-- Only turns of the task count, and no event that is done to it. -/
theorem takes_eq_false (h : e ≠ .turn (.task number)) : d.takes acts number e = false := by
  cases e with
  | turn a =>
    cases a with
    | task other =>
      have hother : other ≠ number := fun heq => h (by rw [heq])
      show (decide (other = number) && _) = false
      rw [decide_eq_false hother]
      rfl
    | listing | snapshot => rfl
  | _ => rfl

theorem turnsOf_append (acts : World → Task → Bool) (number : Nat) (d : Daemon)
    (pre post : List DaemonEvent) :
    turnsOf acts number d (pre ++ post) =
      turnsOf acts number d pre ++ turnsOf acts number (d.run pre) post := by
  induction pre generalizing d with
  | nil => rfl
  | cons e pre ih =>
    show _ ++ turnsOf acts number (d.apply e) (pre ++ post) = _
    rw [ih, ← List.append_assoc]
    rfl

theorem turnsOf_concat (acts : World → Task → Bool) (number : Nat) (d : Daemon)
    (pre : List DaemonEvent) (e : DaemonEvent) :
    turnsOf acts number d (pre ++ [e]) = turnsOf acts number d pre ++
      if (d.run pre).takes acts number e then [(d.run pre).world.now] else [] := by
  rw [turnsOf_append]
  exact congrArg _ (List.append_nil _)

theorem turnsOf_concat_of_not {pre : List DaemonEvent}
    (h : (d.run pre).takes acts number e = false) :
    turnsOf acts number d (pre ++ [e]) = turnsOf acts number d pre := by
  rw [turnsOf_concat, h]
  exact List.append_nil _

theorem turnsOf_concat_of_takes {pre : List DaemonEvent}
    (h : (d.run pre).takes acts number e = true) :
    turnsOf acts number d (pre ++ [e]) = turnsOf acts number d pre ++ [(d.run pre).world.now] := by
  rw [turnsOf_concat, h]
  rfl

/-- A turn that counts is a turn of the task. -/
theorem eq_turn_of_takes (h : d.takes acts number e = true) : e = .turn (.task number) := by
  by_contra hne
  rw [takes_eq_false hne] at h
  cases h

/-- A task that takes no turn of a kind once its token is cancelled, or it is dropped, takes none
in the rest of a run. -/
theorem turnsOf_eq_nil {before after : List DaemonEvent} (hsplit : events = before ++ after)
    (hover : d.Cancelled number before ∨ .drop number ∈ before)
    (h : ∀ pre post, events = pre ++ post → d.Cancelled number pre ∨ .drop number ∈ pre →
      ∀ e, (d.run pre).takes acts number e = false) :
    turnsOf acts number (d.run before) after = [] := by
  subst hsplit
  induction after using List.reverseRecOn with
  | nil => rfl
  | append_singleton after e ih =>
    -- cancellation lasts, so the last event finds the token cancelled as well
    have hnot := h (before ++ after) [e] (List.append_assoc before after [e]).symm
      (hover.imp (Cancelled.append · after) (List.mem_append_left after)) e
    rw [run_append] at hnot
    rw [turnsOf_concat_of_not hnot]
    refine ih fun pre post hpre => h pre (post ++ [e]) ?_
    rw [← List.append_assoc, hpre, List.append_assoc]

/-! ## Time and tickers -/

/-- Everybody is at rest if the shared calls are, and every task is.  A task that does not exist has
no turn. -/
theorem atRest_of_turns (hlisting : d.world.advanceListing = d.world)
    (hsnapshot : d.world.advanceSnapshot = d.world)
    (htasks : ∀ number < d.tasks.length, d.turn (.task number) = d) : d.AtRest := by
  intro a
  cases a with
  | listing => exact congrArg (fun w => { d with world := w }) hlisting
  | snapshot => exact congrArg (fun w => { d with world := w }) hsnapshot
  | task number =>
    rcases Nat.lt_or_ge number d.tasks.length with hlt | hge
    · exact htasks number hlt
    · exact turn_task_none (List.getElem?_eq_none hge)

/-- Time does not go back: an event in which it is to pass to an earlier moment leaves it as it
is. -/
theorem now_le_apply (d : Daemon) (e : DaemonEvent) : d.world.now ≤ (d.apply e).world.now := by
  by_cases hpass : ∀ later, e ≠ .pass later
  · exact Nat.le_of_eq (now_apply hpass).symm
  · obtain ⟨later, rfl⟩ : ∃ later, e = .pass later := by simpa using hpass
    exact Nat.le_max_left _ _

theorem now_le_run (d : Daemon) (events : List DaemonEvent) :
    d.world.now ≤ (d.run events).world.now := by
  induction events generalizing d with
  | nil => exact Nat.le_refl _
  | cons e rest ih => exact Nat.le_trans (d.now_le_apply e) (ih (d.apply e))

/-- Every turn of a run is over by its end, as the time shows. -/
theorem turnsOf_le (acts : World → Task → Bool) (number : Nat) (d : Daemon)
    (events : List DaemonEvent) :
    ∀ moment ∈ turnsOf acts number d events, moment ≤ (d.run events).world.now := by
  induction events generalizing d with
  | nil => exact fun _ h => absurd h List.not_mem_nil
  | cons e rest ih =>
    intro moment hmem
    rcases List.mem_append.mp hmem with hfirst | hrest
    · split at hfirst
      · obtain rfl := List.mem_singleton.mp hfirst
        exact d.now_le_run (e :: rest)
      · cases hfirst
    · exact ih (d.apply e) moment hrest

/-- Time does not pass over a moment as long as there is somebody who is not at rest from then
on. -/
theorem Waits.now_le {bound : Nat} (hwaits : d.Waits e) (hnow : d.world.now ≤ bound)
    (hrest : ∀ moment, (d.passTo moment).AtRest → d.world.now ≤ moment → moment < bound) :
    (d.apply e).world.now ≤ bound := by
  by_cases hpass : ∀ later, e ≠ .pass later
  · rw [Daemon.now_apply hpass]
    exact hnow
  · obtain ⟨later, rfl⟩ : ∃ later, e = .pass later := by simpa using hpass
    show max d.world.now later ≤ bound
    refine Nat.max_le.mpr ⟨hnow, ?_⟩
    rcases Nat.lt_or_ge d.world.now later with hlt | hle
    · -- at the last moment before, everybody has come to rest
      have hbefore : d.world.now ≤ later - 1 := by omega
      have hlast := hrest (later - 1) (hwaits (later - 1) hbefore (by omega)) hbefore
      omega
    · exact Nat.le_trans hle hnow

theorem now_passTo (h : d.world.now ≤ now) : (d.passTo now).world.now = now := Nat.max_eq_right h

end Daemon

end Telemetry
