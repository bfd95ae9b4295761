import Mathlib.Data.List.Range
import Telemetry.Proofs.Daemon.Loops

/-! # When a pruner prunes

The attempts of a pruner are `interval` apart from its start on.  What an attempt comes to does not
move the next one: of the pruner nothing but its ticker changes in a turn, and the ticker counts
from when its tick was due.  Once its token is cancelled the next turn of a pruner is its last, and
deletes nothing.

A running pruner is on time (`PrunerTicks`): its ticker is due one interval after the last attempt,
and that moment has not been passed over, since time waits for its turn.  So the attempts of a run
are known in closed form, by how many there are (`PrunerRuns`), and there are as many of them as
intervals have elapsed.  Moments are whole milliseconds; an interval that is none is rounded up for
each attempt by itself, and the rounding does not add up (`Retention.due`).
-/

namespace Telemetry

namespace Retention

variable {r : Retention} {start now n : Nat}

/-- The moment of an attempt of a pruner that started at a moment; attempts count from zero. -/
def due (r : Retention) (start n : Nat) : Nat :=
  (Span.mk (start * 1000000 + (n + 1) * r.interval.nanos)).ceilMillis

/-- How many whole intervals have passed since a moment, by now. -/
def elapsed (r : Retention) (start now : Nat) : Nat :=
  (now - start) * 1000000 / r.interval.nanos

theorem lt_elapsed_iff : n < r.elapsed start now ↔ r.due start n ≤ now := by
  have hpos : 0 < r.interval.nanos := Nat.pos_of_ne_zero r.interval_pos
  have hgrows : r.interval.nanos ≤ (n + 1) * r.interval.nanos :=
    Nat.le_mul_of_pos_left _ (Nat.succ_pos n)
  unfold due elapsed
  rw [← Nat.succ_le_iff, Nat.le_div_iff_mul_le hpos, Span.ceilMillis_le_iff, Nat.succ_eq_add_one]
  dsimp only
  omega

/-- The settings that have been accepted are the ones described, the window as a delta. -/
theorem eq_of_create {interval window : Span} (h : create interval window = .ok r) :
    r.interval = interval ∧ r.window.nanos = window.nanos := by
  unfold create at h
  split at h
  · cases h
  split at h
  · cases h
  split at h
  next delta hdelta =>
    obtain rfl := Except.ok.inj h
    exact ⟨rfl, Delta.nanos_of_ofSpan? hdelta⟩
  · cases h

end Retention

namespace World

/-- The turn of a task is an attempt of a pruner, whose ticker is due and whose token is not
cancelled. -/
def prunes (w : World) : Task → Bool
  | .pruner p => !(p.stopped || w.shutdown) && p.ticker.isDue w.now
  | _ => false

end World

namespace Daemon

variable {d : Daemon} {number start : Nat} {e : DaemonEvent} {events : List DaemonEvent} {t : Task}
  {p : Pruner}

/-- The moments of the attempts of a pruner in a run, in order, whatever they come to. -/
def prunings (d : Daemon) (number : Nat) (events : List DaemonEvent) : List Nat :=
  turnsOf World.prunes number d events

/-! ## A turn of a pruner -/

theorem advanceTask_pruner_of_prunes (h : d.world.prunes (.pruner p) = true) :
    d.advanceTask (.pruner p) =
      ((d.world.prune d.retention).1, .pruner { p with ticker := p.ticker.tick d.world.now }) := by
  obtain ⟨hrunning, hdue⟩ := Bool.and_eq_true_iff.mp h
  rw [Bool.not_eq_true'] at hrunning
  unfold advanceTask World.advancePruner
  dsimp only
  rw [hrunning, hdue]
  rfl

/-- A pruner that does not prune leaves the world alone: it is stopped, or it waits. -/
theorem advanceTask_pruner_of_not (h : d.world.prunes (.pruner p) = false) :
    d.advanceTask (.pruner p) =
      (d.world, if p.stopped || d.world.shutdown then .ended .stopped else .pruner p) := by
  have hnot : (!(p.stopped || d.world.shutdown) && p.ticker.isDue d.world.now) = false := h
  unfold advanceTask World.advancePruner
  dsimp only
  cases hstopped : p.stopped || d.world.shutdown with
  | true => rfl
  | false =>
    rw [hstopped, Bool.not_false, Bool.true_and] at hnot
    rw [hnot]
    rfl

/-- No pruner whose token is cancelled is at rest, since its turn would end it. -/
theorem AtRest.uncancelled_pruner (h : d.AtRest) (ht : d.tasks[number]? = some (.pruner p)) :
    p.stopped = false ∧ d.world.shutdown = false := by
  rw [← Bool.or_eq_false_iff, ← Bool.not_eq_true]
  intro hstopped
  have hidle : d.world.prunes (.pruner p) = false := by
    show (!(p.stopped || d.world.shutdown) && _) = false
    rw [hstopped]
    rfl
  have hturn := h.advanceTask_eq ht
  rw [advanceTask_pruner_of_not hidle, if_pos hstopped] at hturn
  cases (Prod.mk.inj hturn).2

/-- A pruner that is at rest waits for its tick: the tick would move its ticker. -/
theorem AtRest.isDue_pruner (h : d.AtRest) (ht : d.tasks[number]? = some (.pruner p))
    (hinterval : p.ticker.interval.nanos ≠ 0) : p.ticker.isDue d.world.now = false := by
  obtain ⟨hown, hshared⟩ := h.uncancelled_pruner ht
  obtain ⟨ticker, stopped⟩ := p
  have hturn := h.advanceTask_eq ht
  rw [← Bool.not_eq_true]
  intro hdue
  have hprunes : d.world.prunes (.pruner ⟨ticker, stopped⟩) = true := by
    show (!(stopped || d.world.shutdown) && ticker.isDue d.world.now) = true
    rw [show stopped = false from hown, hshared, hdue]
    rfl
  rw [advanceTask_pruner_of_prunes hprunes] at hturn
  obtain ⟨hsame, -⟩ := Pruner.mk.inj (Task.pruner.inj (Prod.mk.inj hturn).2)
  exact Ticker.tick_ne hinterval hdue hsame

/-! ## The run of a pruner -/

/-- A running pruner at the end of a run that began when it started: it has made an attempt an
interval, and the next one is due in time. -/
structure PrunerTicks (d : Daemon) (number : Nat) (events : List DaemonEvent) (ticker : Ticker) :
    Prop where
  uncancelled : .cancel number ∉ events
  undropped : .drop number ∉ events
  scheduled : ticker = ⟨d.retention.interval, d.world.now * 1000000 +
    ((d.prunings number events).length + 1) * d.retention.interval.nanos⟩
  onTime : ticker.OnTime (d.run events).world.now

/-- How a pruner stands at the end of such a run: on time, about to stop, or gone. -/
inductive PrunerStands (d : Daemon) (number : Nat) (events : List DaemonEvent) : Task → Prop where
  | running {ticker : Ticker} : d.PrunerTicks number events ticker →
      PrunerStands d number events (.pruner ⟨ticker, false⟩)
  /-- Its token is cancelled, and it has not had a turn since. -/
  | stopping {ticker : Ticker} : .cancel number ∈ events →
      PrunerStands d number events (.pruner ⟨ticker, true⟩)
  | gone : d.Cancelled number events ∨ .drop number ∈ events →
      PrunerStands d number events (.ended .stopped)

/-- What is known of a pruner at the end of such a run: how it stands, and when its attempts have
been. -/
structure PrunerRuns (d : Daemon) (number : Nat) (events : List DaemonEvent) : Prop where
  stands : ∃ t, (d.run events).tasks[number]? = some t ∧ d.PrunerStands number events t
  attempts : d.prunings number events =
    (List.range (d.prunings number events).length).map (d.retention.due d.world.now)

variable {ticker : Ticker}

theorem PrunerTicks.interval_ne (h : d.PrunerTicks number events ticker) :
    ticker.interval.nanos ≠ 0 := by
  rw [h.scheduled]
  exact d.retention.interval_pos

/-- What is no attempt and leaves a running pruner as it is keeps it on time: time may pass, but not
over its tick. -/
theorem PrunerTicks.concat (h : d.PrunerTicks number events ticker)
    (ht : (d.run events).tasks[number]? = some (.pruner ⟨ticker, false⟩))
    (hwaits : (d.run events).Waits e) (hnot : (d.run events).takes World.prunes number e = false)
    (hcancel : e ≠ .cancel number) (hdrop : e ≠ .drop number) :
    d.PrunerTicks number (events ++ [e]) ticker where
  uncancelled := (mem_concat_iff hcancel).not.mpr h.uncancelled
  undropped := (mem_concat_iff hdrop).not.mpr h.undropped
  scheduled := by
    rw [prunings, turnsOf_concat_of_not hnot]
    exact h.scheduled
  onTime := by
    rw [run_concat]
    refine hwaits.now_le h.onTime fun moment hrest hle => ?_
    have hdue := hrest.isDue_pruner ht h.interval_ne
    rw [now_passTo hle] at hdue
    exact Nat.not_le.mp (of_decide_eq_false hdue)

/-- An attempt comes when it is due, and the next one is due an interval later, counted from when
this one was due. -/
theorem PrunerTicks.tick (h : d.PrunerTicks number events ticker)
    (hclock : d.retention.interval.clockCanReach = true)
    (hprunes : (d.run events).takes World.prunes number (.turn (.task number)) = true)
    (hdue : ticker.isDue (d.run events).world.now = true) :
    (d.run events).world.now = d.retention.due d.world.now (d.prunings number events).length ∧
      d.PrunerTicks number (events ++ [.turn (.task number)])
        (ticker.tick (d.run events).world.now) := by
  have hreach : ticker.interval.clockCanReach = true := by
    rw [h.scheduled]
    exact hclock
  have hnow : ((d.run events).apply (.turn (.task number))).world.now = (d.run events).world.now :=
    now_apply fun later heq => by cases heq
  have htick := Ticker.tick_of_onTime hreach h.onTime
  refine ⟨?_, (mem_concat_iff fun heq => by cases heq).not.mpr h.uncancelled,
    (mem_concat_iff fun heq => by cases heq).not.mpr h.undropped, ?_, ?_⟩
  · rw [← Ticker.moment_eq_of_due hdue h.onTime, h.scheduled]
    rfl
  · rw [htick, prunings, turnsOf_concat_of_takes hprunes, List.length_append, h.scheduled]
    dsimp only [List.length_singleton]
    rw [Nat.add_assoc, ← Nat.succ_mul]
    rfl
  · have hon := h.onTime
    rw [run_concat, hnow, htick]
    rw [Ticker.onTime_iff] at hon ⊢
    dsimp only
    omega

/-- What is no attempt leaves a pruner as it stands, or takes it on towards its end. -/
theorem PrunerStands.concat_of_not (h : d.PrunerStands number events t)
    (ht : (d.run events).tasks[number]? = some t) (hwaits : (d.run events).Waits e)
    (hnot : (d.run events).takes World.prunes number e = false) :
    d.PrunerStands number (events ++ [e]) ((d.run events).taskAfter number t e) := by
  have hlast : e ∈ events ++ [e] := List.mem_append_right _ (List.mem_singleton_self e)
  cases h with
  | @running ticker hticks =>
    rcases (d.run events).taskAfter_cases number (.pruner ⟨ticker, false⟩) e with
      ⟨hother, hafter⟩ | ⟨rfl, hafter⟩ | ⟨rfl, hafter⟩ | ⟨rfl, hafter⟩ <;> rw [hafter]
    · exact .running (hticks.concat ht hwaits hnot (fun heq => hother (heq ▸ rfl))
        fun heq => hother (heq ▸ rfl))
    · exact .stopping hlast
    · exact .gone (.inr hlast)
    · -- a turn without an attempt: the pruner waits for its tick, or it finds its token cancelled
      have hidle := hnot
      rw [takes_turn ht] at hidle
      rw [advanceTask_pruner_of_not hidle]
      cases hshutdown : (d.run events).world.shutdown with
      | true => exact .gone (.inl (.inr (by rw [run_concat]; exact shutdown_apply hshutdown _)))
      | false =>
        exact .running (hticks.concat ht hwaits hnot (fun heq => by cases heq)
          fun heq => by cases heq)
  | @stopping ticker hcancel =>
    have hstill : .cancel number ∈ events ++ [e] := List.mem_append_left _ hcancel
    rcases (d.run events).taskAfter_cases number (.pruner ⟨ticker, true⟩) e with
      ⟨-, hafter⟩ | ⟨rfl, hafter⟩ | ⟨rfl, hafter⟩ | ⟨rfl, hafter⟩ <;> rw [hafter]
    · exact .stopping hstill
    · exact .stopping hstill
    · exact .gone (.inr hlast)
    · exact .gone (.inl (.inl hstill))
  | gone hover =>
    rw [over_taskAfter (t := .ended .stopped) trivial]
    exact .gone (hover.imp (Cancelled.append · [e]) (List.mem_append_left _))

/-- **One event of the run of a pruner**, which is an attempt or is none. -/
theorem PrunerRuns.concat (h : d.PrunerRuns number events)
    (hclock : d.retention.interval.clockCanReach = true) (hwaits : (d.run events).Waits e) :
    d.PrunerRuns number (events ++ [e]) := by
  obtain ⟨t, ht, hstands⟩ := h.stands
  have hnext : (d.run (events ++ [e])).tasks[number]? =
      some ((d.run events).taskAfter number t e) := by
    rw [run_concat]
    exact getElem?_apply ht e
  cases htakes : (d.run events).takes World.prunes number e with
  | false =>
    refine ⟨⟨_, hnext, hstands.concat_of_not ht hwaits htakes⟩, ?_⟩
    rw [prunings, turnsOf_concat_of_not htakes]
    exact h.attempts
  -- an attempt is made by a running pruner only, and comes when the next one is due
  | true =>
    obtain rfl := eq_turn_of_takes htakes
    have hprunes := htakes
    rw [takes_turn ht] at hprunes
    cases hstands with
    | running hticks =>
      obtain ⟨hnow, hticks⟩ := hticks.tick hclock htakes (Bool.and_eq_true_iff.mp hprunes).2
      rw [taskAfter_turn, advanceTask_pruner_of_prunes hprunes] at hnext
      refine ⟨⟨_, hnext, .running hticks⟩, ?_⟩
      rw [prunings, turnsOf_concat_of_takes htakes, List.length_append, List.length_singleton,
        List.range_succ, List.map_append, ← prunings, ← h.attempts, hnow]
      rfl
    | stopping | gone => cases hprunes

/-- A pruner that has just started waits for an interval to pass before its first attempt. -/
theorem prunerRuns_nil
    (ht : d.tasks[number]? =
      some (.pruner ⟨.delayed d.retention.interval d.world.now, false⟩)) :
    d.PrunerRuns number [] := by
  refine ⟨⟨_, ht, .running ⟨List.not_mem_nil, List.not_mem_nil, ?_, ?_⟩⟩, rfl⟩
  · show Ticker.mk _ _ = Ticker.mk _ (_ + (0 + 1) * _)
    rw [Nat.zero_add, Nat.one_mul]
  · rw [Ticker.onTime_iff]
    show d.world.now * 1000000 < d.world.now * 1000000 + d.retention.interval.nanos + 1000000
    omega

/-- **In every run** the attempts of a pruner are an interval apart, by induction on the events from
their end. -/
theorem prunerRuns_run
    (ht : d.tasks[number]? =
      some (.pruner ⟨.delayed d.retention.interval d.world.now, false⟩))
    (hclock : d.retention.interval.clockCanReach = true) (hprompt : d.Prompt events) :
    d.PrunerRuns number events := by
  induction events using List.reverseRecOn with
  | nil => exact prunerRuns_nil ht
  | append_singleton events e ih =>
    obtain ⟨hbefore, hwaits, -⟩ := (prompt_append d events [e]).mp hprompt
    exact (ih hbefore).concat hclock hwaits

/-! ## What a run of a pruner comes to -/

/-- Once the token of a pruner is cancelled, or it is dropped, no turn of it is an attempt. -/
theorem PrunerRuns.takes_eq_false (h : d.PrunerRuns number events)
    (hover : d.Cancelled number events ∨ .drop number ∈ events) (e : DaemonEvent) :
    (d.run events).takes World.prunes number e = false := by
  obtain ⟨t, ht, hstands⟩ := h.stands
  cases htakes : (d.run events).takes World.prunes number e with
  | false => rfl
  | true =>
    obtain rfl := eq_turn_of_takes htakes
    rw [takes_turn ht] at htakes
    cases hstands with
    | running hticks =>
      have hshutdown : (d.run events).world.shutdown = true :=
        (hover.resolve_right hticks.undropped).resolve_left hticks.uncancelled
      have hrunning := (Bool.and_eq_true_iff.mp htakes).1
      rw [hshutdown] at hrunning
      cases hrunning
    | stopping | gone => cases htakes

/-- The attempts of a pruner are over by the end of the run, so it makes no more of them than
intervals have passed. -/
theorem PrunerRuns.length_le (h : d.PrunerRuns number events) :
    (d.prunings number events).length ≤
      d.retention.elapsed d.world.now (d.run events).world.now := by
  refine Nat.le_of_not_lt fun hlt => ?_
  have hmem : d.retention.due d.world.now
      (d.retention.elapsed d.world.now (d.run events).world.now) ∈ d.prunings number events := by
    rw [h.attempts]
    exact List.mem_map_of_mem (List.mem_range.mpr hlt)
  exact Nat.lt_irrefl _ (Retention.lt_elapsed_iff.mpr (turnsOf_le _ number d events _ hmem))

/-- A running pruner has made the attempts that were due earlier; those that are due now may be to
come. -/
theorem PrunerTicks.elapsed_le (h : d.PrunerTicks number events ticker) :
    d.retention.elapsed d.world.now ((d.run events).world.now - 1) ≤
      (d.prunings number events).length := by
  refine Nat.le_of_not_lt fun hlt => ?_
  have hdue := Retention.lt_elapsed_iff.mp hlt
  have hnow : (d.run events).world.now ≤
      d.retention.due d.world.now (d.prunings number events).length := by
    have hmoment := h.onTime
    rw [h.scheduled] at hmoment
    exact hmoment
  have hzero : (d.run events).world.now = 0 := by omega
  unfold Retention.elapsed at hlt
  rw [hzero, Nat.zero_sub, Nat.zero_mul, Nat.zero_div] at hlt
  exact Nat.not_lt_zero _ hlt

/-- At rest it has made all that were due, those of this moment included. -/
theorem PrunerTicks.elapsed_le_of_atRest (h : d.PrunerTicks number events ticker)
    (ht : (d.run events).tasks[number]? = some (.pruner ⟨ticker, false⟩))
    (hrest : (d.run events).AtRest) :
    d.retention.elapsed d.world.now (d.run events).world.now ≤
      (d.prunings number events).length := by
  have hnot := hrest.isDue_pruner ht h.interval_ne
  refine Nat.le_of_not_lt fun hlt => absurd (Retention.lt_elapsed_iff.mp hlt) ?_
  rw [h.scheduled] at hnot
  exact of_decide_eq_false hnot

/-- What a pruner does in a run that begins when it has started, attempt by attempt and over the
whole run. -/
structure PrunesOnSchedule (d : Daemon) (number : Nat) (events : List DaemonEvent) : Prop where
  /-- Its attempts are one interval apart, the first of them one interval after the start. -/
  attempts : d.prunings number events =
    (List.range (d.prunings number events).length).map (d.retention.due d.world.now)
  sparing : (d.prunings number events).length ≤
    d.retention.elapsed d.world.now (d.run events).world.now
  /-- Until its token is cancelled it goes on, and has made one attempt for each interval that
  has passed; those of this very moment may be outstanding until everybody has come to rest. -/
  goesOn : ¬ d.Cancelled number events → .drop number ∉ events →
    (∃ p, (d.run events).tasks[number]? = some (.pruner p)) ∧
      d.retention.elapsed d.world.now ((d.run events).world.now - 1) ≤
        (d.prunings number events).length ∧
      ((d.run events).AtRest → (d.prunings number events).length =
        d.retention.elapsed d.world.now (d.run events).world.now)
  /-- An attempt asks the store to delete what is older than the window by the clock. -/
  deletes : ∀ before after cutoff, events = before ++ .turn (.task number) :: after →
    (d.run before).takes World.prunes number (.turn (.task number)) = true →
    (d.run before).world.clock.sub? d.retention.window = some cutoff →
    (d.run (before ++ [.turn (.task number)])).world =
      ((d.run before).world.deleteOlder cutoff).1
  /-- Where the clock does not reach as far back it does not ask the store. -/
  underflows : ∀ before after, events = before ++ .turn (.task number) :: after →
    (d.run before).takes World.prunes number (.turn (.task number)) = true →
    (d.run before).world.clock.sub? d.retention.window = none →
    (d.run (before ++ [.turn (.task number)])).world = (d.run before).world
  /-- No other turn of it does anything to the store, or to anything else that is shared. -/
  idles : ∀ before after, events = before ++ .turn (.task number) :: after →
    (d.run before).takes World.prunes number (.turn (.task number)) = false →
    (d.run (before ++ [.turn (.task number)])).world = (d.run before).world
  /-- Once its token is cancelled it makes no attempt. -/
  silent : ∀ before after, events = before ++ after →
    d.Cancelled number before ∨ .drop number ∈ before →
    (d.run before).prunings number after = []
  /-- It makes none at all if that is before the first interval has passed. -/
  never : ∀ before after, events = before ++ after → d.Cancelled number before →
    (d.run before).world.now < d.retention.due d.world.now 0 → d.prunings number events = []
  /-- Once its token is cancelled it comes to its end. -/
  stops : d.Cancelled number events → (d.run events).AtRest →
    (d.run events).tasks[number]? = some (.ended .stopped)

/-- Nothing is done to what is shared in an attempt but what the store is asked to delete, if it is
asked at all. -/
theorem world_turn_of_prunes (h : d.takes World.prunes number (.turn (.task number)) = true) :
    (d.apply (.turn (.task number))).world = (d.world.prune d.retention).1 := by
  cases ht : d.tasks[number]? with
  | none =>
    unfold takes at h
    rw [ht, Bool.and_eq_true_iff] at h
    cases h.2
  | some t =>
    rw [takes_turn ht] at h
    rw [apply, turn_task ht]
    cases t with
    | pruner p => rw [advanceTask_pruner_of_prunes h]
    | _ => cases h

/-- A task that is a pruner, or was one, leaves what is shared alone in any other turn. -/
theorem PrunerRuns.world_turn (h : d.PrunerRuns number events)
    (hnot : (d.run events).takes World.prunes number (.turn (.task number)) = false) :
    ((d.run events).apply (.turn (.task number))).world = (d.run events).world := by
  obtain ⟨t, ht, hstands⟩ := h.stands
  rw [takes_turn ht] at hnot
  rw [apply, turn_task ht]
  cases hstands with
  | running | stopping => rw [advanceTask_pruner_of_not hnot]
  | gone => rfl

/-- No attempt of a run comes before the first one is due, and so a run that is over earlier has
none. -/
theorem PrunerRuns.prunings_eq_nil (h : d.PrunerRuns number events)
    (hearly : (d.run events).world.now < d.retention.due d.world.now 0) :
    d.prunings number events = [] := by
  refine List.length_eq_zero_iff.mp (Nat.le_zero.mp (Nat.le_trans h.length_le ?_))
  exact Nat.le_of_not_lt fun hlt =>
    absurd (Retention.lt_elapsed_iff.mp hlt) (Nat.not_le.mpr hearly)

theorem prunesOnSchedule_run
    (ht : d.tasks[number]? =
      some (.pruner ⟨.delayed d.retention.interval d.world.now, false⟩))
    (hclock : d.retention.interval.clockCanReach = true) (hprompt : d.Prompt events) :
    d.PrunesOnSchedule number events := by
  -- what is known of a pruner holds at every moment of the run, not only at its end
  have hrun : ∀ {before after}, events = before ++ after → d.PrunerRuns number before := by
    rintro before after rfl
    exact prunerRuns_run ht hclock ((prompt_append d before after).mp hprompt).1
  have hall := hrun (List.append_nil events).symm
  have hsilent : ∀ before after, events = before ++ after →
      d.Cancelled number before ∨ .drop number ∈ before →
      (d.run before).prunings number after = [] := fun before after hsplit hover =>
    turnsOf_eq_nil hsplit hover fun _ _ hpre => (hrun hpre).takes_eq_false
  constructor
  case attempts => exact hall.attempts
  case sparing => exact hall.length_le
  case goesOn =>
    intro hcancelled hdropped
    obtain ⟨t, htask, hstands⟩ := hall.stands
    cases hstands with
    | running hticks =>
      refine ⟨⟨_, htask⟩, hticks.elapsed_le, fun hrest => ?_⟩
      exact Nat.le_antisymm hall.length_le (hticks.elapsed_le_of_atRest htask hrest)
    | stopping hcancel => exact absurd (.inl hcancel) hcancelled
    | gone hover => exact absurd hover (not_or_intro hcancelled hdropped)
  case deletes =>
    intro before after cutoff hsplit hprunes hcutoff
    rw [run_concat, world_turn_of_prunes hprunes, retention_run, World.prune, hcutoff]
  case underflows =>
    intro before after hsplit hprunes hcutoff
    rw [run_concat, world_turn_of_prunes hprunes, retention_run, World.prune, hcutoff]
  case idles =>
    intro before after hsplit hnot
    rw [run_concat]
    exact (hrun hsplit).world_turn hnot
  case silent => exact hsilent
  case never =>
    intro before after hsplit hcancelled hearly
    rw [hsplit, prunings, turnsOf_append]
    refine List.append_eq_nil_iff.mpr ⟨(hrun hsplit).prunings_eq_nil hearly, ?_⟩
    exact hsilent before after hsplit (.inl hcancelled)
  case stops =>
    intro hcancelled hrest
    obtain ⟨t, htask, hstands⟩ := hall.stands
    cases hstands with
    | running hticks =>
      obtain ⟨-, hshutdown⟩ := hrest.uncancelled_pruner htask
      rw [hcancelled.resolve_left hticks.uncancelled] at hshutdown
      cases hshutdown
    | stopping => cases (hrest.uncancelled_pruner htask).1
    | gone => exact htask

/-! ## What a run of any daemon comes to -/

variable {settings : DaemonSettings} {first : Daemon} {pre post : List DaemonEvent}

/-- **A pruner prunes on schedule until its token is cancelled**, and not afterwards: in every run
of every daemon whose interval the clock can represent, from the moment on at which it starts,
whatever the clock shows and the store answers.  An attempt that fails is an attempt like any other.
The interval and the window are those of the settings, so that the schedule can be told before the
daemon is set up. -/
theorem create_prunesOnSchedule (hnew : create settings = .ok first)
    (hclock : settings.retentionInterval.clockCanReach = true)
    (hprompt : first.Prompt (pre ++ .startPruning :: post)) :
    let d := (first.run pre).apply .startPruning
    d.retention.interval = settings.retentionInterval ∧
      d.retention.window.nanos = settings.retentionWindow.nanos ∧
      d.world.now = (first.run pre).world.now ∧
      d.PrunesOnSchedule (first.run pre).tasks.length post := by
  intro d
  obtain ⟨topology, retention, snapshots, -, hretention, -, hfirst⟩ := create_eq_ok hnew
  obtain ⟨hinterval, hwindow⟩ := Retention.eq_of_create hretention
  have hsame : (first.run pre).retention = retention := by
    rw [retention_run, hfirst]
  have hd : d.retention = retention := hsame
  obtain ⟨-, -, hlater⟩ := (prompt_append first pre (.startPruning :: post)).mp hprompt
  have hreach : (first.run pre).retention.interval.clockCanReach = true := by
    rw [hsame, hinterval]
    exact hclock
  have htask : d.tasks[(first.run pre).tasks.length]? =
      some (.pruner ⟨.delayed d.retention.interval d.world.now, false⟩) := by
    refine getElem?_apply_new ?_
    rw [taskOf?, Pruner.start, if_pos hreach]
    rfl
  refine ⟨hd ▸ hinterval, hd ▸ hwindow, rfl, prunesOnSchedule_run htask ?_ hlater⟩
  exact hreach

/-- A daemon that prunes every two milliseconds, with the other settings as they are. -/
def prunedOften : DaemonSettings := { SmallMachine.settings with retentionInterval := .ofMillis 2 }

/-- The store fails at the first attempt of a pruner, and not at the second one; then the pruner
is stopped. -/
def prunedTwice : List DaemonEvent :=
  [.setFaults ⟨none, none, some (.internal "locked")⟩, .pass 2, .turn (.task 0), .setFaults .none,
    .pass 4, .turn (.task 0), .cancel 0, .turn (.task 0)]

theorem prompt_prunedTwice (h : create prunedOften = .ok d) :
    d.Prompt ([] ++ .startPruning :: prunedTwice) := by
  have hnew : create prunedOften = .ok _ := rfl
  obtain rfl := Except.ok.inj (hnew.symm.trans h)
  have hrest : ∀ {d : Daemon}, d.world.advanceListing = d.world →
      d.world.advanceSnapshot = d.world → d.tasks.length = 1 → d.turn (.task 0) = d → d.AtRest := by
    intro d hlisting hsnapshot hone hpruner
    refine atRest_of_turns hlisting hsnapshot fun number hlt => ?_
    obtain rfl : number = 0 := by omega
    exact hpruner
  refine ⟨trivial, trivial, ?_, trivial, trivial, ?_, trivial, trivial, trivial, trivial⟩
  · intro moment _ hlt
    match moment with
    | 0 | 1 => exact hrest rfl rfl rfl (by with_unfolding_all rfl)
  · intro moment hle hlt
    have hle : 2 ≤ moment := by with_unfolding_all exact hle
    match moment with
    | 2 | 3 => exact hrest rfl rfl rfl (by with_unfolding_all rfl)

/-- There are two attempts, two milliseconds apart, of which the first one fails, and none after the
cancellation. -/
theorem prunesOnSchedule_of_faulty_store :
    ∃ first, create prunedOften = .ok first ∧ prunedOften.retentionInterval.clockCanReach = true ∧
      first.Prompt ([] ++ .startPruning :: prunedTwice) ∧
      let d := first.apply .startPruning
      d.prunings 0 prunedTwice = [2, 4] ∧ (d.run prunedTwice).world.deletes = 2 ∧
        (d.run prunedTwice).tasks.length = 1 ∧ d.PrunesOnSchedule 0 prunedTwice := by
  have hnew : create prunedOften = .ok _ := rfl
  obtain ⟨-, -, -, hschedule⟩ := create_prunesOnSchedule hnew rfl (prompt_prunedTwice hnew)
  exact ⟨_, hnew, rfl, prompt_prunedTwice hnew, by with_unfolding_all rfl,
    by with_unfolding_all rfl, by with_unfolding_all rfl, hschedule⟩

end Daemon

end Telemetry
