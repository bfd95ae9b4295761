import Telemetry.Proofs.Daemon.Failures
import Telemetry.Proofs.Daemon.Loops

/-! # When a poller polls

A poller takes a poll that ends as cancelled for the cancellation of its own token, and no poll ends
so for another reason.  So a poller goes on until its token is cancelled, with one poll at a time;
and since of a poller without a poll nothing moves but time, the next poll begins as soon as the
last one is over and its ticker is due.

The state of a poller is read off its run: its ticker has ticked once for each poll that it has
begun (`pollTicker`), and it has been without a poll since the end of the last one (`idleSince`).
The invariant of the run says so (`PollerGoesOn`), and that a poller without a poll has not waited
beyond the later of the two moments.  It is kept event by event, with one case for what is no turn
of the poller and two for its turns.

When a poll that takes longer than the interval is over, the ticker is due already, and the next
poll begins at once.
-/

namespace Telemetry

/-! ## A turn of a poller -/

namespace Poller

/-- The poller once it has begun the poll that it goes on with: a new one takes a tick. -/
def ticked (p : Poller) (now : Nat) : Poller :=
  if p.cycle.isSome then p else { p with ticker := p.ticker.tick now }

variable {p : Poller} {now : Nat}

theorem stopped_ticked (p : Poller) (now : Nat) : (p.ticked now).stopped = p.stopped := by
  unfold ticked
  split <;> rfl

theorem ticked_of_idle (h : p.cycle = none) :
    p.ticked now = { p with ticker := p.ticker.tick now } := by
  unfold ticked
  rw [h]
  rfl

theorem ticked_of_busy (h : p.cycle.isSome) : p.ticked now = p := if_pos h

/-- What a poll comes to does not move the ticker. -/
theorem ticker_afterCycle {q : Poller} {progress : Progress Survey CycleYield}
    (h : p.afterCycle progress = .running q) : q.ticker = p.ticker := by
  rcases progress with stage | (y | e | message)
  · rw [← LoopProgress.running.inj h]
  · rw [← LoopProgress.running.inj h]
  · cases e with
    | cancelled => cases h
    | _ => rw [← LoopProgress.running.inj h]
  · cases h

end Poller

namespace World

/-- The turn of a task begins a poll: a poller without one finds its ticker due, and its token not
cancelled. -/
def beginsPoll (w : World) : Task → Bool
  | .poller p => p.cycle.isNone && !(p.stopped || w.shutdown) && p.ticker.isDue w.now
  | _ => false

/-- The turn of a task ends a poll, which may have begun in the same turn. -/
def endsPoll (w : World) : Task → Bool
  | .poller p => match w.cycleOf? (.poller p) with
    | some c => match (w.goOn c).2 with
      | .done _ => true
      | .pending _ => false
    | none => false
  | _ => false

variable {w : World} {p : Poller} {c : CycleCall}

/-- The cycle of a poller is as cancelled as the poller, by its own token or the daemon's. -/
theorem cancelled_of_poller (h : w.cycleOf? (.poller p) = some c) :
    c.cancelled = (p.stopped || w.shutdown) := by
  obtain ⟨ticker, stopped, cycle⟩ := p
  unfold cycleOf? at h
  cases cycle with
  | some stage => rw [← Option.some.inj h]
  | none =>
    dsimp only at h
    split at h
    · cases h
    · split at h
      · rw [← Option.some.inj h]
      · cases h

/-- A poller without a poll begins one, or it has nothing to go on with. -/
theorem beginsPoll_of_idle (h : p.cycle = none) :
    w.beginsPoll (.poller p) = (w.cycleOf? (.poller p)).isSome := by
  obtain ⟨ticker, stopped, cycle⟩ := p
  obtain rfl : cycle = none := h
  show (true && !(stopped || w.shutdown) && ticker.isDue w.now) = Option.isSome (if _ then _ else _)
  cases hstopped : stopped || w.shutdown with
  | true => rfl
  | false =>
    cases hdue : ticker.isDue w.now with
    | true => rfl
    | false => rfl

theorem beginsPoll_of_busy (h : p.cycle.isSome) : w.beginsPoll (.poller p) = false := by
  obtain ⟨stage, hstage⟩ := Option.isSome_iff_exists.mp h
  show (p.cycle.isNone && _ && _) = false
  rw [hstage]
  rfl

theorem idle_of_cycleOf?_eq_none (hc : w.cycleOf? (.poller p) = none) : p.cycle = none := by
  obtain ⟨ticker, stopped, cycle⟩ := p
  cases cycle with
  | none => rfl
  | some stage => cases hc

theorem endsPoll_of_done {ending : Ending CycleYield} (hc : w.cycleOf? (.poller p) = some c)
    (h : (w.goOn c).2 = .done ending) : w.endsPoll (.poller p) = true := by
  unfold endsPoll
  simp only [hc, h]

theorem endsPoll_of_pending {stage : Survey} (hc : w.cycleOf? (.poller p) = some c)
    (h : (w.goOn c).2 = .pending stage) : w.endsPoll (.poller p) = false := by
  unfold endsPoll
  simp only [hc, h]

theorem endsPoll_of_none (hc : w.cycleOf? (.poller p) = none) :
    w.endsPoll (.poller p) = false := by
  unfold endsPoll
  simp only [hc]

end World

namespace Daemon

variable {cached : Bool} {d : Daemon} {e : DaemonEvent} {events : List DaemonEvent} {t : Task}
  {number : Nat} {p : Poller} {c : CycleCall}

/-- A poller goes on with its poll, be it one that it has begun before or one that it begins now. -/
theorem advanceTask_poller_of_cycle (hc : d.world.cycleOf? (.poller p) = some c) :
    (d.advanceTask (.poller p)).2 =
      loopTask .poller ((p.ticked d.world.now).afterCycle (d.world.goOn c).2) := by
  rw [advanceTask_of_cycle hc]
  rfl

/-- A poller that has no poll to go on with is stopped, or it waits. -/
theorem advanceTask_poller_of_none (hc : d.world.cycleOf? (.poller p) = none) :
    (d.advanceTask (.poller p)).2 =
      if p.stopped || d.world.shutdown then .ended .stopped else .poller p := by
  obtain ⟨ticker, stopped, cycle⟩ := p
  cases cycle with
  | some stage => cases hc
  | none =>
    unfold World.cycleOf? at hc
    unfold advanceTask World.advancePoller
    dsimp only at hc ⊢
    split at hc
    next hstopped =>
      rw [if_pos hstopped, if_pos hstopped]
      rfl
    next hrunning =>
      split at hc
      · cases hc
      next hearly =>
        rw [if_neg hrunning, if_neg hearly, if_neg hrunning]
        rfl

/-- **What a poller makes of its poll**: it goes on with it, the poll ends and the poller does
not, or both end because its token is cancelled. -/
theorem Candid.afterCycle_cases (h : d.Candid cached) (ht : d.tasks[number]? = some (.poller p))
    (hc : d.world.cycleOf? (.poller p) = some c) (p' : Poller) :
    (∃ stage, (d.world.goOn c).2 = .pending stage ∧
      p'.afterCycle (d.world.goOn c).2 = .running { p' with cycle := some stage }) ∨
    (∃ ending, (d.world.goOn c).2 = .done ending ∧
      p'.afterCycle (d.world.goOn c).2 = .running { p' with cycle := none }) ∨
    ∃ ending, (d.world.goOn c).2 = .done ending ∧ (p.stopped || d.world.shutdown) = true ∧
      p'.afterCycle (d.world.goOn c).2 = .stopped := by
  cases hgo : (d.world.goOn c).2 with
  | pending stage => exact .inl ⟨stage, rfl, rfl⟩
  | done ending =>
    obtain ⟨hpanic, hcancelled⟩ := h.poll_ends (List.mem_of_getElem? ht) hc
      (World.purpose_of_poller hc) hgo
    rw [World.cancelled_of_poller hc] at hcancelled
    cases ending with
    | value y => exact .inr (.inl ⟨_, rfl, rfl⟩)
    | panic message => exact absurd rfl (hpanic message)
    | failure e =>
      by_cases he : e = .cancelled
      · subst he
        exact .inr (.inr ⟨_, rfl, hcancelled rfl, rfl⟩)
      · refine .inr (.inl ⟨_, rfl, ?_⟩)
        cases e with
        | cancelled => exact absurd rfl he
        | _ => rfl

/-- A poller without a poll that is at rest waits for its tick: the tick would move its ticker. -/
theorem AtRest.isDue_poller (h : d.AtRest) (ht : d.tasks[number]? = some (.poller p))
    (hidle : p.cycle = none) (hinterval : p.ticker.interval.nanos ≠ 0) :
    p.ticker.isDue d.world.now = false := by
  have hturn := congrArg Prod.snd (h.advanceTask_eq ht)
  obtain ⟨ticker, stopped, cycle⟩ := p
  obtain rfl : cycle = none := hidle
  cases hc : d.world.cycleOf? (.poller ⟨ticker, stopped, none⟩) with
  | none =>
    rw [advanceTask_poller_of_none hc] at hturn
    split at hturn
    · cases hturn
    next hrunning =>
      unfold World.cycleOf? at hc
      dsimp only at hc
      rw [if_neg hrunning] at hc
      split at hc
      · cases hc
      next hearly => exact Bool.eq_false_iff.mpr hearly
  | some c =>
    rw [advanceTask_poller_of_cycle hc, Poller.ticked_of_idle rfl] at hturn
    cases hafter : Poller.afterCycle ⟨ticker.tick d.world.now, stopped, none⟩
        (d.world.goOn c).2 with
    | running q =>
      rw [hafter] at hturn
      have hticker := Poller.ticker_afterCycle hafter
      rw [Task.poller.inj hturn] at hticker
      -- its turn has changed nothing, but a tick would have moved the ticker
      rw [← Bool.not_eq_true]
      exact fun hdue => Ticker.tick_ne hinterval hdue hticker.symm
    | stopped | died =>
      rw [hafter] at hturn
      cases hturn

/-! ## The run of a poller -/

/-- The moments at which a task begins polls in a run, in order. -/
def pollStarts (d : Daemon) (number : Nat) (events : List DaemonEvent) : List Nat :=
  turnsOf World.beginsPoll number d events

/-- The moments at which its polls end, whatever they come to. -/
def pollEnds (d : Daemon) (number : Nat) (events : List DaemonEvent) : List Nat :=
  turnsOf World.endsPoll number d events

/-- The ticker of a poller that starts with a run: every poll has taken a tick. -/
def pollTicker (d : Daemon) (interval : Span) (number : Nat) (events : List DaemonEvent) : Ticker :=
  (d.pollStarts number events).foldl Ticker.tick (.immediate interval d.world.now)

/-- Since when a poller that starts with a run has had no poll: from the end of its last one on,
or from the start. -/
def idleSince (d : Daemon) (number : Nat) (events : List DaemonEvent) : Nat :=
  (d.pollEnds number events).getLast?.getD d.world.now

variable {interval : Span}

theorem pollStarts_concat_of_not (h : (d.run events).takes World.beginsPoll number e = false) :
    d.pollStarts number (events ++ [e]) = d.pollStarts number events := turnsOf_concat_of_not h

theorem pollEnds_concat_of_not (h : (d.run events).takes World.endsPoll number e = false) :
    d.pollEnds number (events ++ [e]) = d.pollEnds number events := turnsOf_concat_of_not h

theorem pollTicker_concat_of_begins
    (h : (d.run events).takes World.beginsPoll number e = true) :
    d.pollTicker interval number (events ++ [e]) =
      (d.pollTicker interval number events).tick (d.run events).world.now := by
  unfold pollTicker pollStarts
  rw [turnsOf_concat_of_takes h, List.foldl_concat]

theorem pollTicker_concat_of_not (h : (d.run events).takes World.beginsPoll number e = false) :
    d.pollTicker interval number (events ++ [e]) = d.pollTicker interval number events := by
  unfold pollTicker
  rw [pollStarts_concat_of_not h]

theorem idleSince_concat_of_ends (h : (d.run events).takes World.endsPoll number e = true) :
    d.idleSince number (events ++ [e]) = (d.run events).world.now := by
  unfold idleSince pollEnds
  rw [turnsOf_concat_of_takes h, List.getLast?_concat]
  rfl

theorem idleSince_concat_of_not (h : (d.run events).takes World.endsPoll number e = false) :
    d.idleSince number (events ++ [e]) = d.idleSince number events := by
  unfold idleSince
  rw [pollEnds_concat_of_not h]

/-- The interval of a ticker is what it is, however often it ticks. -/
theorem interval_foldl_tick (t : Ticker) (moments : List Nat) :
    (moments.foldl Ticker.tick t).interval = t.interval := by
  induction moments generalizing t with
  | nil => rfl
  | cons moment rest ih => exact (ih (t.tick moment)).trans (t.interval_tick moment)

/-- A poller that goes on at the end of a run that began when it started.  All of its state is a
function of the run: its token by the cancellations, its ticker by the polls that it has begun, and
whether it has a poll by the balance of the two. -/
structure PollerGoesOn (d : Daemon) (interval : Span) (number : Nat) (events : List DaemonEvent)
    (p : Poller) : Prop where
  undropped : .drop number ∉ events
  stopped : p.stopped = true ↔ .cancel number ∈ events
  ticker : p.ticker = d.pollTicker interval number events
  /-- The polls that it has begun are over but for the one in progress. -/
  balance : (d.pollStarts number events).length =
    (d.pollEnds number events).length + p.cycle.isSome.toNat
  /-- Without a poll it has not waited beyond its tick. -/
  onTime : d.Prompt events → p.cycle = none →
    (d.run events).world.now ≤ max (d.idleSince number events) p.ticker.moment

/-- How a poller stands at the end of such a run: it goes on, or it is gone, for which there is one
reason only. -/
inductive PollerStands (d : Daemon) (interval : Span) (number : Nat) (events : List DaemonEvent) :
    Task → Prop where
  | running {p : Poller} : d.PollerGoesOn interval number events p →
      PollerStands d interval number events (.poller p)
  | gone : d.Cancelled number events ∨ .drop number ∈ events →
      (d.pollEnds number events).length ≤ (d.pollStarts number events).length →
      (d.pollStarts number events).length ≤ (d.pollEnds number events).length + 1 →
      PollerStands d interval number events (.ended .stopped)

/-- However a poller stands, the polls that it has begun are over but for the last one. -/
theorem PollerStands.oneAtATime (h : d.PollerStands interval number events t) :
    (d.pollEnds number events).length ≤ (d.pollStarts number events).length ∧
      (d.pollStarts number events).length ≤ (d.pollEnds number events).length + 1 := by
  cases h with
  | @running p hgoes =>
    rw [hgoes.balance]
    exact ⟨Nat.le_add_right _ _, Nat.add_le_add_left (Bool.toNat_le p.cycle.isSome) _⟩
  | gone _ hle hge => exact ⟨hle, hge⟩

/-- A poller may go at an event that neither begins nor ends a poll, if its token is cancelled or it
is dropped. -/
theorem PollerStands.goes (h : d.PollerStands interval number events t)
    (hover : d.Cancelled number (events ++ [e]) ∨ .drop number ∈ events ++ [e])
    (hbegins : (d.run events).takes World.beginsPoll number e = false)
    (hends : (d.run events).takes World.endsPoll number e = false) :
    d.PollerStands interval number (events ++ [e]) (.ended .stopped) := by
  obtain ⟨hle, hge⟩ := h.oneAtATime
  rw [← pollStarts_concat_of_not hbegins, ← pollEnds_concat_of_not hends] at hle hge
  exact .gone hover hle hge

/-- Time does not pass over the moment at which a poller without a poll is to begin one, since its
turn would begin it. -/
theorem PollerGoesOn.now_le (h : d.PollerGoesOn interval number events p)
    (hinterval : interval.nanos ≠ 0) (ht : (d.run events).tasks[number]? = some (.poller p))
    (hprompt : d.Prompt (events ++ [e])) (hidle : p.cycle = none) :
    ((d.run events).apply e).world.now ≤ max (d.idleSince number events) p.ticker.moment := by
  obtain ⟨hbefore, hwaits, -⟩ := (prompt_append d events [e]).mp hprompt
  refine Waits.now_le hwaits (h.onTime hbefore hidle) fun moment hrest hle => ?_
  have hset : p.ticker.interval.nanos ≠ 0 := by
    rw [h.ticker, pollTicker, interval_foldl_tick]
    exact hinterval
  have hdue := hrest.isDue_poller ht hidle hset
  rw [now_passTo hle] at hdue
  exact Nat.lt_of_lt_of_le (Nat.not_le.mp (of_decide_eq_false hdue)) (Nat.le_max_right _ _)

/-- An event that neither begins nor ends a poll leaves a poller as it stands, even if it cancels
its token. -/
theorem PollerGoesOn.stays (h : d.PollerGoesOn interval number events p)
    (hinterval : interval.nanos ≠ 0) (ht : (d.run events).tasks[number]? = some (.poller p))
    (hbegins : (d.run events).takes World.beginsPoll number e = false)
    (hends : (d.run events).takes World.endsPoll number e = false) (hdrop : e ≠ .drop number)
    {stopped : Bool} (hstopped : stopped = true ↔ .cancel number ∈ events ++ [e]) :
    d.PollerGoesOn interval number (events ++ [e]) { p with stopped := stopped } where
  undropped := (mem_concat_iff hdrop).not.mpr h.undropped
  stopped := hstopped
  ticker := by
    rw [pollTicker_concat_of_not hbegins]
    exact h.ticker
  balance := by
    rw [pollStarts_concat_of_not hbegins, pollEnds_concat_of_not hends]
    exact h.balance
  onTime hprompt hidle := by
    rw [run_concat, idleSince_concat_of_not hends]
    exact h.now_le hinterval ht hprompt hidle

/-- What is no turn of a poller leaves it as it stands, or drops it; to cancel its token does not
end it yet. -/
theorem PollerGoesOn.concat_of_ne_turn (h : d.PollerGoesOn interval number events p)
    (hinterval : interval.nanos ≠ 0) (ht : (d.run events).tasks[number]? = some (.poller p))
    (hne : e ≠ .turn (.task number)) :
    d.PollerStands interval number (events ++ [e])
      ((d.run events).taskAfter number (.poller p) e) := by
  have hlast : e ∈ events ++ [e] := List.mem_append_right _ (List.mem_singleton_self e)
  have hbegins : (d.run events).takes World.beginsPoll number e = false := takes_eq_false hne
  have hends : (d.run events).takes World.endsPoll number e = false := takes_eq_false hne
  rcases (d.run events).taskAfter_cases number (.poller p) e with
    ⟨hother, hafter⟩ | ⟨rfl, hafter⟩ | ⟨rfl, hafter⟩ | ⟨rfl, -⟩
  · rw [hafter]
    have hcancel : e ≠ .cancel number := fun heq => hother (heq ▸ rfl)
    exact .running (h.stays hinterval ht hbegins hends (fun heq => hother (heq ▸ rfl))
      (h.stopped.trans (mem_concat_iff hcancel).symm))
  · rw [hafter]
    exact .running (h.stays hinterval ht hbegins hends (fun heq => by cases heq)
      ⟨fun _ => hlast, fun _ => rfl⟩)
  · rw [hafter]
    exact (PollerStands.running h).goes (.inr hlast) hbegins hends
  · exact absurd rfl hne

/-- A poller in its turn begins a poll or goes on with one: it has then begun one more than it
has ended. -/
theorem PollerGoesOn.begun (h : d.PollerGoesOn interval number events p)
    (ht : (d.run events).tasks[number]? = some (.poller p))
    (hc : (d.run events).world.cycleOf? (.poller p) = some c) :
    (d.pollStarts number (events ++ [.turn (.task number)])).length =
        (d.pollEnds number events).length + 1 ∧
      (p.ticked (d.run events).world.now).ticker =
        d.pollTicker interval number (events ++ [.turn (.task number)]) := by
  have hbalance := h.balance
  cases hcycle : p.cycle with
  | none =>
    have hbegins : (d.run events).takes World.beginsPoll number (.turn (.task number)) = true := by
      rw [takes_turn ht, World.beginsPoll_of_idle hcycle, hc]
      rfl
    rw [hcycle] at hbalance
    rw [pollTicker_concat_of_begins hbegins, Poller.ticked_of_idle hcycle, ← h.ticker, pollStarts,
      turnsOf_concat_of_takes hbegins, List.length_append, ← pollStarts, hbalance]
    exact ⟨rfl, rfl⟩
  | some stage =>
    have hbusy : p.cycle.isSome := by rw [hcycle]; rfl
    have hnot : (d.run events).takes World.beginsPoll number (.turn (.task number)) = false := by
      rw [takes_turn ht]
      exact World.beginsPoll_of_busy hbusy
    rw [hcycle] at hbalance
    rw [pollTicker_concat_of_not hnot, Poller.ticked_of_busy hbusy, ← h.ticker,
      pollStarts_concat_of_not hnot, hbalance]
    exact ⟨rfl, rfl⟩

/-- The token of a poller that finds it cancelled in its turn has been cancelled in the run, and
stays so. -/
theorem PollerGoesOn.cancelled (h : d.PollerGoesOn interval number events p)
    (hover : (p.stopped || (d.run events).world.shutdown) = true) (post : List DaemonEvent) :
    d.Cancelled number (events ++ post) := by
  refine Cancelled.append ?_ post
  exact (Bool.or_eq_true_iff.mp hover).imp_left h.stopped.mp

/-- The turn of a poller that has no poll to go on with: it goes if its token is cancelled, and
waits otherwise. -/
theorem PollerGoesOn.concat_of_none (h : d.PollerGoesOn interval number events p)
    (hinterval : interval.nanos ≠ 0) (ht : (d.run events).tasks[number]? = some (.poller p))
    (hc : (d.run events).world.cycleOf? (.poller p) = none) :
    d.PollerStands interval number (events ++ [.turn (.task number)])
      ((d.run events).advanceTask (.poller p)).2 := by
  have hidle := World.idle_of_cycleOf?_eq_none hc
  have hbegins : (d.run events).takes World.beginsPoll number (.turn (.task number)) = false := by
    rw [takes_turn ht, World.beginsPoll_of_idle hidle, hc]
    rfl
  have hends : (d.run events).takes World.endsPoll number (.turn (.task number)) = false := by
    rw [takes_turn ht]
    exact World.endsPoll_of_none hc
  rw [advanceTask_poller_of_none hc]
  split
  next hover =>
    exact (PollerStands.running h).goes (.inl (h.cancelled hover _)) hbegins hends
  next =>
    exact .running (h.stays hinterval ht hbegins hends (fun heq => by cases heq)
      (h.stopped.trans (mem_concat_iff fun heq => by cases heq).symm))

/-- The turn of a poller that begins a poll or goes on with one, by what the poll comes to in it. -/
theorem PollerGoesOn.concat_of_some (h : d.PollerGoesOn interval number events p)
    (hcandid : (d.run events).Candid cached)
    (ht : (d.run events).tasks[number]? = some (.poller p))
    (hc : (d.run events).world.cycleOf? (.poller p) = some c) :
    d.PollerStands interval number (events ++ [.turn (.task number)])
      ((d.run events).advanceTask (.poller p)).2 := by
  obtain ⟨hstarts, hticker⟩ := h.begun ht hc
  have hdrop : .drop number ∉ events ++ [.turn (.task number)] :=
    (mem_concat_iff fun heq => by cases heq).not.mpr h.undropped
  have hstopped : (p.ticked (d.run events).world.now).stopped = true ↔
      .cancel number ∈ events ++ [.turn (.task number)] := by
    rw [Poller.stopped_ticked]
    exact h.stopped.trans (mem_concat_iff fun heq => by cases heq).symm
  have hnow : (d.run (events ++ [.turn (.task number)])).world.now = (d.run events).world.now := by
    rw [run_concat]
    exact now_apply fun later heq => by cases heq
  have hended {ending : Ending CycleYield}
      (hdone : ((d.run events).world.goOn c).2 = .done ending) :
      (d.run events).takes World.endsPoll number (.turn (.task number)) = true := by
    rw [takes_turn ht]
    exact World.endsPoll_of_done hc hdone
  have hends {ending : Ending CycleYield}
      (hdone : ((d.run events).world.goOn c).2 = .done ending) :
      (d.pollEnds number (events ++ [.turn (.task number)])).length =
        (d.pollEnds number events).length + 1 := by
    rw [pollEnds, turnsOf_concat_of_takes (hended hdone), List.length_append]
    rfl
  rw [advanceTask_poller_of_cycle hc]
  rcases hcandid.afterCycle_cases ht hc (p.ticked (d.run events).world.now) with
    ⟨stage, hpending, hafter⟩ | ⟨ending, hdone, hafter⟩ | ⟨ending, hdone, hover, hafter⟩ <;>
    rw [hafter]
  · -- the poll goes on: it counts as begun alone
    have hnot : (d.run events).takes World.endsPoll number (.turn (.task number)) = false := by
      rw [takes_turn ht]
      exact World.endsPoll_of_pending hc hpending
    refine .running ⟨hdrop, hstopped, hticker, ?_, fun _ hidle => by cases hidle⟩
    rw [hstarts, pollEnds_concat_of_not hnot]
    rfl
  · -- it is over: the poller waits from now on
    refine .running ⟨hdrop, hstopped, hticker, ?_, fun _ _ => ?_⟩
    · rw [hstarts, hends hdone]
      rfl
    · rw [hnow, idleSince_concat_of_ends (hended hdone)]
      exact Nat.le_max_left _ _
  · refine .gone (.inl (h.cancelled hover _)) ?_ ?_ <;> rw [hstarts, hends hdone]
    exact Nat.le_succ _

/-- **One event of the run of a poller**: it stands afterwards as it should. -/
theorem PollerStands.concat (h : d.PollerStands interval number events t)
    (hinterval : interval.nanos ≠ 0) (hcandid : (d.run events).Candid cached)
    (ht : (d.run events).tasks[number]? = some t) (e : DaemonEvent) :
    d.PollerStands interval number (events ++ [e]) ((d.run events).taskAfter number t e) := by
  cases h with
  | @running p hgoes =>
    by_cases he : e = .turn (.task number)
    · subst he
      rw [taskAfter_turn]
      cases hc : (d.run events).world.cycleOf? (.poller p) with
      | none => exact hgoes.concat_of_none hinterval ht hc
      | some c => exact hgoes.concat_of_some hcandid ht hc
    · exact hgoes.concat_of_ne_turn hinterval ht he
  | gone hover hle hge =>
    rw [over_taskAfter (t := .ended .stopped) trivial]
    have hnone {acts : World → Task → Bool} (hacts : ∀ w, acts w (.ended .stopped) = false) :
        (d.run events).takes acts number e = false := by
      by_cases he : e = .turn (.task number)
      · subst he
        rw [takes_turn ht]
        exact hacts _
      · exact takes_eq_false he
    exact (PollerStands.gone hover hle hge).goes
      (hover.imp (Cancelled.append · [e]) (List.mem_append_left _)) (hnone fun _ => rfl)
      (hnone fun _ => rfl)

/-- A poller that has just started is due at once, and has begun nothing. -/
theorem pollerStands_nil : d.PollerStands interval number []
    (.poller ⟨.immediate interval d.world.now, false, none⟩) :=
  .running ⟨List.not_mem_nil, ⟨fun h => (by cases h), fun h => (by cases h)⟩, rfl, rfl,
    fun _ _ => Nat.le_max_left _ _⟩

/-- **In every run** a poller stands as it should, by induction on the events from their end. -/
theorem pollerStands_run (hinterval : interval.nanos ≠ 0) (hcandid : d.Candid cached)
    (ht : d.tasks[number]? = some (.poller ⟨.immediate interval d.world.now, false, none⟩))
    (hevents : ∀ e ∈ events, e.Candid cached) :
    ∃ t, (d.run events).tasks[number]? = some t ∧ d.PollerStands interval number events t := by
  induction events using List.reverseRecOn with
  | nil => exact ⟨_, ht, pollerStands_nil⟩
  | append_singleton events e ih =>
    obtain ⟨hbefore, -⟩ := List.forall_mem_append.mp hevents
    obtain ⟨t, htask, hstands⟩ := ih hbefore
    refine ⟨_, ?_, hstands.concat hinterval (candid_run hcandid hbefore) htask e⟩
    rw [run_concat]
    exact getElem?_apply htask e

/-! ## What a run of a poller comes to -/

/-- Once the token of a poller is cancelled, or it is dropped, no turn of it begins a poll. -/
theorem PollerStands.takes_eq_false (h : d.PollerStands interval number events t)
    (ht : (d.run events).tasks[number]? = some t)
    (hover : d.Cancelled number events ∨ .drop number ∈ events) (e : DaemonEvent) :
    (d.run events).takes World.beginsPoll number e = false := by
  by_cases he : e = .turn (.task number)
  · subst he
    rw [takes_turn ht]
    cases h with
    | gone => rfl
    | @running p hgoes =>
      have hstopped : (p.stopped || (d.run events).world.shutdown) = true :=
        Bool.or_eq_true_iff.mpr ((hover.resolve_right hgoes.undropped).imp_left hgoes.stopped.mpr)
      show (p.cycle.isNone && !(p.stopped || (d.run events).world.shutdown) && _) = false
      rw [hstopped, Bool.not_true, Bool.and_false, Bool.false_and]
  · exact Daemon.takes_eq_false he

/-- A poll begins when the last one is over and the ticker is due, and then at once: not before
that, and the moment has not been passed over. -/
theorem PollerGoesOn.now_eq (h : d.PollerGoesOn interval number events p)
    (hprompt : d.Prompt events) (hbegins : (d.run events).world.beginsPoll (.poller p) = true) :
    (d.run events).world.now =
      max (d.idleSince number events) (d.pollTicker interval number events).moment := by
  obtain ⟨hrunning, hdue⟩ := Bool.and_eq_true_iff.mp hbegins
  have hidle : p.cycle = none := Option.isNone_iff_eq_none.mp (Bool.and_eq_true_iff.mp hrunning).1
  have hsince : d.idleSince number events ≤ (d.run events).world.now := by
    unfold idleSince
    cases hlast : (d.pollEnds number events).getLast? with
    | none => exact d.now_le_run events
    | some ended => exact turnsOf_le _ number d events ended (List.mem_of_getLast? hlast)
  rw [← h.ticker]
  exact Nat.le_antisymm (h.onTime hprompt hidle) (Nat.max_le.mpr ⟨hsince, of_decide_eq_true hdue⟩)

/-- What a poller does in a run that begins when it has started. -/
structure PollsOnSchedule (d : Daemon) (interval : Span) (number : Nat)
    (events : List DaemonEvent) : Prop where
  /-- Whatever its polls come to, it goes on until its token is cancelled. -/
  goesOn : ¬ d.Cancelled number events → .drop number ∉ events →
    ∃ p, (d.run events).tasks[number]? = some (.poller p)
  /-- Of the polls that it has begun all are over but the last one. -/
  oneAtATime : (d.pollEnds number events).length ≤ (d.pollStarts number events).length ∧
    (d.pollStarts number events).length ≤ (d.pollEnds number events).length + 1
  /-- Once its token is cancelled it begins no poll. -/
  silent : ∀ before after, events = before ++ after →
    d.Cancelled number before ∨ .drop number ∈ before →
    (d.run before).pollStarts number after = []
  /-- A poll begins at the next tick, or when the last poll is over if that is later: the ticker
  has ticked once for each poll before. -/
  onTick : d.Prompt events → ∀ before after, events = before ++ .turn (.task number) :: after →
    (d.run before).takes World.beginsPoll number (.turn (.task number)) = true →
    (d.run before).world.now =
      max (d.idleSince number before) (d.pollTicker interval number before).moment
  /-- That moment does not pass without the poll, whatever the last one came to. -/
  noneMissed : d.Prompt events → ¬ d.Cancelled number events → .drop number ∉ events →
    (d.pollStarts number events).length = (d.pollEnds number events).length →
    (d.run events).world.now ≤
        max (d.idleSince number events) (d.pollTicker interval number events).moment ∧
      ((d.run events).AtRest →
        (d.run events).world.now < (d.pollTicker interval number events).moment)

theorem pollsOnSchedule_run (hinterval : interval.nanos ≠ 0) (hcandid : d.Candid cached)
    (ht : d.tasks[number]? = some (.poller ⟨.immediate interval d.world.now, false, none⟩))
    (hevents : ∀ e ∈ events, e.Candid cached) : d.PollsOnSchedule interval number events := by
  have hrun : ∀ {before after}, events = before ++ after →
      ∃ t, (d.run before).tasks[number]? = some t ∧ d.PollerStands interval number before t := by
    rintro before after rfl
    exact pollerStands_run hinterval hcandid ht (List.forall_mem_append.mp hevents).1
  obtain ⟨t, htask, hstands⟩ := hrun (List.append_nil events).symm
  constructor
  case goesOn =>
    intro hcancelled hdropped
    cases hstands with
    | @running p _ => exact ⟨p, htask⟩
    | gone hover => exact absurd hover (not_or_intro hcancelled hdropped)
  case oneAtATime => exact hstands.oneAtATime
  case silent =>
    intro before after hsplit hover
    refine turnsOf_eq_nil hsplit hover fun pre post hpre => ?_
    obtain ⟨t, htask, hstands⟩ := hrun hpre
    exact hstands.takes_eq_false htask
  case onTick =>
    intro hprompt before after hsplit hbegins
    obtain ⟨t, htask, hstands⟩ := hrun hsplit
    rw [hsplit] at hprompt
    rw [takes_turn htask] at hbegins
    cases hstands with
    | running hgoes => exact hgoes.now_eq ((prompt_append d before _).mp hprompt).1 hbegins
    | gone => cases hbegins
  case noneMissed =>
    intro hprompt hcancelled hdropped hnone
    cases hstands with
    | gone hover => exact absurd hover (not_or_intro hcancelled hdropped)
    | @running p hgoes =>
      -- as many polls are over as have begun, so none is in progress
      have hidle : p.cycle = none := by
        have hbalance := hgoes.balance
        cases hcycle : p.cycle with
        | none => rfl
        | some stage =>
          rw [hcycle, hnone] at hbalance
          exact absurd hbalance (Nat.ne_of_lt (Nat.lt_succ_self _))
      have hset : p.ticker.interval.nanos ≠ 0 := by
        rw [hgoes.ticker, pollTicker, interval_foldl_tick]
        exact hinterval
      rw [← hgoes.ticker]
      refine ⟨hgoes.onTime hprompt hidle, fun hrest => ?_⟩
      exact Nat.not_le.mp (of_decide_eq_false (hrest.isDue_poller htask hidle hset))

/-! ## What a run of any daemon comes to -/

/-- **A poller polls until its token is cancelled**, whatever its polls come to: in every run of
every daemon whose inspector and store cancel nothing of their own accord, from the moment on at
which it starts.  A poll that fails ends the poll and not the poller, and moves no tick; and since
no poll ends as cancelled unless the poller's own token is, the poller never takes a failure for its
own cancellation. -/
theorem create_pollsOnSchedule {settings : DaemonSettings} {first : Daemon}
    {pre post : List DaemonEvent} (hnew : create settings = .ok first)
    (hinterval : interval.isZero = false)
    (hevents : ∀ e ∈ pre ++ .startPolling interval :: post,
      e.Candid settings.topologyCache.isSome) :
    ((first.run pre).apply (.startPolling interval)).PollsOnSchedule interval
      (first.run pre).tasks.length post := by
  obtain ⟨hpre, hlater⟩ := List.forall_mem_append.mp hevents
  obtain ⟨-, hpost⟩ := List.forall_mem_cons.mp hlater
  refine pollsOnSchedule_run (of_decide_eq_false hinterval)
    ((candid_run (candid_create hnew) hpre).apply trivial) ?_ hpost
  refine getElem?_apply_new ?_
  rw [taskOf?, Poller.start, hinterval]
  rfl

/-- The inspector dies in the listing that the first poll shares with a call, whose token is
cancelled before; the next poll comes two milliseconds later and fails as well. -/
def pollsThatFail : List DaemonEvent :=
  [.turn (.task 0), .call false .snapshot, .turn (.task 1), .cancel 1, .turn (.task 1),
    .turn .listing, .turn (.task 0), .pass 2, .turn (.task 0), .turn .listing, .turn (.task 0)]

/-- An inspector that dies when it is asked for the hardware, and with it every shared listing. -/
def listingLost : List DaemonEvent :=
  [.showTopology { Probe.showing SmallMachine.topology with fault := some (.panic "lost") }]

theorem candid_pollsThatFail :
    ∀ e ∈ listingLost ++ .startPolling (.ofMillis 2) :: pollsThatFail,
      e.Candid SmallMachine.settings.topologyCache.isSome := by
  unfold listingLost pollsThatFail
  rw [List.singleton_append]
  simp only [List.forall_mem_cons]
  exact ⟨⟨fun h => (by cases h), fun h => (by cases h)⟩, trivial, trivial, trivial, trivial,
    trivial, trivial, trivial, trivial, trivial, trivial, trivial, trivial,
    fun _ h => (by cases h)⟩

theorem prompt_pollsThatFail (h : create SmallMachine.settings = .ok d) :
    ((d.run listingLost).apply (.startPolling (.ofMillis 2))).Prompt pollsThatFail := by
  have hnew : create SmallMachine.settings = .ok _ := rfl
  obtain rfl := Except.ok.inj (hnew.symm.trans h)
  refine ⟨trivial, trivial, trivial, trivial, trivial, trivial, trivial, ?_, trivial, trivial,
    trivial, trivial⟩
  intro moment _ hlt
  refine atRest_of_turns ?_ ?_ ?_
  · with_unfolding_all rfl
  · with_unfolding_all rfl
  · intro number hnumber
    have hnumber : number < 2 := by with_unfolding_all exact hnumber
    match moment, number with
    | 0, 0 | 0, 1 | 1, 0 | 1, 1 => with_unfolding_all rfl

/-- Both polls fail, the first one beside a call that is cancelled, and the poller has begun the
second one on its tick. -/
theorem pollsOnSchedule_of_failing_polls :
    ∃ first, create SmallMachine.settings = .ok first ∧ (Span.ofMillis 2).isZero = false ∧
      (∀ e ∈ listingLost ++ .startPolling (.ofMillis 2) :: pollsThatFail,
        e.Candid SmallMachine.settings.topologyCache.isSome) ∧
      let d := (first.run listingLost).apply (.startPolling (.ofMillis 2))
      d.Prompt pollsThatFail ∧ d.pollStarts 0 pollsThatFail = [0, 2] ∧
        d.pollEnds 0 pollsThatFail = [0, 2] ∧ (d.run pollsThatFail).world.store = .empty ∧
        d.PollsOnSchedule (.ofMillis 2) 0 pollsThatFail := by
  have hnew : create SmallMachine.settings = .ok _ := rfl
  exact ⟨_, hnew, rfl, candid_pollsThatFail, prompt_pollsThatFail hnew,
    by with_unfolding_all rfl, by with_unfolding_all rfl, by with_unfolding_all rfl,
    create_pollsOnSchedule hnew rfl candid_pollsThatFail⟩

end Daemon

end Telemetry
