import Telemetry.Daemon.Task

/-! # Whose turn it is

A scheduler gives turns.  Agents that are ready wait in a queue; what an agent
waits for stands in the order in which it began to wait, and everybody whose
wait ends joins the queue in that order.  Tasks in the foreground are what the
caller waits for: they go before the queue, and the queue gets its turns only
while the caller waits.  Time passes only when nobody is ready.
-/

namespace Telemetry

open Daemon

/-- A daemon with those who are ready and those who wait. -/
structure Scheduler where
  daemon : Daemon
  ready : List Agent
  waiting : List (Agent × Wait)
  /-- The tasks that the caller waits for. -/
  foreground : List Nat
  /-- Whether one of them can go on. -/
  called : Bool

namespace Scheduler

/-- More turns than anything takes at one moment, and more moments than anything
waits through. -/
def patience : Nat := 1000000000

/-- A scheduler for a daemon that has no tasks. -/
def create (d : Daemon) : Scheduler := ⟨d, [], [], [], false⟩

/-- The moment that has come. -/
def now (s : Scheduler) : Nat := s.daemon.world.now

/-- Puts an agent where it gets its turn. -/
def wake (s : Scheduler) (a : Agent) : Scheduler :=
  match a with
  | .task number =>
    if s.foreground.contains number then { s with called := true }
    else if s.ready.contains a then s else { s with ready := s.ready ++ [a] }
  | _ => if s.ready.contains a then s else { s with ready := s.ready ++ [a] }

/-- Wakes everybody who waits for what has come about. -/
def wakeAll (s : Scheduler) (isOver : Wait → Bool) : Scheduler :=
  (s.waiting.filter fun e => isOver e.2).foldl (fun s e => s.wake e.1) s

/-- Brings the waits of an agent up to date: those that go on keep their places. -/
def refresh (s : Scheduler) (a : Agent) : Scheduler :=
  let waits := s.daemon.waits a
  let kept := s.waiting.filter fun e => e.1 ≠ a || waits.contains e.2
  let added := waits.filter fun w => !kept.contains (a, w)
  { s with waiting := kept ++ added.map (a, ·) }

/-- The number of listings started, and of those ended. -/
def listings (d : Daemon) : Nat × Nat :=
  (d.world.topology.elim 0 Shared.started, d.world.topology.elim 0 fun t => t.outcomes.length)

/-- Queues the shared calls that a turn has started and wakes those who waited
for one that it has ended. -/
def follow (s : Scheduler) (before : Daemon) : Scheduler :=
  let after := s.daemon
  let s := if (listings before).1 < (listings after).1 then s.wake .listing else s
  let s :=
    if before.world.snapshots.started < after.world.snapshots.started then s.wake .snapshot
    else s
  let s :=
    if (listings before).2 < (listings after).2 then
      s.wakeAll (· = .listing (listings before).2)
    else s
  let ended := before.world.snapshots.outcomes.length
  if ended < after.world.snapshots.outcomes.length then s.wakeAll (· = .snapshot ended) else s

/-- Gives an agent turns until nothing that it waits for is due. -/
def turn (s : Scheduler) (a : Agent) : (turns : Nat) → Scheduler
  | 0 => s
  | turns + 1 =>
    let before := s.daemon
    let s := ({ s with daemon := before.turn a }.refresh a).follow before
    let isDue := fun w => match w with
      | .moment t => t ≤ s.now
      | _ => false
    if (s.daemon.waits a).any isDue then s.turn a turns else s

/-- Gives everybody who is ready a turn, until nobody is. -/
def drain (s : Scheduler) : (turns : Nat) → Scheduler
  | 0 => s
  | turns + 1 =>
    match s.ready with
    | [] => s
    | a :: rest => ({ s with ready := rest }.turn a patience).drain turns

/-- Everybody who is ready has had a turn. -/
def settle (s : Scheduler) : Scheduler := s.drain patience

/-- The next moment at which somebody can go on. -/
def nextMoment (s : Scheduler) : Option Nat :=
  (s.waiting.filterMap fun e => match e.2 with
    | .moment t => some t
    | _ => none).min?

/-- Time passes to a moment, and wakes those who waited for it. -/
def passTo (s : Scheduler) (moment : Nat) : Scheduler :=
  let s := { s with daemon := s.daemon.passTo moment }
  s.wakeAll fun w => match w with
    | .moment t => t ≤ s.now
    | _ => false

/-- Passes through the moments up to a target. -/
def advance (s : Scheduler) (target : Nat) : (moments : Nat) → Scheduler
  | 0 => (s.passTo target).settle
  | moments + 1 =>
    match s.nextMoment.filter (· ≤ target) with
    | some moment => ((s.passTo moment).settle).advance target moments
    | none => (s.passTo target).settle

/-- Lets a span of milliseconds pass. -/
def sleep (s : Scheduler) (millis : Nat) : Scheduler :=
  s.settle.advance (s.now + millis) (millis + 1)

/-- Adds a task in the background. -/
def spawn (s : Scheduler) (t : Task) : Scheduler :=
  let number := s.daemon.tasks.length
  { s with daemon := s.daemon.spawn t }.wake (.task number)

/-! ## The foreground -/

/-- Whether a task has ended. -/
def hasEnded (s : Scheduler) (number : Nat) : Bool :=
  match s.daemon.tasks[number]? with
  | some (.ended _) => true
  | _ => false

/-- Gives the tasks in the foreground their turns. -/
def turnForeground (s : Scheduler) : Scheduler :=
  s.foreground.foldl (fun s number => s.turn (.task number) patience) { s with called := false }

/-- Goes on until the foreground has ended, or nobody can go on. -/
def finish (s : Scheduler) : (moments : Nat) → Scheduler
  | 0 => s
  | moments + 1 =>
    let s := if s.called then s.turnForeground else s
    if s.foreground.all s.hasEnded then s
    else
      let s := s.settle
      if s.called then s.finish moments
      else match s.nextMoment with
        | some moment => (s.passTo moment).finish moments
        | none => s

/-- Puts tasks in the foreground and waits for all of them; their numbers. -/
def await (s : Scheduler) (tasks : List Task) : Scheduler × List Nat :=
  let numbers := (List.range tasks.length).map (s.daemon.tasks.length + ·)
  let s := { s with
    daemon := tasks.foldl Daemon.spawn s.daemon, foreground := numbers, called := true }
  ({ s.finish patience with foreground := [], called := false }, numbers)

/-- The end of a task. -/
def endOf? (s : Scheduler) (number : Nat) : Option TaskEnd :=
  match s.daemon.tasks[number]? with
  | some (.ended e) => some e
  | _ => none

end Scheduler

end Telemetry
