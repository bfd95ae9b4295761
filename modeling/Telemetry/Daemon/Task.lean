import Telemetry.Daemon.Api
import Telemetry.Service.Retention

/-! # A daemon and its tasks

A daemon is the shared world with everything in progress: requests, cycles that
were called for, the poller, the pruner, and the two shared calls behind the
caches.  A turn lets one of them go on as far as it can; in which order turns
come is left open.
-/

namespace Telemetry

/-- How a task has ended. -/
inductive TaskEnd where
  | response (r : Http.Response)
  | cycle (r : Result CycleYield)
  | stopped
  | died

/-- A task in progress, or its end. -/
inductive Task where
  /-- A request with the moment at which its time is up. -/
  | request (request : Http.Request) (limit : Nat) (work : Api.Work)
  | cycle (cancelled : Bool) (purpose : Purpose) (stage : Survey)
  | poller (p : Poller)
  | pruner (p : Pruner)
  | ended (e : TaskEnd)

/-- The settings of a daemon. -/
structure DaemonSettings where
  clock : Instant
  /-- The cache in front of the listing, if there is one: retention and limit of a call. -/
  topologyCache : Option (Span × Span)
  retentionInterval : Span
  retentionWindow : Span
  snapshotRetention : Span
  snapshotFetchTimeout : Span
  requestTimeout : Span

/-- A daemon. -/
structure Daemon where
  world : World
  retention : Retention
  requestTimeout : Span
  /-- Every task so far, by number. -/
  tasks : List Task

namespace Daemon

/-- A daemon over a machine without hardware and an empty store. -/
def create (s : DaemonSettings) : Result Daemon := do
  let topology ← s.topologyCache.mapM fun c => CacheSettings.create c.1 c.2
  let retention ← Retention.create s.retentionInterval s.retentionWindow
  let snapshots ← CacheSettings.create s.snapshotRetention s.snapshotFetchTimeout
  return {
    world := {
      now := 0
      clock := s.clock
      inspector := .blank
      store := .empty
      faults := .none
      deletes := 0
      topology := topology.map .create
      snapshots := .create snapshots
      shutdown := false }
    retention := retention
    requestTimeout := s.requestTimeout
    tasks := [] }

/-- Adds a task; its number is the number of tasks before it. -/
def spawn (d : Daemon) (t : Task) : Daemon := { d with tasks := d.tasks ++ [t] }

/-- The task that a request starts. -/
def requestTask (d : Daemon) (request : Http.Request) : Task :=
  match Api.receive 0 request with
  | .answered r => .ended (.response (r.sentTo request))
  | .working work => .request request (d.world.now + d.requestTimeout.limitMillis) work

/-- The task that a starting loop is. -/
def loopTask {σ : Type} (running : σ → Task) : LoopProgress σ → Task
  | .running state => running state
  | .stopped => .ended .stopped
  | .died => .ended .died

/-- The request after this much of its work. -/
def afterWork (d : Daemon) (request : Http.Request) (limit : Nat) :
    Progress Api.Work Http.Response → Task
  | .done (.value r) => .ended (.response (r.sentTo request))
  | .done (.failure e) => .ended (.response ((Api.failure e).sentTo request))
  | .done (.panic _) => .ended .died
  | .pending work =>
    if limit ≤ d.world.now then
      .ended (.response ((Api.failure (.timeout d.requestTimeout)).sentTo request))
    else .request request limit work

/-- The cycle that was called for, after this much of it. -/
def afterCycle (cancelled : Bool) (purpose : Purpose) : Progress Survey CycleYield → Task
  | .pending stage => .cycle cancelled purpose stage
  | .done (.value y) => .ended (.cycle (.ok y))
  | .done (.failure e) => .ended (.cycle (.error e))
  | .done (.panic _) => .ended .died

/-- A task goes on. -/
def advanceTask (d : Daemon) : Task → World × Task
  | .request request limit work =>
    let (w, progress) := d.world.advanceWork work
    (w, d.afterWork request limit progress)
  | .cycle cancelled purpose stage =>
    let (w, progress) := d.world.advanceCycle cancelled purpose stage
    (w, afterCycle cancelled purpose progress)
  | .poller p =>
    let (w, progress) := d.world.advancePoller p
    (w, loopTask .poller progress)
  | .pruner p =>
    let (w, progress) := d.world.advancePruner d.retention p
    (w, loopTask .pruner progress)
  | .ended e => (d.world, .ended e)

/-- Who can take a turn. -/
inductive Agent where
  /-- The shared listing in flight. -/
  | listing
  /-- The shared snapshot in flight. -/
  | snapshot
  | task (number : Nat)
deriving DecidableEq

/-- A turn. -/
def turn (d : Daemon) : Agent → Daemon
  | .listing => { d with world := d.world.advanceListing }
  | .snapshot => { d with world := d.world.advanceSnapshot }
  | .task number =>
    match d.tasks[number]? with
    | none => d
    | some t =>
      let (w, t) := d.advanceTask t
      { d with world := w, tasks := d.tasks.set number t }

/-- Time passes. -/
def passTo (d : Daemon) (now : Nat) : Daemon :=
  { d with world.now := max d.world.now now }

/-- Cancels the token of a loop. -/
def stop (d : Daemon) (number : Nat) : Daemon :=
  { d with tasks := d.tasks.modify number fun
    | .poller p => .poller { p with stopped := true }
    | .pruner p => .pruner { p with stopped := true }
    | t => t }

/-- Cancels the token that all requests and loops depend on. -/
def shutDown (d : Daemon) : Daemon := { d with world.shutdown := true }

/-! ## What agents wait for -/

/-- Something that an agent waits for. -/
inductive Wait where
  | moment (t : Nat)
  /-- The end of a shared listing. -/
  | listing (number : Nat)
  /-- The end of a shared snapshot. -/
  | snapshot (number : Nat)
deriving DecidableEq

/-- The wait for an answer that may never come. -/
def dueWait (due : Option Nat) : List Wait := due.toList.map .moment

/-- What a survey waits for. -/
def surveyWaits : Survey → List Wait
  | .fresh => []
  | .listing due => dueWait due
  | .joined number => [.listing number]
  | .measuring _ due => dueWait due

/-- What the work of a request waits for. -/
def workWaits : Api.Work → List Wait
  | .stats none => []
  | .stats (some number) => [.snapshot number]
  | .history _ stage => surveyWaits stage

/-- What a task waits for, in the order in which it begins to wait. -/
def taskWaits : Task → List Wait
  | .request _ limit work => workWaits work ++ [.moment limit]
  | .cycle _ _ stage => surveyWaits stage
  | .poller p => match p.cycle with
    | some stage => surveyWaits stage
    | none => [.moment p.ticker.moment]
  | .pruner p => [.moment p.ticker.moment]
  | .ended _ => []

/-- What a shared call waits for. -/
def callWaits {σ : Type} (stageWaits : σ → List Wait) : Option (SharedCall σ) → List Wait
  | some call => stageWaits call.stage ++ [.moment call.limit]
  | none => []

/-- What an agent waits for. -/
def waits (d : Daemon) : Agent → List Wait
  | .listing => callWaits (fun | .fresh => [] | .waiting due => dueWait due)
      (d.world.topology.bind fun shared => shared.cache.flight)
  | .snapshot => callWaits surveyWaits d.world.snapshots.cache.flight
  | .task number => (d.tasks[number]?).elim [] taskWaits

end Daemon

end Telemetry
