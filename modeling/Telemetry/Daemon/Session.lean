import Telemetry.Daemon.Scheduler

/-! # Working with a daemon

A session drives a daemon step by step.  Its user sets the clock and what the
inspector shows, writes to and reads from the store, calls for cycles, sends
requests, starts and stops the loops, and lets time pass.
-/

namespace Telemetry

/-- What a fault strikes. -/
inductive FaultPlace where
  | topology
  | readings
  | write (sensor : Option SensorId)
  | range (sensor : Option SensorId)
  | delete

/-- A step of a session. -/
inductive DaemonStep where
  | setClock (t : Instant)
  | advanceClock (by_ : Delta)
  | clock
  | setTopology (value : Topology)
  | setReadings (value : Readings)
  | delayTopology (delay : Option Nat)
  | delayReadings (delay : Option Nat)
  /-- Sets or clears a fault. -/
  | fail (place : FaultPlace) (error : Option Error)
  | calls
  | write (sensor : SensorId) (sample : Sample)
  | range (sensor : SensorId) (first last : Instant)
  | deleteOlder (cutoff : Instant)
  | close
  | sensorCount
  | sampleCount (sensor : SensorId)
  /-- A cycle; a history may be searched for a sensor. -/
  | cycle (cancelled : Bool) (purpose : Purpose) (find : Option SensorId)
  | prune
  | http (request : Http.Request)
  | httpMany (request : Http.Request) (count : Nat)
  | startPolling (interval : Span)
  | stopPolling
  | startRetention
  | stopRetention
  | sleep (millis : Nat)
  | shutDown

/-- What a step shows. -/
inductive DaemonAnswer where
  | nothing
  | panicked
  | time (t : Instant)
  | calls (topology readings deletes : Nat)
  | written
  | samples (r : Result (List Sample))
  | counts (r : Result (SortedMap SensorId Nat))
  | number (n : Nat)
  | cycle (r : Result CycleYield)
  /-- A report with the history that was searched for. -/
  | search (report : Report) (found : Option SensorHistory)
  | response (r : Http.Response) (took : Nat)
  | responses (rs : List Http.Response)
  | stopped (clean : Bool)

/-- A daemon in use, with the numbers of its loops. -/
structure DaemonSession where
  scheduler : Scheduler
  poller : Option Nat
  pruner : Option Nat

namespace DaemonSession

/-- A daemon nobody has used yet. -/
def create (d : Daemon) : DaemonSession := ⟨.create d, none, none⟩

/-- The daemon. -/
def daemon (s : DaemonSession) : Daemon := s.scheduler.daemon

/-- Changes the shared world. -/
def change (s : DaemonSession) (f : World → World) : DaemonSession :=
  { s with scheduler.daemon.world := f s.daemon.world }

/-- Sets or clears a fault. -/
def setFault (w : World) (place : FaultPlace) (error : Option Error) : World :=
  match place with
  | .topology => { w with inspector.topology.fault := error.map .failure }
  | .readings => { w with inspector.readings.fault := error.map .failure }
  | .write sensor => { w with faults.write := error.map (·, sensor) }
  | .range sensor => { w with faults.range := error.map (·, sensor) }
  | .delete => { w with faults.delete := error }

/-- What a cycle shows in the end. -/
def showEnd (find : Option SensorId) : Option TaskEnd → DaemonAnswer
  | some (.cycle (.ok (.report r))) =>
    match find with
    | some id => .search r (r.find? id)
    | none => .cycle (.ok (.report r))
  | some (.cycle r) => .cycle r
  | some .died => .panicked
  | _ => .nothing

/-- The response that a request has ended with. -/
def responseOf : Option TaskEnd → Option Http.Response
  | some (.response r) => some r
  | _ => none

/-- Sends equal requests at one moment and waits for all responses. -/
def send (s : DaemonSession) (request : Http.Request) (count : Nat) :
    DaemonSession × List (Option Http.Response) :=
  let (scheduler, numbers) := s.scheduler.await
    (List.replicate count (s.daemon.requestTask request))
  ({ s with scheduler := scheduler }, numbers.map fun n => responseOf (scheduler.endOf? n))

/-- Wakes loops whose token is cancelled. -/
def wakeLoops (s : Scheduler) (loops : List (Option Nat)) : Scheduler :=
  loops.foldl (fun s loop => loop.elim s fun n => s.wake (.task n)) s

/-- Starts a loop and lets it make its first turn. -/
def startLoop (s : DaemonSession) (t : Task) : DaemonSession × Nat :=
  ({ s with scheduler := (s.scheduler.spawn t).settle }, s.daemon.tasks.length)

/-- Cancels the token of a loop and waits for its end. -/
def stopLoop (s : DaemonSession) (loop : Option Nat) : DaemonSession × Bool :=
  match loop with
  | none => (s, true)
  | some n =>
    let scheduler :=
      (wakeLoops { s.scheduler with daemon := s.daemon.stop n } [loop]).settle
    let clean := match scheduler.endOf? n with
      | some .stopped => true
      | _ => false
    ({ s with scheduler := scheduler }, clean)

/-- Does a step. -/
def step (s : DaemonSession) : DaemonStep → DaemonSession × DaemonAnswer
  | .setClock t => (s.change ({ · with clock := t }), .nothing)
  | .advanceClock d =>
    match s.daemon.world.clock.add? d with
    | some t => (s.change ({ · with clock := t }), .time t)
    | none => (s, .panicked)
  | .clock => (s, .time s.daemon.world.clock)
  | .setTopology value => (s.change ({ · with inspector.topology.value := value }), .nothing)
  | .setReadings value => (s.change ({ · with inspector.readings.value := value }), .nothing)
  | .delayTopology delay => (s.change ({ · with inspector.topology.delay := delay }), .nothing)
  | .delayReadings delay => (s.change ({ · with inspector.readings.delay := delay }), .nothing)
  | .fail place error => (s.change (setFault · place error), .nothing)
  | .calls =>
    let w := s.daemon.world
    (s, .calls w.inspector.topology.calls w.inspector.readings.calls w.deletes)
  | .write sensor sample =>
    (s.change fun w => { w with store := w.store.write sensor sample }, .written)
  | .range sensor first last => (s, .samples (s.daemon.world.store.range sensor first last))
  | .deleteOlder cutoff =>
    (s.change fun w => { w with store := w.store.deleteOlder cutoff },
      .counts (.ok (s.daemon.world.store.olderCounts cutoff)))
  | .close => (s.change ({ · with store := .empty }), .nothing)
  | .sensorCount => (s, .number s.daemon.world.store.sensorCount)
  | .sampleCount sensor => (s, .number (s.daemon.world.store.sampleCount sensor))
  | .cycle cancelled purpose find =>
    let (scheduler, numbers) := s.scheduler.await [.cycle cancelled purpose .fresh]
    ({ s with scheduler := scheduler }, showEnd find (numbers.head?.bind scheduler.endOf?))
  | .prune =>
    let (w, counts) := s.daemon.world.prune s.daemon.retention
    (s.change fun _ => w, .counts counts)
  | .http request =>
    match s.send request 1 with
    | (after, [some r]) => (after, .response r (after.scheduler.now - s.scheduler.now))
    | (after, _) => (after, .panicked)
  | .httpMany request count =>
    let (s, responses) := s.send request count
    (s, if responses.all Option.isSome then .responses (responses.filterMap id) else .panicked)
  | .startPolling interval =>
    let (s, n) := s.startLoop (Daemon.loopTask .poller (Poller.start interval s.scheduler.now))
    ({ s with poller := some n }, .nothing)
  | .stopPolling =>
    let (s, clean) := s.stopLoop s.poller
    ({ s with poller := none }, .stopped clean)
  | .startRetention =>
    let loop := Pruner.start s.daemon.retention s.scheduler.now
    let (s, n) := s.startLoop (Daemon.loopTask .pruner loop)
    ({ s with pruner := some n }, .nothing)
  | .stopRetention =>
    let (s, _) := s.stopLoop s.pruner
    ({ s with pruner := none }, .nothing)
  | .sleep millis => ({ s with scheduler := s.scheduler.sleep millis }, .nothing)
  | .shutDown =>
    let scheduler := { s.scheduler with daemon := s.daemon.shutDown }
    ({ s with scheduler := wakeLoops scheduler [s.poller, s.pruner] }, .nothing)

/-- The answers to steps in order. -/
def run (s : DaemonSession) : List DaemonStep → List DaemonAnswer
  | [] => []
  | step :: rest =>
    let (s, answer) := s.step step
    answer :: run s rest

end DaemonSession

end Telemetry
