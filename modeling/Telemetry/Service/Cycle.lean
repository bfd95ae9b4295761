import Telemetry.Model.Report
import Telemetry.Service.Survey

/-! # Cycles

A cycle is a survey with a purpose: to show a snapshot, to store its samples, or
to store them and report the history of every sensor.  Everything after the
survey happens at one moment, without another cycle in between.
-/

namespace Telemetry

/-- What a cycle is for. -/
inductive Purpose where
  | snapshot
  | poll
  /-- The history over a range of time up to now. -/
  | history (range : Delta)

/-- What a cycle yields. -/
inductive CycleYield where
  | snapshot (s : Snapshot)
  | stored (count : Nat)
  | report (r : Report)

/-- Why a cycle is refused before its survey. -/
def Purpose.refusal : Purpose → Option Error
  | .history range =>
    if range.nanos ≤ 0 then
      some (.validation ("range must be greater than 0, got " ++ range.text))
    else none
  | _ => none

namespace World

/-- Stores readings in order, up to the first that cannot be stored. -/
def persistAll (w : World) : List SensorReading → World × Result Unit
  | [] => (w, .ok ())
  | r :: rest =>
    match w.write r.sensor.id r.value with
    | (w, .ok ()) => w.persistAll rest
    | (w, .error e) => (w, .error (e.within "store value"))

/-- Stores the samples of a snapshot and counts them. -/
def persist (w : World) (s : Snapshot) : World × Result Nat :=
  match w.persistAll s.readings with
  | (w, .ok ()) => (w, .ok s.sensorCount)
  | (w, .error e) => (w, .error e)

/-- The history of a sensor between two instants. -/
def sensorHistory (w : World) (first last : Instant) (sensor : Sensor) : Result SensorHistory :=
  match w.range sensor.id first last with
  | .ok samples => .ok ⟨sensor, samples⟩
  | .error e => .error (e.within "get values for range")

/-- Adds a history to the group of its type. -/
def addHistory (groups : SortedMap SensorType (List SensorHistory)) (h : SensorHistory) :
    SortedMap SensorType (List SensorHistory) :=
  groups.insert h.sensor.kind ((groups.find? h.sensor.kind).getD [] ++ [h])

/-- Histories in groups of one type, each in the order of identifiers. -/
def groupHistories (hs : List SensorHistory) : SortedMap SensorType (List SensorHistory) :=
  (hs.foldl addHistory .empty).map fun _ group => sortOn (fun h => h.sensor.id) group

/-- The history of a piece of hardware. -/
def hardwareHistory (w : World) (first last : Instant) (e : Hardware × List Sensor) :
    Result HardwareHistory := do
  return ⟨e.1, groupHistories (← e.2.mapM (w.sensorHistory first last))⟩

/-- The report over a range of time. -/
def report (w : World) (topology : Topology) (first last : Instant) : Result Report := do
  let hardware ← topology.entries.mapM (w.hardwareHistory first last)
  return ⟨w.clock, first, last, sortOn (fun h => h.hardware.id) hardware⟩

/-- What a cycle makes of its survey. -/
def complete (w : World) (purpose : Purpose) (s : Surveyed) : World × Result CycleYield :=
  match purpose with
  | .snapshot => (w, .ok (.snapshot (w.snapshotOf s)))
  | .poll =>
    let (w, stored) := w.persist (w.snapshotOf s)
    (w, stored.map .stored)
  | .history range =>
    match w.clock.sub? range with
    | none => (w, .error (.validation ("range " ++ range.text ++ " is too large")))
    | some first =>
      match w.persist (w.snapshotOf s) with
      | (w, .ok _) => (w, (w.report s.topology first w.clock).map .report)
      | (w, .error e) => (w, .error e)

/-- What a cycle makes of its survey so far. -/
def completeSurvey (w : World) (purpose : Purpose) :
    Progress Survey Surveyed → World × Progress Survey CycleYield
  | .pending stage => (w, .pending stage)
  | .done (.value s) =>
    let (w, result) := w.complete purpose s
    (w, .done (.ofResult result))
  | .done (.failure e) => (w, .done (.failure e))
  | .done (.panic message) => (w, .done (.panic message))

/-- Goes on with the survey of a cycle. -/
def surveyFor (w : World) (cancelled : Bool) (purpose : Purpose) (stage : Survey) :
    World × Progress Survey CycleYield :=
  let (w, progress) := w.advanceSurvey cancelled stage
  w.completeSurvey purpose progress

/-- Goes on with a cycle, whose token may be cancelled. -/
def advanceCycle (w : World) (cancelled : Bool) (purpose : Purpose) :
    Survey → World × Progress Survey CycleYield
  | .fresh =>
    match purpose.refusal with
    | some e => (w, .done (.failure e))
    | none => w.surveyFor cancelled purpose .fresh
  | stage => w.surveyFor cancelled purpose stage

end World

end Telemetry
