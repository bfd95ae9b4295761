import Telemetry.Model.Snapshot
import Telemetry.SortedMap

/-! # Series of values

Every value that a collection reports belongs to a series, named by where the
value comes from: the source, the hardware and the sensor.  A sink is told of
reported values and of failed collections (`SinkCall`); `Metrics` is the sink that
holds the last value of every series and counts the failed collections of every
source.
-/

namespace Telemetry

/-- What identifies a series. -/
@[ext] structure SeriesLabels where
  source : String
  hardwareId : String
  hardwareName : String
  hardwareType : String
  sensorId : String
  sensorName : String
  sensorType : String
deriving DecidableEq

namespace SeriesLabels

/-- The series of a sensor of some hardware at a source. -/
def ofSensor (source : String) (hardware : Hardware) (sensor : Sensor) : SeriesLabels where
  source := source
  hardwareId := hardware.id.text
  hardwareName := hardware.name
  hardwareType := hardware.kind.name
  sensorId := sensor.id.text
  sensorName := sensor.name
  sensorType := sensor.kind.name

/-- The labels in the order of the declaration. -/
def values (l : SeriesLabels) : List String :=
  [l.source, l.hardwareId, l.hardwareName, l.hardwareType, l.sensorId, l.sensorName, l.sensorType]

/-- A series is found by its labels written one after the other with nothing in
between. -/
def key (l : SeriesLabels) : String := String.join l.values

/-- The labels under the names they are exported with, in the order of the names. -/
def pairs (l : SeriesLabels) : List (String × String) :=
  [("hardware_id", l.hardwareId), ("hardware_name", l.hardwareName),
    ("hardware_type", l.hardwareType), ("host", l.source), ("sensor_id", l.sensorId),
    ("sensor_name", l.sensorName), ("sensor_type", l.sensorType)]

end SeriesLabels

/-- A value with the series it belongs to. -/
structure SeriesValue where
  labels : SeriesLabels
  value : Int64
deriving DecidableEq

/-- One value for every reading of a snapshot, in the order of the snapshot. -/
def Snapshot.seriesValues (s : Snapshot) (source : String) : List SeriesValue :=
  s.hardware.flatMap fun h => h.sensors.map fun r =>
    ⟨.ofSensor source h.hardware r.sensor, r.value.value⟩

/-- What a collector tells its sink. -/
inductive SinkCall where
  | report (value : SeriesValue)
  /-- A collection of a source has failed. -/
  | failure (source : String)
deriving DecidableEq

namespace SinkCall

/-- The source that the sink is told about. -/
def source : SinkCall → String
  | report v => v.labels.source
  | failure source => source

/-- The reported value, if one is reported. -/
def value? : SinkCall → Option SeriesValue
  | report v => some v
  | failure _ => none

/-- Whether a failure is recorded. -/
def isFailure : SinkCall → Bool
  | report _ => false
  | failure _ => true

end SinkCall

/-- The last value of every series and the failures of every source. -/
structure Metrics where
  series : SortedMap String SeriesValue
  failures : SortedMap String Nat

namespace Metrics

/-- Nothing has been reported. -/
def empty : Metrics := ⟨.empty, .empty⟩

/-- Takes a value in.  A series that is there keeps the labels it came with. -/
def report (m : Metrics) (v : SeriesValue) : Metrics :=
  let labels := match m.series.find? v.labels.key with
    | some earlier => earlier.labels
    | none => v.labels
  { m with series := m.series.insert v.labels.key ⟨labels, v.value⟩ }

/-- Counts a failed collection of a source. -/
def recordFailure (m : Metrics) (source : String) : Metrics :=
  { m with failures := m.failures.insert source ((m.failures.find? source).getD 0 + 1) }

/-- Takes in what the sink is told; a sink may not count failures. -/
def take (countsFailures : Bool) (m : Metrics) : SinkCall → Metrics
  | .report v => m.report v
  | .failure source => if countsFailures then m.recordFailure source else m

end Metrics

end Telemetry
