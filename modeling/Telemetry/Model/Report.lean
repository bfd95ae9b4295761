import Telemetry.SortedMap
import Telemetry.Model.Snapshot

/-! # Reports

A report lists what was recorded over a range of time: per piece of hardware its
sensors in groups of one type, each sensor with its samples.
-/

namespace Telemetry

/-- The recorded samples of a sensor. -/
@[ext] structure SensorHistory where
  sensor : Sensor
  samples : List Sample
deriving DecidableEq

/-- The histories of a piece of hardware, grouped by what the sensors measure. -/
@[ext] structure HardwareHistory where
  hardware : Hardware
  sensors : SortedMap SensorType (List SensorHistory)
deriving DecidableEq

/-- What was recorded between two instants. -/
@[ext] structure Report where
  generatedAt : Instant
  first : Instant
  last : Instant
  hardware : List HardwareHistory
deriving DecidableEq

namespace Report

/-- All histories in the order of the report. -/
def histories (r : Report) : List SensorHistory :=
  r.hardware.flatMap fun h => h.sensors.values.flatten

/-- The first history of a sensor. -/
def find? (r : Report) (id : SensorId) : Option SensorHistory :=
  r.histories.find? fun h => h.sensor.id = id

end Report

end Telemetry
