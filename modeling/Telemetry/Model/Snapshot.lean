import Telemetry.Model.Hardware
import Telemetry.Number.Binary64
import Telemetry.Time.Instant

/-! # Samples and snapshots

A sample is a whole value with its instant.  A snapshot joins the topology of a
machine with one reading per sensor: each piece of hardware in the order of
identifiers, and under it the sensors that had a reading.
-/

namespace Telemetry

/-- A sensor's value at an instant. -/
@[ext] structure Sample where
  value : Int64
  timestamp : Instant
deriving DecidableEq

/-- The sample of a raw reading: the nearest whole number, halves away from
zero, the nearer end when it is out of range, and zero for no number. -/
def Sample.ofReading (raw : Float) (timestamp : Instant) : Sample :=
  ⟨roundToInt64 raw, timestamp⟩

/-- A sensor with its sample. -/
@[ext] structure SensorReading where
  sensor : Sensor
  value : Sample
deriving DecidableEq

/-- A piece of hardware with the samples of its sensors. -/
@[ext] structure HardwareReading where
  hardware : Hardware
  sensors : List SensorReading
deriving DecidableEq

/-- The values of a machine at one instant. -/
@[ext] structure Snapshot where
  takenAt : Instant
  hardware : List HardwareReading
deriving DecidableEq

/-- The reading listed last for a sensor identifier. -/
def Readings.find? (values : Readings) (id : SensorId) : Option Float :=
  ((values.entries.filter fun e => e.1.id = id).getLast?).map Prod.snd

namespace Snapshot

/-- The samples of one piece of hardware: a sensor of the topology counts when
its identifier has a reading, and keeps the attributes it has in the topology. -/
def readingsOf (values : Readings) (takenAt : Instant) (sensors : List Sensor) :
    List SensorReading :=
  sortOn (fun r => r.sensor.id) <| sensors.filterMap fun sensor =>
    (values.find? sensor.id).map fun raw => ⟨sensor, .ofReading raw takenAt⟩

/-- Joins a topology with readings. -/
def build (topology : Topology) (values : Readings) (takenAt : Instant) : Snapshot where
  takenAt := takenAt
  hardware := sortOn (fun h => h.hardware.id) <| topology.entries.map fun e =>
    ⟨e.1, readingsOf values takenAt e.2⟩

/-- All readings, in order. -/
def readings (s : Snapshot) : List SensorReading := s.hardware.flatMap fun h => h.sensors

/-- The number of readings. -/
def sensorCount (s : Snapshot) : Nat :=
  s.hardware.foldl (fun n h => n + h.sensors.length) 0

end Snapshot

end Telemetry
