import Telemetry.Error
import Telemetry.Model.Snapshot
import Telemetry.SortedMap

/-! # The sample store

A store keeps the samples of every sensor in the order of time, one sample per
instant.  A sensor is known from its first sample until the store is closed,
also when all of its samples have been deleted.
-/

namespace Telemetry

/-- The values of a sensor by instant. -/
abbrev Series := SortedMap Instant Int64

/-- The series of every sensor that has been written to. -/
@[ext] structure Store where
  series : SortedMap SensorId Series

namespace Store

/-- The store without sensors. -/
def empty : Store := ⟨.empty⟩

instance : Inhabited Store := ⟨empty⟩

/-- The series of a sensor; an unknown sensor has none. -/
def seriesOf (s : Store) (sensor : SensorId) : Series := (s.series.find? sensor).getD .empty

/-- Writes a sample, over an earlier one of the same instant. -/
def write (s : Store) (sensor : SensorId) (sample : Sample) : Store :=
  ⟨s.series.insert sensor ((s.seriesOf sensor).insert sample.timestamp sample.value)⟩

/-- The samples of a sensor between two instants, both included, in order. -/
def range (s : Store) (sensor : SensorId) (first last : Instant) : Result (List Sample) :=
  if last < first then .error (.invalidRange first last)
  else .ok <| ((s.seriesOf sensor).filter fun t _ => first ≤ t && t ≤ last).entries.map
    fun e => ⟨e.2, e.1⟩

/-- Deletes the samples before a cutoff. -/
def deleteOlder (s : Store) (cutoff : Instant) : Store :=
  ⟨s.series.map fun _ series => series.filter fun t _ => cutoff ≤ t⟩

/-- How many samples of every sensor lie before a cutoff. -/
def olderCounts (s : Store) (cutoff : Instant) : SortedMap SensorId Nat :=
  s.series.map fun _ series => (series.filter fun t _ => t < cutoff).size

/-- The number of sensors that are known. -/
def sensorCount (s : Store) : Nat := s.series.size

/-- The number of samples of a sensor. -/
def sampleCount (s : Store) (sensor : SensorId) : Nat := (s.seriesOf sensor).size

end Store

end Telemetry
