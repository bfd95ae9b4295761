import Telemetry.Json.Reader
import Telemetry.Json.Writer
import Telemetry.Model.Report
import Telemetry.Time.Timestamp

/-! # The wire form of snapshots and reports

Snapshots and reports travel as compact JSON with the fields of a record in the
order of their declaration and the groups of a report in the order of the sensor
types.  Reading accepts a record as an object with each field exactly once, next
to fields it does not know, or as the array of its fields.
-/

namespace Telemetry

/-- Reads every element of a list. -/
def readAll {α : Type} (read : Json → Option α) (j : Json) : Option (List α) :=
  j.asArray?.bind fun items => items.mapM read

/-- A constructor without arguments: its name, or the object with its name alone
and the value null. -/
def readName {α : Type} (ofName? : String → Option α) : Json → Option α
  | .string (some s) => ofName? s
  | .object [(some s, .null)] => ofName? s
  | _ => none

namespace Instant

def toJson (t : Instant) : Json := .text (String.ofList (Timestamp.write t))

def ofJson? (j : Json) : Option Instant := j.asText?.bind fun s => Timestamp.read s.toList

end Instant

namespace Hardware

def fieldNames : List String := ["id", "name", "type"]

def toJson (h : Hardware) : Json :=
  .record [("id", .text h.id.text), ("name", .text h.name), ("type", .text h.kind.name)]

def ofJson? (j : Json) : Option Hardware :=
  match j.fields? fieldNames with
  | some [id, name, kind] => do
    let id ← id.asText?
    let name ← name.asText?
    let kind ← readName HardwareType.ofName? kind
    return ⟨⟨id⟩, name, kind⟩
  | _ => none

end Hardware

namespace Sensor

def fieldNames : List String := ["id", "hardware_id", "name", "type", "max_value"]

def toJson (s : Sensor) : Json :=
  .record [("id", .text s.id.text), ("hardware_id", .text s.hardwareId.text),
    ("name", .text s.name), ("type", .text s.kind.name), ("max_value", .int s.maxValue.toInt)]

def ofJson? (j : Json) : Option Sensor :=
  match j.fields? fieldNames with
  | some [id, hardwareId, name, kind, maxValue] => do
    let id ← id.asText?
    let hardwareId ← hardwareId.asText?
    let name ← name.asText?
    let kind ← readName SensorType.ofName? kind
    let maxValue ← maxValue.asInt64?
    return ⟨⟨id⟩, ⟨hardwareId⟩, name, kind, maxValue⟩
  | _ => none

end Sensor

namespace Sample

def fieldNames : List String := ["value", "timestamp"]

def toJson (s : Sample) : Json :=
  .record [("value", .int s.value.toInt), ("timestamp", s.timestamp.toJson)]

def ofJson? (j : Json) : Option Sample :=
  match j.fields? fieldNames with
  | some [value, timestamp] => do
    let value ← value.asInt64?
    let timestamp ← Instant.ofJson? timestamp
    return ⟨value, timestamp⟩
  | _ => none

end Sample

namespace SensorReading

def fieldNames : List String := ["sensor", "value"]

def toJson (r : SensorReading) : Json :=
  .record [("sensor", r.sensor.toJson), ("value", r.value.toJson)]

def ofJson? (j : Json) : Option SensorReading :=
  match j.fields? fieldNames with
  | some [sensor, value] => do
    let sensor ← Sensor.ofJson? sensor
    let value ← Sample.ofJson? value
    return ⟨sensor, value⟩
  | _ => none

end SensorReading

namespace HardwareReading

def fieldNames : List String := ["hardware", "sensors"]

def toJson (h : HardwareReading) : Json :=
  .record [("hardware", h.hardware.toJson),
    ("sensors", .array (h.sensors.map SensorReading.toJson))]

def ofJson? (j : Json) : Option HardwareReading :=
  match j.fields? fieldNames with
  | some [hardware, sensors] => do
    let hardware ← Hardware.ofJson? hardware
    let sensors ← readAll SensorReading.ofJson? sensors
    return ⟨hardware, sensors⟩
  | _ => none

end HardwareReading

namespace Snapshot

def fieldNames : List String := ["taken_at", "hardware"]

def toJson (s : Snapshot) : Json :=
  .record [("taken_at", s.takenAt.toJson),
    ("hardware", .array (s.hardware.map HardwareReading.toJson))]

def ofJson? (j : Json) : Option Snapshot :=
  match j.fields? fieldNames with
  | some [takenAt, hardware] => do
    let takenAt ← Instant.ofJson? takenAt
    let hardware ← readAll HardwareReading.ofJson? hardware
    return ⟨takenAt, hardware⟩
  | _ => none

/-- The compact text of a snapshot. -/
def encode (s : Snapshot) : String := s.toJson.write

/-- The snapshot that a text holds. -/
def decode (s : String) : Option Snapshot := (Json.read s).bind ofJson?

end Snapshot

namespace SensorHistory

def fieldNames : List String := ["sensor", "samples"]

def toJson (h : SensorHistory) : Json :=
  .record [("sensor", h.sensor.toJson), ("samples", .array (h.samples.map Sample.toJson))]

def ofJson? (j : Json) : Option SensorHistory :=
  match j.fields? fieldNames with
  | some [sensor, samples] => do
    let sensor ← Sensor.ofJson? sensor
    let samples ← readAll Sample.ofJson? samples
    return ⟨sensor, samples⟩
  | _ => none

end SensorHistory

namespace HardwareHistory

def fieldNames : List String := ["hardware", "sensors"]

/-- The groups as an object from the names of the types. -/
def groupsToJson (groups : SortedMap SensorType (List SensorHistory)) : Json :=
  .record (groups.entries.map fun g => (g.1.name, .array (g.2.map SensorHistory.toJson)))

/-- Reads groups; of a repeated name the last wins. -/
def groupsOfJson? (j : Json) : Option (SortedMap SensorType (List SensorHistory)) := do
  let members ← j.members?
  let groups ← members.mapM fun m => do
    let kind ← SensorType.ofName? m.1
    let histories ← readAll SensorHistory.ofJson? m.2
    return (kind, histories)
  return .ofList groups

def toJson (h : HardwareHistory) : Json :=
  .record [("hardware", h.hardware.toJson), ("sensors", groupsToJson h.sensors)]

def ofJson? (j : Json) : Option HardwareHistory :=
  match j.fields? fieldNames with
  | some [hardware, sensors] => do
    let hardware ← Hardware.ofJson? hardware
    let sensors ← groupsOfJson? sensors
    return ⟨hardware, sensors⟩
  | _ => none

end HardwareHistory

namespace Report

def fieldNames : List String := ["generated_at", "from", "to", "hardware"]

def toJson (r : Report) : Json :=
  .record [("generated_at", r.generatedAt.toJson), ("from", r.first.toJson),
    ("to", r.last.toJson), ("hardware", .array (r.hardware.map HardwareHistory.toJson))]

def ofJson? (j : Json) : Option Report :=
  match j.fields? fieldNames with
  | some [generatedAt, first, last, hardware] => do
    let generatedAt ← Instant.ofJson? generatedAt
    let first ← Instant.ofJson? first
    let last ← Instant.ofJson? last
    let hardware ← readAll HardwareHistory.ofJson? hardware
    return ⟨generatedAt, first, last, hardware⟩
  | _ => none

/-- The compact text of a report. -/
def encode (r : Report) : String := r.toJson.write

/-- The report that a text holds. -/
def decode (s : String) : Option Report := (Json.read s).bind ofJson?

end Report

end Telemetry
