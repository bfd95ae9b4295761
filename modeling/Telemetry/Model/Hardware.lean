import Telemetry.Enumeration
import Telemetry.Model.Kind

/-! # Hardware and sensors

Identifiers are opaque texts that the inspector of a machine assigns.  Hardware
and sensors are compared field by field in the order of their declarations, and
texts by code points.
-/

namespace Telemetry

/-- The identifier of a sensor. -/
@[ext] structure SensorId where
  text : String
deriving DecidableEq, Repr, Inhabited

/-- The identifier of a piece of hardware. -/
@[ext] structure HardwareId where
  text : String
deriving DecidableEq, Repr, Inhabited

instance : Ord SensorId := ⟨compareOn SensorId.text⟩

instance : Std.TransOrd SensorId := inferInstanceAs (Std.TransCmp (compareOn SensorId.text))

instance : Std.LawfulEqOrd SensorId where
  compare_self {a} := show compare a.text a.text = .eq from Std.ReflCmp.compare_self
  eq_of_compare {a b} h := SensorId.ext <|
    Std.LawfulEqCmp.eq_of_compare (show compare a.text b.text = .eq from h)

instance : Ord HardwareId := ⟨compareOn HardwareId.text⟩

instance : Std.TransOrd HardwareId := inferInstanceAs (Std.TransCmp (compareOn HardwareId.text))

instance : Std.LawfulEqOrd HardwareId where
  compare_self {a} := show compare a.text a.text = .eq from Std.ReflCmp.compare_self
  eq_of_compare {a b} h := HardwareId.ext <|
    Std.LawfulEqCmp.eq_of_compare (show compare a.text b.text = .eq from h)

/-- A piece of hardware that carries sensors. -/
@[ext] structure Hardware where
  id : HardwareId
  name : String
  kind : HardwareType
deriving DecidableEq, Repr, Inhabited

/-- A sensor of a piece of hardware. -/
@[ext] structure Sensor where
  id : SensorId
  hardwareId : HardwareId
  name : String
  kind : SensorType
  maxValue : Int64
deriving DecidableEq, Inhabited

instance : Ord Hardware := ⟨fun a b =>
  (compare a.id b.id).then <| (compare a.name b.name).then (compare a.kind b.kind)⟩

instance : Ord Sensor := ⟨fun a b =>
  (compare a.id b.id).then <| (compare a.hardwareId b.hardwareId).then <|
    (compare a.name b.name).then <| (compare a.kind b.kind).then (compare a.maxValue b.maxValue)⟩

/-- The hardware of a machine, each with its sensors. -/
abbrev Topology := Enumeration Hardware (List Sensor)

/-- One raw reading per sensor. -/
abbrev Readings := Enumeration Sensor Float

/-- Sorts by a key, ascending; what has equal keys keeps its order. -/
def sortOn {α β : Type} [Ord β] (key : α → β) (l : List α) : List α :=
  l.mergeSort fun a b => (compare (key a) (key b)).isLE

theorem sortOn_perm {α β : Type} [Ord β] (key : α → β) (l : List α) : (sortOn key l).Perm l :=
  List.mergeSort_perm l _

end Telemetry
