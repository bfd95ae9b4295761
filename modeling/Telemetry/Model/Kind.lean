/-! # Kinds of hardware and of sensors

Closed lists of what hardware and sensors can be.  The order of the constructors
is the order in which reports list them; the names are those of the wire form.
-/

namespace Telemetry

/-- What a piece of hardware is. -/
inductive HardwareType where
  | unknown | motherboard | superIo | cpu | gpu | tBalancer | heatMaster | hdd | ram
  | network | memory | storage | battery
deriving DecidableEq, Repr, Inhabited

/-- What a sensor measures. -/
inductive SensorType where
  | unknown | voltage | clock | temperature | load | fan | flow | control | level | power
  | smallData | throughput | data | factor | energy | current
deriving DecidableEq, Repr, Inhabited

/-- The unit of a sensor's values. -/
inductive MeasureUnit where
  | unknown | volt | megahertz | celsius | percentage | revolutionsPerMinute | litersPerHour
  | watts | gigabytes | megabytes | kilobytesPerSecond | milliwattHours | amperes
deriving DecidableEq, Repr, Inhabited

namespace HardwareType

/-- Every type, in order. -/
def all : List HardwareType :=
  [unknown, motherboard, superIo, cpu, gpu, tBalancer, heatMaster, hdd, ram, network, memory,
    storage, battery]

/-- The written name. -/
def name : HardwareType → String
  | unknown => "unknown"
  | motherboard => "motherboard"
  | superIo => "super_io"
  | cpu => "cpu"
  | gpu => "gpu"
  | tBalancer => "t_balancer"
  | heatMaster => "heat_master"
  | hdd => "hdd"
  | ram => "ram"
  | network => "network"
  | memory => "memory"
  | storage => "storage"
  | battery => "battery"

/-- The type with a written name. -/
def ofName? (s : String) : Option HardwareType := all.find? fun t => t.name = s

theorem ofName?_name (t : HardwareType) : ofName? t.name = some t := by cases t <;> decide

instance : Ord HardwareType := ⟨compareOn HardwareType.ctorIdx⟩

end HardwareType

namespace MeasureUnit

/-- Every unit, in order. -/
def all : List MeasureUnit :=
  [unknown, volt, megahertz, celsius, percentage, revolutionsPerMinute, litersPerHour, watts,
    gigabytes, megabytes, kilobytesPerSecond, milliwattHours, amperes]

/-- The written name. -/
def name : MeasureUnit → String
  | unknown => "unknown"
  | volt => "volt"
  | megahertz => "megahertz"
  | celsius => "celsius"
  | percentage => "percentage"
  | revolutionsPerMinute => "revolutions_per_minute"
  | litersPerHour => "liters_per_hour"
  | watts => "watts"
  | gigabytes => "gigabytes"
  | megabytes => "megabytes"
  | kilobytesPerSecond => "kilobytes_per_second"
  | milliwattHours => "milliwatt_hours"
  | amperes => "amperes"

/-- The unit with a written name. -/
def ofName? (s : String) : Option MeasureUnit := all.find? fun t => t.name = s

/-- The symbol that stands behind a value. -/
def symbol : MeasureUnit → String
  | unknown => ""
  | volt => "V"
  | megahertz => "MHz"
  | celsius => "°C"
  | percentage => "%"
  | revolutionsPerMinute => "RPM"
  | litersPerHour => "L/h"
  | watts => "W"
  | gigabytes => "GB"
  | megabytes => "MB"
  | kilobytesPerSecond => "KB/s"
  | milliwattHours => "mWh"
  | amperes => "A"

end MeasureUnit

namespace SensorType

/-- Every type, in order. -/
def all : List SensorType :=
  [unknown, voltage, clock, temperature, load, fan, flow, control, level, power, smallData,
    throughput, data, factor, energy, current]

/-- The written name. -/
def name : SensorType → String
  | unknown => "unknown"
  | voltage => "voltage"
  | clock => "clock"
  | temperature => "temperature"
  | load => "load"
  | fan => "fan"
  | flow => "flow"
  | control => "control"
  | level => "level"
  | power => "power"
  | smallData => "small_data"
  | throughput => "throughput"
  | data => "data"
  | factor => "factor"
  | energy => "energy"
  | current => "current"

/-- The type with a written name. -/
def ofName? (s : String) : Option SensorType := all.find? fun t => t.name = s

theorem ofName?_name (t : SensorType) : ofName? t.name = some t := by cases t <;> decide

/-- The unit of a type's values. -/
def unit : SensorType → MeasureUnit
  | voltage => .volt
  | clock => .megahertz
  | temperature => .celsius
  | load | control | level => .percentage
  | fan => .revolutionsPerMinute
  | flow => .litersPerHour
  | power => .watts
  | smallData => .megabytes
  | throughput => .kilobytesPerSecond
  | data => .gigabytes
  | energy => .milliwattHours
  | current => .amperes
  | factor | unknown => .unknown

instance : Ord SensorType := ⟨compareOn SensorType.ctorIdx⟩

instance : Std.TransOrd SensorType :=
  inferInstanceAs (Std.TransCmp (compareOn SensorType.ctorIdx))

theorem ctorIdx_inj {a b : SensorType} (h : a.ctorIdx = b.ctorIdx) : a = b := by
  rw [← ofNat_ctorIdx a, ← ofNat_ctorIdx b, h]

instance : Std.LawfulEqOrd SensorType where
  compare_self := Nat.compare_eq_eq.mpr rfl
  eq_of_compare h := ctorIdx_inj (Nat.compare_eq_eq.mp h)

end SensorType

end Telemetry
