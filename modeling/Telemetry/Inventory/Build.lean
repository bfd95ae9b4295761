import Telemetry.Inventory.Label
import Telemetry.Model.Snapshot

/-! # The inventory of a machine

What was read from a machine becomes hardware with sensors: the processor with
its loads, clocks and temperatures, the memory, and the board with all other
temperatures.  Each sensor comes with its reading.  A reading that is no finite
number drops its sensor, and hardware without sensors is left out.
-/

namespace Telemetry

/-- One core of a processor. -/
structure CoreReading where
  load : Float32
  mhz : Nat

/-- One thermal component. -/
structure ThermalReading where
  label : String
  celsius : Float32
  max : Float32
  critical : Option Float32

/-- Everything read from a machine at one time. -/
structure MachineReadings where
  cpuBrand : String
  totalLoad : Float32
  cores : List CoreReading
  totalMemory : Nat
  usedMemory : Nat
  availableMemory : Nat
  thermal : List ThermalReading

/-- A sensor with its raw reading. -/
abbrev RawReading := Sensor × Float

/-- Hardware with the raw readings of its sensors. -/
abbrev Inventory := List (Hardware × List RawReading)

namespace Inventory

/-- The number of bytes that count as a gigabyte. -/
def gigabyte : Float := 1024.0 * 1024.0 * 1024.0

/-- A sensor of a piece of hardware, named by what follows the hardware's
identifier in its own. -/
def sensor (hardware : Hardware) (suffix name : String) (kind : SensorType) (maxValue : Int64)
    (value : Float) : RawReading :=
  (⟨⟨hardware.id.text ++ "/" ++ suffix⟩, hardware.id, name, kind, maxValue⟩, value)

/-- Whether a reading is a finite number. -/
def isReadable (r : RawReading) : Bool := (Binary64.ofFloat r.2).isFinite

/-- A limit counts when it is finite and positive. -/
def usableLimit (x : Float32) : Bool :=
  (Binary64.ofFloat (widen x)).isFinite && 0.0 < widen x

/-- The limit of a thermal component: the critical temperature, or else the
highest seen, rounded; zero when neither counts. -/
def thermalLimit (t : ThermalReading) : Int64 :=
  match t.critical.filter usableLimit with
  | some c => roundToInt64 (widen c)
  | none => if usableLimit t.max then roundToInt64 (widen t.max) else 0

/-- What follows the hardware's identifier for the n-th component with a slug. -/
def thermalSuffix (slug : String) (n : Nat) : String :=
  if n = 1 then "temperature/" ++ slug
  else "temperature/" ++ slug ++ "_" ++ String.ofList (Digits.ofNat n)

/-- The temperatures of a piece of hardware.  Components with one slug are
numbered in order, those without a reading included; `seen` holds the slugs of
the components before. -/
def temperatures (hardware : Hardware) : (seen : List String) → List ThermalReading →
    List RawReading
  | _, [] => []
  | seen, t :: rest =>
    let slug := Label.slug t.label
    sensor hardware (thermalSuffix slug (seen.count slug + 1)) t.label .temperature
        (thermalLimit t) (widen t.celsius) ::
      temperatures hardware (slug :: seen) rest

/-- The loads and clocks of the cores, the first of which has number `n`. -/
def coreReadings (hardware : Hardware) : (n : Nat) → List CoreReading → List RawReading
  | _, [] => []
  | n, core :: rest =>
    let number := String.ofList (Digits.ofNat n)
    let name := "CPU Core #" ++ number
    sensor hardware ("load/" ++ number) name .load 100 (widen core.load) ::
      sensor hardware ("clock/" ++ number) name .clock 0 (Float.ofNat core.mhz) ::
        coreReadings hardware (n + 1) rest

/-- The processor of a machine. -/
def cpu (m : MachineReadings) : Hardware :=
  ⟨⟨"/cpu/0"⟩, if m.cpuBrand.isEmpty then "Unknown CPU" else m.cpuBrand, .cpu⟩

/-- The memory of a machine. -/
def ram : Hardware := ⟨⟨"/ram"⟩, "Generic Memory", .ram⟩

/-- The board of a machine. -/
def board : Hardware := ⟨⟨"/lpc/0"⟩, "Super I/O", .superIo⟩

/-- The memory's use in percent and in gigabytes; nothing without memory. -/
def memoryReadings (m : MachineReadings) : List RawReading :=
  if m.totalMemory = 0 then []
  else
    let total := Float.ofNat m.totalMemory
    let capacity := roundToInt64 (total / gigabyte)
    let used := Float.ofNat m.usedMemory
    [sensor ram "load/0" "Memory" .load 100 (used / total * 100.0),
      sensor ram "data/0" "Memory Used" .data capacity (used / gigabyte),
      sensor ram "data/1" "Memory Available" .data capacity
        (Float.ofNat m.availableMemory / gigabyte)]

/-- The hardware of a machine, each with all its sensors. -/
def candidates (m : MachineReadings) : Inventory :=
  let cpu := cpu m
  [(cpu, sensor cpu "load/0" "CPU Total" .load 100 (widen m.totalLoad) ::
      coreReadings cpu 1 m.cores ++
        temperatures cpu [] (m.thermal.filter fun t => Label.isCpu t.label)),
    (ram, memoryReadings m),
    (board, temperatures board [] (m.thermal.filter fun t => !Label.isCpu t.label))]

/-- The inventory of a machine. -/
def build (m : MachineReadings) : Inventory :=
  ((candidates m).map fun h => (h.1, h.2.filter isReadable)).filter fun h => !h.2.isEmpty

/-- The topology that an inventory shows. -/
def topology (inventory : Inventory) : Topology :=
  .ofList (inventory.map fun h => (h.1, h.2.map Prod.fst))

/-- The readings that an inventory shows. -/
def readings (inventory : Inventory) : Readings := .ofList (inventory.flatMap Prod.snd)

end Inventory

end Telemetry
