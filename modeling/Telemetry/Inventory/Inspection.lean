import Telemetry.Inventory.Build
import Telemetry.Service.Cycle

/-! # Inspecting a machine

The inspector of a machine shows the inventory built from its readings.  On any
machine in working order some facts hold whatever it measures; `Machine.step`
asks an inspector and a daemon's poll for them.
-/

namespace Telemetry

/-- The inspector that shows an inventory. -/
def Inspector.ofInventory (inventory : Inventory) : Inspector :=
  ⟨.showing inventory.topology, .showing inventory.readings⟩

namespace Machine

/-- Something asked of a machine, with a token that may be cancelled. -/
inductive Question where
  | topology (cancelled : Bool)
  | readings (cancelled : Bool)
  | poll (cancelled : Bool)
  | clock

/-- What is known about the hardware of any machine. -/
structure TopologyFacts where
  memory : Option Hardware
  memorySensors : List Sensor
  processor : Option HardwareType
  processorFirst : Option Sensor
  /-- There is one more load than there are clocks. -/
  oneLoadMore : Bool
  /-- Every sensor names the hardware that lists it. -/
  owned : Bool

/-- What is known about the readings of any machine. -/
structure ReadingFacts where
  memoryShare : Bool
  memorySizes : Bool
  processorLoad : Bool
  finite : Bool

/-- What a question is answered with. -/
inductive Answer where
  | topology (facts : TopologyFacts)
  | readings (facts : ReadingFacts)
  /-- Whether everything was stored, and at least four samples. -/
  | poll (storedAll some_ : Bool)
  | clock (after2020 : Bool)
  | failed (e : Error)

/-- The hardware with an identifier and its sensors. -/
def find? (t : Topology) (id : String) : Option (Hardware × List Sensor) :=
  t.entries.find? fun e => e.1.id.text = id

/-- The facts about a topology. -/
def topologyFacts (t : Topology) : TopologyFacts :=
  let memory := find? t "/ram"
  let processor := find? t "/cpu/0"
  let sensors := (processor.map Prod.snd).getD []
  let count (kind : SensorType) := sensors.countP fun s => s.kind = kind
  { memory := memory.map Prod.fst
    memorySensors := (memory.map Prod.snd).getD []
    processor := processor.map fun e => e.1.kind
    processorFirst := sensors.head?
    oneLoadMore := count .load = count .clock + 1
    owned := t.entries.all fun e => e.2.all fun s => s.hardwareId = e.1.id }

/-- Whether the reading of a sensor passes a test. -/
def reads (r : Readings) (id : String) (test : Float → Bool) : Bool :=
  (r.find? ⟨id⟩).any test

/-- The facts about readings. -/
def readingFacts (r : Readings) : ReadingFacts where
  memoryShare := reads r "/ram/load/0" fun x => 0.0 ≤ x && x ≤ 100.0
  memorySizes := reads r "/ram/data/0" (0.0 < ·) && reads r "/ram/data/1" (0.0 < ·)
  processorLoad := reads r "/cpu/0/load/0" (0.0 ≤ ·)
  finite := r.entries.all fun e => e.2.isFinite

/-- The first instant of 2020. -/
def year2020 : Int := Date.toDays ⟨2020, 1, 1⟩ * 86400

/-- The answer to a call that waits for nothing. -/
def answerOf {σ α : Type} (answer : α → Answer) : Progress σ α → Answer
  | .done (.value v) => answer v
  | .done (.failure e) => .failed e
  | .done (.panic message) => .failed (.internal message)
  | .pending _ => .failed .cancelled

/-- The facts about a poll that leaves the shared world like this. -/
def pollFacts (w : World) : CycleYield → Answer
  | .stored count => .poll (count = w.store.sensorCount) (4 ≤ count)
  | _ => .poll false false

/-- Asks a question of the machine that a world inspects. -/
def ask (w : World) : Question → Answer
  | .topology cancelled =>
    answerOf (fun t => .topology (topologyFacts t))
      (w.inspector.topology.start cancelled w.now).2
  | .readings cancelled =>
    answerOf (fun r => .readings (readingFacts r))
      (w.inspector.readings.start cancelled w.now).2
  | .poll cancelled =>
    let (w, progress) := w.advanceCycle cancelled .poll .fresh
    answerOf (pollFacts w) progress
  | .clock => .clock (year2020 ≤ w.clock.seconds)

end Machine

end Telemetry
