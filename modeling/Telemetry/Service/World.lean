import Telemetry.Service.Inspector
import Telemetry.Store.Basic

/-! # What the parts of a daemon share

The clock, the inspector, the store and the two caches.  The moment `now` counts
milliseconds and drives timers; the clock tells the time that samples are
stamped with, and the two move independently.
-/

namespace Telemetry

/-- How far a call that lists the hardware has come. -/
inductive Listing where
  | fresh
  /-- The answer comes at a moment, if ever. -/
  | waiting (due : Option Nat)
deriving DecidableEq

/-- How far a survey of the machine has come: its hardware is listed, then measured. -/
inductive Survey where
  | fresh
  | listing (due : Option Nat)
  /-- Waits for a shared listing, by its number. -/
  | joined (number : Nat)
  | measuring (topology : Topology) (due : Option Nat)

/-- Faults of the store that can be switched on, for one sensor or for all. -/
structure StoreFaults where
  write : Option (Error × Option SensorId)
  range : Option (Error × Option SensorId)
  delete : Option Error

/-- A store without faults. -/
def StoreFaults.none : StoreFaults := ⟨.none, .none, .none⟩

/-- The failure that a fault means for a sensor. -/
def StoreFaults.hits (fault : Option (Error × Option SensorId)) (sensor : SensorId) :
    Option Error :=
  (fault.filter fun f => f.2.all (· = sensor)).map Prod.fst

/-- What the parts of a daemon share. -/
structure World where
  now : Nat
  clock : Instant
  inspector : Inspector
  store : Store
  faults : StoreFaults
  /-- How often the scheduler has asked the store to delete. -/
  deletes : Nat
  /-- The cache in front of the listing, if there is one. -/
  topology : Option (Shared Topology Listing)
  snapshots : Shared Snapshot Survey
  /-- Whether the daemon is shutting down. -/
  shutdown : Bool

namespace World

/-! ## The store behind its faults -/

/-- Writes a sample unless a fault prevents it. -/
def write (w : World) (sensor : SensorId) (sample : Sample) : World × Result Unit :=
  match StoreFaults.hits w.faults.write sensor with
  | some e => (w, .error e)
  | none => ({ w with store := w.store.write sensor sample }, .ok ())

/-- The samples of a sensor unless a fault hides them. -/
def range (w : World) (sensor : SensorId) (first last : Instant) : Result (List Sample) :=
  match StoreFaults.hits w.faults.range sensor with
  | some e => .error e
  | none => w.store.range sensor first last

/-- Deletes the samples before a cutoff unless a fault prevents it. -/
def deleteOlder (w : World) (cutoff : Instant) : World × Result (SortedMap SensorId Nat) :=
  let w := { w with deletes := w.deletes + 1 }
  match w.faults.delete with
  | some e => (w, .error e)
  | none => ({ w with store := w.store.deleteOlder cutoff }, .ok (w.store.olderCounts cutoff))

end World

end Telemetry
