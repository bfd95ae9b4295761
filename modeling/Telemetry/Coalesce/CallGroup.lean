import Telemetry.SortedMap
import Telemetry.Call.Script

/-! # One call per key

A call group lets concurrent calls for one key share a single call in flight: a
call for a key that is in flight joins it, any other starts its own.  Every
flight has a number, and the end of a call takes a flight out of the table only
if it is the call's own.
-/

namespace Telemetry

/-- A flight as the table of a group lists it. -/
structure Entry (φ : Type) where
  id : Nat
  call : φ

/-- The calls in flight, one per key at most. -/
structure CallGroup (κ φ : Type) [Ord κ] where
  flights : SortedMap κ (Entry φ)
  /-- The number that the next flight will have. -/
  nextId : Nat

namespace CallGroup

variable {κ φ : Type} [Ord κ]

/-- The group without calls. -/
def empty : CallGroup κ φ := ⟨.empty, 0⟩

/-- The flight for a key. -/
def find? (g : CallGroup κ φ) (k : κ) : Option (Entry φ) := g.flights.find? k

/-- Whether a call for a key is in flight. -/
def isInFlight (g : CallGroup κ φ) (k : κ) : Bool := (g.find? k).isSome

/-- The number of calls in flight. -/
def inFlightCount (g : CallGroup κ φ) : Nat := g.flights.size

/-- Puts a call into the table under the next number. -/
def launch [Std.TransOrd κ] [Std.LawfulEqOrd κ] (g : CallGroup κ φ) (k : κ) (call : φ) :
    CallGroup κ φ :=
  ⟨g.flights.insert k ⟨g.nextId, call⟩, g.nextId + 1⟩

/-- Takes the flight with a number out of the table, unless the table lists
another one for its key. -/
def land (g : CallGroup κ φ) (k : κ) (id : Nat) : CallGroup κ φ :=
  if (g.find? k).map Entry.id = some id then { g with flights := g.flights.erase k } else g

end CallGroup

end Telemetry
