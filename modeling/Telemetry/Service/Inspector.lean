import Telemetry.Coalesce.Shared
import Telemetry.Model.Hardware

/-! # Inspectors

An inspector lists the hardware of a machine and measures its sensors.  Each of
the two is a probe: a call of it takes its time and then yields what the probe
shows at that moment.  A probe may fail, die, or never answer, and it may or may
not heed the token it is handed.
-/

namespace Telemetry

/-- What goes wrong with a call. -/
inductive Fault where
  | failure (e : Error)
  /-- The call dies with a message. -/
  | panic (message : String)
deriving DecidableEq

/-- One kind of call to an inspector. -/
structure Probe (α : Type) where
  value : α
  fault : Option Fault
  /-- How long a call takes; `none` is forever. -/
  delay : Option Nat
  /-- Whether a call ends when its token is cancelled. -/
  heedsToken : Bool
  /-- The number of calls so far. -/
  calls : Nat

namespace Probe

variable {α : Type}

/-- A probe that shows a value at once. -/
def showing (value : α) : Probe α := ⟨value, none, some 0, true, 0⟩

/-- How a call ends now. -/
def ending (p : Probe α) : Ending α :=
  match p.fault with
  | none => .value p.value
  | some (.failure e) => .failure e
  | some (.panic message) => .panic message

/-- Goes on with a call that answers at moment `due`. -/
def resume (p : Probe α) (cancelled : Bool) (now : Nat) (due : Option Nat) :
    Progress (Option Nat) α :=
  if cancelled && p.heedsToken then .done (.failure .cancelled)
  else if due.any (· ≤ now) then .done p.ending
  else .pending due

/-- Begins a call. -/
def start (p : Probe α) (cancelled : Bool) (now : Nat) : Probe α × Progress (Option Nat) α :=
  ({ p with calls := p.calls + 1 }, p.resume cancelled now (p.delay.map (now + ·)))

end Probe

/-- The two probes of a machine. -/
structure Inspector where
  topology : Probe Topology
  readings : Probe Readings

/-- The inspector of a machine without hardware. -/
def Inspector.blank : Inspector := ⟨.showing .empty, .showing .empty⟩

end Telemetry
