import Telemetry.Error
import Telemetry.Text.Quoted

/-! # What calls come to

A call to an inspector or a provider takes some time, perhaps forever, and then
yields a value, fails, or panics.  Times are whole milliseconds of a clock that
starts at zero.  A script lists the calls of a source in order.
-/

namespace Telemetry

/-- How a call ends. -/
inductive Ending (α : Type) where
  | value (v : α)
  | failure (e : Error)
  /-- The call dies with a message. -/
  | panic (message : String)
deriving DecidableEq

namespace Ending

variable {α : Type}

/-- The ending that a result is. -/
def ofResult : Result α → Ending α
  | .ok v => .value v
  | .error e => .failure e

/-- What everybody who shares a call receives: a panic reaches them as an
internal failure that quotes the message. -/
def shared : Ending α → Result α
  | value v => .ok v
  | failure e => .error e
  | panic message => .error <| .internal <|
      "coalesced call did not complete: task # panicked with message " ++ Text.quoted message

end Ending

/-- One call of a script: how long it takes (`none` is forever) and how it ends. -/
structure Call (α : Type) where
  delay : Option Nat
  ending : Ending α
deriving DecidableEq

namespace Call

variable {α : Type}

/-- The call that never ends. -/
def hanging : Call α := ⟨none, .failure .cancelled⟩

instance : Inhabited (Call α) := ⟨hanging⟩

/-- The length and the outcome of a shared call under a limit.  A call that ends
just when the limit strikes is in time. -/
def limited (c : Call α) (limit : Span) : Nat × Result α :=
  match c.delay with
  | some d =>
    if d ≤ limit.limitMillis then (d, c.ending.shared)
    else (limit.limitMillis, .error (.timeout limit))
  | none => (limit.limitMillis, .error (.timeout limit))

end Call

/-- The calls of a source in order; the last one repeats. -/
structure Script (α : Type) where
  calls : List (Call α)
deriving DecidableEq

/-- The call with a number, counted from zero. -/
def Script.call {α : Type} (s : Script α) (n : Nat) : Call α :=
  (s.calls[n]?).getD (s.calls.getLast?.getD default)

end Telemetry
