import Telemetry.Time.Timestamp

/-! # Failures

The failures that travel between the store, the service, the daemon's interface
and the collector.  A failure that passes a layer gains that layer's name as
context; time-outs and cancellations keep their identity, so that whoever
receives them can still tell them apart.
-/

namespace Telemetry

/-- Why an operation did not succeed. -/
inductive Error where
  /-- A component was wired up with values it cannot work with. -/
  | construction (message : String)
  /-- A request asks for something that makes no sense. -/
  | validation (message : String)
  /-- A range whose start lies after its end. -/
  | invalidRange (first last : Instant)
  /-- An inspector, provider or store failed, with the layers it passed. -/
  | dependency (context message : String)
  /-- A limit of this length ran out. -/
  | timeout (limit : Span)
  | cancelled
  | internal (message : String)
deriving DecidableEq

/-- What an operation yields: a value, or why there is none. -/
abbrev Result (α : Type) := Except Error α

namespace Error

/-- The text of a failure. -/
def display : Error → String
  | construction m => "Construction error: " ++ m
  | validation m => "Validation error: " ++ m
  | invalidRange first last =>
    "Invalid range: <from> " ++ Timestamp.display first ++ " is after <to> " ++
      Timestamp.display last
  | dependency c m => "Upstream error: " ++ c ++ ": " ++ m
  | timeout limit => "Timed out after " ++ limit.text
  | cancelled => "Operation cancelled"
  | internal m => "Internal error: " ++ m

/-- The failure as the layer named `layer` passes it on. -/
def within (layer : String) : Error → Error
  | dependency c m => dependency (layer ++ ": " ++ c) m
  | timeout limit => timeout limit
  | cancelled => cancelled
  | e => dependency layer e.display

/-- Mistakes of the caller, which no repetition mends. -/
def isValidation : Error → Bool
  | validation _ | invalidRange .. => true
  | _ => false

/-- Failures that another attempt may overcome. -/
def isRetryable : Error → Bool
  | dependency .. | timeout _ => true
  | _ => false

/-- The HTTP status that a failure answers with. -/
def httpStatus : Error → Nat
  | validation _ | invalidRange .. => 400
  | dependency .. => 502
  | timeout _ => 504
  | cancelled => 503
  | construction _ | internal _ => 500

end Error

end Telemetry
