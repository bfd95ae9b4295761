import Telemetry.Text.Blank
import Telemetry.Text.Quoted
import Telemetry.Toml.Reader

/-! # Reading configurations

A configuration is a table of sections.  A section is a table of fields, or an
array of its leading fields in order; what is missing takes its default, and
what is unknown does not matter.
-/

namespace Telemetry.Config

/-- What is wrong with the values of a configuration. -/
inductive Flaw where
  /-- A field that has to be positive is zero. -/
  | zero (field : String)
  | emptyListen
  | noHosts
  | emptyHost (host : String)
  | zeroCacheRetention
  | baseAboveMax
deriving DecidableEq

/-- The text of a flaw. -/
def Flaw.message : Flaw → String
  | zero field => field ++ " must be greater than 0"
  | emptyListen => "server.listen must not be empty"
  | noHosts => "hosts must list at least one sensord URL"
  | emptyHost host => "hosts contains an empty entry: " ++ Text.quoted host
  | zeroCacheRetention => "provider.cache_retention_ms must be greater than 0 when set"
  | baseAboveMax => "collect.base_ms must not exceed collect.max_ms"

/-- Why there is no configuration. -/
inductive LoadError where
  /-- The file cannot be read as text. -/
  | unreadable
  /-- The text is no document, or does not fit the fields. -/
  | unfit
  | flawed (flaw : Flaw)
deriving DecidableEq

/-- What the message about a file starts with. -/
def LoadError.context (path : String) : LoadError → String
  | unreadable => "Failed to read config " ++ path
  | unfit | flawed _ => "Invalid config " ++ path

/-- What stands at the path of a configuration. -/
inductive File where
  | missing
  /-- A directory, or bytes that are no text. -/
  | unreadable
  | text (content : String)

/-- The file with these bytes. -/
def File.ofBytes (bytes : ByteArray) : File :=
  match String.fromUTF8? bytes with
  | some content => .text content
  | none => .unreadable

/-- The first field of a list that is zero. -/
def firstZero (checks : List (String × Nat)) : Except Flaw Unit :=
  match checks.find? fun c => c.2 = 0 with
  | some c => .error (.zero c.1)
  | none => .ok ()

/-! ## Fields -/

/-- A text. -/
def asText : Toml → Option String
  | .string s => some s
  | _ => none

/-- A whole number below a bound. -/
def asNat (bound : Nat) : Toml → Option Nat
  | .integer n => if 0 ≤ n ∧ n < bound then some n.toNat else none
  | _ => none

/-- A whole number of 64 bits without sign. -/
def asUInt64 (t : Toml) : Option UInt64 := (asNat UInt64.size t).map UInt64.ofNat

/-- A whole number of 32 bits without sign. -/
def asUInt32 (t : Toml) : Option UInt32 := (asNat UInt32.size t).map UInt32.ofNat

/-- A list of texts. -/
def asTexts : Toml → Option (List String)
  | .array items => items.mapM asText
  | _ => none

/-- The fields of a section by their names.  A date counts as a table without
fields that anybody knows. -/
def section? (names : List String) : Toml → Option (List (Option Toml))
  | .table entries =>
    some (names.map fun name => (entries.find? fun e => e.1 = name).map Prod.snd)
  | .array items => some ((List.range names.length).map fun i => items[i]?)
  | .dateTime => some (names.map fun _ => none)
  | _ => none

/-- A field, or its default when it is missing. -/
def fieldOr {α : Type} (default : α) (read : Toml → Option α) : Option Toml → Option α
  | some t => read t
  | none => some default

/-- A section of a document, or its default when it is missing. -/
def sectionOr {α : Type} (default : α) (names : List String)
    (read : List (Option Toml) → Option α) : Option Toml → Option α
  | some t => (section? names t).bind read
  | none => some default

end Telemetry.Config
