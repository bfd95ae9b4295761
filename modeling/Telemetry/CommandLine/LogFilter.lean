import Telemetry.Number.Digits
import Telemetry.Text.Blank

/-! # Log filters

A filter is a list of directives, separated by commas.  A directive sets the
level for everything, or for the parts of a program whose names start with its
target; the longest target that fits decides.
-/

namespace Telemetry.CommandLine

/-- The level of a log line. -/
inductive LogLevel where
  | error
  | warn
  | info
  | debug
  | trace
deriving DecidableEq, Repr

namespace LogLevel

/-- The written name. -/
def name : LogLevel → String
  | error => "ERROR"
  | warn => "WARN"
  | info => "INFO"
  | debug => "DEBUG"
  | trace => "TRACE"

/-- The number of a level; zero stands for no lines at all. -/
def number : LogLevel → Nat
  | error => 1
  | warn => 2
  | info => 3
  | debug => 4
  | trace => 5

end LogLevel

/-- The lines that a directive lets through have at most this level; `none` lets
nothing through. -/
abbrev LevelLimit := Option LogLevel

/-- The limit with a number. -/
def LevelLimit.ofNumber? : Nat → Option LevelLimit
  | 0 => some none
  | 1 => some (some .error)
  | 2 => some (some .warn)
  | 3 => some (some .info)
  | 4 => some (some .debug)
  | 5 => some (some .trace)
  | _ => none

/-- The limits by name. -/
def LevelLimit.names : List (String × LevelLimit) :=
  [("off", none), ("error", some .error), ("warn", some .warn), ("info", some .info),
    ("debug", some .debug), ("trace", some .trace)]

/-- The number that digits write, perhaps behind a plus sign. -/
def readNumber? (cs : List Char) : Option Nat :=
  let digits := match cs with
    | '+' :: rest => rest
    | _ => cs
  if digits.isEmpty || !digits.all Digits.isDecimal then none else some (Digits.value digits)

/-- Reads a limit: a number or a name in letters of any case. -/
def LevelLimit.read? (cs : List Char) : Option LevelLimit :=
  match (readNumber? cs).bind LevelLimit.ofNumber? with
  | some limit => some limit
  | none => LevelLimit.names.lookup (String.ofList (cs.map Char.toLower))

/-- A directive. -/
inductive Directive where
  /-- A limit for the parts whose names start with the target, or for all. -/
  | level (target : Option String) (limit : LevelLimit)
  /-- A limit within a span, which says nothing about lines outside of it. -/
  | span
deriving DecidableEq

/-- Why a text is no directive. -/
inductive DirectiveFlaw where
  | malformed
  | level
deriving DecidableEq

/-- The text of a flaw. -/
def DirectiveFlaw.message : DirectiveFlaw → String
  | malformed => "invalid filter directive"
  | level => "error parsing level filter: expected one of \"off\", \"error\", \"warn\", " ++
      "\"info\", \"debug\", \"trace\", or a number 0-5"

namespace Directive

/-- Whether a directive can start with a character. -/
def canStart (c : Char) : Bool :=
  c.isAlphanum || c = '-' || c = ':' || c = '_' || (128 ≤ c.toNat && !Text.isBlank c)

/-- Reads the limit behind an equals sign; without one everything passes. -/
def readLimit (cs : List Char) : Except DirectiveFlaw LevelLimit :=
  if cs.isEmpty then .ok (some .trace)
  else match LevelLimit.read? cs with
    | some limit => .ok limit
    | none => .error .level

/-- Reads what follows a target that names a span. -/
def readSpan (cs : List Char) : Except DirectiveFlaw Directive :=
  match cs.dropWhile (· ≠ ']') with
  | [_] => .ok .span
  | _ :: '=' :: limit => (readLimit limit).map fun _ => .span
  | _ => .error .malformed

/-- Reads a directive: a limit for everything, a target whose lines all pass, or
a target with its limit. -/
def read (text : String) : Except DirectiveFlaw Directive :=
  let cs := text.toList
  match Text.trim cs with
  | [] => .error .malformed
  | c :: _ =>
    if c = '[' then readSpan cs
    else if !canStart c then .error .malformed
    else
      let target := cs.takeWhile fun c => c ≠ '=' && c ≠ '['
      match cs.dropWhile fun c => c ≠ '=' && c ≠ '[' with
      | [] =>
        match LevelLimit.read? cs with
        | some limit => .ok (.level none limit)
        | none => .ok (.level (some text) (some .trace))
      | '=' :: limit =>
        if cs.head? = some c then
          (readLimit limit).map (.level (some (String.ofList target)))
        else .error .level
      | rest => readSpan rest

end Directive

/-- A filter. -/
abbrev LogFilter := List Directive

namespace LogFilter

/-- The texts of the directives. -/
def split (text : String) : List String := (text.splitOn ",").filter (· ≠ "")

/-- The filter of these directives; without any only errors pass. -/
def ofDirectives (ds : List Directive) : LogFilter :=
  if ds.isEmpty then [.level none (some .error)] else ds

/-- Reads a filter that may hold no flaw. -/
def readStrict? (text : String) : Option LogFilter :=
  match (split text).mapM fun t => Directive.read t with
  | .ok ds => some (ofDirectives ds)
  | .error _ => none

/-- Reads a filter without the directives that are flawed, with a complaint for
each of those. -/
def readLoose (text : String) : LogFilter × List String :=
  let parts := (split text).map fun t => (t, Directive.read t)
  (ofDirectives (parts.filterMap fun p => p.2.toOption),
    parts.filterMap fun p => match p.2 with
      | .ok _ => none
      | .error flaw => some ("ignoring `" ++ p.1 ++ "`: " ++ flaw.message))

/-- How far the target of a directive fits a name, and its limit: by the length
of the target, and nothing beyond it for a directive about everything. -/
def fit? (name : String) : Directive → Option (Nat × LevelLimit)
  | .level none limit => some (0, limit)
  | .level (some target) limit =>
    if target.toList.isPrefixOf name.toList then some (target.utf8ByteSize + 1, limit) else none
  | .span => none

/-- The limit for a name: that of the directive that fits farthest, and of
equals that of the last. -/
def limitFor (f : LogFilter) (name : String) : LevelLimit :=
  ((f.filterMap (fit? name)).foldl (fun best e => match best with
    | some b => if e.1 < b.1 then some b else some e
    | none => some e) none).elim none Prod.snd

/-- Whether a line of a part of the program passes. -/
def passes (f : LogFilter) (name : String) (level : LogLevel) : Bool :=
  match f.limitFor name with
  | some limit => level.number ≤ limit.number
  | none => false

end LogFilter

end Telemetry.CommandLine
