import Telemetry.Text.Similarity

/-! # Options of a command

A command takes options with a value each, next to those for its help and its
version.  Arguments are read from left to right: the value of an option follows
it as an argument of its own, or behind an equals sign, or right behind its
letter.  Help, version and mistakes end the reading where they are met.
-/

namespace Telemetry.CommandLine

/-- An option with a value. -/
structure OptionSpec where
  long : String
  short : Option Char
  valueName : String
  help : String
  repeatable : Bool
  acceptsEmpty : Bool
deriving DecidableEq

/-- A command with its options. -/
structure Command where
  name : String
  about : String
  version : String
  options : List OptionSpec

/-- An option with its value, as usage texts show it. -/
def OptionSpec.usage (o : OptionSpec) : String := "--" ++ o.long ++ " <" ++ o.valueName ++ ">"

/-- A mistake in the arguments.  Some mistakes tell which options the usage text
shows. -/
inductive UsageError where
  | unexpected (argument : String) (similar : Option String) (shown : List String)
  | missingValue (option : OptionSpec)
  | unexpectedValue (value flag : String) (shown : List String)
  | repeated (option : OptionSpec)
deriving DecidableEq

/-- Why reading ends before the last argument. -/
inductive Stop where
  | help
  | version
  | mistake (e : UsageError)
deriving DecidableEq

/-- What has been read: the options given so far, in order, and one that waits
for its value or has just got it. -/
structure ReadState where
  given : List (OptionSpec × String)
  pending : Option (OptionSpec × Option String)
  /-- Whether two hyphens have ended the options. -/
  ended : Bool

/-- Nothing has been read. -/
def ReadState.start : ReadState := ⟨[], none, false⟩

namespace ReadState

/-- Takes an option with its value. -/
def give (s : ReadState) (o : OptionSpec) (value : String) : Except Stop ReadState :=
  if !o.repeatable && s.given.any (fun g => g.1 = o) then .error (.mistake (.repeated o))
  else if value.isEmpty && !o.acceptsEmpty then .error (.mistake (.missingValue o))
  else .ok { s with given := s.given ++ [(o, value)] }

/-- Takes the option that is pending. -/
def resolve (s : ReadState) : Except Stop ReadState :=
  match s.pending with
  | none => .ok s
  | some (o, none) => .error (.mistake (.missingValue o))
  | some (o, some value) => { s with pending := none }.give o value

/-- The options given so far as usage texts show them, each once. -/
def shown (s : ReadState) : List String := (s.given.map fun g => g.1.usage).eraseDups

/-- The help or the version is asked for. -/
def stop (s : ReadState) (reason : Stop) : Except Stop ReadState := do
  let _ ← s.resolve
  .error reason

/-- An option is met, with the value that is attached to it. -/
def meet (s : ReadState) (o : OptionSpec) (attached : Option String) : Except Stop ReadState := do
  let s ← s.resolve
  match attached with
  | some value => s.give o value
  | none => return { s with pending := some (o, none) }

end ReadState

namespace Command

/-- The flags that every command has, with what they do. -/
def flags : List (String × Char × Stop) := [("help", 'h', .help), ("version", 'V', .version)]

/-- All long names with their usage, in order. -/
def longs (c : Command) : List (String × String) :=
  c.options.map (fun o => (o.long, o.usage)) ++ flags.map fun f => (f.1, "--" ++ f.1)

/-- The long name most like a given one, if one is like it; of equals the last. -/
def similar (c : Command) (name : String) : Option (String × String) :=
  let alike := c.longs.map fun l => (Text.similarity name l.1, l)
  ((alike.filter fun e => 0.7 < e.1).foldl (fun best e => match best with
    | some b => if e.1 < b.1 then some b else some e
    | none => some e) none).map Prod.snd

/-- A long name that no option has. -/
def unknownLong (c : Command) (s : ReadState) (name : String) : Stop :=
  match c.similar name with
  | some (long, usage) =>
    .mistake (.unexpected ("--" ++ name) (some ("--" ++ long)) (s.shown ++ [usage]).eraseDups)
  | none => .mistake (.unexpected ("--" ++ name) none s.shown)

/-- An argument with a long name, and perhaps with a value behind an equals sign. -/
def readLong (c : Command) (s : ReadState) (name : String) (value : Option String) :
    Except Stop ReadState :=
  match c.options.find? fun o => o.long = name with
  | some o => s.meet o value
  | none =>
    match flags.find? fun f => f.1 = name, value with
    | some f, none => s.stop f.2.2
    | some f, some value =>
      let flag := "--" ++ f.1
      .error (.mistake (.unexpectedValue value flag (s.shown ++ [flag])))
    | none, _ => .error (c.unknownLong s name)

/-- An argument that starts with the letter of an option. -/
def readShort (c : Command) (s : ReadState) (letter : Char) (rest : List Char) :
    Except Stop ReadState :=
  match c.options.find? fun o => o.short = some letter with
  | some o =>
    match rest with
    | [] => s.meet o none
    | '=' :: value => s.meet o (some (String.ofList value))
    | value => s.meet o (some (String.ofList value))
  | none =>
    match flags.find? fun f => f.2.1 = letter with
    | some f => s.stop f.2.2
    | none => .error (.mistake (.unexpected (String.ofList ['-', letter]) none []))

/-- An argument that is no option: the value that one waits for, or a mistake. -/
def readPlain (s : ReadState) (argument : String) : Except Stop ReadState :=
  match s.ended, s.pending with
  | false, some (o, none) => .ok { s with pending := some (o, some argument) }
  | _, _ => .error (.mistake (.unexpected argument none []))

/-- Reads one argument. -/
def readArgument (c : Command) (s : ReadState) (argument : String) : Except Stop ReadState :=
  if s.ended then readPlain s argument
  else match argument.toList with
    | ['-', '-'] => .ok { s with ended := true }
    | '-' :: '-' :: long =>
      let name := String.ofList (long.takeWhile (· ≠ '='))
      match long.dropWhile (· ≠ '=') with
      | _ :: value => c.readLong s name (some (String.ofList value))
      | [] => c.readLong s name none
    | '-' :: letter :: rest => c.readShort s letter rest
    | _ => readPlain s argument

/-- The options that arguments give, in order, or why reading stops. -/
def read (c : Command) (arguments : List String) : Except Stop (List (OptionSpec × String)) := do
  let s ← arguments.foldlM c.readArgument .start
  return (← s.resolve).given

/-! ## Texts -/

/-- The text for the version. -/
def versionText (c : Command) : String := c.name ++ " " ++ c.version ++ "\n"

/-- The usage of a command with some of its options. -/
def usage (c : Command) (shown : List String) : String :=
  "Usage: " ++ c.name ++ " " ++
    if shown.isEmpty then "[OPTIONS]" else String.intercalate " " shown

/-- The lines of the help text, each an option with what it means. -/
def helpLines (c : Command) : List (String × String) :=
  c.options.map (fun o => ((match o.short with
      | some letter => String.ofList ['-', letter, ',', ' ']
      | none => "    ") ++ o.usage, o.help)) ++
    [("-h, --help", "Print help"), ("-V, --version", "Print version")]

/-- Fills a text up with blanks. -/
def padded (width : Nat) (s : String) : String :=
  s ++ String.ofList (List.replicate (width - s.length) ' ')

/-- The help text. -/
def helpText (c : Command) : String :=
  let lines := c.helpLines
  let width := (lines.map fun l => l.1.length).foldl max 0
  c.about ++ "\n\n" ++ c.usage [] ++ "\n\nOptions:\n" ++
    String.join (lines.map fun l => "  " ++ padded width l.1 ++ "  " ++ l.2 ++ "\n")

/-- The text for a mistake. -/
def mistakeText (c : Command) (e : UsageError) : String :=
  let body := match e with
    | .unexpected argument similar shown =>
      "unexpected argument '" ++ argument ++ "' found\n\n" ++
        (match similar with
          | some s => "  tip: a similar argument exists: '" ++ s ++ "'\n\n"
          | none => "") ++
        c.usage shown ++ "\n\n"
    | .missingValue option =>
      "a value is required for '" ++ option.usage ++ "' but none was supplied\n\n"
    | .unexpectedValue value flag shown =>
      "unexpected value '" ++ value ++ "' for '" ++ flag ++
        "' found; no more were expected\n\n" ++ c.usage shown ++ "\n\n"
    | .repeated option =>
      "the argument '" ++ option.usage ++ "' cannot be used multiple times\n\n" ++
        c.usage [] ++ "\n\n"
  "error: " ++ body ++ "For more information, try '--help'.\n"

end Command

end Telemetry.CommandLine
