import Telemetry.Collector.Loop
import Telemetry.Collector.HttpProvider
import Telemetry.CommandLine.LogFilter
import Telemetry.CommandLine.Options
import Telemetry.Config.Collector
import Telemetry.Config.Daemon
import Telemetry.Daemon.Task
import Telemetry.Http.Listen

/-! # The two programs

What the daemon and the collector do from their start until they serve: they
read their options and their configuration, set up their parts, and log what
they do.  A server that cannot listen ends its program in good order.
-/

namespace Telemetry.CommandLine

/-- What a program finds around it. -/
structure Surroundings where
  /-- The file at a path. -/
  file : String → Config.File
  /-- Why a file that is there cannot be read. -/
  unreadable : String
  /-- The log filter that overrides the configured one, if it is readable. -/
  logFilter : Option String
  /-- Why hosts cannot be reached. -/
  noConnection : String

/-- A line in the log. -/
structure LogLine where
  level : LogLevel
  message : String
deriving DecidableEq

/-- What a program leaves behind. -/
structure Outcome where
  exit : Nat
  stdout : String
  stderr : String
  log : List LogLine
  /-- Whether the program goes on serving. -/
  serving : Bool := false

namespace Outcome

/-- A program that ends with a text on its output. -/
def said (text : String) : Outcome := ⟨0, text, "", [], false⟩

/-- A program that ends with a text on its error output. -/
def complained (exit : Nat) (text : String) : Outcome := ⟨exit, "", text, [], false⟩

end Outcome

/-- The text of a number. -/
def numeral (n : Nat) : String := String.ofList (Digits.ofNat n)

/-- The text of a failure with its cause. -/
def failureText (message : String) (cause : Option String) : String :=
  "Error: " ++ message ++ "\n" ++
    match cause with
    | some c => "\nCaused by:\n    " ++ c ++ "\n"
    | none => ""

/-- Why a run ended before it could serve, after the lines logged so far. -/
structure Failure where
  log : List LogLine
  message : String
  cause : Option String

/-- How a run went: it failed, it logged these lines and ended, or it serves. -/
inductive RunEnd where
  | failed (f : Failure)
  | finished (log : List LogLine)
  | serving (log : List LogLine)

/-- The outcome of a run whose log passes through a filter; complaints about the
filter come before everything else. -/
def RunEnd.outcome (filter : LogFilter) (complaints : List String) (part : String)
    (e : RunEnd) : Outcome :=
  let passing (log : List LogLine) := log.filter fun l => filter.passes part l.level
  let complaint := String.join (complaints.map (· ++ "\n"))
  match e with
  | .failed f => ⟨1, "", complaint ++ failureText f.message f.cause, passing f.log, false⟩
  | .finished log => ⟨0, "", complaint, passing log, false⟩
  | .serving log => ⟨0, "", complaint, passing log, true⟩

/-- The filter of a run: the one around it if it is readable, else the configured
one. -/
def chooseFilter (s : Surroundings) (configured : String) : LogFilter × List String :=
  match s.logFilter.bind LogFilter.readStrict? with
  | some filter => (filter, [])
  | none => LogFilter.readLoose configured

/-- What is written about a configuration that cannot be loaded. -/
def loadFailure (s : Surroundings) (path : String) (e : Config.LoadError) : String :=
  failureText (e.context path) <| some <| match e with
    | .unreadable => s.unreadable
    | .unfit => "invalid document"
    | .flawed flaw => flaw.message

/-- What a starting program logs about itself and its configuration. -/
def bootLines (command : Command) (path : String) (file : Config.File) : List LogLine :=
  [⟨.info, "[BOOT] " ++ command.name ++ " v" ++ command.version ++ " starting..."⟩,
    match file with
    | .missing => ⟨.warn, "[BOOT] No config at " ++ path ++ ", using defaults"⟩
    | _ => ⟨.info, "[BOOT] Config loaded from " ++ path⟩]

/-- The end of a run whose server `name` listens at an address. -/
def serve (command : Command) (name address : String) (log : List LogLine) : RunEnd :=
  match Http.listenFlaw? address with
  | none => .serving log
  | some flaw =>
    .finished (log ++ [
      ⟨.error, name ++ " server failed: " ++ Http.bindFailure address ++ ": " ++ flaw.message⟩,
      ⟨.info, command.name ++ " stopped"⟩])

/-- The option for the configuration file. -/
def configOption (path : String) : OptionSpec where
  long := "config"
  short := some 'c'
  valueName := "CONFIG"
  help := "Path to config file [default: " ++ path ++ "]"
  repeatable := false
  acceptsEmpty := false

/-- The last value given for an option. -/
def lastValue (given : List (OptionSpec × String)) (long : String) : Option String :=
  ((given.filter fun g => g.1.long = long).getLast?).map Prod.snd

/-- The values given for an option. -/
def allValues (given : List (OptionSpec × String)) (long : String) : List String :=
  (given.filter fun g => g.1.long = long).map Prod.snd

/-- Runs a command on arguments: its help, its version and mistakes are answered
at once. -/
def Command.run (c : Command) (arguments : List String)
    (body : List (OptionSpec × String) → Outcome) : Outcome :=
  match c.read arguments with
  | .error .help => .said c.helpText
  | .error .version => .said c.versionText
  | .error (.mistake e) => .complained 2 (c.mistakeText e)
  | .ok given => body given

/-! ## The daemon -/

namespace DaemonProgram

/-- Where the configuration of the daemon is looked for. -/
def configPath : String := "/etc/sensord/config.toml"

/-- The command of the daemon. -/
def command : Command where
  name := "sensord"
  about := "Hardware sensor telemetry daemon"
  version := Api.version
  options := [configOption configPath,
    ⟨"listen", none, "LISTEN", "Override the HTTP listen address", false, true⟩]

/-- The settings of a daemon with a configuration. -/
def settings (c : DaemonConfig) (clock : Instant) : DaemonSettings where
  clock := clock
  topologyCache := some (c.cacheRetention, c.fetchTimeout)
  retentionInterval := c.retentionInterval
  retentionWindow := c.retentionWindow
  snapshotRetention := c.cacheRetention
  snapshotFetchTimeout := c.fetchTimeout
  requestTimeout := c.requestTimeout

/-- Sets up the daemon and serves. -/
def start (c : DaemonConfig) (boot : List LogLine) : RunEnd :=
  let failed (message : String) (e : Error) : RunEnd := .failed ⟨boot, message, some e.display⟩
  match CacheSettings.create c.cacheRetention c.fetchTimeout with
  | .error e => failed "Failed to set up hardware inspector" e
  | .ok _ =>
    match Retention.create c.retentionInterval c.retentionWindow with
    | .error e => failed "Failed to set up retention scheduler" e
    | .ok _ =>
      serve command "HTTP" c.listen (boot ++ [
        ⟨.info, "[BOOT] Retention active (" ++ numeral c.retentionWindowSecs.toNat ++
          "s window, every " ++ numeral c.retentionIntervalSecs.toNat ++ "s)"⟩,
        ⟨.info, "[BOOT] Polling every " ++ numeral c.pollIntervalMs.toNat ++ "ms"⟩])

/-- The daemon on its arguments. -/
def run (s : Surroundings) (arguments : List String) : Outcome :=
  command.run arguments fun given =>
    let path := (lastValue given "config").getD configPath
    match DaemonConfig.load (s.file path) with
    | .error e => .complained 1 (loadFailure s path e)
    | .ok c =>
      let c := { c with listen := (lastValue given "listen").getD c.listen }
      let (filter, complaints) := chooseFilter s c.logLevel
      (start c (bootLines command path (s.file path))).outcome filter complaints "sensord"

end DaemonProgram

/-! ## The collector -/

namespace CollectorProgram

/-- Where the configuration of the collector is looked for. -/
def configPath : String := "/etc/sensor-collector/config.toml"

/-- The command of the collector. -/
def command : Command where
  name := "sensor-collector"
  about := "Collect sensor values from sensord hosts into Prometheus"
  version := Api.version
  options := [configOption configPath,
    ⟨"host", none, "HOSTS", "Hosts to collect from (replaces the configured list)", true, true⟩]

/-- Sets up the provider for a host, which is kept also when it cannot be reached
yet, and the line logged about that. -/
def provide (s : Surroundings) (c : CollectorConfig) (host : String) :
    Result (HttpProvider × List LogLine) := do
  let (p, log) ← match HttpProvider.connect host c.requestTimeout s.noConnection with
    | .ok p => .ok (p, [])
    | .error e =>
      (HttpProvider.create host c.requestTimeout).map fun p =>
        (p, [⟨.warn, "[BOOT] Health check for " ++ host ++ " failed: " ++ e.display⟩])
  let _ ← p.cacheSettings c.cacheRetention
  return (p, log)

/-- Sets up the providers for hosts in order. -/
def provideAll (s : Surroundings) (c : CollectorConfig) :
    (log : List LogLine) → List String → Except Failure (List LogLine)
  | log, [] => .ok log
  | log, host :: rest =>
    match provide s c host with
    | .ok (_, more) => provideAll s c (log ++ more) rest
    | .error e => .error ⟨log, "Failed to set up provider for " ++ host, some e.display⟩

/-- Providers for hosts that cannot be reached, each host once. -/
def providers (s : Surroundings) (hosts : List String) : SortedMap String Provider :=
  let call : Call Snapshot := ⟨some 0, .failure (.dependency "" s.noConnection)⟩
  .ofList (hosts.map fun host => (host, .ofScript ⟨[call]⟩))

/-- Sets up the collector and serves its metrics. -/
def start (s : Surroundings) (c : CollectorConfig) (boot : List LogLine) : RunEnd :=
  match provideAll s c boot c.hosts with
  | .error f => .failed f
  | .ok log =>
    let providers := providers s c.hosts
    let log := log ++ [⟨.info, "[BOOT] " ++ numeral providers.size ++ " host(s) configured"⟩]
    match Collector.create providers c.interval c.timeout c.attempts.toNat c.backoff
        (fun _ _ _ => 0.0) true with
    | .error e => .failed ⟨log, "Failed to set up collector", some e.display⟩
    | .ok _ => serve command "Metrics" c.listen log

/-- The configuration with the hosts of the arguments, if there are any. -/
def withHosts (c : CollectorConfig) (hosts : List String) : Except Config.Flaw CollectorConfig :=
  if hosts.isEmpty then .ok c
  else
    let c := { c with hosts := hosts }
    c.validate.map fun _ => c

/-- The collector on its arguments. -/
def run (s : Surroundings) (arguments : List String) : Outcome :=
  command.run arguments fun given =>
    let path := (lastValue given "config").getD configPath
    match CollectorConfig.load (s.file path) with
    | .error e => .complained 1 (loadFailure s path e)
    | .ok c =>
      match withHosts c (allValues given "host") with
      | .error flaw => .complained 1 (failureText flaw.message none)
      | .ok c =>
        let (filter, complaints) := chooseFilter s c.logLevel
        (start s c (bootLines command path (s.file path))).outcome filter complaints
          "sensor_collector"

end CollectorProgram

end Telemetry.CommandLine
