import Telemetry.CommandLine.Program

/-! # The command line

The first argument names the program, `sensord` or `sensor-collector`, and the
others are its arguments.  The log goes to the output, one line with its level
at a time.
-/

namespace Telemetry.CommandLine

/-- What stands at a path, and why it cannot be read. -/
def lookAt (path : String) : IO (Config.File × String) := do
  try
    return (.ofBytes (← IO.FS.readBinFile path), "stream did not contain valid UTF-8")
  catch e =>
    match e with
    | .noFileOrDirectory .. | .noSuchThing .. => return (.missing, "")
    | e => return (.unreadable, toString e)

/-- The path of the configuration that arguments name. -/
def configPathOf (command : Command) (standard : String) (arguments : List String) : String :=
  match command.read arguments with
  | .ok given => (lastValue given "config").getD standard
  | .error _ => standard

/-- What is around a program whose configuration lies at a path. -/
def surroundings (path : String) : IO Surroundings := do
  let (file, unreadable) ← lookAt path
  return {
    file := fun p => if p = path then file else .missing
    unreadable := unreadable
    logFilter := ← IO.getEnv "LOG_FILTER"
    noConnection := "no connection" }

/-- Shows an outcome; the exit code. -/
def display (o : Outcome) : IO UInt32 := do
  IO.print o.stdout
  for line in o.log do
    IO.println (line.level.name ++ " " ++ line.message)
  IO.eprint o.stderr
  if o.serving then IO.eprintln "Serving needs a network."
  return (if o.serving then 1 else UInt32.ofNat o.exit)

end Telemetry.CommandLine

open Telemetry.CommandLine in
/-- Runs one of the two programs. -/
def main (arguments : List String) : IO UInt32 := do
  match arguments with
  | "sensord" :: rest =>
    let path := configPathOf DaemonProgram.command DaemonProgram.configPath rest
    display (DaemonProgram.run (← surroundings path) rest)
  | "sensor-collector" :: rest =>
    let path := configPathOf CollectorProgram.command CollectorProgram.configPath rest
    display (CollectorProgram.run (← surroundings path) rest)
  | _ =>
    IO.eprintln "The first argument is sensord or sensor-collector."
    return 2
