import Telemetry.Coalesce.CachedSource
import Telemetry.Model.Snapshot
import Telemetry.Retry.Policy

/-! # Providers of snapshots

A provider hands out the current snapshot of one source.  Its calls follow a
script; with a cache in front it may answer without a call.
-/

namespace Telemetry

/-- Where the snapshots of a source come from. -/
inductive Provider where
  /-- A script, with the moments of the calls so far. -/
  | direct (script : Script Snapshot) (calls : List Nat)
  | cached (source : CachedSource Snapshot)

namespace Provider

/-- A script without a cache. -/
def ofScript (script : Script Snapshot) : Provider := .direct script []

/-- The moments of the calls, in order. -/
def calls : Provider → List Nat
  | direct _ calls => calls
  | cached source => source.fetches.map Fetch.started

/-- What asking a cache comes to.  A caller waits for the call that it finds; one
that it starts itself ends too late for a limit of the same moment. -/
def answerCourse (now : Nat) : Answer Snapshot → Course Snapshot
  | .atOnce v => ⟨some now, .value v, false⟩
  | .pending f own => ⟨some f.ends, .ofResult f.outcome, own⟩

/-- Asks for the snapshot at a moment. -/
def ask (p : Provider) (now : Nat) : Provider × Course Snapshot :=
  match p with
  | direct script calls => (direct script (calls ++ [now]), (script.call calls.length).course now)
  | cached source =>
    let (source, answer) := (source.settle now).get now
    (cached source, answerCourse now answer)

/-- The call in flight, if it ends at this moment. -/
def flightEnding? (p : Provider) (moment : Nat) : Option (Fetch Snapshot) :=
  match p with
  | direct .. => none
  | cached source => source.cache.flight.filter fun f => f.ends = moment

end Provider

end Telemetry
