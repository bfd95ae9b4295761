import Telemetry.Service.World

/-! # Surveys

A survey of the machine lists its hardware and then measures its sensors.  With
a cache in front of the listing it takes the cached topology or joins the shared
listing; measuring always goes through to the inspector.
-/

namespace Telemetry

/-- A topology with the readings taken after it. -/
structure Surveyed where
  topology : Topology
  readings : Readings

namespace World

/-- The survey after this much of measuring. -/
def measured (topology : Topology) : Progress (Option Nat) Readings → Progress Survey Surveyed
  | .pending due => .pending (.measuring topology due)
  | .done (.value readings) => .done (.value ⟨topology, readings⟩)
  | .done (.failure e) => .done (.failure (e.within "get current values"))
  | .done (.panic message) => .done (.panic message)

/-- The survey begins to measure. -/
def measure (w : World) (cancelled : Bool) (topology : Topology) :
    World × Progress Survey Surveyed :=
  let (probe, progress) := w.inspector.readings.start cancelled w.now
  ({ w with inspector.readings := probe }, measured topology progress)

/-- The survey after this much of listing. -/
def listed (w : World) (cancelled : Bool) :
    Progress (Option Nat) Topology → World × Progress Survey Surveyed
  | .pending due => (w, .pending (.listing due))
  | .done (.value topology) => w.measure cancelled topology
  | .done (.failure e) => (w, .done (.failure (e.within "get sensors")))
  | .done (.panic message) => (w, .done (.panic message))

/-- The outcome of a shared listing that has ended. -/
def listing? (w : World) (number : Nat) : Option (Result Topology) :=
  w.topology.bind fun shared => shared.outcome? number

/-- The survey waits for a shared listing, which does not end with its token. -/
def joinListing (w : World) (cancelled : Bool) (number : Nat) :
    World × Progress Survey Surveyed :=
  if cancelled then (w, .done (.failure .cancelled))
  else match w.listing? number with
    | none => (w, .pending (.joined number))
    | some (.ok topology) => w.measure cancelled topology
    | some (.error e) => (w, .done (.failure (e.within "get sensors")))

/-- The survey asks for the hardware. -/
def list (w : World) (cancelled : Bool) : World × Progress Survey Surveyed :=
  match w.topology with
  | none =>
    let (probe, progress) := w.inspector.topology.start cancelled w.now
    { w with inspector.topology := probe }.listed cancelled progress
  | some shared =>
    match shared.get w.now .fresh with
    | (_, .atOnce topology) => w.measure cancelled topology
    | (shared, .call number) => { w with topology := some shared }.joinListing cancelled number

/-- Goes on with a survey, whose token may be cancelled. -/
def advanceSurvey (w : World) (cancelled : Bool) : Survey → World × Progress Survey Surveyed
  | .fresh => w.list cancelled
  | .listing due => w.listed cancelled (w.inspector.topology.resume cancelled w.now due)
  | .joined number => w.joinListing cancelled number
  | .measuring topology due =>
    (w, measured topology (w.inspector.readings.resume cancelled w.now due))

/-! ## Shared calls -/

/-- The stage that a listing by the inspector is in. -/
def listingStage : Progress (Option Nat) Topology → Progress Listing Topology
  | .pending due => .pending (.waiting due)
  | .done ending => .done ending

/-- Goes on with the shared listing, if one is in flight. -/
def advanceListing (w : World) : World :=
  match w.topology with
  | none => w
  | some shared =>
    match shared.cache.flight with
    | none => w
    | some call =>
      let (probe, progress) := match call.stage with
        | .fresh => w.inspector.topology.start false w.now
        | .waiting due =>
          (w.inspector.topology, w.inspector.topology.resume false w.now due)
      { w with
        inspector.topology := probe
        topology := some (shared.advance w.now call (listingStage progress)) }

/-- The snapshot of a survey at the present time of the clock. -/
def snapshotOf (w : World) (s : Surveyed) : Snapshot := .build s.topology s.readings w.clock

/-- A survey as the snapshot that it leads to. -/
def surveyStage (w : World) : Progress Survey Surveyed → Progress Survey Snapshot
  | .pending stage => .pending stage
  | .done (.value s) => .done (.value (w.snapshotOf s))
  | .done (.failure e) => .done (.failure e)
  | .done (.panic message) => .done (.panic message)

/-- Goes on with the shared snapshot, if one is in flight. -/
def advanceSnapshot (w : World) : World :=
  match w.snapshots.cache.flight with
  | none => w
  | some call =>
    let (w, progress) := w.advanceSurvey false call.stage
    { w with snapshots := w.snapshots.advance w.now call (w.surveyStage progress) }

end World

end Telemetry
