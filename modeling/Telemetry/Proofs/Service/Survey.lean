import Telemetry.Proofs.Coalesce.Shared
import Telemetry.Service.Survey

/-! # One step of a survey

A survey goes on by one function with many branches.  What a step can do is said here once: what of
the shared world it changes (`World.Surveying`), where it has its topology from (`World.Supplies`),
and what it comes to (`World.SurveyComesTo`).

This is less than how a survey ends, and it is what invariants of the world are kept by.  A step
changes the world by calling the inspector and by starting a shared listing, and by nothing else;
what the inspector shows is the same before and after (`Probe.Same`).  Behind a cache the survey
itself never calls the inspector for its hardware (`not_callsItself`).

The shared listing and the shared snapshot go on by steps of the same kind.  Their turns are brought
into one form at the end, with the call in flight as a parameter.
-/

namespace Telemetry

/-! ## Calls of a probe -/

namespace Probe

variable {α : Type}

/-- Two probes that show the same, however often they were called: value, delay, fault and the heed
of a token. -/
def Same (p q : Probe α) : Prop := q = { p with calls := q.calls }

theorem Same.refl (p : Probe α) : p.Same p := rfl

theorem same_start (p : Probe α) (cancelled : Bool) (now : Nat) :
    p.Same (p.start cancelled now).1 := rfl

/-- A call waits on, ends because its token is cancelled, or ends with what is shown, be it a value
or a fault. -/
theorem resume_cases (p : Probe α) (cancelled : Bool) (now : Nat) (due : Option Nat) :
    p.resume cancelled now due = .pending due ∨
      p.resume cancelled now due = .done (.failure .cancelled) ∨
      p.resume cancelled now due = .done p.ending := by
  unfold resume
  split
  · exact .inr (.inl rfl)
  · split
    · exact .inr (.inr rfl)
    · exact .inl rfl

end Probe

namespace World

/-- What a step of a survey changes in the world: it may call the inspector, and it may start
a shared listing. -/
structure Surveying (w w' : World) : Prop where
  frame : w' = { w with inspector := w'.inspector, topology := w'.topology }
  topologyProbe : w.inspector.topology.Same w'.inspector.topology
  readingsProbe : w.inspector.readings.Same w'.inspector.readings
  /-- Behind a cache the inspector is not asked for its hardware. -/
  cached : w.topology.isSome → w'.inspector.topology = w.inspector.topology
  shared : w'.topology = w.topology ∨
    ∃ shared, w.topology = some shared ∧ w'.topology = some (shared.get w.now .fresh).1

/-- Whether a survey in a stage calls the inspector for its hardware itself. -/
def CallsItself (w : World) : Survey → Prop
  | .fresh => w.topology = none
  | .listing _ => True
  | _ => False

/-- Where a survey in a stage has its topology from, once it has one and measures. -/
inductive Supplies (w : World) : Survey → Topology → Prop where
  /-- It has it already. -/
  | had {topology : Topology} {due : Option Nat} : Supplies w (.measuring topology due) topology
  /-- The inspector, called by the survey itself, answers. -/
  | called {stage : Survey} {topology : Topology} : w.CallsItself stage →
      w.inspector.topology.ending = .value topology → Supplies w stage topology
  /-- The cache has a fresh one. -/
  | cached {shared : Shared Topology Listing} {s : Stored Topology} : w.topology = some shared →
      shared.cache.stored = some s → shared.cache.isFresh w.now s = true →
      Supplies w .fresh s.value
  /-- A shared listing has ended. -/
  | joined {number : Nat} {topology : Topology} : w.listing? number = some (.ok topology) →
      Supplies w (.joined number) topology

/-- What a survey in a stage comes to in a step: it waits for something, or it ends.  Nothing is
said of why it fails. -/
inductive SurveyComesTo (w w' : World) (stage : Survey) : Progress Survey Surveyed → Prop where
  | lists {due : Option Nat} : w.CallsItself stage →
      SurveyComesTo w w' stage (.pending (.listing due))
  /-- It joins the listing in flight, which it may have started. -/
  | joins {shared : Shared Topology Listing} : stage = .fresh → w.topology = some shared →
      w'.topology = some (shared.get w.now .fresh).1 →
      SurveyComesTo w w' stage (.pending (.joined shared.outcomes.length))
  | waits {number : Nat} : stage = .joined number → w.listing? number = none →
      SurveyComesTo w w' stage (.pending (.joined number))
  | measures {topology : Topology} {due : Option Nat} : w.Supplies stage topology →
      SurveyComesTo w w' stage (.pending (.measuring topology due))
  | ends {s : Surveyed} : w.Supplies stage s.topology →
      w.inspector.readings.ending = .value s.readings → SurveyComesTo w w' stage (.done (.value s))
  | fails {e : Error} : SurveyComesTo w w' stage (.done (.failure e))
  | dies {message : String} : SurveyComesTo w w' stage (.done (.panic message))

variable {w w' : World} {stage : Survey} {topology : Topology}

theorem Surveying.refl (w : World) : w.Surveying w :=
  ⟨rfl, rfl, rfl, fun _ => rfl, .inl rfl⟩

/-- Behind a cache a survey calls the inspector for its hardware only if it has been doing so. -/
theorem not_callsItself (hcached : w.topology.isSome) (hlisting : ∀ due, stage ≠ .listing due) :
    ¬ w.CallsItself stage := by
  intro hcalls
  cases stage with
  | fresh =>
    rw [show w.topology = none from hcalls] at hcached
    cases hcached
  | listing due => exact hlisting due rfl
  | joined number => cases hcalls
  | measuring topology due => cases hcalls

/-- The step of a survey that measures, by a call of the probe: it goes on measuring after that
topology, or ends with it. -/
theorem SurveyComesTo.measured (h : w.Supplies stage topology) (cancelled : Bool) (now : Nat)
    (due : Option Nat) :
    SurveyComesTo w w' stage
      (World.measured topology (w.inspector.readings.resume cancelled now due)) := by
  rcases w.inspector.readings.resume_cases cancelled now due with hwait | hcancelled | hend
  · rw [hwait]
    exact .measures h
  · rw [hcancelled]
    exact .fails
  · rw [hend]
    cases hshown : w.inspector.readings.ending with
    | value readings => exact .ends (s := ⟨topology, readings⟩) h hshown
    | failure e => exact .fails
    | panic message => exact .dies

/-- The step of a survey that has just been given its topology, and calls the inspector for its
readings. -/
theorem surveying_measure (h : w.Supplies stage topology) (cancelled : Bool) :
    w.Surveying (w.measure cancelled topology).1 ∧
      SurveyComesTo w (w.measure cancelled topology).1 stage (w.measure cancelled topology).2 :=
  ⟨⟨rfl, rfl, Probe.same_start _ cancelled w.now, fun _ => rfl, .inl rfl⟩, .measured h ..⟩

/-- The step of a survey that calls the inspector for its hardware, or has called it and waits. -/
theorem surveying_listed (h : w.CallsItself stage) {probe : Probe Topology}
    (hprobe : w.inspector.topology.Same probe)
    (hcached : w.topology.isSome → probe = w.inspector.topology) (cancelled : Bool)
    (due : Option Nat) :
    let r := { w with inspector.topology := probe }.listed cancelled
      (w.inspector.topology.resume cancelled w.now due)
    w.Surveying r.1 ∧ SurveyComesTo w r.1 stage r.2 := by
  have hcalled : w.Surveying { w with inspector.topology := probe } :=
    ⟨rfl, hprobe, rfl, hcached, .inl rfl⟩
  rcases w.inspector.topology.resume_cases cancelled w.now due with hwait | hcancelled | hend
  · rw [hwait]
    exact ⟨hcalled, .lists h⟩
  · rw [hcancelled]
    exact ⟨hcalled, .fails⟩
  · rw [hend]
    cases hshown : w.inspector.topology.ending with
    | value topology =>
      exact ⟨⟨rfl, hprobe, Probe.same_start _ cancelled w.now, hcached, .inl rfl⟩,
        .measured (.called h hshown) ..⟩
    | failure e => exact ⟨hcalled, .fails⟩
    | panic message => exact ⟨hcalled, .dies⟩

/-- The step of a survey that waits for a shared listing, which has ended or not. -/
theorem surveying_joinListing (w : World) (cancelled : Bool) (number : Nat) :
    let r := w.joinListing cancelled number
    w.Surveying r.1 ∧ SurveyComesTo w r.1 (.joined number) r.2 := by
  unfold joinListing
  split
  · exact ⟨.refl w, .fails⟩
  · cases hlisting : w.listing? number with
    | none => exact ⟨.refl w, .waits rfl hlisting⟩
    | some outcome =>
      cases outcome with
      | ok topology => exact surveying_measure (.joined hlisting) cancelled
      | error e => exact ⟨.refl w, .fails⟩

/-- The first step of a survey behind a cache: it takes what is fresh, or joins a shared listing. -/
theorem surveying_list_cached {shared : Shared Topology Listing} (h : w.topology = some shared)
    (cancelled : Bool) :
    let r := w.list cancelled
    w.Surveying r.1 ∧ SurveyComesTo w r.1 .fresh r.2 := by
  have hjoin (cache : Cache Topology (SharedCall Listing))
      (hget : (shared.get w.now .fresh).1 = ⟨cache, shared.outcomes⟩) :
      let r := { w with topology := some ⟨cache, shared.outcomes⟩ }.joinListing cancelled
        shared.outcomes.length
      w.Surveying r.1 ∧ SurveyComesTo w r.1 .fresh r.2 := by
    have hsurveying : w.Surveying { w with topology := some ⟨cache, shared.outcomes⟩ } :=
      ⟨rfl, rfl, rfl, fun _ => rfl, .inr ⟨shared, h, by rw [hget]⟩⟩
    -- the listing that is joined has not ended
    have hnone : (⟨cache, shared.outcomes⟩ : Shared Topology Listing).outcome?
        shared.outcomes.length = none := List.getElem?_eq_none (Nat.le_refl _)
    unfold joinListing listing?
    split
    · exact ⟨hsurveying, .fails⟩
    · simp only [Option.bind_some, hnone]
      exact ⟨hsurveying, .joins rfl h (by rw [hget])⟩
  unfold list
  rw [h]
  simp only [Shared.get]
  cases hlookup : shared.cache.lookup w.now with
  | fresh v =>
    obtain ⟨s, hstored, hfresh, rfl⟩ := Cache.lookup_eq_fresh hlookup
    exact surveying_measure (.cached h hstored hfresh) cancelled
  | inFlight call => exact hjoin shared.cache (by simp only [Shared.get, hlookup])
  | absent => exact hjoin _ (by simp only [Shared.get, hlookup])

/-- The first step of a survey without a cache: it calls the inspector. -/
theorem surveying_list_uncached (h : w.topology = none) (cancelled : Bool) :
    let r := w.list cancelled
    w.Surveying r.1 ∧ SurveyComesTo w r.1 .fresh r.2 := by
  have hcached : w.topology.isSome →
      (w.inspector.topology.start cancelled w.now).1 = w.inspector.topology := fun hsome => by
    rw [h] at hsome
    cases hsome
  unfold list
  split
  · exact surveying_listed (show w.CallsItself .fresh from h) (Probe.same_start ..) hcached
      cancelled _
  · rename_i shared hsome
    rw [h] at hsome
    cases hsome

/-- **One step of a survey**: what it changes, and what it comes to, by cases on its stage. -/
theorem surveying_advanceSurvey (w : World) (cancelled : Bool) (stage : Survey) :
    let r := w.advanceSurvey cancelled stage
    w.Surveying r.1 ∧ SurveyComesTo w r.1 stage r.2 := by
  cases stage with
  | fresh =>
    cases h : w.topology with
    | none => exact surveying_list_uncached h cancelled
    | some shared => exact surveying_list_cached h cancelled
  | listing due =>
    have hcalls : w.CallsItself (.listing due) := trivial
    exact surveying_listed hcalls (Probe.Same.refl _) (fun _ => rfl) cancelled due
  | joined number => exact surveying_joinListing w cancelled number
  | measuring topology due => exact ⟨.refl w, .measured .had ..⟩

/-- A survey ends with the topology that it was given and what the inspector measures, whatever it
has waited for before. -/
theorem supplies_of_survey {cancelled : Bool} {s : Surveyed}
    (h : (w.advanceSurvey cancelled stage).2 = .done (.value s)) :
    w.Supplies stage s.topology ∧ w.inspector.readings.ending = .value s.readings := by
  obtain ⟨-, hcomes⟩ := w.surveying_advanceSurvey cancelled stage
  rw [h] at hcomes
  cases hcomes with
  | ends hsupplies hreadings => exact ⟨hsupplies, hreadings⟩

/-! ## Shared calls -/

/-- How the inspector answers a shared listing at its turn: a new call, or the one that was made
before. -/
def answerListing (w : World) : Listing → Probe Topology × Progress (Option Nat) Topology
  | .fresh => w.inspector.topology.start false w.now
  | .waiting due => (w.inspector.topology, w.inspector.topology.resume false w.now due)

theorem advanceListing_of_flight {shared : Shared Topology Listing} {call : SharedCall Listing}
    (hshared : w.topology = some shared) (hcall : shared.cache.flight = some call) :
    w.advanceListing = { w with
      inspector.topology := (w.answerListing call.stage).1
      topology := some
        (shared.advance w.now call (listingStage (w.answerListing call.stage).2)) } := by
  unfold advanceListing
  rw [hshared]
  simp only [hcall]
  cases call.stage <;> rfl

/-- The turn of the shared listing is nothing unless one is in flight, for which there must be a
cache. -/
theorem advanceListing_cases (w : World) :
    w.advanceListing = w ∨
      ∃ shared call, w.topology = some shared ∧ shared.cache.flight = some call := by
  cases hshared : w.topology with
  | none =>
    refine .inl ?_
    unfold advanceListing
    rw [hshared]
  | some shared =>
    cases hcall : shared.cache.flight with
    | none =>
      refine .inl ?_
      unfold advanceListing
      rw [hshared]
      simp only [hcall]
    | some call => exact .inr ⟨shared, call, rfl, hcall⟩

theorem snapshots_advanceListing (w : World) : w.advanceListing.snapshots = w.snapshots := by
  unfold advanceListing
  cases w.topology with
  | none => rfl
  | some shared =>
    dsimp only
    split <;> rfl

theorem advanceSnapshot_of_flight {call : SharedCall Survey}
    (hcall : w.snapshots.cache.flight = some call) :
    let r := w.advanceSurvey false call.stage
    w.advanceSnapshot =
      { r.1 with snapshots := w.snapshots.advance w.now call (w.surveyStage r.2) } := by
  have hframe := (w.surveying_advanceSurvey false call.stage).1.frame
  unfold advanceSnapshot surveyStage snapshotOf
  rw [hcall]
  dsimp only
  rw [hframe]

theorem listingStage_done {progress : Progress (Option Nat) Topology} {ending : Ending Topology}
    (h : listingStage progress = .done ending) : progress = .done ending := by
  cases progress with
  | pending due => cases h
  | done ending' => rw [Progress.done.inj h]

end World

end Telemetry
