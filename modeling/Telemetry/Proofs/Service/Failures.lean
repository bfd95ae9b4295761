import Telemetry.Proofs.Service.Cycle

/-! # Why surveys and cycles fail

A survey that fails passes on the failure of the inspector, or of the shared listing that it waited
for, under the name of its step (`World.SurveyEnds`).  On its way a failure keeps what tells a
time-out from a cancellation and either from all others (`Error.upstreamStatus`), so that no layer
turns another failure into a cancellation, and none into a mistake of the caller's
(`SurveyEnds.upstream`).

A cycle adds two reasons of its own: it is refused before its survey begins, or what is to be made
of the survey fails, by the range of a history or by a fault of the store (`World.CycleEnds`).

A failure that is passed on by two layers names both, the outer one first.  What it answers with
does not change by that, and so it can be told from the answer of the inspector alone.
-/

namespace Telemetry

/-! ## Failures passed on -/

namespace Error

variable {layer : String} {e : Error}

/-- What a failure answers with once a layer has passed it on: a time-out and a cancellation stay
what they are, and anything else is the upstream's failure. -/
def upstreamStatus : Error → Nat
  | timeout _ => 504
  | cancelled => 503
  | _ => 502

/-- Neither the client's mistake nor one of the daemon's own, so that one more layer does not change
the answer. -/
def Upstream (e : Error) : Prop := e.httpStatus = e.upstreamStatus

theorem upstreamStatus_cases (e : Error) :
    e.upstreamStatus = 502 ∨ e.upstreamStatus = 503 ∨ e.upstreamStatus = 504 := by
  cases e <;> simp [upstreamStatus]

theorem within_eq_cancelled : e.within layer = .cancelled ↔ e = .cancelled := by
  cases e <;> simp [within]

theorem httpStatus_within : (e.within layer).httpStatus = e.upstreamStatus := by
  cases e <;> rfl

theorem upstream_within : (e.within layer).Upstream := by
  cases e <;> rfl

theorem display_dependency (context message : String) :
    (dependency context message).display = "Upstream error: " ++ context ++ ": " ++ message := rfl

/-- A failure that is neither a time-out nor a cancellation names the layer, in front of what it
said before. -/
theorem display_within (h : e.upstreamStatus = 502) :
    ∃ rest, (e.within layer).display = "Upstream error: " ++ layer ++ ": " ++ rest := by
  cases e with
  | timeout | cancelled => cases h
  | dependency c m =>
    refine ⟨c ++ ": " ++ m, ?_⟩
    show (dependency (layer ++ ": " ++ c) m).display = _
    rw [display_dependency]
    simp only [String.append_assoc]
  | construction m => exact ⟨_, display_dependency layer (construction m).display⟩
  | validation m => exact ⟨_, display_dependency layer (validation m).display⟩
  | invalidRange first last => exact ⟨_, display_dependency layer (invalidRange first last).display⟩
  | internal m => exact ⟨_, display_dependency layer (internal m).display⟩

end Error

/-- A history is refused because its range is not positive, as the client's mistake. -/
theorem Purpose.status_of_refusal {range : Delta} {e : Error}
    (h : (history range).refusal = some e) : range.nanos ≤ 0 ∧ e.httpStatus = 400 := by
  unfold refusal at h
  dsimp only at h
  split at h
  next hle =>
    rw [← Option.some.inj h]
    exact ⟨hle, rfl⟩
  · cases h

/-! ## Calls of a probe -/

namespace Probe

variable {α : Type} {p : Probe α} {cancelled : Bool} {now : Nat} {due : Option Nat}

/-- The inspector cancels nothing of its own accord. -/
def Candid (p : Probe α) : Prop := p.fault ≠ some (.failure .cancelled)

/-- The inspector does not panic, whatever else it fails by. -/
def Calm (p : Probe α) : Prop := ∀ message, p.fault ≠ some (.panic message)

/-- A call of such an inspector is cancelled by its own token only, since nothing else ends it with
a cancellation. -/
theorem Candid.cancelled_of_ends (h : p.Candid)
    (hends : p.Ends cancelled now due (.failure .cancelled)) : cancelled = true := by
  cases hends with
  | answered _ _ _ hanswers =>
    cases hanswers with
    | failure hfault => exact absurd hfault h
  | withdrawn hcancelled => exact hcancelled

theorem Calm.not_ends (h : p.Calm) {message : String} :
    ¬ p.Ends cancelled now due (.panic message) := by
  intro hends
  cases hends with
  | answered _ _ _ hanswers =>
    cases hanswers with
    | panic hfault => exact h message hfault

end Probe

/-! ## Surveys -/

namespace World

variable {w : World} {cancelled : Bool} {stage : Survey}

/-- A listing dies with a call that the survey itself has made of the inspector. -/
theorem ListingEnds.of_panic {message : String}
    (h : w.ListingEnds cancelled stage (.panic message)) :
    w.CallsItself stage ∧
      ∃ due, w.inspector.topology.Ends cancelled w.now due (.panic message) := by
  cases h with
  | asks hnone hends => exact ⟨hnone, _, hends⟩
  | asked hends => exact ⟨trivial, _, hends⟩

/-- No failure of a survey is a mistake of whoever asked for it, since both of its steps pass it on
under their names. -/
theorem SurveyEnds.upstream {e : Error} (h : w.SurveyEnds cancelled stage (.failure e)) :
    e.Upstream := by
  cases h with
  | unlisted | unmeasured => exact Error.upstream_within

/-! ## Cycles -/

/-- How the step of a cycle ends it.  A cycle that is refused has not asked the inspector for
anything, and one that is not refused in its first step never is; otherwise its survey ends, and
only a survey with a result has something made of it. -/
inductive CycleEnds (w : World) (cancelled : Bool) (purpose : Purpose) (stage : Survey) :
    Ending CycleYield → Prop where
  | refused {e : Error} : stage = .fresh → purpose.refusal = some e →
      CycleEnds w cancelled purpose stage (.failure e)
  | fails {e : Error} : (stage = .fresh → purpose.refusal = none) →
      w.SurveyEnds cancelled stage (.failure e) →
      CycleEnds w cancelled purpose stage (.failure e)
  | dies {message : String} : w.SurveyEnds cancelled stage (.panic message) →
      CycleEnds w cancelled purpose stage (.panic message)
  /-- Its survey has ended with a result, and what is made of that may fail in turn. -/
  | completes {s : Surveyed} : (stage = .fresh → purpose.refusal = none) →
      w.SurveyEnds cancelled stage (.value s) →
      CycleEnds w cancelled purpose stage
        (.ofResult ((w.advanceSurvey cancelled stage).1.complete purpose s).2)

variable {purpose : Purpose}

/-- **How the step of a cycle ends it**: it is refused, or its survey ends and the cycle makes of
that what it can. -/
theorem ends_advanceCycle {ending : Ending CycleYield}
    (h : (w.advanceCycle cancelled purpose stage).2 = .done ending) :
    w.CycleEnds cancelled purpose stage ending := by
  rcases w.advanceCycle_cases cancelled purpose stage with
    ⟨e, hfresh, hrefused, hstep⟩ | ⟨hadmitted, hstep⟩
  · rw [hstep] at h
    rw [← Progress.done.inj h]
    exact .refused hfresh hrefused
  · rw [hstep] at h
    cases hsurvey : (w.advanceSurvey cancelled stage).2 with
    | pending stage' =>
      rw [hsurvey] at h
      cases h
    | done ended =>
      rw [hsurvey] at h
      cases ended with
      | value s =>
        rw [← Progress.done.inj h]
        exact .completes hadmitted (advanceSurvey_eq_done_iff.mp hsurvey)
      | failure e =>
        rw [← Progress.done.inj h]
        exact .fails hadmitted (advanceSurvey_eq_done_iff.mp hsurvey)
      | panic message =>
        rw [← Progress.done.inj h]
        exact .dies (advanceSurvey_eq_done_iff.mp hsurvey)

/-- A cycle that waits on was not refused, and its survey waits on. -/
theorem pending_advanceCycle {stage' : Survey}
    (h : (w.advanceCycle cancelled purpose stage).2 = .pending stage') :
    (stage = .fresh → purpose.refusal = none) ∧
      (w.advanceSurvey cancelled stage).2 = .pending stage' := by
  rcases w.advanceCycle_cases cancelled purpose stage with ⟨e, -, -, hstep⟩ | ⟨hadmitted, hstep⟩
  · rw [hstep] at h
    cases h
  · rw [hstep] at h
    exact ⟨hadmitted, (completeSurvey_frame _ purpose _).2 stage' h⟩

/-- What cannot be stored is a fault of the store, passed on under the name of the write. -/
theorem persistAll_error {rs : List SensorReading} {e : Error}
    (h : (w.persistAll rs).2 = .error e) :
    ∃ fault sensor, w.faults.write = some (fault, sensor) ∧ e = fault.within "store value" := by
  induction rs generalizing w with
  | nil => cases h
  | cons r rest ih =>
    unfold persistAll write at h
    cases hhits : StoreFaults.hits w.faults.write r.sensor.id with
    | none =>
      rw [hhits] at h
      exact ih (w := { w with store := w.store.write r.sensor.id r.value }) h
    | some fault =>
      rw [hhits] at h
      obtain ⟨⟨fault', sensor⟩, hfilter, rfl⟩ := Option.map_eq_some_iff.mp hhits
      exact ⟨fault', sensor, (Option.filter_eq_some_iff.mp hfilter).1, (Except.error.inj h).symm⟩

/-- At the end of its survey a poll fails only by a fault of the store. -/
theorem complete_poll_error {s : Surveyed} {e : Error} (h : (w.complete .poll s).2 = .error e) :
    ∃ fault sensor, w.faults.write = some (fault, sensor) ∧ e = fault.within "store value" := by
  unfold complete persist at h
  dsimp only at h
  cases hstored : w.persistAll (w.snapshotOf s).readings with
  | mk w' result =>
    rw [hstored] at h
    cases result with
    | ok _ => cases h
    | error fault =>
      have herror : (w.persistAll (w.snapshotOf s).readings).2 = .error e := by
        rw [hstored]
        exact congrArg Except.error (Except.error.inj h)
      exact persistAll_error herror

end World

end Telemetry
