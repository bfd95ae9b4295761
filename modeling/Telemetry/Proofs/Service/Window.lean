import Telemetry.Proofs.Service.Cycle
import Telemetry.Proofs.Service.Retention

/-! # Worlds that agree inside a window

Two worlds that differ in their stores alone, and there only in samples that are older than a
window, do the same at every step of a cycle (`World.AgreeIn`).  Only a report over a range that is
longer than the window tells them apart.

One of the two worlds is pruned now and then, and the other never is; that is what the relation is
made for.  A survey does not look at the store at all, so with another store it does the same
(`advanceSurvey_withStore`).  A write changes both stores alike.  The window moves forward with the
clock, so that the worlds have ever less to agree on (`AgreeIn.setClock`), and a pruning deletes
nothing inside of it (`AgreeIn.prune`).
-/

namespace Telemetry

variable {window range : Delta} {w w' : World} {t : Instant} {sensor : SensorId}
  {c : Bool} {stage : Survey} {purpose : Purpose}

/-- A purpose looks at no sample that is older than a window.  A poll looks at none at all, and a
snapshot neither. -/
def Purpose.LooksWithin (window : Delta) : Purpose → Prop
  | .history range => range.nanos ≤ window.nanos
  | _ => True

namespace World

/-- The world with another store, which has been pruned so many times; everything else is the
same. -/
def withStore (w : World) (s : Store) (deletes : Nat) : World :=
  { w with store := s, deletes := deletes }

/-- An instant is not older than a window, as seen from the clock of a world; the start of the
window is inside. -/
def Within (w : World) (window : Delta) (t : Instant) : Prop :=
  ∀ first, w.clock.sub? window = some first → first ≤ t

/-- Two worlds that differ in their stores alone, which agree inside a window.  Which sensors they
know is left open. -/
structure AgreeIn (window : Delta) (w w' : World) : Prop where
  frame : w' = w.withStore w'.store w'.deletes
  store : ∀ sensor t, w.Within window t →
    w.store.valueAt? sensor t = w'.store.valueAt? sensor t

/-! ## Surveys do not look at the store -/

theorem listed_withStore (w : World) (s : Store) (n : Nat) (c : Bool)
    (progress : Progress (Option Nat) Topology) :
    (w.withStore s n).listed c progress =
      ((w.listed c progress).1.withStore s n, (w.listed c progress).2) := by
  rcases progress with due | (topology | e | message) <;> rfl

theorem joinListing_withStore (w : World) (s : Store) (n : Nat) (c : Bool) (number : Nat) :
    (w.withStore s n).joinListing c number =
      ((w.joinListing c number).1.withStore s n, (w.joinListing c number).2) := by
  have hlisting : (w.withStore s n).listing? number = w.listing? number := rfl
  unfold joinListing
  rw [hlisting]
  split
  · rfl
  · cases w.listing? number with
    | none => rfl
    | some outcome => cases outcome <;> rfl

theorem list_withStore (w : World) (s : Store) (n : Nat) (c : Bool) :
    (w.withStore s n).list c = ((w.list c).1.withStore s n, (w.list c).2) := by
  have htopology : (w.withStore s n).topology = w.topology := rfl
  unfold list
  rw [htopology]
  cases w.topology with
  | none =>
    let called : World := { w with
      inspector.topology := (w.inspector.topology.start c w.now).1
      topology := none }
    exact listed_withStore called s n c (w.inspector.topology.start c w.now).2
  | some shared =>
    have hnow : (w.withStore s n).now = w.now := rfl
    dsimp only
    rw [hnow]
    rcases shared.get w.now .fresh with ⟨after, topology | number⟩
    · rfl
    · exact joinListing_withStore { w with topology := some after } s n c number

/-- **A survey does not look at the store**, whichever stage it is in: with another one it takes the
same step. -/
theorem advanceSurvey_withStore (w : World) (s : Store) (n : Nat) (c : Bool) (stage : Survey) :
    (w.withStore s n).advanceSurvey c stage =
      ((w.advanceSurvey c stage).1.withStore s n, (w.advanceSurvey c stage).2) := by
  cases stage with
  | fresh => exact list_withStore w s n c
  | listing due => exact listed_withStore ..
  | joined number => exact joinListing_withStore w s n c number
  | measuring topology due => rfl

theorem advanceListing_withStore (w : World) (s : Store) (n : Nat) :
    (w.withStore s n).advanceListing = w.advanceListing.withStore s n := by
  have htopology : (w.withStore s n).topology = w.topology := rfl
  unfold advanceListing
  rw [htopology]
  cases w.topology with
  | none => rfl
  | some shared =>
    dsimp only
    cases shared.cache.flight with
    | none => rfl
    | some call => cases call.stage <;> rfl

theorem advanceSnapshot_withStore (w : World) (s : Store) (n : Nat) :
    (w.withStore s n).advanceSnapshot = w.advanceSnapshot.withStore s n := by
  have hsnapshots : (w.withStore s n).snapshots = w.snapshots := rfl
  unfold advanceSnapshot
  rw [hsnapshots]
  cases w.snapshots.cache.flight with
  | none => rfl
  | some call =>
    dsimp only
    rw [advanceSurvey_withStore]
    rcases w.advanceSurvey false call.stage with ⟨w₁, stage | (s | e | message)⟩ <;> rfl

/-! ## Two worlds that agree -/

namespace AgreeIn

theorem refl (window : Delta) (w : World) : w.AgreeIn window w := ⟨rfl, fun _ _ _ => rfl⟩

/-- Worlds that agree still agree after a change that does not look at the store, and leaves it and
the clock as they are. -/
theorem lift (h : w.AgreeIn window w') {f : World → World}
    (hf : ∀ s n, f (w.withStore s n) = (f w).withStore s n) (hclock : (f w).clock = w.clock)
    (hstore : (f w).store = w.store) : (f w).AgreeIn window (f w') := by
  rw [h.frame, hf]
  refine ⟨rfl, fun sensor t ht => ?_⟩
  rw [hstore]
  refine h.store sensor t fun first hfirst => ht first ?_
  rw [hclock]
  exact hfirst

theorem write (h : w.AgreeIn window w') (sensor : SensorId) (x : Sample) :
    ({ w with store := w.store.write sensor x } : World).AgreeIn window
      { w' with store := w'.store.write sensor x } := by
  constructor
  · rw [h.frame]
    rfl
  · intro sensor' t ht
    rw [Store.valueAt?_write, Store.valueAt?_write, h.store sensor' t ht]

/-- What is written behind the faults of the store, which are the same in both worlds. -/
theorem write_behind (h : w.AgreeIn window w') (sensor : SensorId) (x : Sample) :
    (w.write sensor x).1.AgreeIn window (w'.write sensor x).1 ∧
      (w.write sensor x).2 = (w'.write sensor x).2 := by
  have hfaults : w'.faults = w.faults := by rw [h.frame]; rfl
  unfold World.write
  cases hfault : StoreFaults.hits w.faults.write sensor with
  | some e =>
    simp only [hfaults, hfault]
    exact ⟨h, trivial⟩
  | none =>
    have hfault' : StoreFaults.hits w'.faults.write sensor = none := by rw [hfaults, hfault]
    simp only [hfault']
    exact ⟨h.write sensor x, trivial⟩

theorem persistAll (h : w.AgreeIn window w') (rs : List SensorReading) :
    (w.persistAll rs).1.AgreeIn window (w'.persistAll rs).1 ∧
      (w.persistAll rs).2 = (w'.persistAll rs).2 := by
  induction rs generalizing w w' with
  | nil => exact ⟨h, rfl⟩
  | cons r rest ih =>
    obtain ⟨hworld, hresult⟩ := h.write_behind r.sensor.id r.value
    unfold World.persistAll
    rcases hw : w.write r.sensor.id r.value with ⟨w₁, result⟩
    rcases hw' : w'.write r.sensor.id r.value with ⟨w₁', result'⟩
    rw [hw, hw'] at hworld hresult
    obtain rfl : result = result' := hresult
    cases result with
    | ok _ => exact ih hworld
    | error e => exact ⟨hworld, rfl⟩

theorem persist (h : w.AgreeIn window w') (s : Snapshot) :
    (w.persist s).1.AgreeIn window (w'.persist s).1 ∧
      (w.persist s).2 = (w'.persist s).2 := by
  obtain ⟨hworld, hresult⟩ := h.persistAll s.readings
  unfold World.persist
  rcases hw : w.persistAll s.readings with ⟨w₁, result⟩
  rcases hw' : w'.persistAll s.readings with ⟨w₁', result'⟩
  rw [hw, hw'] at hworld hresult
  obtain rfl : result = result' := hresult
  cases result <;> exact ⟨hworld, rfl⟩

/-- A report that starts inside the window is the same, since it reads nothing older than its
start. -/
theorem report (h : w.AgreeIn window w') {first : Instant}
    (hfirst : ∀ t, first ≤ t → w.Within window t) (topology : Topology) (last : Instant) :
    w.report topology first last = w'.report topology first last := by
  have hfaults : w'.faults = w.faults := by rw [h.frame]; rfl
  have hclock : w'.clock = w.clock := by rw [h.frame]; rfl
  have hsensor : w.sensorHistory first last = w'.sensorHistory first last := by
    funext sensor
    unfold sensorHistory range
    rw [hfaults, Store.range_congr fun t ht => h.store sensor.id t (hfirst t ht)]
  have hhardware : w.hardwareHistory first last = w'.hardwareHistory first last := by
    funext e
    unfold hardwareHistory
    rw [hsensor]
  unfold World.report
  rw [hhardware, hclock]

/-- What is made of a survey; only the report over a long range differs. -/
theorem complete (h : w.AgreeIn window w') (hregular : w.clock.Regular) (purpose : Purpose)
    (s : Surveyed) :
    (w.complete purpose s).1.AgreeIn window (w'.complete purpose s).1 ∧
      (purpose.LooksWithin window → (w.complete purpose s).2 = (w'.complete purpose s).2) := by
  have hclock : w'.clock = w.clock := by rw [h.frame]; rfl
  have hsnapshot : w'.snapshotOf s = w.snapshotOf s := by unfold snapshotOf; rw [hclock]
  obtain ⟨hworld, hresult⟩ := h.persist (w.snapshotOf s)
  cases purpose with
  | snapshot =>
    refine ⟨h, fun _ => ?_⟩
    unfold World.complete
    rw [hsnapshot]
  | poll =>
    unfold World.complete
    rw [hsnapshot]
    exact ⟨hworld, fun _ => congrArg (Except.map CycleYield.stored) hresult⟩
  | history range =>
    cases hfirst : w.clock.sub? range with
    | none =>
      simp only [World.complete, hclock, hfirst]
      exact ⟨h, fun _ => trivial⟩
    | some first =>
      rcases hw : w.persist (w.snapshotOf s) with ⟨w₁, result⟩
      rcases hw' : w'.persist (w.snapshotOf s) with ⟨w₁', result'⟩
      have hclock₁ : w₁.clock = w.clock := by
        rw [show w₁ = (w.persist (w.snapshotOf s)).1 by rw [hw], persist_frame]
      rw [hw, hw'] at hworld hresult
      obtain rfl : result = result' := hresult
      have hworld : w₁.AgreeIn window w₁' := hworld
      -- the range is not longer than the window, so the report starts where the worlds agree
      have hreport (hshort : range.nanos ≤ window.nanos) :
          w₁.report s.topology first w₁.clock = w₁'.report s.topology first w₁'.clock := by
        have hwithin (t : Instant) (ht : first ≤ t) : w₁.Within window t := by
          unfold Within
          rw [hclock₁]
          intro bound hbound
          have hself : w.clock ≤ w.clock := Instant.le_iff.mpr (by omega)
          have hmono := Instant.sub?_mono hregular hregular hself hshort hbound hfirst
          exact Instant.le_trans hmono ht
        have hclock₁' : w₁'.clock = w₁.clock := by rw [hworld.frame]; rfl
        rw [hclock₁']
        exact hworld.report hwithin s.topology w₁.clock
      simp only [World.complete, hclock, hfirst, hsnapshot, hw, hw']
      cases result with
      | error e => exact ⟨hworld, fun _ => rfl⟩
      | ok count =>
        exact ⟨hworld, fun hshort => congrArg (Except.map CycleYield.report) (hreport hshort)⟩

/-- **A step of a cycle in two worlds that agree inside a window**: the worlds agree as
before, and what the step comes to is the same, unless the cycle is over and looks further. -/
theorem advanceCycle (h : w.AgreeIn window w') (hregular : w.clock.Regular) (cancelled : Bool)
    (purpose : Purpose) (stage : Survey) :
    let r := w.advanceCycle cancelled purpose stage
    let r' := w'.advanceCycle cancelled purpose stage
    r.1.AgreeIn window r'.1 ∧ (r.2 = r'.2 ∨ ¬ purpose.LooksWithin window ∧
      ∃ ending ending', r.2 = .done ending ∧ r'.2 = .done ending') := by
  rcases w.advanceCycle_cases cancelled purpose stage with ⟨e, hfresh, hrefused, hstep⟩ |
      ⟨hadmitted, hstep⟩ <;>
    rcases w'.advanceCycle_cases cancelled purpose stage with ⟨e', hfresh', hrefused', hstep'⟩ |
      ⟨hadmitted', hstep'⟩
  -- whether a cycle is refused depends on its purpose and stage, so both are or neither is
  · obtain rfl : e = e' := Option.some.inj (hrefused.symm.trans hrefused')
    rw [hstep, hstep']
    exact ⟨h, .inl rfl⟩
  · rw [hadmitted' hfresh] at hrefused
    cases hrefused
  · rw [hadmitted hfresh'] at hrefused'
    cases hrefused'
  · have hsteady := (w.surveying_advanceSurvey cancelled stage).1
    have hclock : (w.advanceSurvey cancelled stage).1.clock = w.clock := by rw [hsteady.frame]
    have hstore : (w.advanceSurvey cancelled stage).1.store = w.store := by rw [hsteady.frame]
    have hworld := h.lift (f := fun w => (w.advanceSurvey cancelled stage).1)
      (fun s n => by rw [advanceSurvey_withStore]) hclock hstore
    have hprogress :
        (w'.advanceSurvey cancelled stage).2 = (w.advanceSurvey cancelled stage).2 := by
      rw [h.frame, advanceSurvey_withStore]
    rw [hstep, hstep', hprogress]
    generalize (w.advanceSurvey cancelled stage).1 = w₁ at hworld hclock ⊢
    generalize (w'.advanceSurvey cancelled stage).1 = w₁' at hworld ⊢
    rcases (w.advanceSurvey cancelled stage).2 with stage' | (s | e | message)
    · exact ⟨hworld, .inl rfl⟩
    · obtain ⟨hdone, hsame⟩ := hworld.complete (hclock ▸ hregular) purpose s
      refine ⟨hdone, ?_⟩
      by_cases hshort : purpose.LooksWithin window
      · exact .inl (congrArg (fun r => Progress.done (.ofResult r)) (hsame hshort))
      · exact .inr ⟨hshort, _, _, rfl, rfl⟩
    · exact ⟨hworld, .inl rfl⟩
    · exact ⟨hworld, .inl rfl⟩

/-- Worlds that agree still agree when their clock has moved forward. -/
theorem setClock (h : w.AgreeIn window w') (hregular : w.clock.Regular) (ht : t.Regular)
    (hle : w.clock ≤ t) (hwindow : 0 ≤ window.nanos) :
    ({ w with clock := t } : World).AgreeIn window { w' with clock := t } := by
  constructor
  · rw [h.frame]
    rfl
  · intro sensor u hu
    refine h.store sensor u fun first hfirst => ?_
    -- the window starts later now
    obtain ⟨later, hlater⟩ := Instant.exists_sub?_of_le hregular ht hle hwindow hfirst
    have hmono := Instant.sub?_mono hregular ht hle (Int.le_refl _) hfirst hlater
    exact Instant.le_trans hmono (hu later hlater)

/-- What one of two worlds prunes is outside of the window, and a pruning that fails deletes
nothing. -/
theorem prune {r : Retention} (h : w.AgreeIn r.window w') :
    (w.prune r).1.AgreeIn r.window w' := by
  have hclock : (w.prune r).1.clock = w.clock := by rw [prune_frame]
  constructor
  · rw [prune_frame, h.frame]
    rfl
  · intro sensor t ht
    have hwithin : w.Within r.window t := by
      unfold Within at ht ⊢
      rw [← hclock]
      exact ht
    rw [← h.store sensor t hwithin]
    rcases w.prune_cases r with ⟨n, e, hfails⟩ | ⟨cutoff, hcutoff, hdeletes⟩
    · rw [hfails]
    · rw [hdeletes, Store.valueAt?_deleteOlder]
      have hkept := hwithin cutoff hcutoff
      cases w.store.valueAt? sensor t <;> simp [hkept]

end AgreeIn

end World

end Telemetry
