import Telemetry.Proofs.Model.Snapshot
import Telemetry.Proofs.Service.Endings
import Telemetry.Proofs.Store.View
import Telemetry.Proofs.Time.Difference
import Telemetry.Service.Cycle

/-! # One step of a cycle

A cycle touches the store only in the step in which its survey ends, and there it writes all of its
samples or none.  Which of the two it is can be read off what the step comes to: the samples are
written exactly when the cycle succeeds.

Faults of the store are left aside (`World.Faultless`), so that what can still fail is the range of
a history, and that is looked at before anything is written (`complete_cases`).  Everything else of
the world is changed by the survey alone: what is made of it afterwards leaves a world that differs
in its store and in nothing else (`completeSurvey_frame`).

The report of a cycle is a function of the store and the topology (`Store.report`), and so what it
tells is a matter of the store after the samples have been written.
-/

namespace Telemetry

/-! ## The samples of a survey -/

namespace Surveyed

/-- What a cycle stores at an instant for what it has surveyed: the samples of the snapshot that it
takes then. -/
def samplesAt (s : Surveyed) (t : Instant) : List (SensorId × Sample) :=
  (Snapshot.build s.topology s.readings t).readings.map fun r => (r.sensor.id, r.value)

/-- One sample, stamped with an instant, for every sensor of the topology that has a reading,
and for no other. -/
structure Yields (s : Surveyed) (t : Instant) (batch : List (SensorId × Sample)) : Prop where
  once : (batch.map Prod.fst).Nodup
  mem_iff : ∀ id x, (id, x) ∈ batch ↔ (∃ sensor ∈ s.topology.sensors, sensor.id = id) ∧
    ∃ sensor raw, (sensor, raw) ∈ s.readings.entries ∧ sensor.id = id ∧ x = .ofReading raw t

theorem yields_samplesAt {s : Surveyed} (htopology : s.topology.Distinct)
    (hreadings : s.readings.Distinct) (t : Instant) : s.Yields t (s.samplesAt t) := by
  have hperm := Snapshot.readings_build_perm s.topology s.readings t
  constructor
  · -- every sensor of the topology leads to one sample at most, under its own identifier
    have hids : (s.topology.sensors.filterMap (Snapshot.reading? s.readings t)).map
        (fun r => r.sensor.id) |>.Nodup := by
      refine List.pairwise_map.mpr (List.Pairwise.filterMap _ ?_ (List.pairwise_map.mp htopology))
      intro a b hne ra hra rb hrb
      rw [(Snapshot.reading?_eq_some.mp hra).1, (Snapshot.reading?_eq_some.mp hrb).1]
      exact hne
    unfold samplesAt
    rw [List.map_map]
    exact (hperm.map _).nodup_iff.mpr hids
  · intro id x
    unfold samplesAt
    simp only [List.mem_map, Prod.mk.injEq, hperm.mem_iff, List.mem_filterMap,
      Snapshot.reading?_eq_some, Readings.find?_eq_some hreadings]
    constructor
    · rintro ⟨r, ⟨sensor, hsensor, rfl, raw, ⟨reader, hread, hid⟩, hvalue⟩, rfl, rfl⟩
      exact ⟨⟨_, hsensor, rfl⟩, reader, raw, hread, hid, hvalue⟩
    · rintro ⟨⟨sensor, hsensor, rfl⟩, reader, raw, hread, hid, rfl⟩
      exact ⟨⟨sensor, .ofReading raw t⟩, ⟨sensor, hsensor, rfl, raw, ⟨reader, hread, hid⟩, rfl⟩,
        rfl, rfl⟩

end Surveyed

/-! ## The report of a store -/

namespace Store

/-- What a store tells of a sensor: its samples of a range, none for a sensor that is not known. -/
def sensorHistory (s : Store) (first last : Instant) (sensor : Sensor) : SensorHistory :=
  ⟨sensor, s.between sensor.id first last⟩

/-- What a store tells of a piece of hardware: the histories of its sensors, grouped by their
types. -/
def hardwareHistory (s : Store) (first last : Instant) (e : Hardware × List Sensor) :
    HardwareHistory :=
  ⟨e.1, World.groupHistories (e.2.map (s.sensorHistory first last))⟩

/-- What a store tells of a topology: the histories of all hardware, in the order of identifiers. -/
def report (s : Store) (topology : Topology) (first last : Instant) : Report :=
  ⟨last, first, last,
    sortOn (fun h => h.hardware.id) (topology.entries.map (s.hardwareHistory first last))⟩

end Store

/-- Whether a purpose is to store samples, as it is of polls and of histories. -/
def Purpose.Stores : Purpose → Prop
  | .snapshot => False
  | _ => True

/-- The range of a history that is not refused is positive, so that it ends after it starts. -/
theorem Purpose.pos_of_refusal {range : Delta} (h : (history range).refusal = none) :
    0 < range.nanos := by
  by_contra hneg
  rw [show (history range).refusal = _ from if_pos (Int.not_lt.mp hneg)] at h
  cases h

/-- What a cycle that has stored so many samples yields: a poll their number, and a history its
report. -/
def Purpose.Reports (stored : Nat) : Purpose → CycleYield → Prop
  | .poll, .stored count => count = stored
  | .history _, .report _ => True
  | _, _ => False

namespace World

variable {w w' : World} {stage : Survey} {cancelled : Bool} {purpose : Purpose}

/-! ## The end of a survey -/

/-- No fault of the store hits a cycle, neither when it writes nor when it reads. -/
structure Faultless (w : World) : Prop where
  write : w.faults.write = none
  range : w.faults.range = none

theorem Faultless.congr (h : w.Faultless) (heq : w'.faults = w.faults) : w'.Faultless := by
  constructor <;> rw [heq]
  · exact h.write
  · exact h.range

theorem persistAll_of_faultless (h : w.Faultless) (rs : List SensorReading) :
    w.persistAll rs =
      ({ w with store := w.store.writeAll (rs.map fun r => (r.sensor.id, r.value)) }, .ok ()) := by
  induction rs generalizing w with
  | nil => rfl
  | cons r rest ih =>
    have hwrite : w.write r.sensor.id r.value =
        ({ w with store := w.store.write r.sensor.id r.value }, .ok ()) := by
      unfold write
      rw [h.write]
      rfl
    unfold persistAll
    rw [hwrite]
    exact ih (h.congr rfl)

theorem persist_of_faultless (h : w.Faultless) (s : Surveyed) :
    w.persist (w.snapshotOf s) =
      ({ w with store := w.store.writeAll (s.samplesAt w.clock) },
        .ok (s.samplesAt w.clock).length) := by
  have hcount : (w.snapshotOf s).sensorCount = (s.samplesAt w.clock).length := by
    rw [Snapshot.sensorCount_eq, Surveyed.samplesAt, List.length_map]
    rfl
  unfold persist
  rw [persistAll_of_faultless h, ← hcount]
  rfl

/-- Over a range that does not end before it starts there is the report of what is stored.  No
sensor fails, so the first failure that would end the report does not come. -/
theorem report_of_faultless (h : w.Faultless) (topology : Topology) {first : Instant}
    (hrange : ¬ w.clock < first) :
    w.report topology first w.clock = .ok (w.store.report topology first w.clock) := by
  have hsensor : w.sensorHistory first w.clock =
      fun sensor => pure (w.store.sensorHistory first w.clock sensor) := by
    funext sensor
    unfold sensorHistory range
    rw [h.range, show StoreFaults.hits none sensor.id = none from rfl]
    simp only [w.store.range_eq sensor.id hrange]
    rfl
  have hhardware : w.hardwareHistory first w.clock =
      fun e => pure (w.store.hardwareHistory first w.clock e) := by
    funext e
    unfold hardwareHistory
    rw [hsensor, List.mapM_pure]
    rfl
  unfold report
  rw [hhardware, List.mapM_pure]
  rfl

/-- At the end of its survey a cycle over a range of time stores all samples and reports.  The
report is made of the store as it is after the writes. -/
theorem complete_history (h : w.Faultless) {range : Delta} (hpos : 0 < range.nanos)
    {first : Instant} (hfirst : w.clock.sub? range = some first) (s : Surveyed) :
    let store := w.store.writeAll (s.samplesAt w.clock)
    w.complete (.history range) s =
      ({ w with store }, .ok (.report (store.report s.topology first w.clock))) := by
  have hbefore : ¬ w.clock < first := by
    have hlt := Instant.sub?_lt hfirst hpos
    rw [Instant.lt_iff] at hlt ⊢
    omega
  let stored : World := { w with store := w.store.writeAll (s.samplesAt w.clock) }
  have hstored : stored.Faultless := h.congr rfl
  simp only [complete, hfirst, persist_of_faultless h]
  exact congrArg (fun r => (stored, Except.map CycleYield.report r))
    (report_of_faultless hstored s.topology hbefore)

/-- At the end of a survey a cycle stores all samples and succeeds, or it fails and has stored none.
It fails when its range reaches beyond the earliest instant. -/
theorem complete_cases (h : w.Faultless) (hadmitted : purpose.refusal = none)
    (hstores : purpose.Stores) (s : Surveyed) :
    (∃ y, purpose.Reports (s.samplesAt w.clock).length y ∧
      w.complete purpose s =
        ({ w with store := w.store.writeAll (s.samplesAt w.clock) }, .ok y)) ∨
    ∃ e, w.complete purpose s = (w, .error e) := by
  cases purpose with
  | snapshot => exact hstores.elim
  | poll =>
    refine .inl ⟨.stored _, rfl, ?_⟩
    unfold complete
    rw [persist_of_faultless h]
    rfl
  | history range =>
    have hpos := Purpose.pos_of_refusal hadmitted
    cases hfirst : w.clock.sub? range with
    | none =>
      refine .inr ⟨.validation ("range " ++ range.text ++ " is too large"), ?_⟩
      simp only [complete, hfirst]
    | some first => exact .inl ⟨.report _, trivial, complete_history h hpos hfirst s⟩

/-! ## A step -/

/-- What a step of a cycle does: it is refused, or it is a step of its survey and makes what
is to be made of it. -/
theorem advanceCycle_cases (w : World) (cancelled : Bool) (purpose : Purpose) (stage : Survey) :
    (∃ e, stage = .fresh ∧ purpose.refusal = some e ∧
      w.advanceCycle cancelled purpose stage = (w, .done (.failure e))) ∨
    (stage = .fresh → purpose.refusal = none) ∧
      w.advanceCycle cancelled purpose stage =
        (w.advanceSurvey cancelled stage).1.completeSurvey purpose
          (w.advanceSurvey cancelled stage).2 := by
  cases stage with
  | fresh =>
    cases h : purpose.refusal with
    | none =>
      refine .inr ⟨fun _ => rfl, ?_⟩
      unfold advanceCycle
      simp only [h]
      rfl
    | some e =>
      refine .inl ⟨e, rfl, rfl, ?_⟩
      unfold advanceCycle
      simp only [h]
  | listing | joined | measuring => exact .inr ⟨fun h => (by cases h), rfl⟩

theorem persistAll_frame (w : World) (rs : List SensorReading) :
    (w.persistAll rs).1 = { w with store := (w.persistAll rs).1.store } := by
  induction rs generalizing w with
  | nil => rfl
  | cons r rest ih =>
    unfold persistAll write
    cases StoreFaults.hits w.faults.write r.sensor.id with
    | none => exact ih { w with store := w.store.write r.sensor.id r.value }
    | some e => rfl

theorem persist_frame (w : World) (s : Snapshot) :
    (w.persist s).1 = { w with store := (w.persist s).1.store } := by
  have h := w.persistAll_frame s.readings
  unfold persist
  cases hall : w.persistAll s.readings with
  | mk w' result =>
    rw [hall] at h
    cases result <;> exact h

theorem complete_frame (w : World) (purpose : Purpose) (s : Surveyed) :
    (w.complete purpose s).1 = { w with store := (w.complete purpose s).1.store } := by
  have h := w.persist_frame (w.snapshotOf s)
  cases purpose with
  | snapshot => rfl
  | poll => exact h
  | history range =>
    cases hfirst : w.clock.sub? range with
    | none => simp only [complete, hfirst]
    | some first =>
      cases hpersist : w.persist (w.snapshotOf s) with
      | mk w' result =>
        rw [hpersist] at h
        simp only [complete, hfirst, hpersist]
        cases result <;> exact h

theorem completeSurvey_frame (w : World) (purpose : Purpose) (progress : Progress Survey Surveyed) :
    let r := w.completeSurvey purpose progress
    r.1 = { w with store := r.1.store } ∧
      ∀ stage, r.2 = .pending stage → progress = .pending stage := by
  cases progress with
  | pending stage =>
    refine ⟨rfl, fun stage' h => ?_⟩
    rw [Progress.pending.inj h]
  | done ending =>
    cases ending with
    | value s => exact ⟨w.complete_frame purpose s, fun _ h => by cases h⟩
    | failure e => exact ⟨rfl, fun _ h => by cases h⟩
    | panic message => exact ⟨rfl, fun _ h => by cases h⟩

/-- Outside of the store a step of a cycle changes what a step of its survey changes. -/
theorem surveying_advanceCycle (w : World) (cancelled : Bool) (purpose : Purpose)
    (stage : Survey) :
    let r := w.advanceCycle cancelled purpose stage
    ∃ w₁, w.Surveying w₁ ∧ r.1 = { w₁ with store := r.1.store } ∧
      ∀ stage', r.2 = .pending stage' → SurveyComesTo w w₁ stage (.pending stage') := by
  rcases w.advanceCycle_cases cancelled purpose stage with ⟨e, -, -, h⟩ | ⟨-, h⟩
  · rw [h]
    exact ⟨w, .refl w, rfl, fun _ h => by cases h⟩
  · obtain ⟨hsurveying, hcomes⟩ := w.surveying_advanceSurvey cancelled stage
    obtain ⟨hframe, hpending⟩ := completeSurvey_frame (w.advanceSurvey cancelled stage).1 purpose
      (w.advanceSurvey cancelled stage).2
    rw [h]
    refine ⟨_, hsurveying, hframe, fun stage' hstage' => ?_⟩
    rw [hpending stage' hstage'] at hcomes
    exact hcomes

/-- What a step of a cycle comes to for the store.  There is no third case: it does not write a part
of its samples. -/
inductive Persists (w w' : World) (cancelled : Bool) (purpose : Purpose) (stage : Survey) :
    Progress Survey CycleYield → Prop where
  /-- The cycle succeeds, and all samples of its survey are written. -/
  | all {s : Surveyed} {y : CycleYield} :
      (w.advanceSurvey cancelled stage).2 = .done (.value s) →
      w'.store = w.store.writeAll (s.samplesAt w.clock) →
      purpose.Reports (s.samplesAt w.clock).length y →
      Persists w w' cancelled purpose stage (.done (.value y))
  /-- The cycle does not succeed, or not yet, and nothing is written. -/
  | nothing {progress : Progress Survey CycleYield} : (∀ y, progress ≠ .done (.value y)) →
      w'.store = w.store → Persists w w' cancelled purpose stage progress

/-- **A step of a cycle writes all samples or none**: all when it succeeds.  That a history was
admitted before its first step is needed for its later ones. -/
theorem persists_advanceCycle (h : w.Faultless) (hstores : purpose.Stores)
    (hadmitted : stage = .fresh ∨ purpose.refusal = none) (cancelled : Bool) :
    let r := w.advanceCycle cancelled purpose stage
    Persists w r.1 cancelled purpose stage r.2 := by
  rcases w.advanceCycle_cases cancelled purpose stage with ⟨e, -, -, hstep⟩ | ⟨hfresh, hstep⟩
  · rw [hstep]
    exact .nothing (fun y h => by cases h) rfl
  · rw [hstep]
    have hframe := (w.surveying_advanceSurvey cancelled stage).1.frame
    have hstore : (w.advanceSurvey cancelled stage).1.store = w.store := by rw [hframe]
    have hclock : (w.advanceSurvey cancelled stage).1.clock = w.clock := by rw [hframe]
    have hfaultless : (w.advanceSurvey cancelled stage).1.Faultless := h.congr (by rw [hframe])
    cases hsurvey : w.advanceSurvey cancelled stage with
    | mk w₁ progress =>
      simp only [hsurvey] at hstore hclock hfaultless
      rcases progress with stage' | (s | e | message)
      · exact .nothing (fun y h => by cases h) hstore
      · rcases complete_cases hfaultless (hadmitted.elim hfresh id) hstores s with
          ⟨y, hreports, hcomplete⟩ | ⟨e, hcomplete⟩
        · rw [hclock] at hreports hcomplete
          unfold completeSurvey
          simp only [hcomplete]
          exact .all (by rw [hsurvey]) (by rw [hstore]) hreports
        · unfold completeSurvey
          simp only [hcomplete]
          exact .nothing (fun y h => by cases h) hstore
      · exact .nothing (fun y h => by cases h) hstore
      · exact .nothing (fun y h => by cases h) hstore

end World

end Telemetry
