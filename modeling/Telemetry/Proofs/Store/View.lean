import Mathlib.Data.List.Nodup
import Telemetry.Store.Basic

/-! # What a store holds

A store is seen through two questions: which value it holds for a sensor at an instant
(`Store.valueAt?`), and which sensors it knows (`Store.Knows`).  Each operation is described by what
it does to the answers, and each reading of the store by the samples that it lists (`Lists`).

A batch is written sample by sample.  When it has one sample at most for each sensor, their order
does not matter, and what the store has come to hold can be said at once (`Takes`): the batch, each
of its samples in the place of what was there, beside all that was there before.
-/

namespace Telemetry

/-- A list of exactly the samples with a property, in the order of time; no two of them are of the
same instant. -/
structure Lists (l : List Sample) (p : Sample → Prop) : Prop where
  ascending : l.Pairwise fun a b => a.timestamp < b.timestamp
  mem_iff : ∀ x, x ∈ l ↔ p x

theorem Lists.congr {l : List Sample} {p q : Sample → Prop} (h : Lists l p)
    (hiff : ∀ x, p x ↔ q x) : Lists l q :=
  ⟨h.ascending, fun x => (h.mem_iff x).trans (hiff x)⟩

/-- The entries of a series as samples, in the order of time. -/
def Series.samples (series : Series) : List Sample := series.entries.map fun e => ⟨e.2, e.1⟩

theorem Series.lists_samples (series : Series) :
    Lists series.samples fun x => series.find? x.timestamp = some x.value := by
  constructor
  · exact List.pairwise_map.mpr series.ascending
  · intro x
    rw [← SortedMap.mem_entries]
    unfold samples
    rw [List.mem_map]
    constructor
    · rintro ⟨e, he, rfl⟩
      exact he
    · intro hx
      exact ⟨_, hx, rfl⟩

/-- The entries of a series that pass a test, as samples. -/
theorem Series.lists_filter (series : Series) (p : Instant → Bool) :
    Lists (Series.samples (series.filter fun t _ => p t)) fun x =>
      series.find? x.timestamp = some x.value ∧ p x.timestamp := by
  refine (lists_samples _).congr fun x => ?_
  rw [SortedMap.find?_filter, Option.filter_eq_some_iff]

namespace Store

variable {s s' : Store} {sensor sensor' : SensorId} {t cutoff first last : Instant} {x : Sample}

/-- The value of a sensor at an instant, if the store holds one; a sensor that is not known has
none. -/
def valueAt? (s : Store) (sensor : SensorId) (t : Instant) : Option Int64 :=
  (s.seriesOf sensor).find? t

/-- Whether a store holds a sample of a sensor: its value, at its instant. -/
def Holds (s : Store) (sensor : SensorId) (x : Sample) : Prop :=
  s.valueAt? sensor x.timestamp = some x.value

/-- Whether a sensor is known, which it may be without any sample. -/
def Knows (s : Store) (sensor : SensorId) : Prop := (s.series.find? sensor).isSome

@[simp] theorem valueAt?_empty : empty.valueAt? sensor t = none := rfl

@[simp] theorem not_knows_empty : ¬ empty.Knows sensor := Bool.false_ne_true

/-! ## What operations do -/

theorem find?_write (s : Store) (sensor : SensorId) (x : Sample) (sensor' : SensorId) :
    (s.write sensor x).series.find? sensor' =
      if sensor' = sensor then some ((s.seriesOf sensor).insert x.timestamp x.value)
      else s.series.find? sensor' := by
  unfold write
  rw [SortedMap.find?_insert]
  simp only [Std.LawfulEqCmp.compare_eq_iff_eq]

/-- A sample is seen at its own sensor and instant and nowhere else. -/
theorem valueAt?_write (s : Store) (sensor : SensorId) (x : Sample) (sensor' : SensorId)
    (t : Instant) :
    (s.write sensor x).valueAt? sensor' t =
      if sensor' = sensor ∧ t = x.timestamp then some x.value else s.valueAt? sensor' t := by
  unfold valueAt? seriesOf
  rw [find?_write]
  by_cases hsensor : sensor' = sensor
  · subst hsensor
    simp only [if_true, Option.getD_some, true_and, SortedMap.find?_insert,
      Std.LawfulEqCmp.compare_eq_iff_eq]
    rfl
  · simp only [hsensor, if_false, false_and]

theorem knows_write : (s.write sensor x).Knows sensor' ↔ sensor' = sensor ∨ s.Knows sensor' := by
  unfold Knows
  rw [find?_write]
  by_cases hsensor : sensor' = sensor <;> simp [hsensor]

theorem seriesOf_deleteOlder (s : Store) (cutoff : Instant) (sensor : SensorId) :
    (s.deleteOlder cutoff).seriesOf sensor =
      (s.seriesOf sensor).filter fun t _ => cutoff ≤ t := by
  unfold seriesOf deleteOlder
  rw [SortedMap.find?_map]
  cases s.series.find? sensor <;> rfl

/-- A deletion takes what lies before its cutoff, of every sensor, and leaves what lies on it. -/
theorem valueAt?_deleteOlder (s : Store) (cutoff : Instant) (sensor : SensorId) (t : Instant) :
    (s.deleteOlder cutoff).valueAt? sensor t =
      (s.valueAt? sensor t).filter fun _ => cutoff ≤ t := by
  unfold valueAt?
  rw [seriesOf_deleteOlder, SortedMap.find?_filter]

theorem holds_deleteOlder :
    (s.deleteOlder cutoff).Holds sensor x ↔ s.Holds sensor x ∧ cutoff ≤ x.timestamp := by
  unfold Holds
  rw [valueAt?_deleteOlder, Option.filter_eq_some_iff, decide_eq_true_eq]

/-- A deletion forgets no sensor, not even one that it leaves without a sample. -/
theorem knows_deleteOlder : (s.deleteOlder cutoff).Knows sensor ↔ s.Knows sensor := by
  unfold Knows deleteOlder
  rw [SortedMap.find?_map, Option.isSome_map]

/-- A store holds samples of sensors that it knows. -/
theorem Holds.knows (h : s.Holds sensor x) : s.Knows sensor := by
  unfold Knows
  unfold Holds valueAt? seriesOf at h
  cases hfind : s.series.find? sensor with
  | some series => rfl
  | none =>
    rw [hfind] at h
    cases h

/-! ## A batch of samples -/

/-- The samples written one after another, each under its sensor. -/
def writeAll (s : Store) (batch : List (SensorId × Sample)) : Store :=
  batch.foldl (fun s e => s.write e.1 e.2) s

/-- What a store has come to hold by a batch: the samples of the batch, each in the place of what
was there for its sensor at its instant, beside all that was there before.  A sensor that has no
sample in the batch keeps its series, and is not known unless it was. -/
structure Takes (s : Store) (batch : List (SensorId × Sample)) (s' : Store) : Prop where
  holds : ∀ id y, s'.Holds id y ↔ (id, y) ∈ batch ∨
    s.Holds id y ∧ ∀ x, (id, x) ∈ batch → x.timestamp ≠ y.timestamp
  others : ∀ id, id ∉ batch.map Prod.fst → s'.series.find? id = s.series.find? id

variable {batch : List (SensorId × Sample)} {id : SensorId}

/-- A batch leaves alone what it has no sample for. -/
theorem find?_writeAll_of_notMem (h : id ∉ batch.map Prod.fst) (s : Store) :
    (s.writeAll batch).series.find? id = s.series.find? id := by
  induction batch generalizing s with
  | nil => rfl
  | cons e rest ih =>
    rw [List.map_cons, List.mem_cons, not_or] at h
    exact (ih h.2 (s.write e.1 e.2)).trans ((find?_write s e.1 e.2 id).trans (if_neg h.1))

theorem valueAt?_writeAll_of_notMem (h : id ∉ batch.map Prod.fst) (s : Store) (t : Instant) :
    (s.writeAll batch).valueAt? id t = s.valueAt? id t := by
  unfold valueAt? seriesOf
  rw [find?_writeAll_of_notMem h]

/-- A sample of a batch is seen at its instant, and nothing else of its sensor changes. -/
theorem valueAt?_writeAll_of_mem (honce : (batch.map Prod.fst).Nodup) (h : (id, x) ∈ batch)
    (s : Store) (t : Instant) :
    (s.writeAll batch).valueAt? id t =
      if t = x.timestamp then some x.value else s.valueAt? id t := by
  induction batch generalizing s with
  | nil => cases h
  | cons e rest ih =>
    rw [List.map_cons, List.nodup_cons] at honce
    rcases List.mem_cons.mp h with rfl | h
    · refine (valueAt?_writeAll_of_notMem honce.1 (s.write id x) t).trans ?_
      rw [valueAt?_write]
      simp only [true_and]
    · have hne : id ≠ e.1 := fun heq => honce.1 (heq ▸ List.mem_map_of_mem h)
      refine (ih honce.2 h (s.write e.1 e.2)).trans ?_
      rw [valueAt?_write]
      simp only [hne, false_and, if_false]

/-- **A store takes a batch** that has one sample at most for each sensor.  A later write of the
batch is of another sensor, and leaves what an earlier one has written. -/
theorem takes_writeAll (honce : (batch.map Prod.fst).Nodup) (s : Store) :
    s.Takes batch (s.writeAll batch) where
  others _ hnone := find?_writeAll_of_notMem hnone s
  holds id y := by
    unfold Holds
    by_cases hmem : id ∈ batch.map Prod.fst
    · obtain ⟨⟨id, x⟩, hx, rfl⟩ := List.mem_map.mp hmem
      -- the sample of the batch for this sensor is the only one
      have honly (z : Sample) : (id, z) ∈ batch ↔ z = x := by
        refine ⟨fun hz => ?_, fun heq => heq ▸ hx⟩
        exact congrArg Prod.snd (List.inj_on_of_nodup_map honce hz hx rfl)
      simp only [valueAt?_writeAll_of_mem honce hx, honly, forall_eq]
      by_cases hinstant : y.timestamp = x.timestamp
      · simp [hinstant, Sample.ext_iff, eq_comm]
      · simp [hinstant, Sample.ext_iff, Ne.symm hinstant]
    · have hnone (z : Sample) : (id, z) ∉ batch := fun hz => hmem (List.mem_map_of_mem hz)
      simp only [valueAt?_writeAll_of_notMem hmem, hnone, false_or, false_implies, implies_true,
        and_true]

/-! ## What is read -/

/-- The samples of a sensor between two instants, both included; of a sensor that is not known there
are none. -/
def between (s : Store) (sensor : SensorId) (first last : Instant) : List Sample :=
  Series.samples ((s.seriesOf sensor).filter fun t _ => first ≤ t && t ≤ last)

theorem lists_between (s : Store) (sensor : SensorId) (first last : Instant) :
    Lists (s.between sensor first last) fun x =>
      s.Holds sensor x ∧ first ≤ x.timestamp ∧ x.timestamp ≤ last := by
  refine (Series.lists_filter (s.seriesOf sensor) _).congr fun x => ?_
  rw [Bool.and_eq_true, decide_eq_true_eq, decide_eq_true_eq]
  rfl

theorem range_eq (s : Store) (sensor : SensorId) (h : ¬ last < first) :
    s.range sensor first last = .ok (s.between sensor first last) := if_neg h

/-- What is read over a range is what the store holds in it, provided that the range does not end
before it starts. -/
theorem lists_range (s : Store) (sensor : SensorId) (h : ¬ last < first) :
    ∃ l, s.range sensor first last = .ok l ∧
      Lists l fun x => s.Holds sensor x ∧ first ≤ x.timestamp ∧ x.timestamp ≤ last :=
  ⟨_, s.range_eq sensor h, s.lists_between sensor first last⟩

/-- Two stores that agree from an instant on answer alike over every range from then. -/
theorem range_congr (h : ∀ t, first ≤ t → s.valueAt? sensor t = s'.valueAt? sensor t) :
    s.range sensor first last = s'.range sensor first last := by
  unfold range
  refine congrArg (fun series : Series => if last < first then _ else
    Except.ok (series.entries.map fun e => (⟨e.2, e.1⟩ : Sample))) ?_
  refine SortedMap.ext_find? fun t => ?_
  rw [SortedMap.find?_filter, SortedMap.find?_filter]
  by_cases hfirst : first ≤ t
  · exact congrArg (Option.filter _) (h t hfirst)
  · have hnone (v : Option Int64) : v.filter (fun _ => first ≤ t && t ≤ last) = none :=
      Option.filter_eq_none_iff.mpr fun _ _ => by simp [hfirst]
    rw [hnone, hnone]

/-- What a deletion counts: for every known sensor what it holds before the cutoff. -/
theorem find?_olderCounts (s : Store) (cutoff : Instant) (sensor : SensorId) :
    (s.olderCounts cutoff).find? sensor = (s.series.find? sensor).map fun series =>
      (Series.samples (series.filter fun t _ => t < cutoff)).length := by
  unfold olderCounts
  rw [SortedMap.find?_map]
  refine congrArg (Option.map · _) (funext fun series => ?_)
  unfold Series.samples
  rw [List.length_map]
  rfl

/-- What counts for a sensor is what the store holds of it, each sample once. -/
theorem lists_sampleCount (s : Store) (sensor : SensorId) :
    ∃ l, Lists l (s.Holds sensor) ∧ s.sampleCount sensor = l.length :=
  ⟨_, Series.lists_samples (s.seriesOf sensor), (List.length_map _).symm⟩

/-- What counts are the known sensors, each once, with or without samples. -/
theorem keys_sensorCount (s : Store) :
    s.series.keys.Nodup ∧ (∀ sensor, sensor ∈ s.series.keys ↔ s.Knows sensor) ∧
      s.sensorCount = s.series.keys.length :=
  ⟨s.series.nodup_keys, fun _ => SortedMap.mem_keys, s.series.size_eq⟩

end Store

end Telemetry
