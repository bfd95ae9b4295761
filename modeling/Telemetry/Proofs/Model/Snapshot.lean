import Mathlib.Data.List.Nodup
import Mathlib.Data.List.Perm.Basic
import Telemetry.Model.Snapshot

/-! # What a snapshot joins

A snapshot holds one sample for every sensor of the topology that has a reading, and nothing else.
Its order is left aside here: the readings of a snapshot are, in some order, the sensors of the
topology with their readings.

The orders of the maps that a snapshot is built from depend on how they were filled.  They leave no
trace, since a snapshot is sorted by its identifiers and a list with distinct keys is sorted in one
way only (`sortOn_eq_of_perm`).  Where keys repeat the sorting is stable, and what has one key keeps
the order in which it came (`filter_sortOn`).
-/

namespace Telemetry

/-! ## Sorting by a key -/

section sortOn

variable {α β : Type} [Ord β] [Std.TransOrd β] [Std.LawfulEqOrd β] {key : α → β} {l l' : List α}

omit [Std.LawfulEqOrd β] in
theorem isLE_total (a b : β) : ((compare a b).isLE || (compare b a).isLE) = true := by
  rw [Bool.or_eq_true]
  cases h : compare a b with
  | lt | eq => exact .inl rfl
  | gt => exact .inr (by rw [Std.OrientedCmp.gt_iff_lt.mp h]; rfl)

omit [Std.LawfulEqOrd β] in
theorem sortOn_pairwise (key : α → β) (l : List α) :
    (sortOn key l).Pairwise fun a b => (compare (key a) (key b)).isLE :=
  List.pairwise_mergeSort (fun _ _ _ => Std.TransCmp.isLE_trans) (fun _ _ => isLE_total _ _) l

/-- What has distinct keys is sorted strictly: the keys ascend, and no two of them are the same. -/
theorem sortOn_ascending (h : (l.map key).Nodup) :
    (sortOn key l).Pairwise fun a b => compare (key a) (key b) = .lt := by
  have hne : (sortOn key l).Pairwise fun a b => key a ≠ key b :=
    List.pairwise_map.mp (((sortOn_perm key l).map key).nodup_iff.mpr h)
  refine (sortOn_pairwise key l).imp₂ (fun a b hle hne => ?_) hne
  cases h : compare (key a) (key b) with
  | lt => rfl
  | eq => exact absurd (Std.LawfulEqCmp.eq_of_compare h) hne
  | gt =>
    rw [h] at hle
    cases hle

omit [Std.LawfulEqOrd β] in
/-- What has one key keeps its order, since the sorting is stable and a part with one key is sorted
already. -/
theorem filter_sortOn [DecidableEq β] (k : β) (l : List α) :
    (sortOn key l).filter (fun a => key a = k) = l.filter fun a => key a = k := by
  have hsame : (l.filter fun a => key a = k).Pairwise
      fun a b => (compare (key a) (key b)).isLE := by
    refine List.pairwise_of_forall_mem_list fun a ha b hb => ?_
    rw [of_decide_eq_true (List.mem_filter.mp ha).2, of_decide_eq_true (List.mem_filter.mp hb).2]
    exact Std.ReflOrd.isLE_rfl
  have hsublist : (l.filter fun a => key a = k).Sublist (sortOn key l) :=
    List.sublist_mergeSort (fun _ _ _ => Std.TransCmp.isLE_trans) (fun _ _ => isLE_total _ _)
      hsame List.filter_sublist
  have hfilter := hsublist.filter fun a => key a = k
  rw [List.filter_filter] at hfilter
  simp only [Bool.and_self] at hfilter
  exact (hfilter.eq_of_length ((sortOn_perm key l).filter _).length_eq.symm).symm

/-- What has distinct keys is sorted in one way, in whatever order it comes. -/
theorem sortOn_eq_of_perm (h : l.Perm l') (hkeys : (l.map key).Nodup) :
    sortOn key l = sortOn key l' := by
  have hperm : (sortOn key l).Perm (sortOn key l') :=
    (sortOn_perm key l).trans (h.trans (sortOn_perm key l').symm)
  refine hperm.eq_of_pairwise (fun a b _ _ hab hba => ?_) (sortOn_ascending hkeys)
    (sortOn_ascending ((h.map key).nodup_iff.mp hkeys))
  rw [Std.OrientedCmp.gt_iff_lt.mpr hab] at hba
  cases hba

end sortOn

/-! ## What is joined -/

/-- The sensors of all hardware, piece by piece in the order of the topology. -/
def Topology.sensors (topology : Topology) : List Sensor := topology.entries.flatMap Prod.snd

/-- No two sensors of the topology have the same identifier. -/
def Topology.Distinct (topology : Topology) : Prop :=
  (topology.sensors.map Sensor.id).Nodup

theorem Topology.Distinct.of_mem {topology : Topology} (h : topology.Distinct)
    {e : Hardware × List Sensor} (he : e ∈ topology.entries) : (e.2.map Sensor.id).Nodup := by
  unfold Topology.Distinct Topology.sensors at h
  rw [List.map_flatMap] at h
  exact (List.nodup_flatMap.mp h).1 e he

/-- No two readings are of sensors with the same identifier. -/
def Readings.Distinct (values : Readings) : Prop :=
  (values.entries.map fun e => e.1.id).Nodup

instance (topology : Topology) : Decidable topology.Distinct :=
  inferInstanceAs (Decidable (List.Nodup _))

instance (values : Readings) : Decidable values.Distinct :=
  inferInstanceAs (Decidable (List.Nodup _))

/-- Among readings of distinct sensors the one of an identifier is found, whatever the other
attributes of its sensor are. -/
theorem Readings.find?_eq_some {values : Readings} (h : values.Distinct) {id : SensorId}
    {raw : Float} :
    values.find? id = some raw ↔ ∃ sensor, (sensor, raw) ∈ values.entries ∧ sensor.id = id := by
  have hmem (e : Sensor × Float) : e ∈ values.entries.filter (fun e => e.1.id = id) ↔
      e ∈ values.entries ∧ e.1.id = id := by
    rw [List.mem_filter, decide_eq_true_eq]
  unfold find?
  rw [Option.map_eq_some_iff]
  constructor
  · rintro ⟨⟨sensor, raw⟩, hlast, rfl⟩
    exact ⟨sensor, (hmem _).mp (List.mem_of_getLast? hlast)⟩
  · rintro ⟨sensor, he⟩
    -- no other reading has the identifier
    have hone : ∀ e ∈ values.entries.filter (fun e => e.1.id = id), e = (sensor, raw) := by
      intro e hmine
      obtain ⟨hmine, hid⟩ := (hmem e).mp hmine
      exact List.inj_on_of_nodup_map h hmine he.1 (hid.trans he.2.symm)
    cases hlast : (values.entries.filter fun e => e.1.id = id).getLast? with
    | none =>
      rw [List.getLast?_eq_none_iff] at hlast
      have hin := (hmem (sensor, raw)).mpr he
      rw [hlast] at hin
      cases hin
    | some e => exact ⟨e, rfl, by rw [hone e (List.mem_of_getLast? hlast)]⟩

namespace Snapshot

/-- A sensor with its sample, if it has a reading.  The sensor is the one of the topology and not
the one of the reading. -/
def reading? (values : Readings) (takenAt : Instant) (sensor : Sensor) : Option SensorReading :=
  (values.find? sensor.id).map fun raw => ⟨sensor, .ofReading raw takenAt⟩

theorem reading?_eq_some {values : Readings} {takenAt : Instant} {sensor : Sensor}
    {r : SensorReading} :
    reading? values takenAt sensor = some r ↔
      r.sensor = sensor ∧ ∃ raw, values.find? sensor.id = some raw ∧
        r.value = .ofReading raw takenAt := by
  unfold reading?
  rw [Option.map_eq_some_iff]
  constructor
  · rintro ⟨raw, hraw, rfl⟩
    exact ⟨rfl, raw, hraw, rfl⟩
  · rintro ⟨hsensor, raw, hraw, hvalue⟩
    exact ⟨raw, hraw, SensorReading.ext hsensor.symm hvalue.symm⟩

/-- The readings of a snapshot are, in some order, the sensors with their readings. -/
theorem readings_build_perm (topology : Topology) (values : Readings) (takenAt : Instant) :
    (build topology values takenAt).readings.Perm
      (topology.sensors.filterMap (reading? values takenAt)) := by
  unfold readings build Topology.sensors
  refine ((sortOn_perm _ _).flatMap_right _).trans ?_
  rw [List.flatMap_map, List.filterMap_flatMap]
  exact List.Perm.flatMap_left _ fun e _ => sortOn_perm _ _

/-- The orders of the topology and of the readings leave no trace in a snapshot. -/
theorem build_eq_of_perm {topology topology' : Topology} {values values' : Readings}
    (htopology : topology.entries.Perm topology'.entries)
    (hvalues : values.entries.Perm values'.entries)
    (hhardware : (topology.entries.map fun e => e.1.id).Nodup) (hdistinct : values.Distinct)
    (takenAt : Instant) : build topology values takenAt = build topology' values' takenAt := by
  have hdistinct' : values'.Distinct := (hvalues.map _).nodup_iff.mp hdistinct
  have hfind (id : SensorId) : values.find? id = values'.find? id := by
    refine Option.ext fun raw => ?_
    rw [Readings.find?_eq_some hdistinct, Readings.find?_eq_some hdistinct']
    simp only [hvalues.mem_iff]
  have hreadings : readingsOf values takenAt = readingsOf values' takenAt := by
    funext sensors
    simp only [readingsOf, hfind]
  unfold build
  rw [hreadings]
  refine congrArg (Snapshot.mk takenAt) (sortOn_eq_of_perm (htopology.map _) ?_)
  rw [List.map_map]
  exact hhardware

theorem sensorCount_eq (s : Snapshot) : s.sensorCount = s.readings.length := by
  suffices h : ∀ (l : List HardwareReading) (n : Nat),
      l.foldl (fun n h => n + h.sensors.length) n = n + (l.flatMap fun h => h.sensors).length by
    exact (h s.hardware 0).trans (Nat.zero_add _)
  intro l
  induction l with
  | nil => exact fun n => rfl
  | cons h rest ih =>
    intro n
    rw [List.foldl_cons, ih, List.flatMap_cons, List.length_append, Nat.add_assoc]

end Snapshot

end Telemetry
