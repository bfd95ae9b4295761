import Telemetry.Proofs.Model.Snapshot
import Telemetry.Proofs.Text.Utf8

/-! # A snapshot is a join

A snapshot joins a topology with readings on the identifiers of sensors.  What such a join holds,
and in which order, is said here without a word on how it is made (`Snapshot.Joins`).  It leaves no
choice (`Joins.eq`), so it describes the snapshot in full (`build_isJoin`), and the orders in which
the two maps are listed leave no trace.

Identifiers are ordered by the bytes of their texts.  Hardware has distinct identifiers, and to be
ascending settles its order; sensors may share one, and then their order is that of the topology.  A
list that is sorted by a key is settled by what it holds under each key (`eq_of_filter_key`), which
is how the readings of one piece of hardware are described.
-/

namespace Telemetry

/-! ## The order of identifiers -/

theorem compare_text_eq_lt_iff {s t : String} :
    compare s t = .lt ↔ Text.bytes s < Text.bytes t :=
  compare_lt_iff_lt.trans Text.bytes_lt_iff.symm

theorem SensorId.isLE_iff {a b : SensorId} :
    (compare a b).isLE ↔ Text.bytes a.text ≤ Text.bytes b.text := by
  rw [← List.not_lt, ← compare_text_eq_lt_iff, ← Std.OrientedCmp.gt_iff_lt]
  show (compare a.text b.text).isLE ↔ _
  cases compare a.text b.text <;> decide

/-! ## Sorting with repeated keys -/

section sorted

variable {α β : Type} [Ord β] [Std.TransOrd β] [Std.LawfulEqOrd β] [DecidableEq β] {key : α → β}
  {l l' : List α}

omit [Std.TransOrd β] [Std.LawfulEqOrd β] [DecidableEq β] in
/-- The first of a sorted list is at most any other, itself among them. -/
theorem isLE_of_mem_cons [Std.ReflOrd β] {a b : α}
    (h : (a :: l).Pairwise fun a b => (compare (key a) (key b)).isLE)
    (hb : b ∈ a :: l) : (compare (key a) (key b)).isLE := by
  rcases List.mem_cons.mp hb with rfl | hb
  · exact Std.ReflOrd.isLE_rfl
  · exact List.rel_of_pairwise_cons h hb

/-- Sorted lists that hold the same under every key, in the same order, are the same.  The induction
is on the first list; the two have the same first element, since neither has a smaller key. -/
theorem eq_of_filter_key (h : l.Pairwise fun a b => (compare (key a) (key b)).isLE)
    (h' : l'.Pairwise fun a b => (compare (key a) (key b)).isLE)
    (hfilter : ∀ k, l.filter (fun a => key a = k) = l'.filter fun a => key a = k) : l = l' := by
  induction l generalizing l' with
  | nil =>
    refine (List.eq_nil_iff_forall_not_mem.mpr fun b hb => ?_).symm
    simpa using List.filter_eq_nil_iff.mp (hfilter (key b)).symm b hb
  | cons a l ih =>
    have hmem (b : α) : b ∈ a :: l ↔ b ∈ l' := by
      have hin := congrArg (b ∈ ·) (hfilter (key b))
      simpa using hin
    cases l' with
    | nil => simpa using (hmem a).mp List.mem_cons_self
    | cons b l' =>
      have hkey : key a = key b := Std.LawfulEqCmp.eq_of_compare <| Std.OrientedCmp.isLE_antisymm
        (isLE_of_mem_cons h ((hmem b).mpr List.mem_cons_self))
        (isLE_of_mem_cons h' ((hmem a).mp List.mem_cons_self))
      have hfirst := hfilter (key b)
      rw [List.filter_cons_of_pos (by simpa using hkey),
        List.filter_cons_of_pos (by simp)] at hfirst
      obtain ⟨rfl, hsame⟩ := List.cons.inj hfirst
      refine congrArg (a :: ·) (ih h.of_cons h'.of_cons fun k => ?_)
      by_cases hk : key a = k
      · exact hk ▸ hsame
      · simpa [List.filter_cons, hk] using hfilter k

end sorted

/-! ## What a snapshot joins -/

/-- The readings hold this one for an identifier. -/
def Readings.Gives (values : Readings) (id : SensorId) (raw : Float) : Prop :=
  ∃ sensor, (sensor, raw) ∈ values.entries ∧ sensor.id = id

theorem Readings.gives_iff {values : Readings} (h : values.Distinct) {id : SensorId} {raw : Float} :
    values.Gives id raw ↔ values.find? id = some raw :=
  (Readings.find?_eq_some h).symm

theorem Readings.isSome_find? {values : Readings} {id : SensorId} :
    (values.find? id).isSome ↔ id ∈ values.entries.map fun e => e.1.id := by
  unfold find?
  rw [Option.isSome_map, List.getLast?_isSome, ← List.length_pos_iff,
    List.length_pos_iff_exists_mem, List.mem_map]
  simp only [List.mem_filter, decide_eq_true_eq]

namespace Snapshot

/-- The readings of one piece of hardware: the sensors that it has in the topology, as the topology
shows them, each with the reading of its identifier; those without one are left out. -/
structure JoinsSensors (values : Readings) (takenAt : Instant) (sensors : List Sensor)
    (rs : List SensorReading) : Prop where
  ascending : rs.Pairwise fun a b => Text.bytes a.sensor.id.text ≤ Text.bytes b.sensor.id.text
  /-- Sensors of one identifier all stay, in their order. -/
  read : ∀ id raw, values.Gives id raw → rs.filter (fun r => r.sensor.id = id) =
    (sensors.filter fun sensor => sensor.id = id).map fun sensor => ⟨sensor, .ofReading raw takenAt⟩
  unread : ∀ id, (∀ raw, ¬ values.Gives id raw) → rs.filter (fun r => r.sensor.id = id) = []

/-- The join of a topology with readings: every piece of hardware once, with its readings.  Hardware
is ordered by the bytes of its identifiers, strictly, and the readings of each piece likewise, up to
sensors with the same identifier. -/
structure Joins (topology : Topology) (values : Readings) (takenAt : Instant) (s : Snapshot) :
    Prop where
  dated : s.takenAt = takenAt
  hardware : (s.hardware.map fun h => h.hardware).Perm topology.keys
  ascending : s.hardware.Pairwise fun a b =>
    Text.bytes a.hardware.id.text < Text.bytes b.hardware.id.text
  sensors : ∀ h ∈ s.hardware, ∀ sensors, (h.hardware, sensors) ∈ topology.entries →
    JoinsSensors values takenAt sensors h.sensors

variable {topology : Topology} {values : Readings} {takenAt : Instant} {sensors : List Sensor}

theorem joinsSensors_readingsOf (hvalues : values.Distinct) :
    JoinsSensors values takenAt sensors (readingsOf values takenAt sensors) := by
  have hfilter (id : SensorId) :
      (readingsOf values takenAt sensors).filter (fun r => r.sensor.id = id) =
        (sensors.filter fun sensor => sensor.id = id).filterMap (reading? values takenAt) := by
    refine (filter_sortOn id _).trans ?_
    rw [List.filter_filterMap, List.filterMap_filter]
    refine List.filterMap_congr fun sensor _ => ?_
    rw [reading?]
    by_cases hid : sensor.id = id <;> cases values.find? sensor.id <;> simp [hid]
  have hsorted := sortOn_pairwise (fun r : SensorReading => r.sensor.id)
  refine ⟨(hsorted _).imp SensorId.isLE_iff.mp, ?_, ?_⟩
  · intro id raw hraw
    rw [hfilter, ← List.filterMap_eq_map]
    refine List.filterMap_congr fun sensor hsensor => ?_
    rw [Readings.gives_iff hvalues, ← of_decide_eq_true (List.mem_filter.mp hsensor).2] at hraw
    rw [reading?, hraw]
    rfl
  · intro id hnone
    rw [hfilter, List.filterMap_eq_nil_iff]
    intro sensor hsensor
    have hid : sensor.id = id := of_decide_eq_true (List.mem_filter.mp hsensor).2
    rw [reading?, Option.map_eq_none_iff, Option.eq_none_iff_forall_ne_some, hid]
    exact fun raw hraw => hnone raw ((Readings.gives_iff hvalues).mpr hraw)

/-- The readings that are joined leave no choice: under every identifier both lists hold the same,
in the same order. -/
theorem JoinsSensors.eq {rs rs' : List SensorReading}
    (h : JoinsSensors values takenAt sensors rs) (h' : JoinsSensors values takenAt sensors rs') :
    rs = rs' := by
  have hsorted {rs : List SensorReading} (h : JoinsSensors values takenAt sensors rs) :
      rs.Pairwise fun a b => (compare a.sensor.id b.sensor.id).isLE :=
    h.ascending.imp SensorId.isLE_iff.mpr
  refine eq_of_filter_key (hsorted h) (hsorted h') fun id => ?_
  by_cases hread : ∃ raw, values.Gives id raw
  · obtain ⟨raw, hraw⟩ := hread
    exact (h.read id raw hraw).trans (h'.read id raw hraw).symm
  · have hnone : ∀ raw, ¬ values.Gives id raw := not_exists.mp hread
    exact (h.unread id hnone).trans (h'.unread id hnone).symm

theorem joins_build (hhardware : (topology.keys.map Hardware.id).Nodup)
    (hvalues : values.Distinct) :
    Joins topology values takenAt (build topology values takenAt) where
  dated := rfl
  hardware := by
    refine ((sortOn_perm _ _).map _).trans (.of_eq ?_)
    rw [List.map_map]
    rfl
  ascending := by
    have hids : ((topology.entries.map fun e => HardwareReading.mk e.1
        (readingsOf values takenAt e.2)).map fun h => h.hardware.id).Nodup := by
      rw [List.map_map]
      rwa [Enumeration.keys, List.map_map] at hhardware
    exact (sortOn_ascending hids).imp compare_text_eq_lt_iff.mp
  sensors h hh sensors hsensors := by
    obtain ⟨e, he, rfl⟩ := List.mem_map.mp ((sortOn_perm _ _).mem_iff.mp hh)
    have heq : e = (e.1, sensors) := List.inj_on_of_nodup_map topology.distinct he hsensors rfl
    rw [heq]
    exact joinsSensors_readingsOf hvalues

/-- **A join leaves no choice.**  The hardware is that of the topology in the order of identifiers,
and the readings of each are settled. -/
theorem Joins.eq {s s' : Snapshot} (h : Joins topology values takenAt s)
    (h' : Joins topology values takenAt s') : s = s' := by
  -- either join has every piece of hardware of the other, with the same readings
  have hsub {s s' : Snapshot} (h : Joins topology values takenAt s)
      (h' : Joins topology values takenAt s') : s.hardware ⊆ s'.hardware := by
    intro a ha
    have hkey : a.hardware ∈ topology.keys := h.hardware.mem_iff.mp (List.mem_map_of_mem ha)
    obtain ⟨⟨hardware, sensors⟩, he, hfst⟩ := List.mem_map.mp hkey
    obtain ⟨b, hb, hba⟩ := List.mem_map.mp (h'.hardware.mem_iff.mpr hkey)
    cases hfst
    have hsensors : a.sensors = b.sensors :=
      (h.sensors a ha sensors he).eq (h'.sensors b hb sensors (hba ▸ he))
    have hab : a = b := HardwareReading.ext hba.symm hsensors
    exact hab ▸ hb
  have hnodup {s : Snapshot} (h : Joins topology values takenAt s) : s.hardware.Nodup := by
    refine h.ascending.imp fun hlt heq => ?_
    rw [heq] at hlt
    exact List.lt_irrefl _ hlt
  have hperm : s.hardware.Perm s'.hardware :=
    (List.perm_ext_iff_of_nodup (hnodup h) (hnodup h')).mpr fun a =>
      ⟨fun ha => hsub h h' ha, fun ha => hsub h' h ha⟩
  have hhardware : s.hardware = s'.hardware := by
    refine hperm.eq_of_pairwise ?_ h.ascending h'.ascending
    exact fun a b _ _ hab hba => absurd hba (List.lt_asymm hab)
  exact Snapshot.ext (h.dated.trans h'.dated.symm) hhardware

/-- Readings of which the identifiers of the topology see the same make the same snapshot.  Nothing
else of the readings is looked at. -/
theorem build_congr {values' : Readings} (h : ∀ id ∈ topology.sensors.map Sensor.id,
    values'.find? id = values.find? id) :
    build topology values' takenAt = build topology values takenAt := by
  have hreadings : ∀ e ∈ topology.entries,
      readingsOf values' takenAt e.2 = readingsOf values takenAt e.2 := by
    intro e he
    refine congrArg (sortOn _) (List.filterMap_congr fun sensor hsensor => ?_)
    rw [h sensor.id (List.mem_map_of_mem (List.mem_flatMap.mpr ⟨e, he, hsensor⟩))]
  unfold build
  congr 2
  exact List.map_congr_left fun e he => by rw [hreadings e he]

theorem sensorCount_build (topology : Topology) (values : Readings) (takenAt : Instant) :
    (build topology values takenAt).sensorCount =
      topology.sensors.countP fun sensor => sensor.id ∈ values.entries.map fun e => e.1.id := by
  rw [sensorCount_eq, (readings_build_perm topology values takenAt).length_eq,
    List.length_filterMap_eq_countP]
  refine List.countP_congr fun sensor _ => ?_
  rw [decide_eq_true_eq, reading?, Option.isSome_map, Readings.isSome_find?]

/-- **A snapshot is the join of its topology with its readings**, and all that can be said of the
join is said of it: it counts the sensors of the topology that have a reading, the orders of the two
maps leave no trace in it, and neither do readings of sensors that the topology does not have.  The
first part says that the join is the snapshot and nothing else is (`Joins.eq`), so that the
description leaves nothing out. -/
theorem build_isJoin (hhardware : (topology.keys.map Hardware.id).Nodup)
    (hvalues : values.Distinct) (takenAt : Instant) :
    (∀ s, s = build topology values takenAt ↔ Joins topology values takenAt s) ∧
      (build topology values takenAt).sensorCount =
        topology.sensors.countP (fun sensor => sensor.id ∈ values.entries.map fun e => e.1.id) ∧
      (∀ (topology' : Topology) (values' : Readings), topology.entries.Perm topology'.entries →
        values.entries.Perm values'.entries →
        build topology' values' takenAt = build topology values takenAt) ∧
      (∀ values' : Readings, values'.Distinct →
        (∀ e, e.1.id ∈ topology.sensors.map Sensor.id →
          (e ∈ values'.entries ↔ e ∈ values.entries)) →
        build topology values' takenAt = build topology values takenAt) := by
  refine ⟨fun s => ?_, sensorCount_build topology values takenAt, ?_, ?_⟩
  · constructor
    · rintro rfl
      exact joins_build hhardware hvalues
    · exact fun h => h.eq (joins_build hhardware hvalues)
  · intro topology' values' htopology hperm
    rw [Enumeration.keys, List.map_map] at hhardware
    exact (build_eq_of_perm htopology hperm hhardware hvalues takenAt).symm
  · intro values' hvalues' hsame
    refine build_congr fun id hid => Option.ext fun raw => ?_
    rw [Readings.find?_eq_some hvalues', Readings.find?_eq_some hvalues]
    refine exists_congr fun sensor => and_congr_left fun hsensor => hsame _ ?_
    rwa [hsensor]

/-! A disk that is listed before the processor, a sensor that the processor lists twice, and a
reading that comes under other attributes. -/

/-- A load of the processor, with an identifier and a name. -/
def loadSensor (id name : String) : Sensor := ⟨⟨id⟩, ⟨"/cpu/0"⟩, name, .load, 100⟩

/-- Hardware with sensors, in no order of identifiers. -/
def unorderedTopology : Topology where
  entries := [(⟨⟨"/disk/0"⟩, "Disk", .hdd⟩, []),
    (⟨⟨"/cpu/0"⟩, "Processor", .cpu⟩,
      [loadSensor "/cpu/0/load/1" "Core", loadSensor "/cpu/0/load/0" "Total",
        loadSensor "/cpu/0/load/1" "Core again"])]
  distinct := by decide

/-- Readings, one of them under other attributes and one of no sensor above. -/
def renamedReadings : Readings where
  entries := [(loadSensor "/cpu/0/load/1" "Renamed", 41.5), (loadSensor "/gpu/0/load/0" "GPU", 7)]
  distinct := by decide

/-- The disk comes behind the processor, which has two readings of one value, for the sensor that it
lists twice; its total has none. -/
theorem isJoin_of_unordered :
    (unorderedTopology.keys.map Hardware.id).Nodup ∧ renamedReadings.Distinct ∧
      ∀ takenAt, Joins unorderedTopology renamedReadings takenAt
        (build unorderedTopology renamedReadings takenAt) := by
  have hhardware : (unorderedTopology.keys.map Hardware.id).Nodup := by decide
  have hvalues : renamedReadings.Distinct := by decide
  exact ⟨hhardware, hvalues, fun takenAt =>
    ((build_isJoin hhardware hvalues takenAt).1 _).mp rfl⟩

end Snapshot

end Telemetry
