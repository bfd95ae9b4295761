import Mathlib.Data.List.Induction
import Telemetry.Proofs.Service.Cycle

/-! # What a report tells

A cycle over a range of time stores what was just measured and then reports what the store holds for
every sensor of the topology.  Nothing of the topology is lost or listed twice on the way through
the groups and the two levels of sorting (`Report.Tells`), each sensor comes with the samples of the
range, the newest among them, and the orders in which the inspector lists its answers leave no
trace.

The three parts follow the report from the inside.  Histories are put into groups by the types of
their sensors, and a group has all of its type (`find?_groupHistories`); a piece of hardware then
has all its sensors, and a report all hardware, up to the order (`histories_report_perm`).  What the
samples of a sensor are is asked of the store alone (`lists_between_of_reading`,
`lists_between_of_silent`).

When a survey ends, and with what, is a matter of the inspector's answers (`survey_of_answers`).
-/

namespace Telemetry

/-! ## Groups of one type -/

namespace World

/-- The histories of sensors of a type, in the order in which they come. -/
def ofKind (hs : List SensorHistory) (kind : SensorType) : List SensorHistory :=
  hs.filter fun h => h.sensor.kind = kind

theorem find?_addHistories (hs : List SensorHistory) (kind : SensorType) :
    (hs.foldl addHistory .empty).find? kind =
      if ofKind hs kind = [] then none else some (ofKind hs kind) := by
  induction hs using List.reverseRecOn with
  | nil => rfl
  | append_singleton hs h ih =>
    rw [List.foldl_append, List.foldl_cons, List.foldl_nil, addHistory, SortedMap.find?_insert]
    by_cases hkind : h.sensor.kind = kind
    · subst hkind
      have hgroup : ((hs.foldl addHistory .empty).find? h.sensor.kind).getD [] =
          ofKind hs h.sensor.kind := by
        rw [ih]
        split
        · rename_i hnil
          exact hnil.symm
        · rfl
      rw [if_pos Std.ReflCmp.compare_self, hgroup]
      simp [ofKind]
    · have hne : ¬ compare kind h.sensor.kind = .eq :=
        fun heq => hkind (Std.LawfulEqCmp.eq_of_compare heq).symm
      rw [if_neg hne, ih]
      simp [ofKind, hkind]

/-- A group holds all histories of its type and is not empty; for a type without histories there is
no group. -/
theorem find?_groupHistories {hs : List SensorHistory} {kind : SensorType}
    {group : List SensorHistory} :
    (groupHistories hs).find? kind = some group ↔
      ofKind hs kind ≠ [] ∧ group = sortOn (fun h => h.sensor.id) (ofKind hs kind) := by
  rw [groupHistories, SortedMap.find?_map, find?_addHistories]
  split
  · rename_i hnil
    simp [hnil]
  · rename_i hsome
    simp [hsome, eq_comm]

theorem mem_group {hs : List SensorHistory} {kind : SensorType} {group : List SensorHistory}
    (hgroup : (groupHistories hs).find? kind = some group) {h : SensorHistory} :
    h ∈ group ↔ h ∈ hs ∧ h.sensor.kind = kind := by
  obtain ⟨-, rfl⟩ := find?_groupHistories.mp hgroup
  rw [(sortOn_perm _ _).mem_iff, ofKind, List.mem_filter, decide_eq_true_eq]

/-- The groups hold every history, and each once, since a sensor has one type. -/
theorem flatten_groupHistories_perm {hs : List SensorHistory} (hnodup : hs.Nodup) :
    (groupHistories hs).values.flatten.Perm hs := by
  have hmem (e : SensorType × List SensorHistory) :
      e ∈ (groupHistories hs).entries ↔ (groupHistories hs).find? e.1 = some e.2 :=
    SortedMap.mem_entries
  refine (List.perm_ext_iff_of_nodup ?_ hnodup).mpr fun h => ?_
  · -- groups of different types have nothing in common
    refine List.nodup_flatten.mpr ⟨fun group hgroup => ?_, List.pairwise_map.mpr ?_⟩
    · obtain ⟨e, he, rfl⟩ := List.mem_map.mp hgroup
      obtain ⟨-, hsorted⟩ := find?_groupHistories.mp ((hmem e).mp he)
      rw [hsorted]
      exact (sortOn_perm _ _).nodup_iff.mpr (hnodup.filter _)
    · refine (groupHistories hs).ascending.imp_of_mem fun {a b} ha hb hlt h hina hinb => ?_
      have hkinda := ((mem_group ((hmem a).mp ha)).mp hina).2
      have hkindb := ((mem_group ((hmem b).mp hb)).mp hinb).2
      exact SortedMap.ne_of_compare_lt hlt (hkinda.symm.trans hkindb)
  · rw [List.mem_flatten]
    constructor
    · rintro ⟨group, hgroup, hin⟩
      obtain ⟨e, he, rfl⟩ := List.mem_map.mp hgroup
      exact ((mem_group ((hmem e).mp he)).mp hin).1
    · intro hin
      have hkind : h ∈ ofKind hs h.sensor.kind := List.mem_filter.mpr ⟨hin, decide_eq_true rfl⟩
      have hgroup := find?_groupHistories.mpr ⟨List.ne_nil_of_mem hkind, rfl⟩
      exact ⟨_, List.mem_map.mpr ⟨_, SortedMap.mem_entries.mpr hgroup, rfl⟩,
        (mem_group hgroup).mpr ⟨hin, rfl⟩⟩

end World

namespace Store

variable {s : Store}

/-! ## What the report of a store tells -/

theorem mem_hardware_report {topology : Topology} {first last : Instant} {h : HardwareHistory} :
    h ∈ (s.report topology first last).hardware ↔
      ∃ e ∈ topology.entries, h = s.hardwareHistory first last e := by
  unfold report
  rw [(sortOn_perm _ _).mem_iff, List.mem_map]
  simp only [eq_comm]

/-- Under every piece of hardware all its sensors are listed, each once, in some group. -/
theorem sensors_hardwareHistory_perm (s : Store) {topology : Topology}
    (hdistinct : topology.Distinct) {e : Hardware × List Sensor} (he : e ∈ topology.entries)
    (first last : Instant) :
    (s.hardwareHistory first last e).sensors.values.flatten.Perm
      (e.2.map (s.sensorHistory first last)) := by
  refine World.flatten_groupHistories_perm (List.Nodup.of_map (fun h => h.sensor.id) ?_)
  rw [List.map_map]
  exact hdistinct.of_mem he

/-- The histories of a report are, in some order, those of the sensors of the topology, of all
hardware together. -/
theorem histories_report_perm (s : Store) {topology : Topology} (hdistinct : topology.Distinct)
    (first last : Instant) :
    (s.report topology first last).histories.Perm
      (topology.sensors.map (s.sensorHistory first last)) := by
  unfold Report.histories report Topology.sensors
  refine ((sortOn_perm _ _).flatMap_right _).trans ?_
  rw [List.flatMap_map, List.map_flatMap]
  exact List.Perm.flatMap_left _ fun e he => s.sensors_hardwareHistory_perm hdistinct he first last

/-- A report finds the history of each sensor of the topology, and no other.  No two sensors have
the same identifier, so it does not matter which hardware is looked at first. -/
theorem find?_report (s : Store) {topology : Topology} (hdistinct : topology.Distinct)
    (first last : Instant) (id : SensorId) (h : SensorHistory) :
    (s.report topology first last).find? id = some h ↔
      ∃ sensor ∈ topology.sensors, sensor.id = id ∧ h = s.sensorHistory first last sensor := by
  have hperm := s.histories_report_perm hdistinct first last
  have hids : ((s.report topology first last).histories.map fun h => h.sensor.id).Nodup := by
    refine (hperm.map _).nodup_iff.mpr ?_
    rw [List.map_map]
    exact hdistinct
  have hmem (h : SensorHistory) : h ∈ (s.report topology first last).histories ↔
      ∃ sensor ∈ topology.sensors, s.sensorHistory first last sensor = h := by
    rw [hperm.mem_iff, List.mem_map]
  unfold Report.find?
  constructor
  · intro hfind
    obtain ⟨sensor, hsensor, rfl⟩ := (hmem h).mp (List.mem_of_find?_eq_some hfind)
    have hid : (s.sensorHistory first last sensor).sensor.id = id := by
      simpa using List.find?_some hfind
    exact ⟨sensor, hsensor, hid, rfl⟩
  · rintro ⟨sensor, hsensor, rfl, rfl⟩
    have hin := (hmem _).mpr ⟨sensor, hsensor, rfl⟩
    -- the first history with the identifier is the one, since no other has it
    cases hfind : (s.report topology first last).histories.find?
        fun h => h.sensor.id = sensor.id with
    | none =>
      have hnone := List.find?_eq_none.mp hfind _ hin
      exact absurd (decide_eq_true rfl) hnone
    | some h =>
      have hid : h.sensor.id = sensor.id := by simpa using List.find?_some hfind
      rw [List.inj_on_of_nodup_map hids (List.mem_of_find?_eq_some hfind) hin hid]

/-- The order of a topology leaves no trace in a report: hardware is sorted by its identifiers, and
so are the sensors of a group. -/
theorem report_eq_of_perm (s : Store) {topology topology' : Topology}
    (h : topology.entries.Perm topology'.entries)
    (hhardware : (topology.entries.map fun e => e.1.id).Nodup) (first last : Instant) :
    s.report topology first last = s.report topology' first last := by
  unfold report
  refine congrArg (Report.mk last first last) (sortOn_eq_of_perm (h.map _) ?_)
  rw [List.map_map]
  exact hhardware

end Store

/-! ## The report of a cycle -/

/-- A report tells what a survey listed and measured at an instant, on top of what a store held
since another one.  The fields go through it from the outside to the inside: the range, the
hardware, the sensors under each piece of hardware, their groups, and the samples of each sensor;
the last two are about looking a sensor up. -/
structure Report.Tells (r : Report) (s : Surveyed) (store : Store) (since now : Instant) :
    Prop where
  first : r.first = since
  last : r.last = now
  /-- The hardware is that of the topology, in the order of identifiers. -/
  hardware : (r.hardware.map HardwareHistory.hardware).Perm (s.topology.entries.map Prod.fst)
  ascending : r.hardware.Pairwise fun a b => compare a.hardware.id b.hardware.id = .lt
  /-- Under each piece of hardware its own sensors are listed, each once. -/
  sensors : ∀ h ∈ r.hardware, ∃ sensors, (h.hardware, sensors) ∈ s.topology.entries ∧
    (h.sensors.values.flatten.map SensorHistory.sensor).Perm sensors
  /-- The groups hold sensors of their type, in the order of identifiers, and none is empty. -/
  groups : ∀ h ∈ r.hardware, ∀ kind group, h.sensors.find? kind = some group →
    group ≠ [] ∧ (∀ x ∈ group, x.sensor.kind = kind) ∧
      group.Pairwise fun a b => compare a.sensor.id b.sensor.id = .lt
  /-- A sensor with a reading has its samples of the range, the last of them from the reading. -/
  reported : ∀ x ∈ r.histories, ∀ reader raw, (reader, raw) ∈ s.readings.entries →
    reader.id = x.sensor.id → Lists x.samples fun y => y = .ofReading raw now ∨
      store.Holds x.sensor.id y ∧ since ≤ y.timestamp ∧ y.timestamp < now
  /-- A sensor without a reading has its samples of the range. -/
  silent : ∀ x ∈ r.histories, (∀ e ∈ s.readings.entries, e.1.id ≠ x.sensor.id) →
    Lists x.samples fun y =>
      store.Holds x.sensor.id y ∧ since ≤ y.timestamp ∧ y.timestamp ≤ now
  /-- Every sensor of the topology is found with its history. -/
  found : ∀ sensor ∈ s.topology.sensors,
    ∃ x ∈ r.histories, x.sensor = sensor ∧ r.find? sensor.id = some x
  /-- No other sensor is. -/
  absent : ∀ id, (∀ sensor ∈ s.topology.sensors, sensor.id ≠ id) → r.find? id = none

namespace Surveyed

variable {s : Surveyed} {store : Store} {since now : Instant} {sensor : Sensor}

/-- Of a sensor with a reading the store then lists that reading and what was there before.  A
sample that was there at this very instant has been replaced. -/
theorem lists_between_of_reading (htopology : s.topology.Distinct)
    (hreadings : s.readings.Distinct) (hrange : since < now)
    (hsensor : sensor ∈ s.topology.sensors) {reader : Sensor} {raw : Float}
    (hread : (reader, raw) ∈ s.readings.entries) (hid : reader.id = sensor.id) :
    Lists ((store.writeAll (s.samplesAt now)).between sensor.id since now) fun y =>
      y = .ofReading raw now ∨
        store.Holds sensor.id y ∧ since ≤ y.timestamp ∧ y.timestamp < now := by
  have hyields := yields_samplesAt htopology hreadings now
  have hwritten : (sensor.id, Sample.ofReading raw now) ∈ s.samplesAt now :=
    (hyields.mem_iff _ _).mpr ⟨⟨sensor, hsensor, rfl⟩, reader, raw, hread, hid, rfl⟩
  refine (Store.lists_between _ _ _ _).congr fun y => ?_
  unfold Store.Holds
  rw [Store.valueAt?_writeAll_of_mem hyields.once hwritten, Instant.le_iff_lt_or_eq (u := now)]
  by_cases hnow : y.timestamp = now
  · have hafter : since ≤ now := Instant.le_iff_lt_or_eq.mpr (.inl hrange)
    have hnot : ¬ now < now := Instant.lt_irrefl now
    simp [Sample.ofReading, Sample.ext_iff, hnow, hafter, hnot, eq_comm]
  · simp [Sample.ofReading, Sample.ext_iff, hnow]

/-- A sample is stored for the sensors of the topology that have a reading, and for no others. -/
theorem mem_map_fst_samplesAt (htopology : s.topology.Distinct) (hreadings : s.readings.Distinct)
    {id : SensorId} :
    id ∈ (s.samplesAt now).map Prod.fst ↔
      (∃ sensor ∈ s.topology.sensors, sensor.id = id) ∧
        ∃ e ∈ s.readings.entries, e.1.id = id := by
  have hyields := yields_samplesAt htopology hreadings now
  constructor
  · intro h
    obtain ⟨⟨id, x⟩, hx, rfl⟩ := List.mem_map.mp h
    obtain ⟨hsensor, reader, raw, hread, hid, -⟩ := (hyields.mem_iff id x).mp hx
    exact ⟨hsensor, _, hread, hid⟩
  · rintro ⟨hsensor, ⟨reader, raw⟩, hread, hid⟩
    exact List.mem_map_of_mem (f := Prod.fst)
      ((hyields.mem_iff id _).mpr ⟨hsensor, reader, raw, hread, hid, rfl⟩)

/-- Of a sensor without a reading the store then lists what was there before. -/
theorem lists_between_of_silent (htopology : s.topology.Distinct)
    (hreadings : s.readings.Distinct) (hsilent : ∀ e ∈ s.readings.entries, e.1.id ≠ sensor.id) :
    Lists ((store.writeAll (s.samplesAt now)).between sensor.id since now) fun y =>
      store.Holds sensor.id y ∧ since ≤ y.timestamp ∧ y.timestamp ≤ now := by
  have hnone : sensor.id ∉ (s.samplesAt now).map Prod.fst := by
    rw [mem_map_fst_samplesAt htopology hreadings]
    rintro ⟨-, e, he, hid⟩
    exact hsilent e he hid
  refine (Store.lists_between _ _ _ _).congr fun y => ?_
  unfold Store.Holds
  rw [Store.valueAt?_writeAll_of_notMem hnone]

/-- What a store tells once the samples of a survey are written, field by field. -/
theorem tells_report (store : Store) (hrange : since < now)
    (hhardware : (s.topology.entries.map fun e => e.1.id).Nodup)
    (htopology : s.topology.Distinct) (hreadings : s.readings.Distinct) :
    ((store.writeAll (s.samplesAt now)).report s.topology since now).Tells s store since now := by
  let stored := store.writeAll (s.samplesAt now)
  -- all that is said of the histories of the report is said of the sensors of the topology
  have hmem (x : SensorHistory) : x ∈ (stored.report s.topology since now).histories ↔
      ∃ sensor ∈ s.topology.sensors, stored.sensorHistory since now sensor = x := by
    rw [(stored.histories_report_perm htopology since now).mem_iff, List.mem_map]
  constructor
  case first => rfl
  case last => rfl
  case hardware =>
    refine ((sortOn_perm _ _).map _).trans ?_
    rw [List.map_map]
    exact .refl _
  case ascending =>
    refine sortOn_ascending ?_
    rw [List.map_map]
    exact hhardware
  case sensors =>
    intro h hh
    obtain ⟨e, he, rfl⟩ := Store.mem_hardware_report.mp hh
    have hperm := (stored.sensors_hardwareHistory_perm htopology he since now).map
      SensorHistory.sensor
    rw [List.map_map, show SensorHistory.sensor ∘ stored.sensorHistory since now = id from rfl,
      List.map_id] at hperm
    exact ⟨e.2, he, hperm⟩
  case groups =>
    intro h hh kind group hgroup
    obtain ⟨e, he, rfl⟩ := Store.mem_hardware_report.mp hh
    obtain ⟨hsome, rfl⟩ := World.find?_groupHistories.mp hgroup
    refine ⟨?_, fun x hx => ((World.mem_group hgroup).mp hx).2, sortOn_ascending ?_⟩
    · rwa [← List.length_pos_iff, (sortOn_perm _ _).length_eq, List.length_pos_iff]
    · have hids : ((e.2.map (stored.sensorHistory since now)).map fun x => x.sensor.id).Nodup := by
        rw [List.map_map]
        exact htopology.of_mem he
      exact hids.sublist (List.filter_sublist.map _)
  case reported =>
    intro x hx reader raw hread hid
    obtain ⟨sensor, hsensor, rfl⟩ := (hmem x).mp hx
    exact lists_between_of_reading htopology hreadings hrange hsensor hread hid
  case silent =>
    intro x hx hsilent
    obtain ⟨sensor, hsensor, rfl⟩ := (hmem x).mp hx
    exact lists_between_of_silent htopology hreadings hsilent
  case found =>
    intro sensor hsensor
    exact ⟨_, (hmem _).mpr ⟨sensor, hsensor, rfl⟩, rfl,
      (stored.find?_report htopology since now _ _).mpr ⟨sensor, hsensor, rfl, rfl⟩⟩
  case absent =>
    intro id hother
    rw [Option.eq_none_iff_forall_not_mem]
    intro x hx
    obtain ⟨sensor, hsensor, hid, -⟩ := (stored.find?_report htopology since now id x).mp hx
    exact hother sensor hsensor hid

end Surveyed

namespace World

variable {w : World} {cancelled : Bool} {stage : Survey} {range : Delta} {first : Instant}
  {s : Surveyed}

/-- A cycle over a range of time that has surveyed the machine stores the samples and reports. -/
theorem advanceCycle_eq_report (hfaultless : w.Faultless) (hpos : 0 < range.nanos)
    (hfirst : w.clock.sub? range = some first)
    (hsurvey : (w.advanceSurvey cancelled stage).2 = .done (.value s)) :
    let store := w.store.writeAll (s.samplesAt w.clock)
    let r := w.advanceCycle cancelled (.history range) stage
    r.1.store = store ∧ r.2 = .done (.value (.report (store.report s.topology first w.clock))) := by
  have hadmitted : (Purpose.history range).refusal = none := if_neg (Int.not_le.mpr hpos)
  rcases w.advanceCycle_cases cancelled (.history range) stage with ⟨e, -, hrefused, -⟩ | ⟨-, hstep⟩
  · rw [hadmitted] at hrefused
    cases hrefused
  · have hframe := (w.surveying_advanceSurvey cancelled stage).1.frame
    rw [hstep, hsurvey]
    generalize (w.advanceSurvey cancelled stage).1 = w₁ at hframe
    have hclock : w₁.clock = w.clock := by rw [hframe]
    have hstore : w₁.store = w.store := by rw [hframe]
    have hcomplete := complete_history (hfaultless.congr (by rw [hframe] : w₁.faults = w.faults))
      hpos (hclock ▸ hfirst) s
    rw [hclock, hstore] at hcomplete
    unfold completeSurvey
    simp only [hcomplete]
    exact ⟨trivial, rfl⟩

/-- **A cycle over a range of time returns the history that it should.**  Once the inspector has
answered (`survey_of_answers`), it succeeds; the report tells of every sensor of the topology the
samples of the range, the new one included; nothing is stored for a sensor that the topology lacks;
and the orders in which the inspector lists hardware and readings leave no trace. -/
theorem history_of_survey (hfaultless : w.Faultless) (hpos : 0 < range.nanos)
    (hfirst : w.clock.sub? range = some first)
    (hsurvey : (w.advanceSurvey cancelled stage).2 = .done (.value s))
    (hhardware : (s.topology.entries.map fun e => e.1.id).Nodup)
    (htopology : s.topology.Distinct) (hreadings : s.readings.Distinct) :
    ∃ r : Report,
      (w.advanceCycle cancelled (.history range) stage).2 = .done (.value (.report r)) ∧
      r.Tells s w.store first w.clock ∧
      (∀ id, (∀ sensor ∈ s.topology.sensors, sensor.id ≠ id) →
        (w.advanceCycle cancelled (.history range) stage).1.store.series.find? id =
          w.store.series.find? id) ∧
      ∀ (w' : World) (cancelled' : Bool) (stage' : Survey) (s' : Surveyed),
        w'.Faultless → w'.clock = w.clock → w'.store = w.store →
        (w'.advanceSurvey cancelled' stage').2 = .done (.value s') →
        s.topology.entries.Perm s'.topology.entries →
        s.readings.entries.Perm s'.readings.entries →
        (w'.advanceCycle cancelled' (.history range) stage').2 = .done (.value (.report r)) := by
  obtain ⟨hstore, hreport⟩ := advanceCycle_eq_report hfaultless hpos hfirst hsurvey
  refine ⟨_, hreport, Surveyed.tells_report w.store (Instant.sub?_lt hfirst hpos) hhardware
    htopology hreadings, fun id hother => ?_, ?_⟩
  · rw [hstore, Store.find?_writeAll_of_notMem]
    rw [Surveyed.mem_map_fst_samplesAt htopology hreadings]
    rintro ⟨⟨sensor, hsensor, hid⟩, -⟩
    exact hother sensor hsensor hid
  · intro w' cancelled' stage' s' hfaultless' hclock hstore' hsurvey' htopology' hreadings'
    obtain ⟨-, hreport'⟩ :=
      advanceCycle_eq_report hfaultless' hpos (hclock.symm ▸ hfirst) hsurvey'
    have hsamples : s'.samplesAt w.clock = s.samplesAt w.clock := by
      unfold Surveyed.samplesAt
      rw [Snapshot.build_eq_of_perm htopology' hreadings' hhardware hreadings]
    rw [hreport', hclock, hstore', hsamples,
      Store.report_eq_of_perm _ htopology' hhardware]

end World

/-! ## A machine whose answers come in no order -/

namespace Desk

def fan : Sensor := ⟨⟨"gpu-fan"⟩, ⟨"gpu"⟩, "Fan", .fan, 3000⟩

def thermometer : Sensor := ⟨⟨"cpu-temp"⟩, ⟨"cpu"⟩, "Core", .temperature, 100⟩

/-- A sensor that the topology lacks, of which there is a reading all the same. -/
def stray : Sensor := ⟨⟨"usb-temp"⟩, ⟨"usb"⟩, "Probe", .temperature, 100⟩

def survey : Surveyed where
  topology := ⟨[(⟨⟨"gpu"⟩, "GPU", .gpu⟩, [fan]), (⟨⟨"cpu"⟩, "CPU", .cpu⟩, [thermometer])],
    by decide⟩
  readings := ⟨[(stray, 19.0), (thermometer, 21.5)], by decide⟩

/-- A minute after 1970 began, with a sample of either sensor from the first half of it.  The
inspector answers at once. -/
def world : World where
  now := 0
  clock := ⟨60, 0, by decide, by decide⟩
  inspector := ⟨.showing survey.topology, .showing survey.readings⟩
  store := (Store.empty.write thermometer.id ⟨40, ⟨30, 0, by decide, by decide⟩⟩).write fan.id
    ⟨900, ⟨20, 0, by decide, by decide⟩⟩
  faults := .none
  deletes := 0
  topology := none
  snapshots := .create ⟨.ofSeconds 5, .ofSeconds 2, by decide, by decide⟩
  shutdown := false

def minute : Delta := ⟨60000000000⟩

/-- The cycle ends in its first step, and its report begins with the epoch. -/
theorem history_of_minute : ∃ r : Report,
    (world.advanceCycle false (.history minute) .fresh).2 = .done (.value (.report r)) ∧
      r.Tells survey world.store .epoch world.clock := by
  have hfirst : world.clock.sub? minute = some .epoch := by decide
  have hsurvey : (world.advanceSurvey false .fresh).2 = .done (.value survey) :=
    World.survey_of_answers rfl (Probe.ends_of_immediate rfl rfl)
      (Probe.ends_of_immediate rfl rfl)
  obtain ⟨r, hr, htells, -⟩ := World.history_of_survey ⟨rfl, rfl⟩ (by decide) hfirst hsurvey
    (by decide) (by decide) (by decide)
  exact ⟨r, hr, htells⟩

end Desk

end Telemetry
