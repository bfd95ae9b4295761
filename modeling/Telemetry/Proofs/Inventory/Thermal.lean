import Mathlib.Data.List.FinRange
import Mathlib.Data.List.Nodup
import Telemetry.Inventory.Build
import Telemetry.Proofs.Number.Binary64

/-! # The thermal components in an inventory

The inventory takes the thermal components in two passes, one for the processor and one for the
board, and numbers those with one slug as it goes.  Here each component is shown for itself: its
sensor is a function of the component and of the labels before it (`shown`), and the sensors of an
inventory are, in some order, those of its loads, clocks and memory and those of the components with
a finite temperature (`listed_build_perm`).

A pass carries the slugs that it has met, the last one first, and a component is numbered by how
often its slug is among them.  Of the components before it the pass has met those of its own
hardware, which are the ones that count (`number_eq`).  A component without a finite temperature is
dropped after it has been numbered, and counts for those behind it all the same.
-/

namespace Telemetry

namespace Label

theorem occursIn_iff {part s : List Char} : occursIn part s ↔ part <:+: s := by
  induction s with
  | nil => rw [occursIn, List.isEmpty_iff, List.infix_nil]
  | cons c rest ih => rw [occursIn, Bool.or_eq_true, List.isPrefixOf_iff_prefix, ih,
      List.infix_cons_iff]

/-- A marker of the processor stands somewhere in the label, in any case. -/
def HasMarker (label : String) : Prop :=
  ∃ marker ∈ cpuMarkers, marker.toList <:+: label.toList.flatMap lowerChars

theorem isCpu_iff {label : String} : isCpu label ↔ HasMarker label := by
  unfold isCpu HasMarker
  simp only [List.any_eq_true, occursIn_iff]

instance (label : String) : Decidable (HasMarker label) := decidable_of_iff _ isCpu_iff

end Label

namespace ThermalReading

/-- Two components that only their order tells apart: they have one slug and are shown by the same
hardware. -/
def Alike (t u : ThermalReading) : Prop :=
  Label.slug t.label = Label.slug u.label ∧ (Label.HasMarker t.label ↔ Label.HasMarker u.label)

instance (t u : ThermalReading) : Decidable (t.Alike u) := inferInstanceAs (Decidable (_ ∧ _))

/-- The temperature is a finite number, so that the component is listed. -/
def Finite (t : ThermalReading) : Prop := t.celsius.isFinite

instance (t : ThermalReading) : Decidable t.Finite := inferInstanceAs (Decidable (_ = true))

end ThermalReading

/-- A machine that shows nothing but thermal components: everything else of it is empty or zero. -/
def MachineReadings.ofThermal (thermal : List ThermalReading) : MachineReadings :=
  ⟨"", 0, [], 0, 0, 0, thermal⟩

/-- The thermal component with an index. -/
abbrev MachineReadings.zone (m : MachineReadings) (i : Fin m.thermal.length) : ThermalReading :=
  m.thermal[i]

namespace Inventory

variable (m : MachineReadings)

/-! ## A component by itself -/

/-- The hardware that shows a thermal component. -/
def home (t : ThermalReading) : Hardware := if Label.HasMarker t.label then cpu m else board

/-- The number of a component among those like it, in the order of the list. -/
def number (i : Fin m.thermal.length) : Nat :=
  (m.thermal.take i).countP (fun u => (m.zone i).Alike u) + 1

/-- The identifier of a component's sensor: that of its hardware, then its slug, then its number
unless it is the first. -/
def thermalId (i : Fin m.thermal.length) : SensorId :=
  let t := m.zone i
  ⟨(home m t).id.text ++ "/" ++ thermalSuffix (Label.slug t.label) (number m i)⟩

/-- The sensor of a component with its reading. -/
def shown (i : Fin m.thermal.length) : RawReading :=
  let t := m.zone i
  (⟨thermalId m i, (home m t).id, t.label, .temperature, thermalLimit t⟩, widen t.celsius)

/-- The reading of a component with the hardware that lists it, whether or not its temperature is
finite. -/
def component (i : Fin m.thermal.length) : Hardware × RawReading := (home m (m.zone i), shown m i)

/-- The components with a finite temperature, in the order of the list. -/
def readable : List (Fin m.thermal.length) :=
  (List.finRange m.thermal.length).filter fun i => (m.zone i).Finite

theorem nodup_readable : (readable m).Nodup := (List.nodup_finRange _).filter _

/-! ## The pass over the components of one hardware -/

/-- The slugs of the components that a pass takes, which `p` says. -/
def slugs (p : ThermalReading → Bool) (ts : List ThermalReading) : List String :=
  (ts.filter p).map fun t => Label.slug t.label

/-- What a pass makes of a component after the components `before`, of which it has taken those that
`p` says. -/
def passed (hardware : Hardware) (p : ThermalReading → Bool) (before : List ThermalReading)
    (t : ThermalReading) : RawReading :=
  let slug := Label.slug t.label
  sensor hardware (thermalSuffix slug ((slugs p before).count slug + 1)) t.label .temperature
    (thermalLimit t) (widen t.celsius)

theorem slugs_append (p : ThermalReading → Bool) (ts us : List ThermalReading) :
    slugs p (ts ++ us) = slugs p ts ++ slugs p us := by
  simp [slugs]

/-- A pass goes on after the components `before` and takes each component for itself.  The induction
is on the components that are left. -/
theorem temperatures_filter (hardware : Hardware) (p : ThermalReading → Bool)
    (before ts : List ThermalReading) :
    temperatures hardware (slugs p before).reverse (ts.filter p) =
      ((List.finRange ts.length).filter fun i => p ts[i]).map fun i : Fin ts.length =>
        passed hardware p (before ++ ts.take i) ts[i] := by
  induction ts generalizing before with
  | nil => rfl
  | cons t rest ih =>
    have hrest := ih (before ++ [t])
    rw [slugs_append, List.reverse_append] at hrest
    by_cases ht : p t
    · have hseen : (slugs p [t]).reverse = [Label.slug t.label] := by simp [slugs, ht]
      rw [hseen, List.singleton_append] at hrest
      rw [List.filter_cons_of_pos ht, temperatures, hrest]
      simp [List.finRange_succ, List.filter_map, ht, passed, Function.comp_def]
    · have hseen : (slugs p [t]).reverse = [] := by simp [slugs, ht]
      rw [hseen, List.nil_append] at hrest
      rw [List.filter_cons_of_neg ht, hrest]
      simp [List.finRange_succ, List.filter_map, ht, Function.comp_def]

/-- The numbers of a pass count the components alike when it takes all that have or all that lack a
marker.  Such a pass has met just those that can be alike. -/
theorem number_eq {p : ThermalReading → Bool} {i : Fin m.thermal.length}
    (hp : ∀ u, p u ↔ (Label.HasMarker (m.zone i).label ↔ Label.HasMarker u.label)) :
    number m i = (slugs p (m.thermal.take i)).count (Label.slug (m.zone i).label) + 1 := by
  unfold number slugs
  rw [List.count, List.countP_map, List.countP_filter]
  refine congrArg (· + 1) (List.countP_congr fun u _ => ?_)
  simp only [Function.comp_apply, Bool.and_eq_true, beq_iff_eq, decide_eq_true_eq]
  rw [hp u, ThermalReading.Alike, eq_comm]

/-- A pass over the components of one hardware shows each of them, with the number that it has among
all components of the machine. -/
theorem temperatures_eq_shown {hardware : Hardware} {p : ThermalReading → Bool}
    (hhome : ∀ t, p t → home m t = hardware)
    (hp : ∀ t u, p t → (p u ↔ (Label.HasMarker t.label ↔ Label.HasMarker u.label))) :
    temperatures hardware [] (m.thermal.filter p) =
      ((List.finRange m.thermal.length).filter fun i => p (m.zone i)).map (shown m) := by
  refine (temperatures_filter hardware p [] m.thermal).trans (List.map_congr_left fun i hi => ?_)
  have hmine : p (m.zone i) := (List.mem_filter.mp hi).2
  have hnumber := number_eq m fun u => hp _ u hmine
  simp only [passed, shown, thermalId, hnumber, hhome _ hmine, List.nil_append, sensor]

/-- What is left of a pass is listed under the hardware of each component. -/
theorem temperatures_listed {hardware : Hardware} {p : ThermalReading → Bool}
    (hhome : ∀ t, p t → home m t = hardware)
    (hp : ∀ t u, p t → (p u ↔ (Label.HasMarker t.label ↔ Label.HasMarker u.label))) :
    ((temperatures hardware [] (m.thermal.filter p)).filter isReadable).map (Prod.mk hardware) =
      ((readable m).filter fun i => p (m.zone i)).map (component m) := by
  have hfinite (i : Fin m.thermal.length) :
      (isReadable ∘ shown m) i = decide (m.zone i).Finite := by
    show (Binary64.ofFloat (widen (m.zone i).celsius)).isFinite = _
    rw [Binary64.isFinite_ofFloat, isFinite_widen]
    exact Bool.decide_eq_true.symm
  rw [temperatures_eq_shown m hhome hp, List.filter_map, List.filter_filter, List.map_map,
    readable, List.filter_filter]
  simp only [hfinite, Bool.and_comm]
  refine List.map_congr_left fun i hi => ?_
  have hmine := (Bool.and_eq_true_iff.mp (List.mem_filter.mp hi).2).1
  exact congrArg (·, shown m i) (hhome _ hmine).symm

theorem temperatures_cpu :
    ((temperatures (cpu m) [] (m.thermal.filter fun t => Label.isCpu t.label)).filter
      isReadable).map (Prod.mk (cpu m)) =
        ((readable m).filter fun i => Label.isCpu (m.zone i).label).map (component m) := by
  refine temperatures_listed m (fun t ht => ?_) fun t u ht => ?_
  · exact if_pos (Label.isCpu_iff.mp ht)
  · rw [Label.isCpu_iff]
    exact (iff_true_left (Label.isCpu_iff.mp ht)).symm

theorem temperatures_board :
    ((temperatures board [] (m.thermal.filter fun t => !Label.isCpu t.label)).filter
      isReadable).map (Prod.mk board) =
        ((readable m).filter fun i => !Label.isCpu (m.zone i).label).map (component m) := by
  have hlacks (t : ThermalReading) : (!Label.isCpu t.label) = true ↔ ¬ Label.HasMarker t.label := by
    rw [Bool.not_eq_true', ← Bool.not_eq_true, Label.isCpu_iff]
  refine temperatures_listed m (fun t ht => ?_) fun t u ht => ?_
  · exact if_neg ((hlacks t).mp ht)
  · rw [hlacks]
    exact (iff_false_left ((hlacks t).mp ht)).symm

/-! ## All sensors of an inventory -/

/-- The readings of an inventory, each with the hardware that lists it. -/
def listed (inventory : Inventory) : List (Hardware × RawReading) :=
  inventory.flatMap fun h => h.2.map (Prod.mk h.1)

/-- The readings of the processor's loads and clocks, whatever their values. -/
def processorReadings : List RawReading :=
  sensor (cpu m) "load/0" "CPU Total" .load 100 (widen m.totalLoad) ::
    coreReadings (cpu m) 1 m.cores

/-- The finite readings of loads, clocks and memory. -/
def fixed : List (Hardware × RawReading) :=
  ((processorReadings m).filter isReadable).map (Prod.mk (cpu m)) ++
    ((memoryReadings m).filter isReadable).map (Prod.mk ram)

/-- To leave out hardware without sensors leaves out no reading, since such hardware lists none. -/
theorem listed_filter (inventory : Inventory) :
    listed (inventory.filter fun h => !h.2.isEmpty) = listed inventory := by
  induction inventory with
  | nil => rfl
  | cons h rest ih =>
    obtain ⟨hardware, sensors⟩ := h
    cases sensors with
    | nil => simpa [listed] using ih
    | cons r rs => simpa [listed] using ih

/-- The readings of an inventory are, in some order, the finite ones of loads, clocks and memory,
and those of the components with a finite temperature. -/
theorem listed_build_perm :
    (listed (build m)).Perm (fixed m ++ (readable m).map (component m)) := by
  have hboth := (List.filter_append_perm (fun i => Label.isCpu (m.zone i).label)
    (readable m)).map (component m)
  rw [List.map_append, ← temperatures_cpu, ← temperatures_board] at hboth
  refine .trans ?_ (hboth.append_left _)
  rw [build, listed_filter, candidates, ← processorReadings]
  simp only [listed, fixed, List.map_cons, List.map_nil, List.flatMap_cons, List.flatMap_nil,
    List.filter_append, List.map_append, List.append_nil, List.append_assoc]
  -- the memory stands between the two passes
  exact (List.perm_append_comm_assoc _ _ _).append_left _

/-! ## Loads, clocks and memory -/

/-- An identifier that begins with a text. -/
def Under (root : String) (id : SensorId) : Prop := ∃ tail, id.text = root ++ tail

/-- The identifiers of the load and the clock of the core with a number. -/
def loadId (hardware : Hardware) (n : Nat) : SensorId :=
  ⟨hardware.id.text ++ "/" ++ ("load/" ++ String.ofList (Digits.ofNat n))⟩

def clockId (hardware : Hardware) (n : Nat) : SensorId :=
  ⟨hardware.id.text ++ "/" ++ ("clock/" ++ String.ofList (Digits.ofNat n))⟩

theorem loadId_under (n : Nat) : Under "/cpu/0/load/" (loadId (cpu m) n) := by
  refine ⟨String.ofList (Digits.ofNat n), ?_⟩
  rw [loadId, ← String.append_assoc]
  rfl

theorem clockId_under (n : Nat) :
    Under "/cpu/0/clock/" (clockId (cpu m) n) := by
  refine ⟨String.ofList (Digits.ofNat n), ?_⟩
  rw [clockId, ← String.append_assoc]
  rfl

variable {m}

/-- A core with a number shows its load and its clock, and the first core has number `n`. -/
theorem mem_coreReadings {hardware : Hardware} {n : Nat} {cores : List CoreReading}
    {r : RawReading} (h : r ∈ coreReadings hardware n cores) :
    ∃ k, n ≤ k ∧ (r.1.id = loadId hardware k ∧ r.1.kind = .load ∨
      r.1.id = clockId hardware k ∧ r.1.kind = .clock) := by
  induction cores generalizing n with
  | nil => cases h
  | cons core rest ih =>
    rw [coreReadings, List.mem_cons, List.mem_cons] at h
    rcases h with rfl | rfl | h
    · exact ⟨n, Nat.le_refl n, .inl ⟨rfl, rfl⟩⟩
    · exact ⟨n, Nat.le_refl n, .inr ⟨rfl, rfl⟩⟩
    · obtain ⟨k, hk, hid⟩ := ih h
      exact ⟨k, Nat.le_of_succ_le hk, hid⟩

theorem mem_processorReadings {r : RawReading} (h : r ∈ processorReadings m) :
    Under "/cpu/0/load/" r.1.id ∧ r.1.kind = .load ∨
      Under "/cpu/0/clock/" r.1.id ∧ r.1.kind = .clock := by
  rcases List.mem_cons.mp h with rfl | h
  · exact .inl ⟨loadId_under m 0, rfl⟩
  · obtain ⟨k, -, ⟨hid, hkind⟩ | ⟨hid, hkind⟩⟩ := mem_coreReadings h
    · exact .inl ⟨hid ▸ loadId_under m k, hkind⟩
    · exact .inr ⟨hid ▸ clockId_under m k, hkind⟩

theorem mem_memoryReadings {r : RawReading} (h : r ∈ memoryReadings m) :
    Under "/ram/" r.1.id ∧ (r.1.kind = .load ∨ r.1.kind = .data) := by
  unfold memoryReadings at h
  split at h
  · cases h
  · simp only [List.mem_cons, List.not_mem_nil, or_false] at h
    rcases h with rfl | rfl | rfl
    · exact ⟨⟨"load/0", rfl⟩, .inl rfl⟩
    · exact ⟨⟨"data/0", rfl⟩, .inr rfl⟩
    · exact ⟨⟨"data/1", rfl⟩, .inr rfl⟩

/-- The identifier of a load, a clock or a memory sensor begins with its own root, and none of them
is a temperature. -/
theorem mem_fixed {e : Hardware × RawReading} (h : e ∈ fixed m) :
    (Under "/cpu/0/load/" e.2.1.id ∨ Under "/cpu/0/clock/" e.2.1.id ∨ Under "/ram/" e.2.1.id) ∧
      e.2.1.kind ≠ .temperature := by
  rcases List.mem_append.mp h with h | h
  · obtain ⟨r, hr, rfl⟩ := List.mem_map.mp h
    rcases mem_processorReadings (List.mem_filter.mp hr).1 with ⟨hid, hkind⟩ | ⟨hid, hkind⟩
    · exact ⟨.inl hid, hkind ▸ SensorType.noConfusion⟩
    · exact ⟨.inr (.inl hid), hkind ▸ SensorType.noConfusion⟩
  · obtain ⟨r, hr, rfl⟩ := List.mem_map.mp h
    obtain ⟨hid, hkind⟩ := mem_memoryReadings (List.mem_filter.mp hr).1
    refine ⟨.inr (.inr hid), ?_⟩
    rcases hkind with hkind | hkind <;> exact hkind ▸ SensorType.noConfusion

end Inventory

end Telemetry
