import Mathlib.Data.List.Nodup
import Telemetry.Proofs.Inventory.Thermal
import Telemetry.Proofs.Number.Digits

/-! # When two sensors have one identifier

Loads, clocks and memory have identifiers of their own, and so have components that are not alike or
have other numbers.  One case is left: the number behind a repeated slug makes a text that is itself
the slug of another component (`Clash`).  The sensors of an inventory have identifiers of their own
exactly when no two of its components clash.

That this is the only case takes a reading of identifiers from both ends.  From the front, the roots
of loads, clocks, memory and temperatures are texts of which none begins another, so that whatever
follows them keeps them apart (`append_ne_append`).  From the back, the digits of a number hold no
underscore, so that a slug with a number comes apart at its last one (`numbered_inj`).
-/

namespace Telemetry.Inventory

variable {m : MachineReadings}

/-- The identifiers of all sensors of an inventory, in the order in which it lists them. -/
def sensorIds (inventory : Inventory) : List SensorId :=
  inventory.flatMap fun h => h.2.map fun r => r.1.id

/-- A slug with the number of a repetition behind it, and an underscore between the two. -/
def numbered (slug : String) (n : Nat) : String := slug ++ "_" ++ String.ofList (Digits.ofNat n)

/-- Two components of one hardware clash when the first repeats its slug and is shown under a text
that is the slug of the second, which is the first with its own. -/
structure Clash (m : MachineReadings) (i j : Fin m.thermal.length) : Prop where
  hardware : Label.HasMarker (m.zone i).label ↔ Label.HasMarker (m.zone j).label
  repeats : number m i ≠ 1
  first : number m j = 1
  slug : Label.slug (m.zone j).label = numbered (Label.slug (m.zone i).label) (number m i)

/-! ## Texts apart -/

/-- Two texts of which neither can begin the other stay apart whatever follows them. -/
theorem append_ne_append {p q : String} (hpq : ¬ p.toList <+: q.toList)
    (hqp : ¬ q.toList <+: p.toList) (s t : String) : p ++ s ≠ q ++ t := by
  intro h
  have hlist : p.toList ++ s.toList = q.toList ++ t.toList := by
    rw [← String.toList_append, h, String.toList_append]
  rcases List.prefix_or_prefix_of_prefix (List.prefix_append p.toList s.toList)
    (hlist ▸ List.prefix_append q.toList t.toList) with hp | hq
  · exact hpq hp
  · exact hqp hq

theorem number_text_injective {n k : Nat}
    (h : String.ofList (Digits.ofNat n) = String.ofList (Digits.ofNat k)) : n = k :=
  Digits.ofNat_injective (String.ofList_injective h)

/-- The digits of a number hold no underscore, so a numbered slug comes apart at its last one. -/
theorem numbered_inj {s t : String} {n k : Nat} (h : numbered s n = numbered t k) :
    s = t ∧ n = k := by
  have hlist : s.toList ++ '_' :: Digits.ofNat n = t.toList ++ '_' :: Digits.ofNat k := by
    simpa [numbered] using congrArg String.toList h
  have hunderscore (n : Nat) : '_' ∉ Digits.ofNat n := Nat.underscore_not_in_toDigits
  have htail {front : List Char} {ds es : List Char} (hds : '_' ∉ ds)
      (h : '_' :: ds = front ++ '_' :: es) : front = [] ∧ ds = es := by
    cases front with
    | nil => exact ⟨rfl, (List.cons.inj h).2⟩
    | cons c front =>
      have hin : '_' ∈ ds := by simp [(List.cons.inj h).2]
      exact absurd hin hds
  rcases List.append_eq_append_iff.mp hlist with ⟨front, ht, hds⟩ | ⟨front, hs, hds⟩
  · obtain ⟨rfl, hdigits⟩ := htail (hunderscore n) hds
    rw [List.append_nil] at ht
    exact ⟨(String.toList_inj.mp ht).symm, Digits.ofNat_injective hdigits⟩
  · obtain ⟨rfl, hdigits⟩ := htail (hunderscore k) hds
    rw [List.append_nil] at hs
    exact ⟨String.toList_inj.mp hs, (Digits.ofNat_injective hdigits).symm⟩

/-! ## Identifiers of components -/

/-- What the identifier of a component shows of its slug and number.  The first of those alike shows
its slug alone. -/
def shownSlug (m : MachineReadings) (i : Fin m.thermal.length) : String :=
  if number m i = 1 then Label.slug (m.zone i).label
  else numbered (Label.slug (m.zone i).label) (number m i)

theorem thermalId_text (i : Fin m.thermal.length) :
    (thermalId m i).text =
      (home m (m.zone i)).id.text ++ "/temperature/" ++ shownSlug m i := by
  have hslash (s t : String) : s ++ "/" ++ ("temperature/" ++ t) = s ++ "/temperature/" ++ t := by
    simp only [← String.toList_inj, String.toList_append, List.append_assoc]
    rfl
  unfold thermalId thermalSuffix shownSlug
  split <;> simp only [numbered, ← hslash, String.append_assoc]

/-- The identifier tells the hardware and what it shows of slug and number, and nothing more. -/
theorem thermalId_inj_iff {i j : Fin m.thermal.length} :
    thermalId m i = thermalId m j ↔
      (Label.HasMarker (m.zone i).label ↔ Label.HasMarker (m.zone j).label) ∧
        shownSlug m i = shownSlug m j := by
  have hroots (s t : String) :
      "/cpu/0" ++ "/temperature/" ++ s ≠ "/lpc/0" ++ "/temperature/" ++ t :=
    append_ne_append (by decide) (by decide) s t
  rw [SensorId.ext_iff, thermalId_text, thermalId_text]
  unfold home
  by_cases hi : Label.HasMarker (m.zone i).label <;>
    by_cases hj : Label.HasMarker (m.zone j).label
  · rw [if_pos hi, if_pos hj, String.append_right_inj]
    exact (and_iff_right (iff_of_true hi hj)).symm
  · rw [if_pos hi, if_neg hj]
    exact iff_of_false (hroots _ _) fun h => hj (h.1.mp hi)
  · rw [if_neg hi, if_pos hj]
    exact iff_of_false (hroots _ _).symm fun h => hi (h.1.mpr hj)
  · rw [if_neg hi, if_neg hj, String.append_right_inj]
    exact (and_iff_right (iff_of_false hi hj)).symm

/-- Of two components that are alike the later one has the greater number, since it counts the
earlier one too. -/
theorem number_lt {i j : Fin m.thermal.length} (hij : i < j)
    (halike : (m.zone i).Alike (m.zone j)) : number m i < number m j := by
  have hsame (u : ThermalReading) : (m.zone j).Alike u ↔ (m.zone i).Alike u := by
    unfold ThermalReading.Alike
    rw [halike.1, halike.2]
  have hself : (m.zone i).Alike (m.zone i) := ⟨rfl, Iff.rfl⟩
  unfold number
  simp only [hsame]
  calc (m.thermal.take i).countP (fun u => (m.zone i).Alike u) + 1
      = (m.thermal.take (i + 1)).countP (fun u => (m.zone i).Alike u) := by
        rw [List.take_succ_eq_append_getElem i.isLt, List.countP_append, List.countP_singleton]
        exact congrArg _ (if_pos (decide_eq_true hself)).symm
    _ ≤ (m.thermal.take j).countP (fun u => (m.zone i).Alike u) :=
        (List.take_sublist_take_left hij).countP_le
    _ < (m.thermal.take j).countP (fun u => (m.zone i).Alike u) + 1 := Nat.lt_succ_self _

/-- Components that are alike and have one number are the same. -/
theorem eq_of_number_eq {i j : Fin m.thermal.length} (halike : (m.zone i).Alike (m.zone j))
    (hnumber : number m i = number m j) : i = j := by
  rcases lt_trichotomy i j with hij | rfl | hji
  · exact absurd hnumber (number_lt hij halike).ne
  · rfl
  · exact absurd hnumber (number_lt hji ⟨halike.1.symm, halike.2.symm⟩).ne'

/-- Components with one identifier are the same or clash, one way or the other. -/
theorem thermalId_eq_iff {i j : Fin m.thermal.length} :
    thermalId m i = thermalId m j ↔ i = j ∨ Clash m i j ∨ Clash m j i := by
  rw [thermalId_inj_iff]
  constructor
  · rintro ⟨hhardware, hshown⟩
    unfold shownSlug at hshown
    split at hshown <;> split at hshown
    · rename_i hi hj
      exact .inl (eq_of_number_eq ⟨hshown, hhardware⟩ (hi.trans hj.symm))
    · rename_i hi hj
      exact .inr (.inr ⟨hhardware.symm, hj, hi, hshown⟩)
    · rename_i hi hj
      exact .inr (.inl ⟨hhardware, hi, hj, hshown.symm⟩)
    · obtain ⟨hslug, hnumber⟩ := numbered_inj hshown
      exact .inl (eq_of_number_eq ⟨hslug, hhardware⟩ hnumber)
  · have hclash {i j : Fin m.thermal.length} (h : Clash m i j) : shownSlug m i = shownSlug m j := by
      unfold shownSlug
      rw [if_neg h.repeats, if_pos h.first, h.slug]
    rintro (rfl | h | h)
    · exact ⟨Iff.rfl, rfl⟩
    · exact ⟨h.hardware, hclash h⟩
    · exact ⟨h.hardware.symm, (hclash h).symm⟩

/-! ## All other identifiers -/

theorem Under.ne {p q : String} {a b : SensorId} (ha : Under p a) (hb : Under q b)
    (hpq : ¬ p.toList <+: q.toList) (hqp : ¬ q.toList <+: p.toList) : a ≠ b := by
  rintro rfl
  obtain ⟨s, hs⟩ := ha
  obtain ⟨t, ht⟩ := hb
  exact append_ne_append hpq hqp s t (hs.symm.trans ht)

theorem thermalId_under (i : Fin m.thermal.length) :
    Under "/cpu/0/temperature/" (thermalId m i) ∨ Under "/lpc/0/temperature/" (thermalId m i) := by
  have htext := thermalId_text i
  unfold home at htext
  split at htext
  · exact .inl ⟨_, htext⟩
  · exact .inr ⟨_, htext⟩

theorem loadId_inj {hardware : Hardware} {n k : Nat} (h : loadId hardware n = loadId hardware k) :
    n = k := by
  have htext := SensorId.ext_iff.mp h
  simp only [loadId, String.append_right_inj] at htext
  exact number_text_injective htext

theorem clockId_inj {hardware : Hardware} {n k : Nat}
    (h : clockId hardware n = clockId hardware k) : n = k := by
  have htext := SensorId.ext_iff.mp h
  simp only [clockId, String.append_right_inj] at htext
  exact number_text_injective htext

theorem loadId_ne_clockId {hardware : Hardware} {n k : Nat} :
    loadId hardware n ≠ clockId hardware k := by
  intro h
  have htext := SensorId.ext_iff.mp h
  simp only [loadId, clockId, String.append_right_inj] at htext
  exact append_ne_append (by decide) (by decide) _ _ htext

theorem nodup_coreReadings (hardware : Hardware) (n : Nat) (cores : List CoreReading) :
    ((coreReadings hardware n cores).map fun r => r.1.id).Nodup := by
  induction cores generalizing n with
  | nil => exact List.nodup_nil
  | cons core rest ih =>
    have hlater {r : RawReading} (hr : r ∈ coreReadings hardware (n + 1) rest) :
        r.1.id ≠ loadId hardware n ∧ r.1.id ≠ clockId hardware n := by
      obtain ⟨k, hk, ⟨hid, -⟩ | ⟨hid, -⟩⟩ := mem_coreReadings hr <;> rw [hid]
      · exact ⟨fun h => by have := loadId_inj h; omega, loadId_ne_clockId⟩
      · exact ⟨loadId_ne_clockId.symm, fun h => by have := clockId_inj h; omega⟩
    rw [coreReadings, List.map_cons, List.map_cons, List.nodup_cons, List.nodup_cons]
    refine ⟨fun h => ?_, fun h => ?_, ih (n + 1)⟩
    · rcases List.mem_cons.mp h with h | h
      · exact loadId_ne_clockId h
      · obtain ⟨r, hr, hid⟩ := List.mem_map.mp h
        exact (hlater hr).1 hid
    · obtain ⟨r, hr, hid⟩ := List.mem_map.mp h
      exact (hlater hr).2 hid

theorem nodup_processorReadings (m : MachineReadings) :
    ((processorReadings m).map fun r => r.1.id).Nodup := by
  rw [processorReadings, List.map_cons, List.nodup_cons]
  refine ⟨fun h => ?_, nodup_coreReadings _ _ _⟩
  obtain ⟨r, hr, hid⟩ := List.mem_map.mp h
  -- the load of the whole processor has the number that no core has
  have htotal : r.1.id = loadId (cpu m) 0 := hid
  obtain ⟨k, hk, ⟨hcore, -⟩ | ⟨hcore, -⟩⟩ := mem_coreReadings hr
  · have := loadId_inj (htotal.symm.trans hcore)
    omega
  · exact loadId_ne_clockId (htotal.symm.trans hcore)

theorem nodup_memoryReadings (m : MachineReadings) :
    ((memoryReadings m).map fun r => r.1.id).Nodup := by
  unfold memoryReadings
  split
  · exact List.nodup_nil
  · show [SensorId.mk "/ram/load/0", ⟨"/ram/data/0"⟩, ⟨"/ram/data/1"⟩].Nodup
    decide

theorem nodup_fixed (m : MachineReadings) : ((fixed m).map fun e => e.2.1.id).Nodup := by
  have hpart {hardware : Hardware} {rs : List RawReading} (h : (rs.map fun r => r.1.id).Nodup) :
      (((rs.filter isReadable).map (Prod.mk hardware)).map fun e => e.2.1.id).Nodup := by
    rw [List.map_map]
    exact h.sublist (List.filter_sublist.map _)
  rw [fixed, List.map_append, List.nodup_append]
  refine ⟨hpart (nodup_processorReadings m), hpart (nodup_memoryReadings m), ?_⟩
  intro a ha b hb
  simp only [List.map_map, List.mem_map, List.mem_filter] at ha hb
  obtain ⟨r, ⟨hr, -⟩, rfl⟩ := ha
  obtain ⟨s, ⟨hs, -⟩, rfl⟩ := hb
  have hram := (mem_memoryReadings hs).1
  rcases mem_processorReadings hr with ⟨hid, -⟩ | ⟨hid, -⟩ <;>
    exact hid.ne hram (by decide) (by decide)

/-- No load, clock or memory sensor has the identifier of a component. -/
theorem fixed_ne_thermalId {e : Hardware × RawReading} (h : e ∈ fixed m)
    (i : Fin m.thermal.length) : e.2.1.id ≠ thermalId m i := by
  rcases (mem_fixed h).1 with h | h | h <;> rcases thermalId_under i with hi | hi <;>
    exact h.ne hi (by decide) (by decide)

/-! ## All identifiers -/

/-- The sensors of an inventory have identifiers of their own exactly when no two components with a
finite temperature clash.  The identifiers of loads, clocks and memory are distinct whatever the
machine shows, by their roots and numbers.  So whether identifiers repeat is decided among the
components, by their labels and their order (`thermalId_eq_iff`). -/
theorem nodup_sensorIds_iff (m : MachineReadings) :
    (sensorIds (build m)).Nodup ↔ ∀ i ∈ readable m, ∀ j ∈ readable m, ¬ Clash m i j := by
  have hlisted (inventory : Inventory) :
      sensorIds inventory = (listed inventory).map fun e => e.2.1.id := by
    simp [sensorIds, listed, List.map_flatMap, Function.comp_def]
  have hids : (sensorIds (build m)).Perm
      ((fixed m).map (fun e => e.2.1.id) ++ (readable m).map (thermalId m)) := by
    have hall := (listed_build_perm m).map fun e => e.2.1.id
    rw [List.map_append, List.map_map] at hall
    rw [hlisted]
    exact hall
  have hcomponents : ((readable m).map (thermalId m)).Nodup ↔
      ∀ i ∈ readable m, ∀ j ∈ readable m, ¬ Clash m i j := by
    rw [List.nodup_map_iff_inj_on (nodup_readable m)]
    simp only [thermalId_eq_iff]
    constructor
    · rintro h i hi j hj hclash
      obtain rfl := h i hi j hj (.inr (.inl hclash))
      exact hclash.repeats hclash.first
    · rintro h i hi j hj (heq | hclash | hclash)
      · exact heq
      · exact absurd hclash (h i hi j hj)
      · exact absurd hclash (h j hj i hi)
  rw [hids.nodup_iff, List.nodup_append, hcomponents]
  refine ⟨fun h => h.2.1, fun h => ⟨nodup_fixed m, h, ?_⟩⟩
  intro a ha b hb
  obtain ⟨e, he, rfl⟩ := List.mem_map.mp ha
  obtain ⟨i, -, rfl⟩ := List.mem_map.mp hb
  exact fixed_ne_thermalId he i

/-- Two zones have the label that a third one has with a number behind it.  All three are shown by
the board. -/
def clashing : MachineReadings := .ofThermal
  [⟨"acpitz", 41, 0, none⟩, ⟨"acpitz", 43, 0, none⟩, ⟨"acpitz 2", 45, 0, none⟩]

/-- The second and the third zone have one identifier: the second `acpitz` is shown as `acpitz_2`,
and that is the slug of `acpitz 2`. -/
theorem not_nodup_sensorIds_clashing : ¬ (sensorIds (build clashing)).Nodup := by
  decide +kernel

end Telemetry.Inventory
