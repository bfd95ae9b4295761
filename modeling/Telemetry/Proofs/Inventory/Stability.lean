import Mathlib.Data.List.FinRange
import Mathlib.Logic.Equiv.Basic
import Telemetry.Proofs.Inventory.Thermal

/-! # Components keep their sensors

A component is told apart by its slug, its hardware and its number among those like it.  None of
these depends on a temperature or a limit, and the number only on the order of the components that
are alike.  So two inspections that list the same labels in another order (`Reordered`) give each
component the same sensor, whatever they measure and whichever readings they drop.

The one thing to be shown is that the number stays.  It counts the earlier components of the list
that are alike; as a count over all indices of the list (`number_eq_countP`) it is carried over by
the reordering, which is a bijection and keeps those that are alike in their order.
-/

namespace Telemetry.Inventory

variable {m m' : MachineReadings} {σ : Fin m.thermal.length ≃ Fin m'.thermal.length}

/-- Both machines show the same labels, and components that are alike in the same order.  Of
components with different slugs or hardware the order is left open. -/
structure Reordered (m m' : MachineReadings) (σ : Fin m.thermal.length ≃ Fin m'.thermal.length) :
    Prop where
  label : ∀ i, (m'.zone (σ i)).label = (m.zone i).label
  order : ∀ i j, i < j → (m.zone i).Alike (m.zone j) → σ i < σ j

/-- The temperature sensors of the inventory are those of the components with a finite temperature,
each once.  The order in which it lists them is left open. -/
def ShowsComponents (m : MachineReadings) : Prop :=
  ((listed (build m)).filter fun e => e.2.1.kind = .temperature).Perm
    ((readable m).map (component m))

/-- Two readings come from one sensor of one piece of hardware: the identifiers of both, the kind of
the hardware and the name of the sensor are the same. -/
structure SameSensor (e e' : Hardware × RawReading) : Prop where
  id : e.2.1.id = e'.2.1.id
  hardware : e.1.id = e'.1.id
  hardwareKind : e.1.kind = e'.1.kind
  hardwareId : e.2.1.hardwareId = e'.2.1.hardwareId
  name : e.2.1.name = e'.2.1.name

/-! ## What an inventory shows of the components -/

theorem showsComponents (m : MachineReadings) : ShowsComponents m := by
  have hfixed : (fixed m).filter (fun e => e.2.1.kind = .temperature) = [] :=
    List.filter_eq_nil_iff.mpr fun e he => by simpa using (mem_fixed he).2
  have hcomponents : ((readable m).map (component m)).filter
      (fun e => e.2.1.kind = .temperature) = (readable m).map (component m) :=
    List.filter_eq_self.mpr fun e he => by
      obtain ⟨i, -, rfl⟩ := List.mem_map.mp he
      rfl
  have hall := (listed_build_perm m).filter fun e => e.2.1.kind = .temperature
  rwa [List.filter_append, hfixed, hcomponents] at hall

/-! ## The number of a component -/

/-- To count among the first elements of a list is to count among the small indices. -/
theorem countP_take {α : Type} (p : α → Bool) (l : List α) (n : Nat) :
    (l.take n).countP p =
      (List.finRange l.length).countP fun i : Fin l.length => i.val < n && p l[i] := by
  induction l generalizing n with
  | nil => rw [List.take_nil]; rfl
  | cons a l ih =>
    cases n with
    | zero => simp
    | succ n =>
      rw [List.take_succ_cons, List.countP_cons, ih]
      simp [List.finRange_succ, List.countP_cons, List.countP_map, Function.comp_def]

/-- The number of a component counts the components with a smaller index that are alike. -/
theorem number_eq_countP (i : Fin m.thermal.length) :
    number m i =
      (List.finRange m.thermal.length).countP
        (fun j => j < i ∧ (m.zone i).Alike (m.zone j)) + 1 := by
  rw [number, countP_take]
  simp only [Bool.decide_and, Fin.lt_def]

namespace Reordered

variable (h : Reordered m m' σ)
include h

theorem alike_iff (i j : Fin m.thermal.length) :
    (m'.zone (σ i)).Alike (m'.zone (σ j)) ↔ (m.zone i).Alike (m.zone j) := by
  unfold ThermalReading.Alike
  rw [h.label, h.label]

/-- Components that are alike stand in the same order on both sides.  The order is total, so what is
kept in one direction is kept in both. -/
theorem lt_iff {i j : Fin m.thermal.length} (halike : (m.zone i).Alike (m.zone j)) :
    σ j < σ i ↔ j < i := by
  constructor
  · intro hlt
    rcases lt_trichotomy i j with hij | rfl | hji
    · exact absurd hlt (h.order i j hij halike).asymm
    · exact absurd hlt (lt_irrefl _)
    · exact hji
  · exact fun hji => h.order j i hji ⟨halike.1.symm, halike.2.symm⟩

theorem number_eq (i : Fin m.thermal.length) : number m' (σ i) = number m i := by
  have hindices :
      (List.finRange m'.thermal.length).Perm ((List.finRange m.thermal.length).map σ) := by
    refine (List.perm_ext_iff_of_nodup (List.nodup_finRange _)
      ((List.nodup_finRange _).map σ.injective)).mpr fun j => ?_
    simp only [List.mem_finRange, List.mem_map, true_and, true_iff]
    exact σ.surjective j
  rw [number_eq_countP, number_eq_countP, hindices.countP_eq, List.countP_map]
  refine congrArg (· + 1) (List.countP_congr fun j _ => ?_)
  simp only [Function.comp_apply, decide_eq_true_eq, h.alike_iff]
  exact and_congr_left h.lt_iff

theorem home_eq (i : Fin m.thermal.length) :
    (home m' (m'.zone (σ i))).id = (home m (m.zone i)).id ∧
      (home m' (m'.zone (σ i))).kind = (home m (m.zone i)).kind := by
  unfold home
  rw [h.label]
  split <;> exact ⟨rfl, rfl⟩

/-- Each component has the same sensor on both sides: its identifier, its name and the hardware that
lists it stay. -/
theorem sameSensor (i : Fin m.thermal.length) :
    SameSensor (component m i) (component m' (σ i)) where
  id := by
    show thermalId m i = thermalId m' (σ i)
    simp only [thermalId, h.home_eq, h.number_eq, h.label]
  hardware := (h.home_eq i).1.symm
  hardwareKind := (h.home_eq i).2.symm
  hardwareId := (h.home_eq i).1.symm
  name := (h.label i).symm

end Reordered

/-- No component with a finite temperature is lost, and each keeps its sensor: an inventory shows
those components, each once, with its own label and reading and under the hardware that its label
says; and on two machines with reordered labels a component has the same sensor, whatever the
temperatures of this and of all other components are. -/
theorem build_keeps_components (h : Reordered m m' σ) :
    ShowsComponents m ∧ ShowsComponents m' ∧
      ∀ i, SameSensor (component m i) (component m' (σ i)) :=
  ⟨showsComponents m, showsComponents m', h.sameSensor⟩

/-- A board with two zones of one label, the first without a reading, and a package of the processor
between them. -/
def boardBefore : MachineReadings := .ofThermal
  [⟨"acpitz", .ofBits 0x7fc00000, 0, none⟩, ⟨"Package id 0", 55.5, 100, none⟩,
    ⟨"acpitz", 43, 0, some 105⟩]

/-- The same labels with the processor first, and the second zone without a reading. -/
def boardAfter : MachineReadings := .ofThermal
  [⟨"Package id 0", 48, 100, none⟩, ⟨"acpitz", 41.5, 80, none⟩,
    ⟨"acpitz", .ofBits 0x7f800000, 0, none⟩]

/-- The first two components change places. -/
def swapped : Fin boardBefore.thermal.length ≃ Fin boardAfter.thermal.length :=
  show Fin 3 ≃ Fin 3 from Equiv.swap 0 1

/-- Each board shows its two readable components; the second `acpitz` keeps its number, though it is
listed on the first board only. -/
theorem keeps_components_of_swapped :
    Reordered boardBefore boardAfter swapped ∧
      ShowsComponents boardBefore ∧ ShowsComponents boardAfter ∧
        ∀ i, SameSensor (component boardBefore i) (component boardAfter (swapped i)) := by
  have h : Reordered boardBefore boardAfter swapped :=
    ⟨by decide +kernel, by decide +kernel⟩
  exact ⟨h, build_keeps_components h⟩

end Telemetry.Inventory
