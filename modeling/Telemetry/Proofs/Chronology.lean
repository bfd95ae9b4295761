import Mathlib.Data.List.Induction
import Mathlib.Data.List.TakeWhile

/-! # Events in the order of time

A run is a list of events with their moments.  It makes sense only if the moments do not decrease
(`Chronological`), and what is seen at a moment is what came of the events up to then, so that most
facts are about a list of events that have all happened by some moment (`HappenedBy`).

Facts about every run are proved by adding one event at the end, because the state after a run is a
fold over its events from the left: the last event acts on what all the others have left.
`HappenedBy.induction` is that induction, with the moment of the last event as the moment of the
hypothesis.  A statement about an event in the middle of a run is brought to this form by
`HappenedBy.upTo`, which forgets what happens after it.

The events up to a moment (`upTo`) are what an observer has seen of a longer run, and
`getLast?_of_pairwise` finds the last member of a list whose members are ordered by some other
relation, as the calls of a source are by the times at which they run.
-/

namespace Telemetry

variable {ε : Type}

/-- An event of a run is the last one, or it comes before the last one.  This splits a position in a
run of which one more event is known, as every induction from the end needs it. -/
theorem last_or_before {events pre post : List ε} {last e : ε}
    (h : events ++ [last] = pre ++ e :: post) :
    (post = [] ∧ events = pre ∧ last = e) ∨
      ∃ rest, post = rest ++ [last] ∧ events = pre ++ e :: rest := by
  rcases post.eq_nil_or_concat with rfl | ⟨rest, b, rfl⟩
  · obtain ⟨rfl, hlast⟩ := List.append_inj' h rfl
    exact .inl ⟨rfl, rfl, List.singleton_inj.mp hlast⟩
  · rw [List.concat_eq_append, ← List.cons_append, ← List.append_assoc] at h
    obtain ⟨rfl, hlast⟩ := List.append_inj' h rfl
    exact .inr ⟨rest, by rw [List.concat_eq_append, hlast], rfl⟩

/-- Events listed in the order in which they happen.  Several may happen at one moment, and then
they count in the order in which they are listed. -/
def Chronological (events : List (Nat × ε)) : Prop :=
  events.Pairwise fun a b => a.1 ≤ b.1

instance (events : List (Nat × ε)) : Decidable (Chronological events) :=
  inferInstanceAs (Decidable (events.Pairwise fun a b => a.1 ≤ b.1))

/-- Events listed in the order in which they happen, all of them by a moment. -/
structure HappenedBy (now : Nat) (events : List (Nat × ε)) : Prop where
  inOrder : Chronological events
  past : ∀ e ∈ events, e.1 ≤ now

instance (now : Nat) (events : List (Nat × ε)) : Decidable (HappenedBy now events) :=
  decidable_of_iff (Chronological events ∧ ∀ e ∈ events, e.1 ≤ now)
    ⟨fun h => ⟨h.1, h.2⟩, fun h => ⟨h.1, h.2⟩⟩

/-- Every run is over at some moment.  A statement about all moments by which a run has happened is
never an empty one. -/
theorem Chronological.happenedBy {events : List (Nat × ε)} (h : Chronological events) :
    ∃ now, HappenedBy now events := by
  suffices hbound : ∃ now, ∀ e ∈ events, e.1 ≤ now from hbound.imp fun _ hpast => ⟨h, hpast⟩
  clear h
  induction events with
  | nil => exact ⟨0, fun _ h => absurd h List.not_mem_nil⟩
  | cons e rest ih =>
    obtain ⟨now, hnow⟩ := ih
    refine ⟨max e.1 now, fun a ha => ?_⟩
    rcases List.mem_cons.mp ha with rfl | ha
    · exact Nat.le_max_left _ _
    · exact Nat.le_trans (hnow a ha) (Nat.le_max_right _ _)

namespace HappenedBy

variable {now later : Nat} {pre post events : List (Nat × ε)} {e : Nat × ε}

theorem mono (h : HappenedBy now events) (hle : now ≤ later) : HappenedBy later events :=
  ⟨h.inOrder, fun e he => Nat.le_trans (h.past e he) hle⟩

/-- A last event happens by a moment when its own moment is not later and the
events before it happen by its own moment. -/
theorem concat_iff : HappenedBy now (pre ++ [e]) ↔ HappenedBy e.1 pre ∧ e.1 ≤ now := by
  constructor
  · intro ⟨hord, hpast⟩
    obtain ⟨hpre, -, hlast⟩ := List.pairwise_append.mp hord
    exact ⟨⟨hpre, fun a ha => hlast a ha e (List.mem_singleton_self e)⟩,
      hpast e (List.mem_append_right _ (List.mem_singleton_self e))⟩
  · intro ⟨h, hle⟩
    refine ⟨List.pairwise_append.mpr ⟨h.inOrder, List.pairwise_singleton _ _, ?_⟩, ?_⟩
    · intro a ha b hb
      rw [List.mem_singleton.mp hb]
      exact h.past a ha
    · intro a ha
      rcases List.mem_append.mp ha with ha | ha
      · exact Nat.le_trans (h.past a ha) hle
      · rw [List.mem_singleton.mp ha]
        exact hle

/-- What is left of a run behind its first events happens in order, and not before
any of these. -/
theorem of_append (h : HappenedBy now (pre ++ post)) :
    HappenedBy now pre ∧ HappenedBy now post ∧ ∀ a ∈ pre, ∀ b ∈ post, a.1 ≤ b.1 := by
  obtain ⟨hpre, hpost, hcross⟩ := List.pairwise_append.mp h.inOrder
  exact ⟨⟨hpre, fun a ha => h.past a (List.mem_append_left _ ha)⟩,
    ⟨hpost, fun a ha => h.past a (List.mem_append_right _ ha)⟩, hcross⟩

/-- The events after the first one do not happen before it.  A run that is followed from its
beginning is taken apart so. -/
theorem of_cons (h : HappenedBy now (e :: post)) :
    e.1 ≤ now ∧ (∀ a ∈ post, e.1 ≤ a.1) ∧ HappenedBy now post := by
  obtain ⟨hbefore, hinOrder⟩ := List.pairwise_cons.mp h.inOrder
  obtain ⟨he, hpast⟩ := List.forall_mem_cons.mp h.past
  exact ⟨he, hbefore, hinOrder, hpast⟩

/-- The events before an event happen by its moment.  Whoever acts at that event finds what they
have left. -/
theorem before (h : HappenedBy now (pre ++ e :: post)) : HappenedBy e.1 pre ∧ e.1 ≤ now := by
  obtain ⟨hpre, hpost, hcross⟩ := h.of_append
  exact ⟨⟨hpre.inOrder, fun a ha => hcross a ha e List.mem_cons_self⟩,
    hpost.past e List.mem_cons_self⟩

/-- The events up to and including an event happen by its moment.  So a fact about the last event of
a run holds of every event of it, in the run that is cut off there. -/
theorem upTo (h : HappenedBy now (pre ++ e :: post)) : HappenedBy e.1 (pre ++ [e]) :=
  concat_iff.mpr ⟨h.before.1, Nat.le_refl _⟩

/-- Events at moments taken from a run in their order are in order as well.  A run from which some
events are left out, or in which they are replaced by others at the same moments, is a run again. -/
theorem of_sublist {δ : Type} {others : List (Nat × δ)} (h : HappenedBy now events)
    (hsub : (others.map Prod.fst).Sublist (events.map Prod.fst)) : HappenedBy now others := by
  constructor
  · have hmoments : (events.map Prod.fst).Pairwise (· ≤ ·) := List.pairwise_map.mpr h.inOrder
    exact List.pairwise_map.mp (hmoments.sublist hsub)
  · intro e he
    obtain ⟨a, ha, hae⟩ := List.mem_map.mp (hsub.subset (List.mem_map_of_mem he))
    rw [← hae]
    exact h.past a ha

/-- **Induction along a run**: nothing has happened, or one more event has.  The run before the last
event is looked at just when that event happens. -/
@[elab_as_elim] theorem induction {motive : Nat → List (Nat × ε) → Prop}
    (start : ∀ now, motive now [])
    (event : ∀ now pre t (e : ε), HappenedBy t pre → t ≤ now → motive t pre →
      motive now (pre ++ [(t, e)]))
    {now : Nat} {events : List (Nat × ε)} (h : HappenedBy now events) : motive now events := by
  induction events using List.reverseRecOn generalizing now with
  | nil => exact start now
  | append_singleton pre e ih =>
    obtain ⟨hpre, hle⟩ := concat_iff.mp h
    exact event now pre e.1 e.2 hpre hle (ih hpre)

end HappenedBy

/-- The events of a run up to a moment.  Of several events at that moment all are meant, since
whoever looks then looks after them. -/
def upTo (events : List (Nat × ε)) (now : Nat) : List (Nat × ε) :=
  events.takeWhile (·.1 ≤ now)

theorem upTo_cons_of_le {e : Nat × ε} (rest : List (Nat × ε)) {now : Nat} (hle : e.1 ≤ now) :
    upTo (e :: rest) now = e :: upTo rest now :=
  List.takeWhile_cons_of_pos (decide_eq_true hle)

theorem upTo_of_late {events : List (Nat × ε)} {now : Nat} (h : ∀ e ∈ events, now < e.1) :
    upTo events now = [] := by
  cases events with
  | nil => rfl
  | cons e rest =>
    refine List.takeWhile_cons_of_neg ?_
    simpa using h e List.mem_cons_self

/-- By then all of it has happened. -/
theorem upTo_of_happenedBy {events : List (Nat × ε)} {now : Nat} (h : HappenedBy now events) :
    upTo events now = events :=
  List.takeWhile_eq_self_iff.mpr fun e he => decide_eq_true (h.past e he)

theorem happenedBy_upTo {events : List (Nat × ε)} (h : Chronological events) (now : Nat) :
    HappenedBy now (upTo events now) :=
  ⟨h.sublist (List.takeWhile_sublist _), fun _ he =>
    of_decide_eq_true (List.mem_takeWhile_imp (p := fun a : Nat × ε => decide (a.1 ≤ now)) he)⟩

/-- Where every earlier member of a list stands in a relation to every later one, the
member that stands in it to none is the last. -/
theorem getLast?_of_pairwise {R : ε → ε → Prop} {l : List ε} {w : ε}
    (h : l.Pairwise R) (hw : w ∈ l) (hlast : ∀ b ∈ l, ¬ R w b) : l.getLast? = some w := by
  obtain ⟨before, after, rfl⟩ := List.append_of_mem hw
  cases after with
  | nil => exact List.getLast?_concat
  | cons b after =>
    have hb : b ∈ before ++ w :: b :: after := by simp
    obtain ⟨-, htail, -⟩ := List.pairwise_append.mp h
    exact absurd (List.rel_of_pairwise_cons htail List.mem_cons_self) (hlast b hb)

end Telemetry
