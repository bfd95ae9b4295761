import Telemetry.Time.Delta

/-! # Instants

An instant is a moment of civil time in UTC with nanoseconds.  The last second
of a minute may be a leap second, kept as nanoseconds beyond the full second.
Instants reach from the start of the year -262143 to the end of 262142; adding a
delta says when the sum lies outside.
-/

namespace Telemetry

/-- A moment of civil time: seconds since 1970-01-01 and nanoseconds, where a
nanosecond count beyond a full second stands for a leap second. -/
@[ext] structure Instant where
  seconds : Int
  nanos : Nat
  inRange : -8334601228800 ≤ seconds ∧ seconds ≤ 8210266876799
  nanosBound : nanos < 1000000000 ∨ (nanos < 2000000000 ∧ seconds % 60 = 59)

namespace Instant

/-- The earliest second of an instant. -/
def minSeconds : Int := -8334601228800

/-- The latest second of an instant. -/
def maxSeconds : Int := 8210266876799

/-- The instant with these parts, if there is one. -/
def ofParts? (seconds : Int) (nanos : Nat) : Option Instant :=
  if h : (minSeconds ≤ seconds ∧ seconds ≤ maxSeconds) ∧
      (nanos < 1000000000 ∨ (nanos < 2000000000 ∧ seconds % 60 = 59)) then
    some ⟨seconds, nanos, h.1, h.2⟩
  else none

/-- The instant 1970-01-01T00:00:00. -/
def epoch : Instant := ⟨0, 0, by decide, by decide⟩

instance : Inhabited Instant := ⟨epoch⟩

instance : DecidableEq Instant := fun a b =>
  decidable_of_iff (a.seconds = b.seconds ∧ a.nanos = b.nanos) Instant.ext_iff.symm

/-- Instants are ordered by their seconds and then by their nanoseconds. -/
instance : Ord Instant := ⟨fun a b => (compare a.seconds b.seconds).then (compare a.nanos b.nanos)⟩

theorem compare_def (a b : Instant) :
    compare a b = (compare a.seconds b.seconds).then (compare a.nanos b.nanos) := rfl

instance : LT Instant := ltOfOrd
instance : LE Instant := leOfOrd

instance (a b : Instant) : Decidable (a < b) :=
  inferInstanceAs (Decidable (compare a b = .lt))

instance (a b : Instant) : Decidable (a ≤ b) :=
  inferInstanceAs (Decidable ((compare a b).isLE = true))

theorem compare_lt_iff {a b : Instant} :
    compare a b = .lt ↔ a.seconds < b.seconds ∨ (a.seconds = b.seconds ∧ a.nanos < b.nanos) := by
  rw [compare_def, Ordering.then_eq_lt, Int.compare_eq_lt, Nat.compare_eq_lt,
    Int.compare_eq_eq]

theorem compare_eq_iff {a b : Instant} : compare a b = .eq ↔ a = b := by
  rw [compare_def, Ordering.then_eq_eq, Int.compare_eq_eq, Nat.compare_eq_eq, Instant.ext_iff]

instance : Std.LawfulEqOrd Instant where
  compare_self := compare_eq_iff.mpr rfl
  eq_of_compare := compare_eq_iff.mp

instance : Std.TransOrd Instant :=
  inferInstanceAs (Std.TransCmp (compareLex (compareOn Instant.seconds) (compareOn Instant.nanos)))

theorem lt_iff {a b : Instant} :
    a < b ↔ a.seconds < b.seconds ∨ (a.seconds = b.seconds ∧ a.nanos < b.nanos) :=
  compare_lt_iff

theorem not_lt {a b : Instant} : ¬ a < b ↔ b ≤ a := by
  have hswap : compare a b = (compare b a).swap := Std.OrientedCmp.eq_swap
  show ¬ compare a b = .lt ↔ (compare b a).isLE = true
  rw [hswap]
  cases compare b a <;> simp

theorem le_iff {a b : Instant} :
    a ≤ b ↔ a.seconds < b.seconds ∨ (a.seconds = b.seconds ∧ a.nanos ≤ b.nanos) := by
  rw [← not_lt, lt_iff]
  omega

theorem le_trans {a b c : Instant} (hab : a ≤ b) (hbc : b ≤ c) : a ≤ c := by
  rw [le_iff] at *
  omega

theorem ofParts?_eq_some {seconds : Int} {nanos : Nat} {t : Instant} :
    ofParts? seconds nanos = some t ↔ t.seconds = seconds ∧ t.nanos = nanos := by
  unfold ofParts?
  split
  next =>
    rw [Option.some_inj, Instant.ext_iff]
    exact and_congr eq_comm eq_comm
  next h =>
    refine ⟨fun hnone => (by cases hnone), fun ⟨hs, hn⟩ => absurd ?_ h⟩
    rw [← hs, ← hn]
    exact ⟨t.inRange, t.nanosBound⟩

/-- The sum of an instant and a delta.  A sum that leaves a leap second forwards
goes on from the second after it, one that leaves it backwards counts the leap
second as the following one; within it only the nanoseconds move. -/
def add? (t : Instant) (d : Delta) : Option Instant :=
  let whole := d.seconds
  let part := d.subsecond
  let nanos : Int := t.nanos
  if 1000000000 ≤ t.nanos ∧ ¬ (0 < whole ∨ (0 < part ∧ 2000000000 ≤ nanos + part)) ∧
      ¬ whole < 0 then
    ofParts? t.seconds (nanos + part).toNat
  else
    let leaps := decide (1000000000 ≤ t.nanos)
    let base : Int := if leaps then nanos - 1000000000 else nanos
    let second := if leaps ∧ whole < 0 then t.seconds + 1 else t.seconds
    let sum := base + part
    ofParts? (second + whole + sum / 1000000000) (sum % 1000000000).toNat

/-- The difference of an instant and a delta. -/
def sub? (t : Instant) (d : Delta) : Option Instant := t.add? d.neg

end Instant

end Telemetry
