import Telemetry.Time.Instant

/-! # What lies some time before an instant

Outside of leap seconds instants are counted by their nanoseconds (`Instant.total`), and the
difference of an instant and a delta is the difference of the counts.  Around a leap second the
count jumps; there it still holds that what lies some time before an instant comes before it.

A difference may lie before the earliest instant, and then there is none.  For whole seconds this is
one comparison (`sub?_eq_none`), in a leap second as well, which counts as the second that follows
it (`Instant.counted`).
-/

namespace Telemetry

namespace Delta

theorem nanos_eq (d : Delta) : d.nanos = d.seconds * 1000000000 + d.subsecond := by
  have hparts := Int.mul_tdiv_add_tmod d.nanos 1000000000
  unfold seconds subsecond
  omega

theorem nanos_of_ofSeconds? {seconds : Int} {range : Delta}
    (h : ofSeconds? seconds = some range) : range.nanos = seconds * 1000000000 := by
  unfold ofSeconds? at h
  split at h
  · rw [← Option.some.inj h]
  · cases h

/-- The parts of a delta that goes backwards: neither is positive, and one of them is negative. -/
theorem neg_parts {d : Delta} (hd : 0 < d.nanos) :
    d.neg.seconds ≤ 0 ∧ d.neg.subsecond ≤ 0 ∧ (0 ≤ d.neg.seconds → d.neg.subsecond < 0) := by
  have hseconds : d.neg.seconds = -d.seconds := Int.neg_tdiv _ _
  have hsubsecond : d.neg.subsecond = -d.subsecond := Int.neg_tmod _ _
  have hwhole : 0 ≤ d.seconds := Int.tdiv_nonneg (Int.le_of_lt hd) (by decide)
  have hpart : 0 ≤ d.subsecond := Int.tmod_nonneg 1000000000 (Int.le_of_lt hd)
  have hparts := nanos_eq d
  omega

end Delta

namespace Instant

variable {t u c a : Instant} {d e : Delta}

theorem le_iff_lt_or_eq : t ≤ u ↔ t < u ∨ t = u := by
  rw [le_iff, lt_iff, Instant.ext_iff]
  omega

theorem lt_irrefl (t : Instant) : ¬ t < t := by
  rw [lt_iff]
  omega

/-- Outside of every leap second: the nanoseconds are those of one second. -/
def Regular (t : Instant) : Prop := t.nanos < 1000000000

instance (t : Instant) : Decidable t.Regular := inferInstanceAs (Decidable (_ < _))

/-- The nanoseconds since 1970-01-01, leap seconds aside. -/
def total (t : Instant) : Int := t.seconds * 1000000000 + t.nanos

theorem le_iff_total (ht : t.Regular) (hu : u.Regular) : t ≤ u ↔ t.total ≤ u.total := by
  unfold Regular at ht hu
  unfold total
  rw [le_iff]
  omega

theorem add?_of_regular (h : t.Regular) (d : Delta) :
    t.add? d = ofParts? (t.seconds + d.seconds + (t.nanos + d.subsecond) / 1000000000)
      ((t.nanos + d.subsecond) % 1000000000).toNat := by
  have hleap : ¬ 1000000000 ≤ t.nanos := Nat.not_le.mpr h
  unfold add?
  simp [hleap]

/-- **Differences are differences of counts**, for an instant outside of leap seconds. -/
theorem sub?_eq_some (h : t.Regular) :
    t.sub? d = some c ↔ c.Regular ∧ c.total = t.total - d.nanos := by
  have hparts := Delta.nanos_eq d.neg
  have hneg : d.neg.nanos = -d.nanos := rfl
  rw [sub?, add?_of_regular h, ofParts?_eq_some]
  unfold Regular total at *
  omega

/-- What lies some time before an instant is before it, also around a leap second. -/
theorem sub?_lt (h : t.sub? d = some c) (hd : 0 < d.nanos) : c < t := by
  obtain ⟨hwhole, hpart, hsome⟩ := Delta.neg_parts hd
  have hbound := t.nanosBound
  rw [lt_iff]
  by_cases hreg : t.Regular
  · rw [sub?, add?_of_regular hreg, ofParts?_eq_some] at h
    unfold Regular at hreg
    omega
  · have hleap : 1000000000 ≤ t.nanos := Nat.not_lt.mp hreg
    unfold sub? add? at h
    by_cases hzero : d.neg.seconds < 0
    · -- it leaves the leap second, which counts as the following one
      simp only [hleap, hzero, not_true, and_false, if_false, decide_true, true_and, if_true,
        ofParts?_eq_some] at h
      omega
    · have hwithin : ¬ 0 < d.neg.seconds ∧ ¬ 0 < d.neg.subsecond := by omega
      simp only [hleap, hzero, hwithin, not_false_iff, and_true, or_self, false_and, if_true,
        ofParts?_eq_some] at h
      omega

/-- The second that differences count an instant by: a leap second counts as the following one. -/
def counted (t : Instant) : Int := if t.Regular then t.seconds else t.seconds + 1

/-- What lies whole seconds before an instant: the second is so much less, and the nanoseconds stay
unless the instant is in a leap second. -/
theorem sub?_eq_ofParts? {seconds : Int} (hseconds : 0 < seconds)
    (hd : d.nanos = seconds * 1000000000) :
    t.sub? d = ofParts? (t.counted - seconds) (t.nanos % 1000000000) := by
  have hwhole : d.neg.seconds = -seconds := by
    show (-d.nanos).tdiv 1000000000 = -seconds
    rw [hd, ← Int.neg_mul]
    exact Int.mul_tdiv_cancel _ (by decide)
  have hpart : d.neg.subsecond = 0 := by
    show (-d.nanos).tmod 1000000000 = 0
    rw [hd, ← Int.neg_mul]
    exact Int.mul_tmod_left _ _
  have hbound := t.nanosBound
  unfold counted
  by_cases hreg : t.Regular
  · rw [if_pos hreg, sub?, add?_of_regular hreg, hwhole, hpart]
    unfold Regular at hreg
    congr 1
    omega
  · have hleap : 1000000000 ≤ t.nanos := Nat.not_lt.mp hreg
    have hback : -seconds < 0 := by omega
    unfold sub? add?
    simp only [if_neg hreg, hwhole, hpart, hleap, hback, not_true, and_false, if_false,
      decide_true, true_and, if_true]
    congr 1 <;> omega

/-- **Whole seconds before an instant there is none** if that is before the earliest one. -/
theorem sub?_eq_none {seconds : Int} (hseconds : 0 < seconds)
    (hd : d.nanos = seconds * 1000000000) :
    t.sub? d = none ↔ t.counted - seconds < minSeconds := by
  have hlast : t.counted - seconds ≤ maxSeconds := by
    have hrange := t.inRange
    unfold counted maxSeconds
    split <;> omega
  have hnanos : t.nanos % 1000000000 < 1000000000 := Nat.mod_lt _ (by decide)
  rw [sub?_eq_ofParts? hseconds hd, ofParts?, dite_eq_right_iff]
  refine ⟨fun h => Int.not_le.mp fun hle => ?_, fun hlt h => absurd h.1.1 (Int.not_le.mpr hlt)⟩
  cases h ⟨⟨hle, hlast⟩, .inl hnanos⟩

/-- A later instant less a shorter time is later, or the same, as long as neither is in a leap
second. -/
theorem sub?_mono (ht : t.Regular) (hu : u.Regular) (hle : t ≤ u) (hshort : e.nanos ≤ d.nanos)
    (hc : t.sub? d = some c) (ha : u.sub? e = some a) : c ≤ a := by
  obtain ⟨hcr, hct⟩ := (sub?_eq_some ht).mp hc
  obtain ⟨har, hat⟩ := (sub?_eq_some hu).mp ha
  rw [le_iff_total ht hu] at hle
  rw [le_iff_total hcr har]
  omega

/-- Where the difference reaches an instant, so does that of a later instant, which has less reason
to fall before the earliest one. -/
theorem exists_sub?_of_le (ht : t.Regular) (hu : u.Regular) (hle : t ≤ u) (hd : 0 ≤ d.nanos)
    (hc : t.sub? d = some c) : ∃ a, u.sub? d = some a := by
  obtain ⟨hcr, hct⟩ := (sub?_eq_some ht).mp hc
  rw [le_iff_total ht hu] at hle
  have hfirst := c.inRange
  have hlast := u.inRange
  unfold Regular total at *
  let n := u.seconds * 1000000000 + u.nanos - d.nanos
  refine ⟨⟨n / 1000000000, (n % 1000000000).toNat, ?_, ?_⟩, (sub?_eq_some hu).mpr ⟨?_, ?_⟩⟩
  all_goals simp only [n, Regular, total]
  all_goals omega

end Instant

end Telemetry
