import Mathlib.Algebra.Order.Ring.Nat
import Mathlib.Tactic.Ring
import Telemetry.Number.ShortestDecimal
import Telemetry.Proofs.Number.Digits

/-! # Shortened numbers read back

A whole number passes through floating point as the nearest number with 53 significant bits
(`isNearest_nearest`).  The digits that are left out of it are those that floating point does not
hold: a reader that rounds what is written gets the same number (`read?_text`).

Rounding is shown in two steps.  A quotient is rounded to the nearest whole number, the even one in
the middle (`quotient_closest`, `quotient_eq`); and a number is rounded at the unit that leaves 53
bits of it (`ofNat_eq_quotient`).  If it rounds up to the next power of two the unit doubles, and
half of the mantissa is still a whole number.

What reads back as a number is an interval around it (`readsBack_iff`), half a unit to both sides
but for the smallest mantissa, below which the units are half as long.  The text takes a number of
this interval, with as many zeros at its end as it finds.
-/

namespace Telemetry.ShortestDecimal

namespace Rounded

/-! ## Rounding to 53 bits -/

/-- A quotient rounded to the nearest whole number, from the middle to an even one: the rounding of
floating point without its shift. -/
def quotient (n unit : Nat) : Nat :=
  if 2 * (n % unit) < unit then n / unit
  else if unit < 2 * (n % unit) then n / unit + 1
  else if n / unit % 2 = 0 then n / unit else n / unit + 1

/-- The shift that leaves 53 bits of a number, which is none for a number that has no more of
them. -/
def shiftOf (n : Nat) : Nat := n.log2 + 1 - 53

theorem ofNat_eq_quotient (n : Nat) :
    ofNat n = if quotient n (2 ^ shiftOf n) = 2 ^ 53 then ⟨2 ^ 52, shiftOf n + 1⟩
      else ⟨quotient n (2 ^ shiftOf n), shiftOf n⟩ := by
  unfold ofNat quotient shiftOf
  simp only [Nat.shiftLeft_eq, Nat.one_mul]

/-- A quotient is rounded down from below the middle and up from above it, and in the middle it is
the even one of the two that is taken. -/
theorem quotient_cases (n unit : Nat) :
    (quotient n unit = n / unit ∧ 2 * (n % unit) ≤ unit ∧
        (2 * (n % unit) = unit → n / unit % 2 = 0)) ∨
      (quotient n unit = n / unit + 1 ∧ unit ≤ 2 * (n % unit) ∧
        (2 * (n % unit) = unit → (n / unit + 1) % 2 = 0)) := by
  unfold quotient
  split_ifs <;> omega

theorem le_quotient (n unit : Nat) : n / unit ≤ quotient n unit := by
  rcases quotient_cases n unit with ⟨heq, -⟩ | ⟨heq, -⟩ <;> omega

theorem quotient_le (n unit : Nat) : quotient n unit ≤ n / unit + 1 := by
  rcases quotient_cases n unit with ⟨heq, -⟩ | ⟨heq, -⟩ <;> omega

/-- Two multiples of a unit are the same or a unit apart, so that none lies between two
neighbours. -/
theorem multiples_apart (k q unit : Nat) :
    k = q ∨ k * unit + unit ≤ q * unit ∨ q * unit + unit ≤ k * unit := by
  rcases Nat.lt_trichotomy k q with hlt | heq | hgt
  · have hle := Nat.mul_le_mul_right unit (Nat.succ_le_of_lt hlt)
    rw [Nat.succ_mul] at hle
    exact .inr (.inl hle)
  · exact .inl heq
  · have hle := Nat.mul_le_mul_right unit (Nat.succ_le_of_lt hgt)
    rw [Nat.succ_mul] at hle
    exact .inr (.inr hle)

/-- No multiple of a unit is closer than the rounded one, and if another one is as close, then the
rounded one is an even multiple. -/
theorem quotient_closest {n unit : Nat} (hunit : 0 < unit) (k : Nat) :
    ((n : Int) - (quotient n unit * unit : Nat)).natAbs ≤ ((n : Int) - (k * unit : Nat)).natAbs ∧
      (((n : Int) - (k * unit : Nat)).natAbs =
          ((n : Int) - (quotient n unit * unit : Nat)).natAbs →
        k ≠ quotient n unit → quotient n unit % 2 = 0) := by
  have hn : n / unit * unit + n % unit = n := Nat.div_add_mod' n unit
  have hrest : n % unit < unit := Nat.mod_lt n hunit
  rcases quotient_cases n unit with ⟨heq, hhalf, htie⟩ | ⟨heq, hhalf, htie⟩
  · rw [heq]
    rcases multiples_apart k (n / unit) unit with rfl | hlt | hgt <;> omega
  · rw [heq]
    have hnext : (n / unit + 1) * unit = n / unit * unit + unit := Nat.succ_mul ..
    rcases multiples_apart k (n / unit + 1) unit with rfl | hlt | hgt <;> omega

/-- What lies at most half a unit from a multiple rounds to it; what lies in the middle rounds
to it if it is an even one. -/
theorem quotient_eq {n unit m : Nat} (hunit : 0 < unit) (hlow : 2 * (m * unit) ≤ 2 * n + unit)
    (hhigh : 2 * n ≤ 2 * (m * unit) + unit)
    (htie : 2 * (m * unit) = 2 * n + unit ∨ 2 * n = 2 * (m * unit) + unit → m % 2 = 0) :
    quotient n unit = m := by
  have hn : n / unit * unit + n % unit = n := Nat.div_add_mod' n unit
  have hrest : n % unit < unit := Nat.mod_lt n hunit
  have hnext : (n / unit + 1) * unit = n / unit * unit + unit := Nat.succ_mul ..
  rcases quotient_cases n unit with ⟨heq, hhalf, heven⟩ | ⟨heq, hhalf, heven⟩
  · rcases multiples_apart m (n / unit) unit with hm | hlt | hgt
    · rw [heq, hm]
    · omega
    · have hm : m = n / unit + 1 := Nat.eq_of_mul_eq_mul_right hunit (by omega)
      omega
  · rcases multiples_apart m (n / unit + 1) unit with hm | hlt | hgt
    · rw [heq, hm]
    · have hm : m = n / unit := Nat.eq_of_mul_eq_mul_right hunit (by omega)
      omega
    · omega

theorem quotient_one (n : Nat) : quotient n 1 = n :=
  quotient_eq Nat.one_pos (by omega) (by omega) (by omega)

theorem lt_of_shiftOf (n : Nat) : n < 2 ^ 53 * 2 ^ shiftOf n := by
  rw [← Nat.pow_add]
  refine Nat.lt_of_lt_of_le Nat.lt_log2_self (Nat.pow_le_pow_right (by decide) ?_)
  unfold shiftOf
  omega

theorem le_of_shiftOf_ne_zero {n : Nat} (h : shiftOf n ≠ 0) : 2 ^ 52 * 2 ^ shiftOf n ≤ n := by
  have hpos : n ≠ 0 := by
    rintro rfl
    exact h (by decide)
  have hlog : 52 + shiftOf n = n.log2 := by
    unfold shiftOf at h ⊢
    omega
  rw [← Nat.pow_add, hlog]
  exact Nat.log2_self_le hpos

theorem mantissa_ofNat_lt (n : Nat) : (ofNat n).mantissa < 2 ^ 53 := by
  rw [ofNat_eq_quotient]
  by_cases hfull : quotient n (2 ^ shiftOf n) = 2 ^ 53
  · rw [if_pos hfull]
    exact Nat.pow_lt_pow_right (by decide) (by decide)
  · rw [if_neg hfull]
    have hdiv : n / 2 ^ shiftOf n < 2 ^ 53 :=
      (Nat.div_lt_iff_lt_mul (Nat.two_pow_pos _)).mpr (lt_of_shiftOf n)
    have hle := quotient_le n (2 ^ shiftOf n)
    show quotient n (2 ^ shiftOf n) < 2 ^ 53
    omega

/-- A number that is rounded at a unit above one has all its 53 bits, also when it was rounded up to
a power of two. -/
theorem le_mantissa_ofNat {n : Nat} (h : (ofNat n).shift ≠ 0) : 2 ^ 52 ≤ (ofNat n).mantissa := by
  rw [ofNat_eq_quotient] at h ⊢
  by_cases hfull : quotient n (2 ^ shiftOf n) = 2 ^ 53
  · rw [if_pos hfull]
  · rw [if_neg hfull] at h ⊢
    have hdiv : 2 ^ 52 ≤ n / 2 ^ shiftOf n :=
      (Nat.le_div_iff_mul_le (Nat.two_pow_pos _)).mpr (le_of_shiftOf_ne_zero h)
    exact Nat.le_trans hdiv (le_quotient n _)

theorem toNat_eq (r : Rounded) : r.toNat = r.mantissa * 2 ^ r.shift := Nat.shiftLeft_eq ..

theorem toNat_ofNat (n : Nat) :
    (ofNat n).toNat = quotient n (2 ^ shiftOf n) * 2 ^ shiftOf n := by
  rw [toNat_eq, ofNat_eq_quotient]
  by_cases hfull : quotient n (2 ^ shiftOf n) = 2 ^ 53
  · have hpow : 2 ^ (shiftOf n + 1) = 2 * 2 ^ shiftOf n := Nat.pow_succ'
    rw [if_pos hfull, hfull]
    show 2 ^ 52 * 2 ^ (shiftOf n + 1) = 2 ^ 53 * 2 ^ shiftOf n
    omega
  · rw [if_neg hfull]

theorem toNat_ofNat_of_shift {n : Nat} (h : (ofNat n).shift = 0) : (ofNat n).toNat = n := by
  rw [ofNat_eq_quotient] at h
  by_cases hfull : quotient n (2 ^ shiftOf n) = 2 ^ 53
  · rw [if_pos hfull] at h
    exact absurd h (Nat.succ_ne_zero _)
  · rw [if_neg hfull] at h
    replace h : shiftOf n = 0 := h
    rw [toNat_ofNat, h, Nat.pow_zero, Nat.mul_one, quotient_one]

/-- No number of 53 bits is closer than the rounded one, and if another one is as close, then the
rounded one has an even mantissa. -/
theorem ofNat_closest (n s : Nat) {m : Nat} (hm : m < 2 ^ 53) :
    ((n : Int) - (ofNat n).toNat).natAbs ≤ ((n : Int) - (m * 2 ^ s : Nat)).natAbs ∧
      (((n : Int) - (m * 2 ^ s : Nat)).natAbs = ((n : Int) - (ofNat n).toNat).natAbs →
        m * 2 ^ s ≠ (ofNat n).toNat → (ofNat n).mantissa % 2 = 0) := by
  have hunit : 0 < 2 ^ shiftOf n := Nat.two_pow_pos _
  rw [toNat_ofNat]
  by_cases hfine : s < shiftOf n
  · -- what has a finer unit lies below the smallest mantissa, which is a multiple of the unit
    have hbelow := le_of_shiftOf_ne_zero (Nat.ne_zero_of_lt hfine)
    have hpow : 2 ^ (s + 1) = 2 * 2 ^ s := Nat.pow_succ'
    have hsmall : m * 2 ^ s < 2 ^ 52 * 2 ^ shiftOf n := by
      calc m * 2 ^ s < 2 ^ 53 * 2 ^ s := Nat.mul_lt_mul_of_pos_right hm (Nat.two_pow_pos s)
        _ = 2 ^ 52 * 2 ^ (s + 1) := by omega
        _ ≤ 2 ^ 52 * 2 ^ shiftOf n :=
          Nat.mul_le_mul_left _ (Nat.pow_le_pow_right (by decide) hfine)
    obtain ⟨hle, -⟩ := quotient_closest hunit (n := n) (2 ^ 52)
    omega
  · obtain ⟨d, rfl⟩ := Nat.exists_eq_add_of_le (Nat.le_of_not_lt hfine)
    have hmultiple : m * 2 ^ (shiftOf n + d) = m * 2 ^ d * 2 ^ shiftOf n := by
      rw [Nat.pow_add, Nat.mul_assoc, Nat.mul_comm (2 ^ d)]
    obtain ⟨hle, heven⟩ := quotient_closest hunit (n := n) (m * 2 ^ d)
    rw [hmultiple]
    refine ⟨hle, fun hdist hne => ?_⟩
    have hquotient := heven hdist fun heq => hne (by rw [heq])
    rw [ofNat_eq_quotient]
    split_ifs
    · show 2 ^ 52 % 2 = 0
      decide
    · exact hquotient

/-- A number of 53 bits above a shift is rounded at that shift, to the mantissa that it is at most
half a unit from. -/
theorem ofNat_eq {n m shift : Nat} (hnlow : 2 ^ (52 + shift) ≤ n) (hnhigh : n < 2 ^ (53 + shift))
    (hlow : 2 * (m * 2 ^ shift) ≤ 2 * n + 2 ^ shift)
    (hhigh : 2 * n ≤ 2 * (m * 2 ^ shift) + 2 ^ shift)
    (htie : 2 * (m * 2 ^ shift) = 2 * n + 2 ^ shift ∨ 2 * n = 2 * (m * 2 ^ shift) + 2 ^ shift →
      m % 2 = 0) :
    ofNat n = if m = 2 ^ 53 then ⟨2 ^ 52, shift + 1⟩ else ⟨m, shift⟩ := by
  have hpos : n ≠ 0 := Nat.ne_of_gt (Nat.lt_of_lt_of_le (Nat.two_pow_pos _) hnlow)
  have hlog : n.log2 = 52 + shift :=
    (Nat.log2_eq_iff hpos).mpr ⟨hnlow, by rwa [Nat.add_right_comm]⟩
  have hshift : shiftOf n = shift := by
    unfold shiftOf
    omega
  rw [ofNat_eq_quotient, hshift, quotient_eq (Nat.two_pow_pos shift) hlow hhigh htie]

/-! ## What reads back -/

/-- A number reads back as what it is at most half a unit from, less than that for an odd
mantissa, and at most a quarter of a unit below the smallest mantissa. -/
theorem readsBack_iff {r : Rounded} (hpos : r.mantissa ≠ 0) {n : Nat} :
    r.readsBack n ↔
      4 * r.toNat ≤ 4 * n + (if r.mantissa = 2 ^ 52 then 2 ^ r.shift else 2 * 2 ^ r.shift) ∧
      4 * n ≤ 4 * r.toNat + 2 * 2 ^ r.shift ∧
      (r.mantissa % 2 = 1 →
        4 * r.toNat < 4 * n + 2 * 2 ^ r.shift ∧ 4 * n < 4 * r.toNat + 2 * 2 ^ r.shift) := by
  have hle : 1 * 2 ^ r.shift ≤ r.mantissa * 2 ^ r.shift :=
    Nat.mul_le_mul_right _ (Nat.pos_of_ne_zero hpos)
  unfold readsBack
  rw [toNat_eq]
  simp only [Nat.shiftLeft_eq, Nat.one_mul, Nat.sub_mul, Nat.add_mul, Nat.mul_assoc]
  split_ifs <;> simp only [Bool.and_eq_true, decide_eq_true_eq] <;> omega

/-- What reads back as a number with all its 53 bits is rounded to it.  The interval of such a
number lies where numbers are rounded at its own shift, or just below. -/
theorem ofNat_of_readsBack {r : Rounded} (hshift : r.shift ≠ 0) (hlow : 2 ^ 52 ≤ r.mantissa)
    (hhigh : r.mantissa < 2 ^ 53) {n : Nat} (h : r.readsBack n) : ofNat n = r := by
  obtain ⟨hbelow, habove, hodd⟩ := (readsBack_iff (by omega)).mp h
  rw [toNat_eq] at hbelow habove hodd
  obtain ⟨m, shift⟩ := r
  obtain ⟨s, rfl⟩ : ∃ s, shift = s + 1 := Nat.exists_eq_succ_of_ne_zero hshift
  simp only at hlow hhigh hbelow habove hodd
  have hunit : 0 < 2 ^ s := Nat.two_pow_pos s
  have htop : n < 2 ^ (53 + (s + 1)) := by
    have := Nat.mul_le_mul_right (2 ^ (s + 1)) (Nat.le_sub_one_of_lt hhigh)
    rw [Nat.pow_add]
    omega
  by_cases hfloor : n < 2 ^ (52 + (s + 1))
  · -- only the smallest number of 53 bits reads back from below, where the unit is half as large
    have hm : m = 2 ^ 52 := by
      by_contra hne
      have := Nat.mul_le_mul_right (2 ^ (s + 1)) (show 2 ^ 52 + 1 ≤ m by omega)
      rw [if_neg hne] at hbelow
      rw [Nat.pow_add] at hfloor
      omega
    rw [if_pos hm] at hbelow
    have hround : ofNat n = if 2 ^ 53 = 2 ^ 53 then ⟨2 ^ 52, s + 1⟩ else ⟨2 ^ 53, s⟩ := by
      subst hm
      rw [Nat.pow_add] at hfloor
      refine ofNat_eq ?_ ?_ ?_ ?_ fun _ => rfl
      · rw [Nat.pow_add]
        omega
      · rw [Nat.pow_add]
        omega
      · omega
      · omega
    rw [hround, if_pos rfl, hm]
  · have hround : ofNat n = if m = 2 ^ 53 then ⟨2 ^ 52, s + 1 + 1⟩ else ⟨m, s + 1⟩ := by
      refine ofNat_eq (by omega) htop ?_ (by omega) ?_
      · split_ifs at hbelow <;> omega
      · split_ifs at hbelow <;> omega
    rw [hround, if_neg (Nat.ne_of_lt hhigh)]

theorem readsBack_toNat {r : Rounded} (hpos : r.mantissa ≠ 0) : r.readsBack r.toNat := by
  have hunit : 0 < 2 ^ r.shift := Nat.two_pow_pos r.shift
  exact (readsBack_iff hpos).mpr ⟨by omega, by omega, by omega⟩

theorem readsBack_of_either {r : Rounded} {a b n : Nat}
    (h : (if r.readsBack a then some a else if r.readsBack b then some b else none) = some n) :
    r.readsBack n := by
  by_cases ha : r.readsBack a
  · rw [if_pos ha] at h
    exact Option.some.inj h ▸ ha
  · rw [if_neg ha] at h
    by_cases hb : r.readsBack b
    · rw [if_pos hb] at h
      exact Option.some.inj h ▸ hb
    · rw [if_neg hb] at h
      cases h

theorem readsBack_of_onGrid? {r : Rounded} {zeros n : Nat} (h : r.onGrid? zeros = some n) :
    r.readsBack n :=
  readsBack_of_either h

/-- However many zeros are tried, what is found reads back: the number itself does, and nothing else
is taken without a test. -/
theorem readsBack_shortest {r : Rounded} (hpos : r.mantissa ≠ 0) (zeros : Nat) :
    r.readsBack (r.shortest zeros) := by
  induction zeros with
  | zero => exact readsBack_toNat hpos
  | succ zeros ih =>
    rw [shortest]
    cases hgrid : r.onGrid? (zeros + 1) with
    | none => exact ih
    | some n => exact readsBack_of_onGrid? hgrid

end Rounded

/-! ## The text -/

theorem isDecimal_of_mem_digits {n : Nat} {c : Char} (h : c ∈ digits n) : Digits.isDecimal c := by
  unfold digits at h
  simp only at h
  split at h <;> exact Digits.isDecimal_of_mem_ofNat h

theorem digits_ne_nil (n : Nat) : digits n ≠ [] := by
  unfold digits
  simp only
  split <;> exact Digits.ofNat_ne_nil _

/-- What the digits of a number write is rounded as the number is, though it need not be the
number. -/
theorem ofNat_value_digits (n : Nat) :
    Rounded.ofNat (Digits.value (digits n)) = Rounded.ofNat n := by
  unfold digits
  simp only
  by_cases hshift : (Rounded.ofNat n).shift = 0
  · rw [if_pos hshift, Digits.value_ofNat]
  · have hlow := Rounded.le_mantissa_ofNat hshift
    rw [if_neg hshift, Digits.value_ofNat]
    exact Rounded.ofNat_of_readsBack hshift hlow (Rounded.mantissa_ofNat_lt n)
      (Rounded.readsBack_shortest (by omega) _)

theorem mem_text {n : Int} {c : Char} (h : c ∈ (text n).toList) :
    c = '-' ∨ Digits.isDecimal c := by
  unfold text at h
  rw [String.toList_ofList] at h
  split at h
  · exact (List.mem_cons.mp h).imp_right isDecimal_of_mem_digits
  · exact .inr (isDecimal_of_mem_digits h)

/-- A whole number in floating point: the nearest one with 53 significant bits. -/
def nearest (n : Int) : Int := n.sign * (Rounded.ofNat n.natAbs).toNat

theorem nearest_neg (n : Int) : nearest (-n) = -nearest n := by
  unfold nearest
  rw [Int.sign_neg, Int.natAbs_neg, Int.neg_mul]

theorem nearest_natCast (n : Nat) : nearest n = (Rounded.ofNat n).toNat := by
  cases n with
  | zero => rfl
  | succ n =>
    unfold nearest
    rw [Int.sign_natCast_of_ne_zero (Nat.succ_ne_zero n), Int.one_mul, Int.natAbs_natCast]

/-- A whole number that floating point holds: 53 bits above a shift, with either sign. -/
def IsFloat (n : Int) : Prop := ∃ m s, m < 2 ^ 53 ∧ n.natAbs = m * 2 ^ s

/-- A number in floating point: no other one is closer, and one that is as close has an odd mantissa
where it has an even one.  This is the rounding of every conversion to floating point, said without
a word on how it is done. -/
structure IsNearest (n x : Int) : Prop where
  float : IsFloat x
  closest : ∀ y, IsFloat y → (n - x).natAbs ≤ (n - y).natAbs
  even : ∀ y, IsFloat y → (n - y).natAbs = (n - x).natAbs → y ≠ x →
    ∃ m s, 2 ^ 52 ≤ m ∧ m < 2 ^ 53 ∧ m % 2 = 0 ∧ x.natAbs = m * 2 ^ s

theorem IsNearest.neg {n x : Int} (h : IsNearest n x) : IsNearest (-n) (-x) := by
  have hneg {y : Int} (hy : IsFloat y) : IsFloat (-y) := by
    unfold IsFloat
    rwa [Int.natAbs_neg]
  refine ⟨hneg h.float, fun y hy => ?_, fun y hy hdist hne => ?_⟩
  · have hclosest := h.closest (-y) (hneg hy)
    omega
  · rw [Int.natAbs_neg]
    exact h.even (-y) (hneg hy) (by omega) (by omega)

theorem isNearest_ofNat (n : Nat) : IsNearest n (Rounded.ofNat n).toNat := by
  have hnonneg {y : Int} (hy : IsFloat y) (hpos : 0 ≤ y) :
      ∃ m s, m < 2 ^ 53 ∧ y = (m * 2 ^ s : Nat) := by
    obtain ⟨m, s, hm, habs⟩ := hy
    exact ⟨m, s, hm, by omega⟩
  -- a negative number is farther away than zero
  have hzero := (Rounded.ofNat_closest n 0 (Nat.two_pow_pos 53)).1
  refine ⟨⟨_, _, Rounded.mantissa_ofNat_lt n, Rounded.toNat_eq _⟩, fun y hy => ?_,
    fun y hy hdist hne => ?_⟩
  · by_cases hpos : 0 ≤ y
    · obtain ⟨m, s, hm, rfl⟩ := hnonneg hy hpos
      exact (Rounded.ofNat_closest n s hm).1
    · omega
  · by_cases hpos : 0 ≤ y
    · obtain ⟨m, s, hm, rfl⟩ := hnonneg hy hpos
      have heven := (Rounded.ofNat_closest n s hm).2 hdist fun heq => hne (congrArg _ heq)
      refine ⟨_, _, Rounded.le_mantissa_ofNat fun hshift => ?_, Rounded.mantissa_ofNat_lt n, heven,
        Rounded.toNat_eq _⟩
      rw [Rounded.toNat_ofNat_of_shift hshift] at hdist hne
      omega
    · omega

/-- Rounding gives the nearest number, and of two the even one.  The sign goes through it. -/
theorem isNearest_nearest (n : Int) : IsNearest n (nearest n) := by
  rcases Int.natAbs_eq n with hn | hn
  · rw [hn, nearest_natCast]
    exact isNearest_ofNat _
  · rw [hn, nearest_neg, nearest_natCast]
    exact (isNearest_ofNat _).neg

/-- Reads digits, of which there must be one at least. -/
def readDigits? (ds : List Char) : Option Nat :=
  if ds ≠ [] ∧ ds.all Digits.isDecimal then some (Digits.value ds) else none

/-- Reads digits that a minus may stand in front of, as a number in floating point: what they write,
rounded. -/
def read? (cs : List Char) : Option Int :=
  if cs.head? = some '-' then (readDigits? cs.tail).map fun n : Nat => nearest (-n)
  else (readDigits? cs).map fun n : Nat => nearest n

theorem readDigits?_digits (n : Nat) : readDigits? (digits n) = some (Digits.value (digits n)) :=
  if_pos ⟨digits_ne_nil n, List.all_eq_true.mpr fun _ => isDecimal_of_mem_digits⟩

/-- The text of a number is read as the number in floating point, whichever of its digits were left
out. -/
theorem read?_text (n : Int) : read? (text n).toList = some (nearest n) := by
  have hvalue : nearest (Digits.value (digits n.natAbs)) = nearest n.natAbs := by
    rw [nearest_natCast, nearest_natCast, ofNat_value_digits]
  unfold text read?
  rw [String.toList_ofList]
  by_cases hneg : n < 0
  · rw [if_pos hneg, List.head?_cons, if_pos rfl, List.tail_cons, readDigits?_digits,
      Option.map_some, nearest_neg, hvalue, ← nearest_neg, Int.ofNat_natAbs_of_nonpos (by omega),
      Int.neg_neg]
  · have hsign : (digits n.natAbs).head? ≠ some '-' := fun hhead =>
      (Digits.ne_sign_of_isDecimal (isDecimal_of_mem_digits (List.mem_of_head? hhead))).1 rfl
    rw [if_neg hneg, if_neg hsign, readDigits?_digits, Option.map_some, hvalue,
      Int.natAbs_of_nonneg (by omega)]

end Telemetry.ShortestDecimal
