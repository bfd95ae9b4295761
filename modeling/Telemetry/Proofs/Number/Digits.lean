import Mathlib.Algebra.Order.Ring.Nat
import Mathlib.Tactic.Ring
import Telemetry.Number.Digits

/-! # Written numbers read back

Every way to write a number gives a run of digits with that number as its value, and a reader that
takes as many digits as it can stops where the run stops (`Ends`).

Numbers are written plainly, in a width that they fit into, or filled up with zeros to a width at
least.  For each of the three there are the same facts: all its characters are digits, it is not
empty, and its value is the number.  A reader needs no more than these.
-/

namespace Telemetry.Digits

/-! ## Runs of digits -/

theorem isDecimal_eq_isDigit (c : Char) : isDecimal c = c.isDigit := rfl

theorem valueFrom_eq_ofDigitChars (acc : Nat) (ds : List Char) :
    valueFrom acc ds = Nat.ofDigitChars 10 ds acc := rfl

theorem valueFrom_append (acc : Nat) (ds es : List Char) :
    valueFrom acc (ds ++ es) = valueFrom (valueFrom acc ds) es :=
  List.foldl_append

theorem value_append (ds es : List Char) : value (ds ++ es) = valueFrom (value ds) es :=
  valueFrom_append 0 ds es

theorem valueFrom_zeros (acc n : Nat) : valueFrom acc (List.replicate n '0') = acc * 10 ^ n := by
  rw [valueFrom_eq_ofDigitChars, Nat.ofDigitChars_replicate_zero, Nat.mul_comm]

/-- A digit below ten is a decimal digit; those above, which a larger base has, are letters. -/
theorem isDecimal_char {d : Nat} (h : d < 10) : isDecimal (char d) := by
  rw [isDecimal_eq_isDigit, char, Nat.isDigit_digitChar]
  exact decide_eq_true h

theorem ne_sign_of_isDecimal {c : Char} (h : isDecimal c) : c ≠ '-' ∧ c ≠ '+' := by
  constructor <;> rintro rfl <;> exact absurd h (by decide)

theorem valueFrom_char (acc : Nat) {d : Nat} (h : d < 10) :
    valueFrom acc [char d] = 10 * acc + d := by
  rw [valueFrom_eq_ofDigitChars, char, Nat.ofDigitChars_cons_digitChar_of_lt_ten h,
    Nat.ofDigitChars_nil]

/-! ## Plain numbers -/

theorem isDecimal_of_mem_ofNat {n : Nat} {c : Char} (h : c ∈ ofNat n) : isDecimal c :=
  Nat.isDigit_of_mem_toDigits (by decide) (by decide) h

theorem value_ofNat (n : Nat) : value (ofNat n) = n := Nat.ofDigitChars_ten_toDigits

theorem ofNat_ne_nil (n : Nat) : ofNat n ≠ [] := Nat.toDigits_ne_nil

theorem ofNat_injective {m n : Nat} (h : ofNat m = ofNat n) : m = n := by
  rw [← value_ofNat m, h, value_ofNat]

/-- Only zero is written with a zero in front, so that a reader may refuse any other leading
zero. -/
theorem head?_ofNat_ne {n : Nat} (h : 0 < n) : (ofNat n).head? ≠ some '0' := by
  induction n using Nat.strongRecOn with
  | ind n ih =>
    unfold ofNat
    by_cases hsmall : n < 10
    · rw [Nat.toDigits_of_lt_base hsmall]
      simp only [List.head?_cons, ne_eq, Option.some.injEq, Nat.digitChar_eq_zero]
      omega
    · rw [Nat.toDigits_of_base_le (by decide) (by omega)]
      have hfront := ih (n / 10) (by omega) (by omega)
      unfold ofNat at hfront
      cases hds : Nat.toDigits 10 (n / 10) with
      | nil => exact absurd hds (ofNat_ne_nil (n / 10))
      | cons d ds =>
        rw [hds] at hfront
        exact hfront

/-! ## Numbers of a width -/

theorem isDecimal_of_mem_fixed {width n : Nat} {c : Char} (h : c ∈ fixed 10 width n) :
    isDecimal c := by
  induction width generalizing n with
  | zero => cases h
  | succ w ih =>
    rcases List.mem_append.mp h with h | h
    · exact ih h
    · rw [List.mem_singleton.mp h]
      exact isDecimal_char (Nat.mod_lt n (by decide))

theorem value_fixed {width n : Nat} (h : n < 10 ^ width) : value (fixed 10 width n) = n := by
  induction width generalizing n with
  | zero => exact (Nat.lt_one_iff.mp h).symm
  | succ w ih =>
    have hrest : n / 10 < 10 ^ w := by
      rw [pow_succ] at h
      exact Nat.div_lt_of_lt_mul (by rwa [Nat.mul_comm])
    rw [fixed, value_append, ih hrest, valueFrom_char _ (Nat.mod_lt n (by decide))]
    exact Nat.div_add_mod n 10

theorem isDecimal_of_mem_padded {width n : Nat} {c : Char} (h : c ∈ padded width n) :
    isDecimal c := by
  rcases List.mem_append.mp h with h | h
  · rw [(List.mem_replicate.mp h).2]
    decide
  · exact isDecimal_of_mem_ofNat h

theorem value_padded (width n : Nat) : value (padded width n) = n := by
  rw [padded, value_append, value, valueFrom_zeros, Nat.zero_mul]
  exact value_ofNat n

theorem padded_ne_nil (width n : Nat) : padded width n ≠ [] :=
  List.append_ne_nil_of_right_ne_nil _ (ofNat_ne_nil n)

/-- A number that has no more digits than a width is filled up to just that; a longer one keeps its
length. -/
theorem length_padded {width n : Nat} (hwidth : 0 < width) (h : n < 10 ^ width) :
    (padded width n).length = width := by
  have hlength : (ofNat n).length ≤ width :=
    (Nat.length_toDigits_le_iff (by decide) hwidth).mpr h
  rw [padded, List.length_append, List.length_replicate]
  omega

/-! ## Where a run ends -/

/-- What follows a run of digits does not go on with a digit: it is empty, or begins with something
else. -/
def Ends (rest : List Char) : Prop := ∀ c ∈ rest.head?, ¬ isDecimal c

theorem ends_nil : Ends [] := fun c h => by cases h

theorem ends_cons {c : Char} {rest : List Char} : Ends (c :: rest) ↔ ¬ isDecimal c := by
  simp [Ends]

theorem takeWhile_isDecimal {ds rest : List Char} (hds : ∀ c ∈ ds, isDecimal c)
    (hrest : Ends rest) : (ds ++ rest).takeWhile isDecimal = ds := by
  rw [List.takeWhile_append_of_pos hds]
  cases rest with
  | nil => simp
  | cons c rest => rw [List.takeWhile_cons_of_neg (ends_cons.mp hrest), List.append_nil]

theorem dropWhile_isDecimal {ds rest : List Char} (hds : ∀ c ∈ ds, isDecimal c)
    (hrest : Ends rest) : (ds ++ rest).dropWhile isDecimal = rest := by
  rw [List.dropWhile_append_of_pos hds]
  cases rest with
  | nil => rfl
  | cons c rest => rw [List.dropWhile_cons_of_neg (ends_cons.mp hrest)]

end Telemetry.Digits
