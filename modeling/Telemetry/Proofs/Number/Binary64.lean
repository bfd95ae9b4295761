import Mathlib.Algebra.Order.Ring.Nat
import Mathlib.Data.Nat.Log
import Mathlib.Tactic.Ring
import Telemetry.Number.Binary64

/-! # Finite numbers

A number is finite unless the bits of its exponent are all ones.  To take a number apart and to
widen one of single precision agree on this with the core library.

The core library unpacks the bits of a number before it looks at them, and packs them again; the
lemmas about exponents say that neither makes a finite number of one that is not, nor the other way
round.  Widening is done on bits alone, so it is shown there which exponent comes out of it
(`widenBits_parts`): a subnormal single becomes a normal double, and an exponent of ones stays one.
-/

namespace Telemetry

open Float.Model (Format)
open Float.Model.UnpackedFloat

variable {f : Format}

/-! ## Exponents -/

theorem toNat_unpackExponent (b : BitVec f.numBits) :
    (unpackExponent b).toNat =
      (b.toNat >>> f.mantissaBitsWithoutImplicit) % 2 ^ f.exponentBits := by
  have hwidth : f.mantissaBitsWithoutImplicit + f.exponentBits - 1 -
      f.mantissaBitsWithoutImplicit + 1 = f.exponentBits := by
    have := f.he
    omega
  simp only [unpackExponent, BitVec.toNat_cast, BitVec.extractLsb_toNat, hwidth]

theorem isFinite_unpack (b : BitVec f.numBits) :
    (unpack f b).isFinite ↔ unpackExponent b ≠ -BitVec.ofNat f.exponentBits 1 := by
  unfold unpack
  dsimp only
  by_cases hones : unpackExponent b = -BitVec.ofNat f.exponentBits 1
  · refine iff_of_false ?_ (not_not_intro hones)
    rw [if_pos hones]
    split <;> exact Bool.false_ne_true
  · refine iff_of_true ?_ hones
    rw [if_neg hones]
    by_cases hzero : unpackExponent b = 0#f.exponentBits
    · rw [if_pos hzero]
      by_cases hmantissa : unpackMantissa b = 0#f.mantissaBitsWithoutImplicit
      · rw [dif_pos hmantissa]
        rfl
      · rw [dif_neg hmantissa]
        rfl
    · rw [if_neg hzero]
      rfl

/-- A number whose exponent is in range is packed as a finite one, whatever its mantissa is. -/
theorem unpackExponent_pack_finite (s : Sign) {m : Nat} {e : Int} (hm : 0 < m)
    (he : (e + 1023 + 52).toNat < 2047) :
    unpackExponent (pack .binary64 (.finite s m e hm)) ≠ -1#11 := by
  unfold pack
  dsimp only
  split
  · rename_i hlarge
    have hbound : 2048 ≤ (e + 1023 + 52).toNat + 1 := hlarge
    omega
  · split
    · rw [unpackExponent_packComponents]
      intro h
      have hnat : (e + 1023 + 52).toNat % 2048 = 2047 := congrArg BitVec.toNat h
      omega
    · rw [unpackExponent_packComponents]
      decide

/-- Packing keeps a number finite or not, by cases on what was unpacked. -/
theorem unpackExponent_pack_unpack (b : BitVec Format.binary64.numBits) :
    unpackExponent (pack .binary64 (unpack .binary64 b)) = -1#11 ↔ unpackExponent b = -1#11 := by
  have hexp : (unpackExponent b).toNat < 2048 := (unpackExponent b).isLt
  unfold unpack
  dsimp only
  by_cases hones : unpackExponent b = -1#11
  · refine iff_of_true ?_ hones
    rw [if_pos hones]
    split <;> exact unpackExponent_packComponents
  · refine iff_of_false ?_ hones
    have hne : (unpackExponent b).toNat ≠ 2047 := fun h => hones (BitVec.eq_of_toNat_eq h)
    rw [if_neg hones]
    by_cases hzero : unpackExponent b = 0#11
    · rw [if_pos hzero]
      by_cases hmantissa : unpackMantissa b = 0#52
      · rw [dif_pos hmantissa]
        exact fun h => absurd (unpackExponent_packComponents.symm.trans h) (by decide)
      · rw [dif_neg hmantissa]
        refine unpackExponent_pack_finite _ _ ?_
        rw [hzero]
        decide
    · rw [if_neg hzero]
      refine unpackExponent_pack_finite _ _ ?_
      show ((unpackExponent b).toNat - ((1023 : Nat) + (52 : Nat)) + 1023 + 52 : Int).toNat < 2047
      omega

/-! ## Doubles -/

theorem unpackExponent_binary64 (b : BitVec Format.binary64.numBits) :
    unpackExponent b = -1#11 ↔ (b.toNat >>> 52) % 2048 = 2047 := by
  rw [← BitVec.toNat_inj, toNat_unpackExponent]
  rfl

namespace Binary64

theorem isFinite_ofBits (bits : Nat) :
    (ofBits bits).isFinite ↔ (bits >>> 52) % 2048 ≠ 2047 := by
  unfold ofBits
  by_cases hexp : (bits >>> 52) % 2048 = 2047
  · simp only [hexp, if_true]
    split <;> simp [isFinite]
  · refine iff_of_true ?_ hexp
    simp only [hexp, if_false]
    split <;> rfl

/-- A number taken apart is finite when the number is, for the core library's own test. -/
theorem isFinite_ofFloat (x : Float) : (ofFloat x).isFinite = x.isFinite := by
  rw [Bool.eq_iff_iff, ofFloat, isFinite_ofBits]
  refine (unpackExponent_binary64 x.toBits.toBitVec).symm.not.trans ?_
  exact (isFinite_unpack (f := .binary64) x.toBits.toBitVec).symm

end Binary64

theorem isFinite_float_ofBits (u : UInt64) :
    (Float.ofBits u).isFinite ↔ (u.toNat >>> 52) % 2048 ≠ 2047 := by
  refine (isFinite_unpack (f := .binary64) (Float.ofBits u).toBits.toBitVec).trans ?_
  exact ((unpackExponent_pack_unpack u.toBitVec).trans (unpackExponent_binary64 u.toBitVec)).not

/-! ## Singles -/

theorem unpackExponent_binary32 (b : BitVec Format.binary32.numBits) :
    unpackExponent b = -1#8 ↔ (b.toNat >>> 23) % 256 = 255 := by
  rw [← BitVec.toNat_inj, toNat_unpackExponent]
  rfl

theorem isFinite_float32 (x : Float32) :
    x.isFinite ↔ (x.toBits.toNat >>> 23) % 256 ≠ 255 := by
  refine (isFinite_unpack (f := .binary32) x.toBits.toBitVec).trans ?_
  exact (unpackExponent_binary32 x.toBits.toBitVec).not

/-- What is left of a fraction without its leading one, at the place of a double's fraction. -/
theorem fraction_normalized {fraction : Nat} (hpos : fraction ≠ 0) (h : fraction < 2 ^ 23) :
    fraction.log2 < 23 ∧ (fraction <<< (52 - fraction.log2)) - (1 <<< 52) < 2 ^ 52 := by
  have hplace : fraction.log2 < 23 := (Nat.log2_lt hpos).mpr h
  have htop : fraction < 2 ^ (fraction.log2 + 1) := Nat.lt_log2_self
  have hshift : fraction * 2 ^ (52 - fraction.log2) < 2 ^ 53 := by
    calc fraction * 2 ^ (52 - fraction.log2)
        < 2 ^ (fraction.log2 + 1) * 2 ^ (52 - fraction.log2) :=
          Nat.mul_lt_mul_of_pos_right htop (Nat.two_pow_pos _)
      _ = 2 ^ 53 := by
          rw [← Nat.pow_add]
          congr 1
          omega
  refine ⟨hplace, ?_⟩
  rw [Nat.shiftLeft_eq, Nat.shiftLeft_eq]
  omega

/-- A widened number has a sign, an exponent and a fraction; the exponent is all ones when that of
the single was. -/
theorem widenBits_parts (n : Nat) : ∃ exponent fraction,
    widenBits n = (n / 2 ^ 31) * 2 ^ 63 + exponent * 2 ^ 52 + fraction ∧ exponent < 2048 ∧
      fraction < 2 ^ 52 ∧ (exponent = 2047 ↔ (n >>> 23) % 256 = 255) := by
  have hfraction : n % (1 <<< 23) < 2 ^ 23 := Nat.mod_lt n (by decide)
  have hbiased : (n >>> 23) % 256 < 256 := Nat.mod_lt _ (by decide)
  unfold widenBits
  dsimp only
  generalize (n >>> 23) % 256 = biased at *
  generalize n % (1 <<< 23) = fraction at *
  rw [Nat.shiftLeft_eq, Nat.shiftRight_eq_div_pow]
  split
  · exact ⟨2047, fraction <<< 29, by rw [Nat.shiftLeft_eq 2047], by decide,
      by rw [Nat.shiftLeft_eq]; omega, by omega⟩
  · split
    · exact ⟨biased + 896, fraction <<< 29, by rw [Nat.shiftLeft_eq (biased + 896)], by omega,
        by rw [Nat.shiftLeft_eq]; omega, by omega⟩
    · split
      · exact ⟨0, 0, by omega, by decide, by decide, by omega⟩
      · rename_i hpos
        obtain ⟨hplace, hrest⟩ := fraction_normalized hpos hfraction
        exact ⟨fraction.log2 + 874, _, by rw [Nat.shiftLeft_eq (fraction.log2 + 874)], by omega,
          hrest, by omega⟩

theorem widenBits_exponent (n : Nat) :
    (widenBits n >>> 52) % 2048 = 2047 ↔ (n >>> 23) % 256 = 255 := by
  obtain ⟨exponent, fraction, hbits, hexponent, hfraction, hones⟩ := widenBits_parts n
  rw [hbits, ← hones, Nat.shiftRight_eq_div_pow]
  omega

theorem widenBits_lt {n : Nat} (h : n < 2 ^ 32) : widenBits n < 2 ^ 64 := by
  obtain ⟨exponent, fraction, hbits, hexponent, hfraction, -⟩ := widenBits_parts n
  omega

/-- A widened number is finite when the number is, so that a reading is dropped or kept by what was
measured. -/
theorem isFinite_widen (x : Float32) : (widen x).isFinite = x.isFinite := by
  rw [Bool.eq_iff_iff, widen, isFinite_float_ofBits, isFinite_float32]
  have hbits : x.toBits.toNat < 2 ^ 32 := x.toBits.toNat_lt
  have hnat : (widenBits x.toBits.toNat).toUInt64.toNat = widenBits x.toBits.toNat :=
    Nat.mod_eq_of_lt (widenBits_lt hbits)
  rw [hnat]
  exact (widenBits_exponent _).not

end Telemetry
