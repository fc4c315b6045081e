import Mathlib
import LeadRouting.Number.Order

/-!
# Whole numbers as floats

A whole number of 64 bits becomes the float nearest to it. This file says that this is a FINITE one.
A float is worked with as its mantissa and its exponent, and each step of the conversion makes both
greater by an amount that does not depend on the number, so that rough bounds do.

* `Within b k` -- a zero, or a mantissa of at most `b` bits with an exponent of at most `k`;
* `within_roundWithAccuracy`, `within_mul`, `within_normalize`, `within_unpack_pack` -- what rounding,
  a product, a whole number and packing do to the bounds;
* `finite_of_within` -- where there are bounds there is no infinity;
* **`finite_ofInt`** -- the float of a whole number of 64 bits is finite.
-/

namespace LeadRouting.Number

open Float.Model Float.Model.UnpackedFloat

/-! ## 1. Bounds on mantissa and exponent -/

/-- A zero, or a mantissa of at most `b` bits with an exponent of at most `k`. -/
def Within (b : Nat) (k : Int) : UnpackedFloat → Prop
  | .zero _ => True
  | .finite _ m e _ => m < 2 ^ b ∧ e ≤ k
  | .infinity _ | .notANumber => False

theorem Within.mono {b : Nat} {k l : Int} {u : UnpackedFloat} (h : Within b k u) (hkl : k ≤ l) :
    Within b l u := by
  cases u with
  | zero s => trivial
  | finite s m e hm => exact ⟨h.1, Int.le_trans h.2 hkl⟩
  | infinity s | notANumber => exact h

theorem Within.neg {b : Nat} {k : Int} {u : UnpackedFloat} (h : Within b k u) :
    Within b k u.neg := by
  cases u with
  | zero s => trivial
  | finite s m e hm => exact h
  | infinity s | notANumber => exact h

/-! ## 2. Rounding -/

/-- A mantissa is made to have 53 bits, or as many as the least exponent leaves it. -/
theorem targetExponent_eq (m : Nat) (e : Int) :
    Format.binary64.targetExponent (totalExponent m e) = max (m.log2 + 1 + e - 53) (-1074) := rfl

theorem mantissa_shiftRight_le (em : ExtendedMantissa) (n : Nat) :
    (em >>> n).mantissa ≤ em.mantissa := by
  induction n with
  | zero => exact Nat.le_refl _
  | succ n ih => exact Nat.le_trans (Nat.div_le_self _ _) ih

theorem roundedMantissa_le (em : ExtendedMantissa) : em.roundedMantissa ≤ em.mantissa + 1 := by
  obtain ⟨m, r, s⟩ := em
  cases r <;> cases s <;>
    simp only [ExtendedMantissa.roundedMantissa, ExtendedMantissa.accuracy,
      Accuracy.roundToNearestEven] <;> omega

section Rounding

variable {m b : Nat} {e k : Int} (a : Accuracy)

/-- A shift takes bits off the mantissa, and adds no more than these to the exponent. -/
theorem shiftToTargetExponent_le (hm : m < 2 ^ b) (he : e ≤ k) (hk : 0 ≤ k) :
    (shiftToTargetExponent Format.binary64 m e a).1.mantissa ≤ m ∧
      (shiftToTargetExponent Format.binary64 m e a).2 ≤ k + b := by
  constructor
  · have hstart : (ExtendedMantissa.ofMantissaAndAccuracy m a).mantissa = m := by
      cases a with
      | exact => rfl
      | inexact o => cases o <;> rfl
    exact Nat.le_trans (mantissa_shiftRight_le _ _) (Nat.le_of_eq hstart)
  · have hlog : m.log2 ≤ b := by
      by_cases h : m = 0
      · simp [h]
      · exact Nat.le_of_lt ((Nat.log2_lt h).mpr hm)
    simp only [shiftToTargetExponent, shiftToExponent, targetExponent_eq]
    omega

/-- **Rounding keeps bounds**, wider ones: it shifts twice, and adds one to the mantissa in
    between. -/
theorem within_roundWithAccuracy (s : Sign) (hm : m < 2 ^ b) (he : e ≤ k) (hk : 0 ≤ k) :
    Within (b + 1) (k + 2 * b + 1) (roundWithAccuracy Format.binary64 s m e a) := by
  obtain ⟨hmantissa, hexponent⟩ := shiftToTargetExponent_le a hm he hk
  have hrounded := roundedMantissa_le (shiftToTargetExponent Format.binary64 m e a).1
  have hwide : (shiftToTargetExponent Format.binary64 m e a).1.roundedMantissa < 2 ^ (b + 1) := by
    rw [Nat.pow_succ]
    omega
  obtain ⟨hagain, hexponent⟩ := shiftToTargetExponent_le .exact hwide hexponent (by omega)
  unfold roundWithAccuracy
  dsimp only
  split
  · trivial
  · exact ⟨Nat.lt_of_le_of_lt hagain hwide, by omega⟩

end Rounding

theorem within_mul {b c : Nat} {k l : Int} {u v : UnpackedFloat} (hu : Within b k u)
    (hv : Within c l v) (hkl : 0 ≤ k + l) :
    Within (b + c + 1) (k + l + 2 * (b + c : Nat) + 1) (UnpackedFloat.mul Format.binary64 u v) := by
  cases u with
  | infinity s | notANumber => exact hu.elim
  | zero s =>
      cases v with
      | infinity t | notANumber => exact hv.elim
      | zero t => trivial
      | finite t n f hn => trivial
  | finite s m e hm =>
      cases v with
      | infinity t | notANumber => exact hv.elim
      | zero t => trivial
      | finite t n f hn =>
          have hproduct : m * n < 2 ^ (b + c) := by
            rw [Nat.pow_add]
            exact Nat.mul_lt_mul'' hu.1 hv.1
          exact within_roundWithAccuracy .exact _ hproduct (Int.add_le_add hu.2 hv.2) hkl

/-- A whole number, with its mantissa made as long as the format has it. -/
theorem within_normalize {n b : Nat} (hn : n < 2 ^ b) :
    Within (b + 53 + 1) (0 + 2 * (b + 53 : Nat) + 1)
      (UnpackedFloat.normalize Format.binary64 n 0 .positive) := by
  unfold UnpackedFloat.normalize
  cases hsign : compare (n : Int) 0 with
  | lt => exact absurd (Int.compare_eq_lt.mp hsign) (by omega)
  | eq => trivial
  | gt =>
      have hlong : n <<< ((0 : Int) -
          Format.binary64.targetExponent (totalExponent n 0)).toNat < 2 ^ (b + 53) := by
        have hshift : ((0 : Int) - Format.binary64.targetExponent (totalExponent n 0)).toNat ≤ 53 := by
          rw [targetExponent_eq]
          omega
        rw [Nat.shiftLeft_eq, Nat.pow_add]
        exact Nat.mul_lt_mul_of_lt_of_le hn (Nat.pow_le_pow_right (by decide) hshift)
          (by decide)
      exact within_roundWithAccuracy .exact _ hlong (by omega) (by omega)

/-! ## 3. Packing -/

/-- What is unpacked with an exponent other than the greatest has bounds. -/
theorem within_unpack {k : Int} {x : BitVec 64}
    (hordinary : @unpackExponent Format.binary64 x ≠ -1#11) (hlow : -1074 ≤ k)
    (hk : ((@unpackExponent Format.binary64 x).toNat : Int) ≤ k + 1075) :
    Within 53 k (UnpackedFloat.unpack Format.binary64 x) := by
  have hbias : Format.binary64.exponentBias = 1023 := by decide
  rw [UnpackedFloat.unpack]
  dsimp only
  split
  · exact absurd ‹_› hordinary
  · split
    · split
      · trivial
      · rename_i hzero _
        refine ⟨Nat.lt_trans (BitVec.isLt _) (by decide), ?_⟩
        rw [hzero]
        simp [hbias]
        omega
    · exact ⟨BitVec.isLt _, by simp [hbias]; omega⟩

/-- What is packed with an exponent other than the greatest is unpacked with it. -/
theorem within_unpack_packComponents {k : Int} (s : Sign) {v : BitVec 11} (m : BitVec 52)
    (hv : v.toNat < 2047) (hlow : -1074 ≤ k) (hk : (v.toNat : Int) ≤ k + 1075) :
    Within 53 k (UnpackedFloat.unpack Format.binary64 (packComponents Format.binary64 s v m)) := by
  have hexponent : @unpackExponent Format.binary64 (packComponents Format.binary64 s v m) = v :=
    unpackExponent_packComponents
  refine within_unpack ?_ hlow (by rw [hexponent]; exact hk)
  rw [hexponent]
  rintro rfl
  exact absurd hv (by decide)

/-- **Packing keeps the exponent**, so long as it is not too great for the format. -/
theorem within_unpack_pack {b : Nat} {k : Int} {u : UnpackedFloat} (h : Within b k u)
    (hlow : -1074 ≤ k) (hhigh : k ≤ 971) :
    Within 53 k (UnpackedFloat.unpack Format.binary64 (UnpackedFloat.pack Format.binary64 u)) := by
  cases u with
  | infinity s | notANumber => exact h.elim
  | zero s => exact within_unpack_packComponents s 0#52 (by decide) hlow (by simp; omega)
  | finite s m e hm =>
      have he : e ≤ k := h.2
      have hbias : Format.binary64.exponentBias = 1023 := by decide
      have hfits : ¬ 2 ^ 11 ≤ (e + (1023 : Nat) + (52 : Nat)).toNat + 1 := by omega
      unfold UnpackedFloat.pack
      simp only [hbias, if_neg hfits]
      by_cases hnormal : m.log2 + 1 = Format.binary64.mantissaBits
      · have hvalue : (BitVec.ofNat 11 (e + (1023 : Nat) + (52 : Nat)).toNat).toNat =
            (e + (1023 : Nat) + (52 : Nat)).toNat := by
          rw [BitVec.toNat_ofNat, Nat.mod_eq_of_lt (by omega)]
        rw [if_pos hnormal]
        exact within_unpack_packComponents s _ (by omega) hlow (by omega)
      · rw [if_neg hnormal]
        exact within_unpack_packComponents s _ (by decide) hlow (by simp; omega)

/-- The product of two floats, which is rounded and packed. -/
theorem within_pack_mul {b c : Nat} {k l j : Int} {u v : UnpackedFloat} (hu : Within b k u)
    (hv : Within c l v) (hkl : 0 ≤ k + l) (hlow : k + l + 2 * (b + c : Nat) + 1 ≤ j)
    (hhigh : j ≤ 971) :
    Within 53 j (Float.Model.pack (UnpackedFloat.mul Format.binary64 u v)).unpack :=
  within_unpack_pack ((within_mul hu hv hkl).mono hlow) (by omega) hhigh

/-- **A float with bounds is finite.** -/
theorem finite_of_within {b : Nat} {k : Int} {x : Float} (h : Within b k x.toModel.unpack) :
    finite x = true := by
  have hordinary : @unpackExponent Format.binary64 x.toBits.toBitVec ≠ -1#11 := by
    intro hgreatest
    have hunpack : Within b k (UnpackedFloat.unpack Format.binary64 x.toBits.toBitVec) := h
    unfold UnpackedFloat.unpack at hunpack
    simp only [if_pos hgreatest] at hunpack
    split at hunpack <;> exact hunpack
  have hfield : (@unpackExponent Format.binary64 x.toBits.toBitVec).toNat =
      x.toBits.toNat / 2 ^ 52 % 2 ^ 11 := by
    simp [unpackExponent, BitVec.extractLsb, Nat.shiftRight_eq_div_pow]
  have hbelow : x.toBits.toNat / 2 ^ 52 % 2 ^ 11 ≠ 2047 := by
    intro heq
    refine hordinary (BitVec.eq_of_toNat_eq ?_)
    rw [hfield, heq]
    decide
  unfold finite absBits signBit infinityBits
  rw [decide_eq_true_eq]
  omega

/-! ## 4. Whole numbers -/

/-- The first of the powers of ten, which is one. -/
theorem within_one :
    Within 53 0 (Float.exactlyRepresentablePowersOfTen[0]).toModel.unpack := by
  have hunpack : (Float.exactlyRepresentablePowersOfTen[0]).toModel.unpack =
      .finite .positive (2 ^ 52) (-52) (by decide) := by rfl
  rw [hunpack]
  exact ⟨by decide, by decide⟩

/-- A number of less than 53 bits is converted as it is and then multiplied by one. -/
theorem within_ofNat_small {n : Nat} (hn : n < 2 ^ 53) :
    Within 53 448 (Float.ofNat n).toModel.unpack := by
  have hfloat : Float.ofNat n = n.toUInt64.toFloat * Float.exactlyRepresentablePowersOfTen[0] := by
    change Float.ofScientific n false 0 = _
    unfold Float.ofScientific
    rw [dif_pos ⟨hn, by decide⟩]
    simp
  have hconverted : Within 53 235 n.toUInt64.toFloat.toModel.unpack :=
    within_unpack_pack (within_normalize n.toUInt64.toNat_lt) (by decide) (by decide)
  rw [hfloat]
  exact within_pack_mul hconverted within_one (by decide) (by decide) (by decide)

/-- A longer one is made longer still and multiplied by the power of ten that its decimal point
    asks for, which is one again. -/
theorem within_ofNat_large {n : Nat} (hn : n < 2 ^ 64) (hlarge : ¬ n < 2 ^ 53) :
    Within 53 448 (Float.ofNat n).toModel.unpack := by
  have hfloat : (Float.ofNat n).toModel = Float.Model.ofScientific n 0 := by
    change (Float.ofScientific n false 0).toModel = _
    unfold Float.ofScientific
    rw [dif_neg (fun h => hlarge h.1)]
    simp
  have hlong : n <<< 53 < 2 ^ (64 + 53) := by
    rw [Nat.shiftLeft_eq, Nat.pow_add]
    exact Nat.mul_lt_mul_of_pos_right hn (by decide)
  have hbits : (2 : Int) ^ Format.binary64.exponentBits = 2048 := by decide
  have hproduct : UnpackedFloat.ofScientific Format.binary64 n 0 =
      UnpackedFloat.mul Format.binary64 (.finite .positive (n <<< 53) (-53) (by omega))
        (.finite .positive (10 ^ 0) 0 (by decide)) :=
    (dif_neg (by omega)).trans <| (if_neg (by omega)).trans <| (if_neg (by omega)).trans <|
      if_pos (by decide)
  rw [hfloat, Float.Model.ofScientific, hproduct]
  apply within_pack_mul (b := 64 + 53) (c := 1) (k := 0) (l := 0)
  · exact ⟨hlong, by decide⟩
  · exact ⟨by decide, by decide⟩
  · decide
  · decide
  · decide

theorem within_ofNat {n : Nat} (hn : n < 2 ^ 64) : Within 53 448 (Float.ofNat n).toModel.unpack := by
  by_cases hsmall : n < 2 ^ 53
  · exact within_ofNat_small hsmall
  · exact within_ofNat_large hn hsmall

/-- **The float of a whole number of 64 bits is finite.** -/
theorem finite_ofInt {n : Int} (hn : n.natAbs < 2 ^ 64) : finite (Float.ofInt n) = true := by
  cases n with
  | ofNat n => exact finite_of_within (within_ofNat hn)
  | negSucc n =>
      exact finite_of_within (within_unpack_pack (within_ofNat hn).neg (by decide) (by decide))

end LeadRouting.Number
