import Formulary.Proofs.Number.Midpoint
import Formulary.Proofs.Number.Decimal

/-!
# Numerals that are too large

A decimal number becomes the double next to it, or an infinity when it lies half a place or more
above the largest double. This is the only way in which a numeral is not finite: none is read as not
a number.

## Main definitions

* `overflow` : the least number that is rounded to an infinity;
* `Numeral.number` : the rational number that a numeral writes.

## Main statements

* `Numeral.value_isFinite_iff` : the numerals of finite doubles;
* `Numeral.value_eq_infinity` : the double of every other numeral.
-/
namespace Formulary.Number

open Float.Model Float.Model.UnpackedFloat

/-- The least number that is too large for a double, half a place above the largest double. -/
def overflow : Nat := (2 ^ 54 - 1) * 2 ^ 970

variable {m k r : Nat} {e : Int} {s : Sign} {x : Float}

/-! ### Rounding at the largest double -/

/-- The last place that is cut decides whether a mantissa is rounded up to one place more. -/
theorem roundedMantissa_lt_iff (accuracy : Accuracy) (h : m / 2 ^ (k + 1) < 2 ^ 53) :
    (ExtendedMantissa.ofMantissaAndAccuracy m accuracy >>> (k + 1)).roundedMantissa < 2 ^ 53 ↔
      m < (2 ^ 54 - 1) * 2 ^ k := by
  have hmantissa (k : Nat) :
      (ExtendedMantissa.ofMantissaAndAccuracy m accuracy >>> k).mantissa = m / 2 ^ k := by
    rw [mantissa_shiftRight, mantissa_ofMantissaAndAccuracy]
  have hround : (ExtendedMantissa.ofMantissaAndAccuracy m accuracy >>> (k + 1)).roundBit =
      (m / 2 ^ k % 2 != 0) := by
    rw [← hmantissa]
    rfl
  have hhalf : m / 2 ^ (k + 1) = m / 2 ^ k / 2 := by
    rw [Nat.pow_succ, Nat.div_div_eq_div_mul]
  rw [← Nat.div_lt_iff_lt_mul (Nat.two_pow_pos k), ExtendedMantissa.roundedMantissa, hmantissa,
    hhalf]
  rw [hhalf] at h
  generalize ExtendedMantissa.ofMantissaAndAccuracy m accuracy >>> (k + 1) = em at hround
  obtain ⟨mantissa, roundBit, stickyBit⟩ := em
  subst hround
  generalize m / 2 ^ k = q at h
  obtain hzero | hone : q % 2 = 0 ∨ q % 2 = 1 := by omega
  · rw [hzero]
    cases stickyBit <;>
      simp only [bne_self_eq_false, ExtendedMantissa.accuracy, Accuracy.roundToNearestEven] <;>
      omega
  · have hround : (1 != 0) = true := rfl
    rw [hone, hround]
    cases stickyBit <;>
      simp only [ExtendedMantissa.accuracy, Accuracy.roundToNearestEven] <;>
      omega

theorem isFinite_of_exponentLe {u : UnpackedFloat} (h : ExponentLe k u) : u.isFinite := by
  cases u with
  | zero s | finite s m e hm => rfl
  | infinity s | notANumber => exact h.elim

/-- A number with many places before its point keeps 53 of them when it is rounded. -/
theorem lostPlaces_of_large (hm : 52 ≤ m.log2) (he : 0 ≤ (m.log2 : Int) + e) :
    lostPlaces m e = m.log2 - 52 ∧ 2 ^ 52 ≤ m / 2 ^ (m.log2 - 52) ∧
      m / 2 ^ (m.log2 - 52) < 2 ^ 53 := by
  have hne : m ≠ 0 := by
    rintro rfl
    simp at hm
  refine ⟨by unfold lostPlaces; omega, ?_, ?_⟩
  · rw [Nat.le_div_iff_mul_le (Nat.two_pow_pos _), ← Nat.pow_add, Nat.add_sub_cancel' hm]
    exact Nat.log2_self_le hne
  · rw [Nat.div_lt_iff_lt_mul (Nat.two_pow_pos _), ← Nat.pow_add]
    exact Nat.lt_of_lt_of_le Nat.lt_log2_self (Nat.pow_le_pow_right (by decide) (by omega))

theorem mul_two_pow_lt {n : Nat} (hm : 0 < m) (h : k < n) : m * 2 ^ k < m * 2 ^ n :=
  Nat.mul_lt_mul_of_pos_left (Nat.pow_lt_pow_right (by decide) h) hm

/-- A number whose leading place is below that of the largest double is below the limit. -/
theorem lt_limit_of_log2 (h : (m.log2 : Int) + e < 1023) :
    m < (2 ^ 54 - 1) * 2 ^ (970 - e).toNat :=
  calc m < 2 ^ (m.log2 + 1) := Nat.lt_log2_self
    _ ≤ 2 ^ (53 + (970 - e).toNat) := Nat.pow_le_pow_right (by decide) (by omega)
    _ = 2 ^ 53 * 2 ^ (970 - e).toNat := Nat.pow_add ..
    _ ≤ (2 ^ 54 - 1) * 2 ^ (970 - e).toNat := Nat.mul_le_mul_right _ (by decide)

theorem limit_le_of_log2 (h : 1023 < (m.log2 : Int) + e) (he : e ≤ 0) :
    (2 ^ 54 - 1) * 2 ^ (970 - e).toNat ≤ m := by
  have hm : m ≠ 0 := by
    rintro rfl
    rw [Nat.log2_zero] at h
    omega
  calc (2 ^ 54 - 1) * 2 ^ (970 - e).toNat
      ≤ 2 ^ 54 * 2 ^ (970 - e).toNat := Nat.mul_le_mul_right _ (by decide)
    _ = 2 ^ (54 + (970 - e).toNat) := (Nat.pow_add ..).symm
    _ ≤ 2 ^ m.log2 := Nat.pow_le_pow_right (by decide) (by omega)
    _ ≤ m := Nat.log2_self_le hm

/-- What is rounded stays finite below half a place above the largest double. -/
theorem isFinite_roundWithAccuracy_iff (s : Sign) (accuracy : Accuracy) (he : e ≤ 0) :
    (Float.Model.pack (roundWithAccuracy .binary64 s m e accuracy)).unpack.isFinite ↔
      m < (2 ^ 54 - 1) * 2 ^ (970 - e).toNat := by
  by_cases hsmall : (m.log2 : Int) + e ≤ 971
  · have hfits := exponentLe_unpack_pack
      (exponentLe_roundWithAccuracy s accuracy (k := 971) hsmall) (Nat.le_refl _)
    exact iff_of_true (isFinite_of_exponentLe hfits) (lt_limit_of_log2 (by omega))
  obtain ⟨hlost, hfull, hplaces⟩ := lostPlaces_of_large (m := m) (e := e) (by omega) (by omega)
  obtain ⟨hcanonical, hunits⟩ := isCanonical_roundWithAccuracy s accuracy (m := m) (e := e)
    (by omega) (by rwa [hlost]) (.inl (by rwa [hlost]))
  rw [isFinite_unpack_pack_iff hcanonical, hunits, natAbs_apply, hlost]
  have hlow := le_roundedMantissa_shiftRight m accuracy (m.log2 - 52)
  have hhigh := roundedMantissa_shiftRight_le m accuracy (m.log2 - 52)
  rcases Int.lt_trichotomy ((m.log2 : Int) + e) 1023 with hless | hlast | hmore
  · refine iff_of_true ?_ (lt_limit_of_log2 hless)
    have hle := magnitude_le (Nat.le_trans hhigh hplaces)
      (show (e + (m.log2 - 52 : Nat) + 1074).toNat ≤ 2044 by omega)
    rw [tooManyUnits_eq]
    exact Nat.lt_of_le_of_lt hle (mul_two_pow_lt (by decide) (by decide))
  · have hexponent : e + (m.log2 - 52 : Nat) = 971 := by omega
    have hplace : (970 - e).toNat = m.log2 - 53 := by omega
    have hsucc : m.log2 - 52 = m.log2 - 53 + 1 := by omega
    have hunit : (971 + 1074 : Int).toNat = 2045 := rfl
    rw [hexponent, hplace, tooManyUnits_eq, magnitude, hunit,
      Nat.mul_lt_mul_right (Nat.two_pow_pos _), hsucc]
    exact roundedMantissa_lt_iff accuracy (by rwa [← hsucc])
  · refine iff_of_false (Nat.not_lt.2 ?_) (Nat.not_lt.2 (limit_le_of_log2 hmore he))
    exact Nat.mul_le_mul (Nat.le_trans hfull hlow) (Nat.pow_le_pow_right (by decide) (by omega))

/-! ### Decimal numbers as doubles -/

/-- A number with a power of ten in the denominator is compared without it. -/
theorem mul_zpow_neg_lt_iff {n j : Nat} : (m : ℚ) * 10 ^ (-(j : Int)) < n ↔ m < n * 10 ^ j := by
  rw [zpow_neg, zpow_natCast, ← div_eq_mul_inv, div_lt_iff₀ (by positivity)]
  exact_mod_cast Iff.rfl

theorem mul_zpow_lt_iff {n j : Nat} : (m : ℚ) * 10 ^ (j : Int) < n ↔ m * 10 ^ j < n := by
  rw [zpow_natCast]
  exact_mod_cast Iff.rfl

theorem overflow_le : overflow ≤ 10 ^ 320 := by decide +kernel

theorem le_overflow : 2 ^ 53 * 10 ^ 22 ≤ overflow := by decide +kernel

theorem one_le_overflow : 1 ≤ overflow := Nat.le_trans (by decide) le_overflow

/-- A number of at least `10 ^ 320` is too large. -/
theorem not_lt_overflow_of_le {q : ℚ} (h : 10 ^ 320 ≤ q) : ¬ q < overflow := by
  have hle : (overflow : ℚ) ≤ 10 ^ 320 := mod_cast overflow_le
  exact not_lt.2 (hle.trans h)

theorem lt_overflow_of_lt_one {q : ℚ} (h : q < 1) : q < overflow :=
  h.trans_le (mod_cast one_le_overflow)

/-- The limit with binary places behind its point. -/
theorem overflow_mul_two_pow (k : Nat) : overflow * 2 ^ k = (2 ^ 54 - 1) * 2 ^ (970 + k) := by
  rw [overflow, Nat.pow_add, Nat.mul_assoc]

/-- A whole number times a power of ten is finite below the limit. -/
theorem isFinite_unpack_ofScientific_iff (m : Nat) (e : Int) :
    (Float.Model.ofScientific m e).unpack.isFinite ↔ (m : ℚ) * 10 ^ e < overflow := by
  have hbits : Format.binary64.exponentBits = 11 := rfl
  unfold Float.Model.ofScientific UnpackedFloat.ofScientific
  rw [hbits]
  split
  · rename_i hzero
    refine iff_of_true rfl (lt_overflow_of_lt_one ?_)
    rw [hzero, Nat.cast_zero, zero_mul]
    exact zero_lt_one
  rename_i hne
  split
  · rename_i hlarge
    have hm : (1 : ℚ) ≤ m := mod_cast Nat.pos_of_ne_zero hne
    have hpow : (10 : ℚ) ^ 320 ≤ 10 ^ e := by
      rw [← zpow_natCast]
      exact zpow_le_zpow_right₀ (by norm_num) (by omega)
    refine iff_of_false (by decide) (not_lt_overflow_of_le ?_)
    exact hpow.trans (le_mul_of_one_le_left (by positivity) hm)
  rename_i hlarge
  split
  · rename_i hsmall
    obtain ⟨j, rfl⟩ : ∃ j : Nat, e = -(j : Int) := ⟨(-e).toNat, by omega⟩
    have hlt : m < 1 * 10 ^ j :=
      calc m < 2 ^ (m.log2 + 1) := Nat.lt_log2_self
        _ ≤ 2 ^ j := Nat.pow_le_pow_right (by decide) (by omega)
        _ ≤ 10 ^ j := Nat.pow_le_pow_left (by decide) j
        _ = 1 * 10 ^ j := (Nat.one_mul _).symm
    exact iff_of_true rfl (lt_overflow_of_lt_one (mod_cast mul_zpow_neg_lt_iff.2 hlt))
  rename_i hsmall
  split
  · rename_i hnonneg
    obtain ⟨j, rfl⟩ : ∃ j : Nat, e = j := ⟨e.toNat, by omega⟩
    have hshift : m <<< 53 * 10 ^ j = m * 10 ^ j * 2 ^ 53 := by
      rw [Nat.shiftLeft_eq, Nat.mul_right_comm]
    have hmantissa : Format.binary64.mantissaBits = 53 := rfl
    have hplaces : (970 - (-(53 : Nat) + 0) : Int).toNat = 970 + 53 := rfl
    simp only [UnpackedFloat.mul, hmantissa, Int.toNat_natCast]
    rw [isFinite_roundWithAccuracy_iff _ _ (by decide), hplaces, hshift, ← overflow_mul_two_pow,
      Nat.mul_lt_mul_right (Nat.two_pow_pos 53), mul_zpow_lt_iff]
  · rename_i hneg
    obtain ⟨j, rfl⟩ : ∃ j : Nat, e = -(j : Int) := ⟨(-e).toNat, by omega⟩
    simp only [UnpackedFloat.div, divCore, Int.neg_neg, Int.toNat_natCast]
    generalize Format.binary64.targetExponent _ = target
    obtain ⟨k, hk⟩ : ∃ k : Nat, min (0 - 0) target = -(k : Int) :=
      ⟨(-min (0 - 0) target).toNat, by omega⟩
    have hshift : (0 - 0 - -(k : Int)).toNat = k := by omega
    have hplaces : (970 - -(k : Int)).toNat = 970 + k := by omega
    rw [hk, isFinite_roundWithAccuracy_iff _ _ (by omega), hshift, hplaces, mul_zpow_neg_lt_iff,
      Nat.div_lt_iff_lt_mul (Nat.pow_pos (by decide)), Nat.shiftLeft_eq, ← overflow_mul_two_pow,
      Nat.mul_right_comm, Nat.mul_lt_mul_right (Nat.two_pow_pos k)]

/-- The powers of ten that are doubles have no place beyond that of `2 ^ 21`. -/
theorem fits_powersOfTen : ∀ j : Fin Float.exactlyRepresentablePowersOfTen.size,
    Fits 21 Float.exactlyRepresentablePowersOfTen[j] ∧
      AtLeastOne Float.exactlyRepresentablePowersOfTen[j] := by decide

/-- A short number times a short power of ten is finite. -/
theorem isFinite_ofScientific_of_short {j : Nat} (negative : Bool) (h : m < 2 ^ 53 ∧ j ≤ 22) :
    (Float.ofScientific m negative j).isFinite := by
  obtain ⟨hfits, hone⟩ := fits_powersOfTen ⟨j, Nat.lt_succ_of_le h.2⟩
  simp only [Float.ofScientific, dif_pos h]
  cases negative with
  | true => exact ((fits_toFloat _).div hone (by decide)).isFinite (by decide)
  | false => exact ((fits_toFloat _).mul hfits (by decide)).isFinite (by decide)

theorem lt_overflow_of_short {j : Nat} (negative : Bool) (h : m < 2 ^ 53 ∧ j ≤ 22) :
    (m : ℚ) * 10 ^ (if negative then -(j : Int) else j) < overflow := by
  cases negative with
  | true =>
    have hm : m < overflow := h.1.trans_le (Nat.le_trans (by decide) le_overflow)
    exact mul_zpow_neg_lt_iff.2 (hm.trans_le (Nat.le_mul_of_pos_right _ (Nat.pow_pos (by decide))))
  | false =>
    refine mul_zpow_lt_iff.2 (Nat.lt_of_lt_of_le ?_ le_overflow)
    exact Nat.mul_lt_mul_of_lt_of_le h.1 (Nat.pow_le_pow_right (by decide) h.2) (by decide)

theorem isFinite_ofScientific_iff (m j : Nat) (negative : Bool) :
    (Float.ofScientific m negative j).isFinite ↔
      (m : ℚ) * 10 ^ (if negative then -(j : Int) else j) < overflow := by
  by_cases hshort : m < 2 ^ 53 ∧ j ≤ 22
  · exact iff_of_true (isFinite_ofScientific_of_short negative hshort)
      (lt_overflow_of_short negative hshort)
  · have hexponent : Int.negOfNat j = -(j : Int) := Int.negOfNat_eq
    simp only [Float.ofScientific, dif_neg hshort, hexponent]
    exact isFinite_unpack_ofScientific_iff m _

/-- The count of digits bounds a number from above and from below. -/
theorem lt_ten_pow_length (m : Nat) : m < 10 ^ (Nat.toDigits 10 m).length :=
  (Nat.length_toDigits_le_iff (by decide) Nat.length_toDigits_pos).1 (Nat.le_refl _)

theorem ten_pow_length_le (hm : m ≠ 0) : 10 ^ ((Nat.toDigits 10 m).length - 1) ≤ m := by
  have hpos : 0 < (Nat.toDigits 10 m).length := Nat.length_toDigits_pos
  obtain hone | hmore := Nat.eq_zero_or_pos ((Nat.toDigits 10 m).length - 1)
  · rw [hone]
    exact Nat.pos_of_ne_zero hm
  · have := Nat.length_toDigits_le_iff (n := m) (b := 10) (by decide) hmore
    omega

/-- The double nearest to a whole number times a power of ten is finite below the limit. -/
theorem isFinite_scaled_iff (m : Nat) (e : Int) :
    (scaled m e).isFinite ↔ (m : ℚ) * 10 ^ e < overflow := by
  unfold scaled
  dsimp only
  split
  · rename_i hsmall
    refine iff_of_true rfl (lt_overflow_of_lt_one ?_)
    obtain rfl | hsmall := hsmall
    · rw [Nat.cast_zero, zero_mul]
      exact zero_lt_one
    · obtain ⟨j, rfl⟩ : ∃ j : Nat, e = -(j : Int) := ⟨(-e).toNat, by omega⟩
      have hlt : m < 1 * 10 ^ j := by
        rw [Nat.one_mul]
        exact (lt_ten_pow_length m).trans_le (Nat.pow_le_pow_right (by decide) (by omega))
      exact mod_cast mul_zpow_neg_lt_iff.2 hlt
  rename_i hsmall
  split
  · rename_i hlarge
    refine iff_of_false (by decide) (not_lt_overflow_of_le ?_)
    have hm : (10 : ℚ) ^ ((Nat.toDigits 10 m).length - 1) ≤ m :=
      mod_cast ten_pow_length_le (not_or.1 hsmall).1
    calc (10 : ℚ) ^ 320 = 10 ^ (320 : Int) := (zpow_natCast 10 320).symm
      _ ≤ 10 ^ (((Nat.toDigits 10 m).length - 1 : Nat) + e) :=
        zpow_le_zpow_right₀ (by norm_num) (by omega)
      _ = 10 ^ ((Nat.toDigits 10 m).length - 1) * 10 ^ e := by
        rw [zpow_add₀ (by norm_num), zpow_natCast]
      _ ≤ m * 10 ^ e := mul_le_mul_of_nonneg_right hm (by positivity)
  split
  · rename_i hneg
    obtain ⟨j, rfl⟩ : ∃ j : Nat, e = -(j : Int) := ⟨(-e).toNat, by omega⟩
    rw [isFinite_ofScientific_iff, Int.neg_neg, Int.toNat_natCast]
    rfl
  · rename_i hnonneg
    obtain ⟨j, rfl⟩ : ∃ j : Nat, e = j := ⟨e.toNat, by omega⟩
    rw [isFinite_ofScientific_iff]
    rfl

/-! ### Numbers that are too large -/

/-- A zero, a positive number or the positive infinity. -/
def IsPositive : UnpackedFloat → Prop
  | .zero s | .finite s _ _ _ | .infinity s => s = .positive
  | .notANumber => False

theorem isPositive_roundWithAccuracy (m : Nat) (e : Int) (accuracy : Accuracy) :
    IsPositive (roundWithAccuracy .binary64 .positive m e accuracy) := by
  unfold roundWithAccuracy
  dsimp only
  split <;> rfl

theorem isPositive_ofScientific (m : Nat) (e : Int) :
    IsPositive (UnpackedFloat.ofScientific .binary64 m e) := by
  unfold UnpackedFloat.ofScientific
  split
  · rfl
  split
  · rfl
  split
  · rfl
  split <;> exact isPositive_roundWithAccuracy _ _ _

/-- Packing a mantissa gives a finite double or an infinity. -/
theorem isFinite_pack_or_eq (s : Sign) (m : Nat) (e : Int) (hm : 0 < m) :
    (UnpackedFloat.unpack .binary64 (UnpackedFloat.pack .binary64 (.finite s m e hm))).isFinite ∨
      UnpackedFloat.pack .binary64 (.finite s m e hm) = packedInfinity .binary64 s := by
  have hbias : Format.binary64.exponentBias = 1023 := rfl
  simp only [UnpackedFloat.pack, hbias]
  split
  · exact .inr rfl
  · rename_i hlarge
    left
    have hpacked (exponent : BitVec 11) (mantissa : BitVec 52) (h : exponent.toNat < 2047) :
        (UnpackedFloat.unpack .binary64
          (packComponents .binary64 s exponent mantissa)).isFinite := by
      rw [unpack_packComponents _ _ _ h]
      split
      · split <;> rfl
      · rfl
    split
    · refine hpacked _ _ ?_
      rw [BitVec.toNat_ofNat]
      omega
    · exact hpacked _ _ (by decide)

/-- What is positive and not finite is the infinity. -/
theorem eq_infinity_of_not_isFinite {u : UnpackedFloat} (hu : IsPositive u)
    (h : ¬ (Float.ofModel (Float.Model.pack u)).isFinite) :
    Float.ofModel (Float.Model.pack u) = 1.0 / 0.0 := by
  cases u with
  | notANumber => exact hu.elim
  | zero s => cases s <;> exact absurd rfl h
  | infinity s =>
    obtain rfl : s = .positive := hu
    rfl
  | finite s m e hm =>
    obtain rfl : s = .positive := hu
    obtain hfinite | hinfinite := isFinite_pack_or_eq .positive m e hm
    · exact absurd hfinite h
    · have hpack : Float.Model.pack (.finite .positive m e hm) = .pack (.infinity .positive) := by
        simp only [Float.Model.pack, hinfinite]
        rfl
      rw [hpack]
      rfl

/-- A number that is too large becomes an infinity. -/
theorem scaled_eq_infinity {m : Nat} {e : Int} (h : ¬ (scaled m e).isFinite) :
    scaled m e = 1.0 / 0.0 := by
  have hscientific (negative : Bool) (j : Nat) (h : ¬ (Float.ofScientific m negative j).isFinite) :
      Float.ofScientific m negative j = 1.0 / 0.0 := by
    by_cases hshort : m < 2 ^ 53 ∧ j ≤ 22
    · exact absurd (isFinite_ofScientific_of_short negative hshort) h
    · simp only [Float.ofScientific, dif_neg hshort] at h ⊢
      exact eq_infinity_of_not_isFinite (isPositive_ofScientific m _) h
  revert h
  unfold scaled
  dsimp only
  split
  · exact fun h => absurd rfl h
  split
  · exact fun _ => rfl
  split
  · exact hscientific true _
  · exact hscientific false _

namespace Numeral

def number (n : Numeral) : ℚ :=
  digitsValue (n.whole ++ n.fraction) * 10 ^ (n.exponent - n.fraction.length)

/-- The double of a numeral is finite when its number is not too large. -/
theorem value_isFinite_iff (n : Numeral) : n.value.isFinite ↔ n.number < overflow :=
  isFinite_scaled_iff _ _

/-- The double of every other numeral is the infinity. -/
theorem value_eq_infinity {n : Numeral} (h : ¬ n.number < overflow) : n.value = 1.0 / 0.0 :=
  scaled_eq_infinity fun hfinite => h ((value_isFinite_iff n).1 hfinite)

end Numeral

end Formulary.Number
