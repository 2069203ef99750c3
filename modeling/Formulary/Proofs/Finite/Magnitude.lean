import Mathlib
import Formulary.Number.Binary

/-!
# Magnitudes of doubles

A double is finite as long as the exponent of its last binary place stays below a bound. The
operations that no check follows, such as conversions from whole numbers and divisions by at least
one, keep well below it.

## Main definitions

* `Number.Fits` : the last binary place of a double is small;
* `Number.AtLeastOne` : the magnitude of a double is at least one.

## Main statements

* `Number.isFinite_iff_fits` : the largest exponent of a finite double;
* `Number.Fits.neg`, `Number.Fits.mul`, `Number.Fits.div` : the exponents of results;
* `Number.isFinite_ofNat`, `Number.isFinite_ofInt` : whole numbers of 64 bits are finite;
* `Number.atLeastOne_ofScientific_one` : powers of ten are at least one.
-/
namespace Formulary.Number

open Float.Model Float.Model.UnpackedFloat

/-! ### Rounding -/

/-- The exponent of an unpacked double is at most `k`; a zero has none. -/
def ExponentLe (k : Nat) : UnpackedFloat → Prop
  | .zero _ => True
  | .finite _ _ e _ => e ≤ k
  | .infinity _ | .notANumber => False

instance (k : Nat) (u : UnpackedFloat) : Decidable (ExponentLe k u) :=
  match u with
  | .zero _ => .isTrue trivial
  | .finite _ _ e _ => inferInstanceAs (Decidable (e ≤ k))
  | .infinity _ | .notANumber => .isFalse id

variable {k : Nat} {m n : Nat} {e : Int}

theorem mantissa_shiftRight (em : ExtendedMantissa) (shift : Nat) :
    (em >>> shift).mantissa = em.mantissa / 2 ^ shift := by
  induction shift with
  | zero => simp [HShiftRight.hShiftRight, Nat.repeat]
  | succ shift ih =>
    change (em >>> shift).mantissa / 2 = em.mantissa / 2 ^ (shift + 1)
    rw [ih, Nat.div_div_eq_div_mul, Nat.pow_succ]

theorem mantissa_ofMantissaAndAccuracy (m : Nat) (accuracy : Accuracy) :
    (ExtendedMantissa.ofMantissaAndAccuracy m accuracy).mantissa = m := by
  cases accuracy with
  | exact => rfl
  | inexact o => cases o <;> rfl

theorem roundToNearestEven_le (m : Nat) (accuracy : Accuracy) :
    accuracy.roundToNearestEven m ≤ m + 1 := by
  cases accuracy with
  | exact => simp [Accuracy.roundToNearestEven]
  | inexact o => cases o <;> simp only [Accuracy.roundToNearestEven] <;> omega

theorem targetExponent_binary64 (total : Int) :
    Format.binary64.targetExponent total = max (total - 53) (-1074) := by
  simp only [Format.targetExponent]
  rfl

theorem roundedMantissa_shiftRight_le (m : Nat) (accuracy : Accuracy) (shift : Nat) :
    (ExtendedMantissa.ofMantissaAndAccuracy m accuracy >>> shift).roundedMantissa ≤
      m / 2 ^ shift + 1 := by
  rw [ExtendedMantissa.roundedMantissa, mantissa_shiftRight, mantissa_ofMantissaAndAccuracy]
  exact roundToNearestEven_le _ _

/-- A mantissa that lost places and was rounded up has at most one place more than is left. -/
theorem log2_rounded {shift : Nat} (h : n ≤ m / 2 ^ shift + 1) :
    n.log2 + shift ≤ m.log2 + 1 ∨ n.log2 = 0 ∧ m.log2 < shift := by
  by_cases hquotient : m / 2 ^ shift = 0
  · have hn : n.log2 = 0 := by
      obtain rfl | rfl : n = 0 ∨ n = 1 := by omega
      all_goals rfl
    have hm : m < 2 ^ shift := by
      simpa using (Nat.div_eq_zero_iff_lt (Nat.two_pow_pos shift)).1 hquotient
    by_cases hzero : m = 0
    · subst hzero
      simp only [Nat.log2_zero]
      omega
    · exact .inr ⟨hn, (Nat.log2_lt hzero).2 hm⟩
  · have hplaces : (m / 2 ^ shift).log2 + shift ≤ m.log2 := by
      have hm : m ≠ 0 := by rintro rfl; simp at hquotient
      rw [Nat.le_log2 hm, Nat.pow_add]
      exact Nat.le_trans (Nat.mul_le_mul_right _ (Nat.log2_self_le hquotient))
        (Nat.div_mul_le_self m _)
    by_cases hn : n = 0
    · subst hn
      simp only [Nat.log2_zero]
      omega
    · have hdouble : n < 2 ^ ((m / 2 ^ shift).log2 + 2) := by
        have := @Nat.lt_log2_self (m / 2 ^ shift)
        rw [Nat.pow_succ]
        omega
      have := (Nat.log2_lt hn).2 hdouble
      omega

/-- Rounding gives no exponent above the place of the first digit. -/
theorem exponentLe_roundWithAccuracy (s : Sign) (accuracy : Accuracy)
    (h : (m.log2 : Int) + e ≤ k) :
    ExponentLe k (roundWithAccuracy .binary64 s m e accuracy) := by
  unfold roundWithAccuracy shiftToTargetExponent shiftToExponent
  simp only [targetExponent_binary64, totalExponent]
  have hlog := log2_rounded (roundedMantissa_shiftRight_le m accuracy
    (max ((m.log2 : Int) + 1 + e - 53) (-1074) - e).toNat)
  split
  · trivial
  · simp only [ExponentLe]
    omega

theorem le_roundToNearestEven (m : Nat) (accuracy : Accuracy) :
    m ≤ accuracy.roundToNearestEven m := by
  cases accuracy with
  | exact => simp [Accuracy.roundToNearestEven]
  | inexact o => cases o <;> simp only [Accuracy.roundToNearestEven] <;> omega

theorem le_roundedMantissa_shiftRight (m : Nat) (accuracy : Accuracy) (shift : Nat) :
    m / 2 ^ shift ≤
      (ExtendedMantissa.ofMantissaAndAccuracy m accuracy >>> shift).roundedMantissa := by
  rw [ExtendedMantissa.roundedMantissa, mantissa_shiftRight, mantissa_ofMantissaAndAccuracy]
  exact le_roundToNearestEven _ _

/-- An unpacked double with a mantissa of all 53 places, of which the last is at least `2 ^ -52`. -/
def IsFull : UnpackedFloat → Prop
  | .finite _ m e _ => m.log2 = 52 ∧ -52 ≤ e
  | _ => False

theorem ne_zero_of_le_log2 (h : 52 ≤ m.log2) : m ≠ 0 := by
  rintro rfl
  rw [Nat.log2_zero] at h
  omega

theorem log2_div_two_pow {shift : Nat} (h : m.log2 = 52 + shift) : (m / 2 ^ shift).log2 = 52 := by
  have hle := Nat.log2_self_le (ne_zero_of_le_log2 (m := m) (by omega))
  have hlt := @Nat.lt_log2_self m
  rw [h] at hle hlt
  have hlow : 2 ^ 52 ≤ m / 2 ^ shift := by
    rwa [Nat.le_div_iff_mul_le (Nat.two_pow_pos _), ← Nat.pow_add]
  have hhigh : m / 2 ^ shift < 2 ^ 53 := by
    rw [Nat.div_lt_iff_lt_mul (Nat.two_pow_pos _), ← Nat.pow_add]
    rwa [Nat.add_right_comm] at hlt
  exact (Nat.log2_eq_iff (by omega)).2 ⟨hlow, hhigh⟩

/-- A mantissa of at least 53 places is rounded to one of 53 places, or to the next power of two. -/
theorem log2_rounded_full {shift : Nat} (h : m.log2 = 52 + shift) (hlow : m / 2 ^ shift ≤ n)
    (hhigh : n ≤ m / 2 ^ shift + 1) : n.log2 = 52 ∨ n.log2 = 53 := by
  have hquotient := log2_div_two_pow h
  have hne : m / 2 ^ shift ≠ 0 := ne_zero_of_le_log2 (Nat.le_of_eq hquotient.symm)
  have hbounds := (Nat.log2_eq_iff hne).1 hquotient
  by_cases hn : n = 2 ^ 53
  · exact .inr (by rw [hn, Nat.log2_two_pow])
  · exact .inl ((Nat.log2_eq_iff (by omega)).2 ⟨by omega, by omega⟩)

theorem isFull_roundWithAccuracy (s : Sign) (accuracy : Accuracy) (hplaces : 52 ≤ m.log2)
    (h : 0 ≤ (m.log2 : Int) + e) : IsFull (roundWithAccuracy .binary64 s m e accuracy) := by
  obtain ⟨shift, hshift⟩ := Nat.exists_eq_add_of_le hplaces
  have hcut : (max ((m.log2 : Int) + 1 + e - 53) (-1074) - e).toNat = shift := by omega
  have hrounded := log2_rounded_full hshift (le_roundedMantissa_shiftRight m accuracy shift)
    (roundedMantissa_shiftRight_le m accuracy shift)
  obtain ⟨again, hagain⟩ : ∃ again,
      (ExtendedMantissa.ofMantissaAndAccuracy m accuracy >>> shift).roundedMantissa.log2 =
        52 + again := Nat.exists_eq_add_of_le (by omega)
  have hcut' : (max (((52 + again : Nat) : Int) + 1 + (e + shift) - 53) (-1074) -
      (e + shift)).toNat = again := by omega
  have hfinal := log2_div_two_pow hagain
  unfold roundWithAccuracy shiftToTargetExponent shiftToExponent
  simp only [targetExponent_binary64, totalExponent, hcut, hagain, hcut', mantissa_shiftRight,
    mantissa_ofMantissaAndAccuracy]
  split
  · exact absurd ‹_› (ne_zero_of_le_log2 (Nat.le_of_eq hfinal.symm))
  · exact ⟨hfinal, by omega⟩

/-! ### Packing -/

theorem log2_le_of_lt (h : m < 2 ^ (n + 1)) : m.log2 ≤ n := by
  by_cases hm : m = 0
  · subst hm
    simp
  · exact Nat.le_of_lt_succ ((Nat.log2_lt hm).2 h)

/-- What is known of a double whose bits have this exponent: the largest one is that of infinities
and of not a number, and a mantissa has 53 places, or fewer when the exponent is zero. -/
def HasExponent (exponent : Nat) : UnpackedFloat → Prop
  | .zero _ => exponent = 0
  | .finite _ m e _ =>
    m.log2 ≤ 52 ∧ e = max 1 exponent - 1075 ∧ exponent < 2047 ∧ (0 < exponent → m.log2 = 52)
  | .infinity _ | .notANumber => exponent = 2047

/-- The mantissa of a normal number has its leading bit, which is not written. -/
theorem log2_append_one (v : BitVec 52) : (1#1 ++ v).toNat.log2 = 52 := by
  have hlow : 2 ^ 52 ≤ (1#1 ++ v).toNat := by
    rw [BitVec.toNat_append]
    exact Nat.left_le_or
  exact (Nat.log2_eq_iff (by omega)).2 ⟨hlow, BitVec.isLt _⟩

theorem hasExponent_unpack (b : BitVec Format.binary64.numBits) :
    HasExponent (unpackExponent b).toNat (UnpackedFloat.unpack .binary64 b) := by
  have hbias : Format.binary64.exponentBias = 1023 := rfl
  unfold UnpackedFloat.unpack
  simp only [hbias]
  split
  · rename_i hlargest
    have hlargest : (unpackExponent b).toNat = 2047 := by rw [hlargest]; rfl
    split <;> exact hlargest
  · rename_i hlargest
    have hlt : (unpackExponent b).toNat < 2047 := by
      have hne : (unpackExponent b).toNat ≠ 2047 := fun h => hlargest (BitVec.eq_of_toNat_eq h)
      have hle : (unpackExponent b).toNat < 2048 := (unpackExponent b).isLt
      omega
    split
    · rename_i hexponent
      have hexponent : (unpackExponent b).toNat = 0 := by rw [hexponent]; rfl
      split
      · exact hexponent
      · have hmantissa : (unpackMantissa b).toNat < 2 ^ 52 := (unpackMantissa b).isLt
        exact ⟨log2_le_of_lt (Nat.lt_trans hmantissa (by decide)), by omega, hlt, by omega⟩
    · rename_i hexponent
      have hexponent : (unpackExponent b).toNat ≠ 0 := fun h =>
        hexponent (BitVec.eq_of_toNat_eq h)
      have hplaces := log2_append_one (unpackMantissa b)
      exact ⟨Nat.le_of_eq hplaces, by omega, hlt, fun _ => hplaces⟩

theorem HasExponent.exponentLe {exponent : Nat} {u : UnpackedFloat} (h : HasExponent exponent u)
    (hfinite : exponent ≠ 2047) (hle : exponent ≤ 1075 + k) : ExponentLe k u := by
  cases u with
  | notANumber | infinity s => exact absurd h hfinite
  | zero s => trivial
  | finite s m e hm =>
    obtain ⟨-, he, -⟩ := h
    simp only [ExponentLe]
    omega

theorem unpackExponent_pack_le {u : UnpackedFloat} (h : ExponentLe k u) (hk : k ≤ 971) :
    (unpackExponent (UnpackedFloat.pack .binary64 u)).toNat ≤ 1075 + k := by
  have hbias : Format.binary64.exponentBias = 1023 := rfl
  cases u with
  | notANumber | infinity s => exact h.elim
  | zero s => simp [UnpackedFloat.pack, packedZero]
  | finite s m e hm =>
    simp only [ExponentLe] at h
    simp only [UnpackedFloat.pack, hbias]
    split
    · omega
    · split
      · rw [unpackExponent_packComponents, BitVec.toNat_ofNat]
        exact Nat.le_trans (Nat.mod_le _ _) (by omega)
      · simp

/-- Packing keeps an exponent that is not too large. -/
theorem exponentLe_unpack_pack {u : UnpackedFloat} (h : ExponentLe k u) (hk : k ≤ 971) :
    ExponentLe k (Float.Model.pack u).unpack := by
  have hle := unpackExponent_pack_le h hk
  have hexponent := hasExponent_unpack (UnpackedFloat.pack .binary64 u)
  exact hexponent.exponentLe (by omega) hle

def OneLe : UnpackedFloat → Prop
  | .finite _ m e _ => 0 ≤ (m.log2 : Int) + e
  | .infinity _ => True
  | .zero _ | .notANumber => False

instance (u : UnpackedFloat) : Decidable (OneLe u) :=
  match u with
  | .finite _ m e _ => inferInstanceAs (Decidable (0 ≤ (m.log2 : Int) + e))
  | .infinity _ => .isTrue trivial
  | .zero _ | .notANumber => .isFalse id

theorem HasExponent.oneLe {exponent : Nat} {u : UnpackedFloat} (h : HasExponent exponent u)
    (hle : 1023 ≤ exponent) (hlt : exponent < 2047) : OneLe u := by
  cases u with
  | notANumber | infinity s | zero s => simp only [HasExponent] at h; omega
  | finite s m e hm =>
    obtain ⟨-, he, -, hplaces⟩ := h
    have := hplaces (by omega)
    simp only [OneLe]
    omega

/-- Packing keeps a magnitude of at least one. -/
theorem oneLe_unpack_pack {u : UnpackedFloat} (h : IsFull u) :
    OneLe (Float.Model.pack u).unpack := by
  have hbias : Format.binary64.exponentBias = 1023 := rfl
  have hexponent := hasExponent_unpack (UnpackedFloat.pack .binary64 u)
  change OneLe (UnpackedFloat.unpack .binary64 (UnpackedFloat.pack .binary64 u))
  cases u with
  | notANumber | infinity s | zero s => exact h.elim
  | finite s m e hm =>
    obtain ⟨hplaces, he⟩ := h
    have hbits : m.log2 + 1 = Format.binary64.mantissaBits := by rw [hplaces]; rfl
    simp only [UnpackedFloat.pack, hbias, hbits, if_true] at hexponent ⊢
    split at hexponent
    · rename_i hlarge
      rw [if_pos hlarge]
      cases s <;> exact trivial
    · rename_i hsmall
      rw [if_neg hsmall]
      rw [unpackExponent_packComponents, BitVec.toNat_ofNat] at hexponent
      exact hexponent.oneLe (by omega) (by omega)

/-! ### Doubles -/

/-- The last binary place of a double is at most that of `2 ^ k`. -/
def Fits (k : Nat) (x : Float) : Prop := ExponentLe k x.toModel.unpack

instance (k : Nat) (x : Float) : Decidable (Fits k x) :=
  inferInstanceAs (Decidable (ExponentLe k x.toModel.unpack))

variable {j : Nat} {x y : Float}

theorem Fits.mono (h : Fits j x) (hle : j ≤ k) : Fits k x := by
  revert h
  unfold Fits
  cases x.toModel.unpack with
  | finite s m e hm => exact fun (h : e ≤ j) => show e ≤ k by omega
  | _ => exact id

/-- A double is finite when its last place is not beyond the largest one. -/
theorem isFinite_iff_fits : x.isFinite ↔ Fits 971 x := by
  have hexponent : HasExponent _ x.toModel.unpack := hasExponent_unpack x.toModel.toBits.toBitVec
  have hfinite : x.isFinite = x.toModel.unpack.isFinite := rfl
  rw [hfinite, Fits]
  revert hexponent
  cases x.toModel.unpack with
  | notANumber | infinity s => simp [UnpackedFloat.isFinite, ExponentLe]
  | zero s => simp [UnpackedFloat.isFinite, ExponentLe]
  | finite s m e hm =>
    rintro ⟨-, he, hlt, -⟩
    simp only [UnpackedFloat.isFinite, ExponentLe, true_iff]
    omega

theorem Fits.isFinite (h : Fits k x) (hk : k ≤ 971) : x.isFinite :=
  isFinite_iff_fits.2 (h.mono hk)

/-- A double that fits is a zero, or has a mantissa of 53 places and a small exponent. -/
theorem Fits.cases (h : Fits k x) :
    (∃ s, x.toModel.unpack = .zero s) ∨
      ∃ s m e hm, x.toModel.unpack = .finite s m e hm ∧ m.log2 ≤ 52 ∧ e ≤ k := by
  have hexponent : HasExponent _ x.toModel.unpack := hasExponent_unpack x.toModel.toBits.toBitVec
  revert h hexponent
  unfold Fits
  cases x.toModel.unpack with
  | notANumber | infinity s => exact fun h => h.elim
  | zero s => exact fun _ _ => .inl ⟨s, rfl⟩
  | finite s m e hm => exact fun h ⟨hplaces, _⟩ => .inr ⟨s, m, e, hm, rfl, hplaces, h⟩

theorem Fits.neg (h : Fits k x) (hk : k ≤ 971) : Fits k (-x) := by
  refine exponentLe_unpack_pack (u := x.toModel.unpack.neg) ?_ hk
  obtain ⟨s, hx⟩ | ⟨s, m, e, hm, hx, -, he⟩ := h.cases
  · rw [hx]
    trivial
  · rw [hx]
    exact he

theorem isFinite_neg (h : x.isFinite) : (-x).isFinite :=
  isFinite_iff_fits.2 ((isFinite_iff_fits.1 h).neg (Nat.le_refl _))

theorem log2_mul_le (m n : Nat) : (m * n).log2 ≤ m.log2 + n.log2 + 1 := by
  refine log2_le_of_lt ?_
  have hm : m < 2 ^ (m.log2 + 1) := Nat.lt_log2_self
  have hn : n < 2 ^ (n.log2 + 1) := Nat.lt_log2_self
  calc m * n < 2 ^ (m.log2 + 1) * 2 ^ (n.log2 + 1) := Nat.mul_lt_mul'' hm hn
    _ = 2 ^ (m.log2 + n.log2 + 1 + 1) := by rw [← Nat.pow_add]; congr 1; omega

theorem Fits.mul (hx : Fits j x) (hy : Fits k y) (hjk : j + k + 105 ≤ 971) :
    Fits (j + k + 105) (x * y) := by
  refine exponentLe_unpack_pack (u := UnpackedFloat.mul .binary64 x.toModel.unpack y.toModel.unpack)
    ?_ hjk
  obtain ⟨s, hx⟩ | ⟨s, m, e, hm, hx, hplaces, he⟩ := hx.cases <;>
    obtain ⟨s', hy⟩ | ⟨s', m', e', hm', hy, hplaces', he'⟩ := hy.cases <;>
    rw [hx, hy]
  · trivial
  · trivial
  · trivial
  · refine exponentLe_roundWithAccuracy _ _ ?_
    have := log2_mul_le m m'
    omega

structure AtLeastOne (y : Float) : Prop where
  oneLe : OneLe y.toModel.unpack

instance (y : Float) : Decidable (AtLeastOne y) :=
  decidable_of_iff (OneLe y.toModel.unpack) ⟨AtLeastOne.mk, AtLeastOne.oneLe⟩

theorem log2_shiftLeft_le (m shift : Nat) : (m <<< shift).log2 ≤ m.log2 + shift := by
  refine log2_le_of_lt ?_
  calc m <<< shift = m * 2 ^ shift := Nat.shiftLeft_eq ..
    _ < 2 ^ (m.log2 + 1) * 2 ^ shift :=
      Nat.mul_lt_mul_of_pos_right Nat.lt_log2_self (Nat.two_pow_pos _)
    _ = 2 ^ (m.log2 + shift + 1) := by rw [← Nat.pow_add]; congr 1; omega

theorem log2_shiftLeft_div_le {shift : Nat} (hn : n ≠ 0) (hzero : (m <<< shift) / n ≠ 0) :
    ((m <<< shift) / n).log2 + n.log2 ≤ m.log2 + shift := by
  have hlt : 2 ^ (((m <<< shift) / n).log2 + n.log2) < 2 ^ (m.log2 + 1 + shift) :=
    calc 2 ^ (((m <<< shift) / n).log2 + n.log2)
        = 2 ^ ((m <<< shift) / n).log2 * 2 ^ n.log2 := Nat.pow_add ..
      _ ≤ (m <<< shift) / n * n := Nat.mul_le_mul (Nat.log2_self_le hzero) (Nat.log2_self_le hn)
      _ ≤ m <<< shift := Nat.div_mul_le_self _ _
      _ = m * 2 ^ shift := Nat.shiftLeft_eq ..
      _ < 2 ^ (m.log2 + 1) * 2 ^ shift :=
        Nat.mul_lt_mul_of_pos_right Nat.lt_log2_self (Nat.two_pow_pos _)
      _ = 2 ^ (m.log2 + 1 + shift) := (Nat.pow_add ..).symm
  have := (Nat.pow_lt_pow_iff_right (by decide)).1 hlt
  omega

/-- A quotient by at least one does not grow by more than the places of its mantissa. -/
theorem Fits.div (hx : Fits j x) (hy : AtLeastOne y) (hj : j + 52 ≤ 971) :
    Fits (j + 52) (x / y) := by
  refine exponentLe_unpack_pack (u := UnpackedFloat.div .binary64 x.toModel.unpack y.toModel.unpack)
    ?_ hj
  have hexponent : HasExponent _ y.toModel.unpack := hasExponent_unpack y.toModel.toBits.toBitVec
  have hone := hy.oneLe
  revert hone hexponent
  cases y.toModel.unpack with
  | notANumber | zero t => exact fun _ h => h.elim
  | infinity t =>
    intro _ _
    obtain ⟨s, hx⟩ | ⟨s, m, e, hm, hx, -, -⟩ := hx.cases <;>
      rw [hx] <;>
      trivial
  | finite t n f hn =>
    intro hexponent (hone : 0 ≤ (n.log2 : Int) + f)
    have hplaces : n.log2 ≤ 52 := hexponent.1
    obtain ⟨s, hx⟩ | ⟨s, m, e, hm, hx, hplaces', he⟩ := hx.cases
    · rw [hx]
      trivial
    · rw [hx]
      simp only [UnpackedFloat.div, divCore]
      refine exponentLe_roundWithAccuracy _ _ ?_
      generalize hlow : min (e - f) _ = low
      have hle : low ≤ e - f := by omega
      by_cases hzero : (m <<< (e - f - low).toNat) / n = 0
      · rw [hzero, Nat.log2_zero]
        omega
      · have := log2_shiftLeft_div_le (Nat.ne_of_gt hn) hzero
        omega

/-- A whole number of 64 bits as a double. -/
theorem fits_toFloat (n : UInt64) : Fits 64 n.toFloat := by
  refine exponentLe_unpack_pack (u := ofUInt64 .binary64 n) ?_ (by decide)
  have hlog : n.toNat.log2 ≤ 63 := log2_le_of_lt n.toNat_lt
  simp only [UnpackedFloat.ofUInt64, UnpackedFloat.ofNat, UnpackedFloat.ofInt,
    UnpackedFloat.normalize]
  split
  · rename_i hcompare
    have hnegative : (n.toNat : Int) < 0 := Int.compare_eq_lt.1 hcompare
    omega
  · trivial
  · rename_i hcompare
    have hpositive : 0 < (n.toNat : Int) := Int.compare_eq_gt.1 hcompare
    simp only [UnpackedFloat.round, decreaseExponent, Int.toNat_natCast]
    refine exponentLe_roundWithAccuracy _ _ ?_
    have := log2_shiftLeft_le n.toNat
      (0 - Format.binary64.targetExponent (totalExponent n.toNat 0)).toNat
    omega

/-- A whole number with 53 places is converted as a word, and multiplied by one. -/
theorem ofNat_eq_mul (h : n < 2 ^ 53) :
    Float.ofNat n = n.toUInt64.toFloat * Float.ofBits 0x3FF0000000000000 := by
  have hfast : n < 2 ^ 53 ∧ 0 ≤ 22 := ⟨h, by decide⟩
  simp only [Float.ofNat, OfScientific.ofScientific, Float.ofScientific, hfast, and_self,
    dite_true, Bool.false_eq_true, if_false]
  rfl

theorem fits_ofNat (h : n < 2 ^ 64) : Fits 169 (Float.ofNat n) := by
  by_cases hexact : n < 2 ^ 53
  · rw [ofNat_eq_mul hexact]
    have hone : Fits 0 (Float.ofBits 0x3FF0000000000000) := by decide
    exact (fits_toFloat _).mul hone (by decide)
  · have hslow : ¬(n < 2 ^ 53 ∧ 0 ≤ 22) := fun h => hexact h.1
    have hscientific : Float.ofNat n = .ofModel (.ofScientific n 0) := by
      simp only [Float.ofNat, OfScientific.ofScientific, Float.ofScientific, hslow, dite_false,
        Bool.false_eq_true, if_false]
      rfl
    rw [hscientific]
    refine exponentLe_unpack_pack (u := UnpackedFloat.ofScientific .binary64 n 0) ?_ (by decide)
    have hn : n ≠ 0 := by omega
    have hlarge : ¬(0 : Int) > 2 ^ Format.binary64.exponentBits := by decide
    have hsmall : ¬(0 : Int) < -((2 ^ Format.binary64.exponentBits : Int) + n.log2) := by
      omega
    simp only [UnpackedFloat.ofScientific, hn, hlarge, hsmall, dite_false, if_false, Int.le_refl,
      if_true, UnpackedFloat.mul]
    refine exponentLe_roundWithAccuracy _ _ ?_
    have hbits : Format.binary64.mantissaBits = 53 := rfl
    have hplaces : n.log2 ≤ 63 := log2_le_of_lt h
    have := log2_shiftLeft_le n 53
    simp only [hbits, Int.toNat_zero, Nat.pow_zero, Nat.mul_one]
    omega

/-- Ten to a power is at least one. When it is too large it is infinite. -/
theorem atLeastOne_ofScientific_one (n : Nat) : AtLeastOne (Float.ofScientific 1 false n) := by
  by_cases hfast : n ≤ 22
  · have htable : ∀ n ≤ 22, AtLeastOne (Float.ofScientific 1 false n) := by decide
    exact htable n hfast
  · have hslow : ¬(1 < 2 ^ 53 ∧ n ≤ 22) := fun h => hfast h.2
    have hscientific : Float.ofScientific 1 false n = .ofModel (.ofScientific 1 n) := by
      simp only [Float.ofScientific, hslow, dite_false, Bool.false_eq_true, if_false]
      rfl
    rw [hscientific]
    constructor
    change OneLe (Float.Model.pack (UnpackedFloat.ofScientific .binary64 1 n)).unpack
    by_cases hlarge : (n : Int) > 2 ^ Format.binary64.exponentBits
    · simp only [UnpackedFloat.ofScientific, Nat.one_ne_zero, dite_false, hlarge, if_true]
      decide
    · have hsmall : ¬(n : Int) < -((2 ^ Format.binary64.exponentBits : Int) + Nat.log2 1) := by
        omega
      have hbits : Format.binary64.mantissaBits = 53 := rfl
      have hpower : 0 < 10 ^ n := Nat.pow_pos (by decide)
      have hplaces : 53 ≤ (1 <<< 53 * 10 ^ n).log2 :=
        (Nat.le_log2 (Nat.ne_of_gt (Nat.mul_pos (by decide) hpower))).2
          (Nat.le_mul_of_pos_right _ hpower)
      refine oneLe_unpack_pack ?_
      simp only [UnpackedFloat.ofScientific, Nat.one_ne_zero, hlarge, hsmall, dite_false, if_false,
        Int.natCast_nonneg, if_true, UnpackedFloat.mul, hbits, Int.toNat_natCast]
      exact isFull_roundWithAccuracy _ _ (by omega) (by omega)
theorem isFinite_ofNat (h : n < 2 ^ 64) : (Float.ofNat n).isFinite :=
  (fits_ofNat h).isFinite (by decide)

theorem fits_ofInt {i : Int} (h : i.natAbs < 2 ^ 64) : Fits 169 (Float.ofInt i) := by
  cases i with
  | ofNat n => exact fits_ofNat h
  | negSucc n => exact (fits_ofNat h).neg (by decide)

theorem isFinite_ofInt {i : Int} (h : i.natAbs < 2 ^ 64) : (Float.ofInt i).isFinite :=
  (fits_ofInt h).isFinite (by decide)

theorem isFinite_ofCount (n : Nat) : (ofCount n).isFinite :=
  (fits_toFloat _).isFinite (by decide)

end Formulary.Number
