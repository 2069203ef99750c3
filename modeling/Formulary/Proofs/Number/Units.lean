import Mathlib
import Formulary.Proofs.Finite.Magnitude

/-!
# Doubles in units of the least one

Doubles are compared as they are taken apart. Only what is no number has no order.

Every finite double is a whole multiple of the least positive one. Counted in these units, doubles
are compared like whole numbers, and what is packed stays finite as long as its count of units is
below that of `2 ^ 1024`.

## Main definitions

* `unitsOf`, `units` : how many of the least positive double an unpacked double is, or a double;
* `IsCanonical` : the form in which a finite double is unpacked, however large it is.

## Main statements

* `le_iff_not_isNaN_and_not_lt` : numbers are in order unless the second one is smaller;
* `lt_iff_units_lt` : the order of doubles is the order of their units;
* `unpack_pack` : a canonical double that is not too large is unpacked as it was packed.
-/
namespace Formulary.Number

/-! ### The order of doubles -/

open Float.Model (UnpackedFloat)

theorem compare_swap (x y : UnpackedFloat) :
    y.compare x = (x.compare y).map Ordering.swap := by
  fun_cases UnpackedFloat.compare x y with
  | case1 => cases y <;> rfl
  | case3 s t => cases s <;> cases t <;> rfl
  | case13 m e _ m' e' | case16 m e _ m' e' =>
    have he : compare e' e = (compare e e').swap := Std.OrientedOrd.eq_swap
    have hm : compare m' m = (compare m m').swap := Std.OrientedOrd.eq_swap
    simp [UnpackedFloat.compare, Ordering.swap_then, he, hm]
  | _ => simp_all [UnpackedFloat.compare]

/-- Only what is no number has no order. -/
theorem compare_eq_none_iff {x y : UnpackedFloat} :
    x.compare y = none ↔ x.isNaN ∨ y.isNaN := by
  fun_cases UnpackedFloat.compare x y <;> simp_all [UnpackedFloat.isNaN]

theorem le_iff_compare {x y : Float} :
    x ≤ y ↔ (x.toModel.unpack.compare y.toModel.unpack).any Ordering.isLE := by
  change decide _ = true ↔ _
  rw [decide_eq_true_iff]
  rfl

theorem lt_iff_compare {x y : Float} :
    x < y ↔ x.toModel.unpack.compare y.toModel.unpack = some .lt := by
  change decide _ = true ↔ _
  rw [decide_eq_true_iff]
  exact beq_iff_eq

theorem beq_iff_compare {x y : Float} :
    x == y ↔ x.toModel.unpack.compare y.toModel.unpack = some .eq := by
  change (x.toModel.unpack.compare y.toModel.unpack == some .eq) = true ↔ _
  exact beq_iff_eq

theorem compare_self {x : UnpackedFloat} (h : ¬ x.isNaN) : x.compare x = some .eq := by
  cases hx : x.compare x with
  | none => simp_all [compare_eq_none_iff]
  | some o =>
    have hswap := compare_swap x x
    rw [hx] at hswap
    cases o with
    | eq => rfl
    | lt | gt => cases hswap

/-- What is no number equals nothing. -/
theorem not_isNaN_of_beq {x y : Float} (h : x == y) : ¬ x.isNaN ∧ ¬ y.isNaN := by
  rw [beq_iff_compare] at h
  rw [← not_or]
  intro hnan
  have hnone := compare_eq_none_iff.2 hnan
  rw [h] at hnone
  cases hnone

theorem beq_self_iff {x : Float} : x == x ↔ ¬ x.isNaN :=
  ⟨fun h => (not_isNaN_of_beq h).1, fun h => beq_iff_compare.2 (compare_self h)⟩

theorem not_lt_of_isNaN {x y : Float} (h : x.isNaN ∨ y.isNaN) : ¬ x < y := by
  have hnone : x.toModel.unpack.compare y.toModel.unpack = none := compare_eq_none_iff.2 h
  simp [lt_iff_compare, hnone]

/-- Two numbers are in order unless the second one is smaller. -/
theorem le_iff_not_isNaN_and_not_lt {x y : Float} :
    x ≤ y ↔ ¬ (x.isNaN ∨ y.isNaN) ∧ ¬ y < x := by
  have hnone := compare_eq_none_iff (x := x.toModel.unpack) (y := y.toModel.unpack)
  change _ ↔ ¬ (x.toModel.unpack.isNaN ∨ y.toModel.unpack.isNaN) ∧ _
  rw [le_iff_compare, lt_iff_compare, compare_swap x.toModel.unpack, ← hnone]
  cases x.toModel.unpack.compare y.toModel.unpack with
  | none => simp
  | some o => cases o <;> simp

end Formulary.Number

namespace Formulary.Number

/-! ### Units -/

open Float.Model Float.Model.UnpackedFloat

/-- How many units `m * 2 ^ e` is. -/
def magnitude (m : Nat) (e : Int) : Nat := m * 2 ^ (e + 1074).toNat

def unitsOf : UnpackedFloat → Int
  | .finite s m e _ => s.apply (magnitude m e)
  | .zero _ | .infinity _ | .notANumber => 0

def units (x : Float) : Int := unitsOf x.toModel.unpack

/-- The first count of units that is too large, that of `2 ^ 1024`. -/
def tooManyUnits : Nat := magnitude (2 ^ 52) 972

/-- The form in which a finite double is unpacked: the mantissa has 53 places, or fewer when the
exponent is the least one. The exponent may be too large to be packed. -/
def IsCanonical : UnpackedFloat → Prop
  | .zero _ => True
  | .finite _ m e _ => m < 2 ^ 53 ∧ -1074 ≤ e ∧ (2 ^ 52 ≤ m ∨ e = -1074)
  | .infinity _ | .notANumber => False

variable {m n : Nat} {e f : Int} {s : Sign} {u : UnpackedFloat} {x y : Float}

theorem natAbs_apply (s : Sign) (n : Nat) : (s.apply n).natAbs = n := by
  cases s <;> simp [Sign.apply]

theorem lt_of_log2_le {k : Nat} (h : m.log2 ≤ k) : m < 2 ^ (k + 1) :=
  Nat.lt_of_lt_of_le Nat.lt_log2_self (Nat.pow_le_pow_right (by decide) (by omega))

theorem isCanonical_unpack (h : x.isFinite) : IsCanonical x.toModel.unpack := by
  have hexponent : HasExponent _ x.toModel.unpack := hasExponent_unpack x.toModel.toBits.toBitVec
  have hfinite : x.toModel.unpack.isFinite := h
  revert hexponent hfinite
  cases x.toModel.unpack with
  | notANumber | infinity s => exact fun _ h => nomatch h
  | zero s => exact fun _ _ => trivial
  | finite s m e hm =>
    rintro ⟨hplaces, he, -, hfull⟩ -
    refine ⟨lt_of_log2_le hplaces, by omega, ?_⟩
    obtain hzero | hpos := Nat.eq_zero_or_pos (@unpackExponent .binary64 x.toModel.toBits.toBitVec).toNat
    · exact .inr (by omega)
    · exact .inl ((Nat.le_log2 (Nat.ne_of_gt hm)).1 (Nat.le_of_eq (hfull hpos).symm))

/-! ### Comparing units -/

/-- Of two canonical magnitudes with different exponents, that with the smaller one is smaller. -/
theorem magnitude_lt_of_exponent_lt (hm : m < 2 ^ 53) (he : -1074 ≤ e)
    (hn : 2 ^ 52 ≤ n ∨ f = -1074) (h : e < f) : magnitude m e < magnitude n f := by
  obtain ⟨k, hk⟩ : ∃ k, (f + 1074).toNat = (e + 1074).toNat + k + 1 :=
    ⟨(f - e).toNat - 1, by omega⟩
  calc m * 2 ^ (e + 1074).toNat < 2 ^ 53 * 2 ^ (e + 1074).toNat :=
        Nat.mul_lt_mul_of_pos_right hm (Nat.two_pow_pos _)
    _ ≤ 2 ^ 53 * 2 ^ ((e + 1074).toNat + k) :=
        Nat.mul_le_mul_left _ (Nat.pow_le_pow_right (by decide) (by omega))
    _ = 2 ^ 52 * 2 ^ (f + 1074).toNat := by rw [hk, Nat.pow_succ]; ring
    _ ≤ n * 2 ^ (f + 1074).toNat := Nat.mul_le_mul_right _ (by omega)

/-- Canonical magnitudes are compared by their exponents first, and then by their mantissas. -/
theorem compare_magnitude (hm : m < 2 ^ 53) (he : -1074 ≤ e) (hm' : 2 ^ 52 ≤ m ∨ e = -1074)
    (hn : n < 2 ^ 53) (hf : -1074 ≤ f) (hn' : 2 ^ 52 ≤ n ∨ f = -1074) :
    (compare e f).then (compare m n) = compare (magnitude m e) (magnitude n f) := by
  rcases Int.lt_trichotomy e f with h | rfl | h
  · have hlt := magnitude_lt_of_exponent_lt hm he hn' h
    rw [Int.compare_eq_lt.2 h, Nat.compare_eq_lt.2 hlt]
    rfl
  · have hpos : 0 < 2 ^ (e + 1074).toNat := Nat.two_pow_pos _
    simp only [Std.ReflCmp.compare_self, Ordering.then, magnitude]
    rcases Nat.lt_trichotomy m n with h | rfl | h
    · rw [Nat.compare_eq_lt.2 h, Nat.compare_eq_lt.2 (Nat.mul_lt_mul_of_pos_right h hpos)]
    · simp
    · rw [Nat.compare_eq_gt.2 h, Nat.compare_eq_gt.2 (Nat.mul_lt_mul_of_pos_right h hpos)]
  · have hlt := magnitude_lt_of_exponent_lt hn hf hm' h
    rw [Int.compare_eq_gt.2 h, Nat.compare_eq_gt.2 hlt]
    rfl

theorem magnitude_pos (hm : 0 < m) (e : Int) : 0 < magnitude m e :=
  Nat.mul_pos hm (Nat.two_pow_pos _)

theorem compare_natCast (m n : Nat) : compare (m : Int) n = compare m n := by
  rcases Nat.lt_trichotomy m n with h | rfl | h
  · rw [Nat.compare_eq_lt.2 h, Int.compare_eq_lt.2 (by omega)]
  · simp
  · rw [Nat.compare_eq_gt.2 h, Int.compare_eq_gt.2 (by omega)]

theorem compare_neg_natCast (m n : Nat) : compare (-(m : Int)) (-n) = (compare m n).swap := by
  rw [Nat.compare_swap, ← compare_natCast]
  rcases Nat.lt_trichotomy m n with h | rfl | h
  · rw [Int.compare_eq_gt.2 (by omega), Int.compare_eq_gt.2 (by omega)]
  · simp
  · rw [Int.compare_eq_lt.2 (by omega), Int.compare_eq_lt.2 (by omega)]

/-- Unpacked doubles are compared like their units. -/
theorem compare_unitsOf {u v : UnpackedFloat} (hu : IsCanonical u) (hv : IsCanonical v) :
    u.compare v = some (compare (unitsOf u) (unitsOf v)) := by
  cases u with
  | notANumber | infinity s => exact hu.elim
  | zero s =>
    cases v with
    | notANumber | infinity t => exact hv.elim
    | zero t => rfl
    | finite t n f hn =>
      have hpos := magnitude_pos hn f
      cases t <;> simp only [UnpackedFloat.compare, unitsOf, Sign.apply] <;> symm
      · exact congrArg some (Int.compare_eq_gt.2 (by omega))
      · exact congrArg some (Int.compare_eq_lt.2 (by omega))
  | finite s m e hm =>
    have hpos := magnitude_pos hm e
    cases v with
    | notANumber | infinity t => exact hv.elim
    | zero t =>
      cases s <;> simp only [UnpackedFloat.compare, unitsOf, Sign.apply] <;> symm
      · exact congrArg some (Int.compare_eq_lt.2 (by omega))
      · exact congrArg some (Int.compare_eq_gt.2 (by omega))
    | finite t n f hn =>
      have hpos' := magnitude_pos hn f
      obtain ⟨hm, he, hm'⟩ := hu
      obtain ⟨hn, hf, hn'⟩ := hv
      have hcompare := compare_magnitude hm he hm' hn hf hn'
      cases s <;> cases t <;> simp only [UnpackedFloat.compare, unitsOf, Sign.apply, hcompare]
      · rw [compare_neg_natCast]
      · exact congrArg some (Int.compare_eq_lt.2 (by omega)).symm
      · exact congrArg some (Int.compare_eq_gt.2 (by omega)).symm
      · rw [compare_natCast]

/-- The order of finite doubles is the order of their units. -/
theorem lt_iff_units_lt (hx : x.isFinite) (hy : y.isFinite) : x < y ↔ units x < units y := by
  rw [lt_iff_compare, compare_unitsOf (isCanonical_unpack hx) (isCanonical_unpack hy),
    Option.some_inj, Int.compare_eq_lt]
  rfl

/-! ### Packing -/

/-- There are too many units as soon as the exponent is too large. -/
theorem magnitude_lt_tooManyUnits_iff (hm : m < 2 ^ 53) (he : -1074 ≤ e)
    (hm' : 2 ^ 52 ≤ m ∨ e = -1074) : magnitude m e < tooManyUnits ↔ e ≤ 971 := by
  constructor
  · intro h
    by_contra hlarge
    refine absurd h (Nat.not_lt.2 (Nat.mul_le_mul (by omega) ?_))
    exact Nat.pow_le_pow_right (by decide) (by omega)
  · intro h
    exact magnitude_lt_of_exponent_lt hm he (.inl (Nat.le_refl _)) (by omega)

theorem toNat_one_append (v : BitVec 52) : (1#1 ++ v).toNat = 2 ^ 52 + v.toNat := by
  rw [BitVec.toNat_append, ← Nat.shiftLeft_add_eq_or_of_lt v.isLt]
  rfl

theorem unpack_packComponents (s : Sign) (exponent : BitVec 11) (mantissa : BitVec 52)
    (hlargest : exponent.toNat < 2047) :
    UnpackedFloat.unpack .binary64 (packComponents .binary64 s exponent mantissa) =
      if exponent.toNat = 0 then
        if h : mantissa.toNat = 0 then .zero s
        else .finite s mantissa.toNat (-1074) (Nat.pos_of_ne_zero h)
      else .finite s (2 ^ 52 + mantissa.toNat) ((exponent.toNat : Int) - 1075) (by omega) := by
  have hbias : Format.binary64.exponentBias = 1023 := rfl
  have hwidth : Format.binary64.mantissaBitsWithoutImplicit = 52 := rfl
  have hne : exponent ≠ -1#11 := fun h => by simp [h] at hlargest
  have hzero : exponent = 0#11 ↔ exponent.toNat = 0 := by simp [BitVec.toNat_eq]
  have hzero' : mantissa = 0#52 ↔ mantissa.toNat = 0 := by simp [BitVec.toNat_eq]
  simp only [UnpackedFloat.unpack, unpackExponent_packComponents, unpackMantissa_packComponents,
    unpackSign_packComponents, Sign.ofBitVec_toBitVec, hbias]
  rw [if_neg hne]
  by_cases he : exponent.toNat = 0
  · rw [if_pos (hzero.2 he), if_pos he]
    by_cases hm : mantissa.toNat = 0
    · rw [dif_pos (hzero'.2 hm), dif_pos hm]
    · rw [dif_neg (mt hzero'.1 hm), dif_neg hm]
      simp only [UnpackedFloat.finite.injEq, true_and]
      omega
  · rw [if_neg (mt hzero.1 he), if_neg he]
    have hfull := toNat_one_append mantissa
    simp only [UnpackedFloat.finite.injEq, true_and]
    exact ⟨hfull, by omega⟩

/-- A canonical mantissa with an exponent that is not too large is unpacked as it was packed. -/
theorem unpack_pack_finite {hpos : 0 < m} (hm : m < 2 ^ 53) (he : -1074 ≤ e)
    (hm' : 2 ^ 52 ≤ m ∨ e = -1074) (hlarge : e ≤ 971) :
    UnpackedFloat.unpack .binary64 (UnpackedFloat.pack .binary64 (.finite s m e hpos)) =
      .finite s m e hpos := by
  have hbias : Format.binary64.exponentBias = 1023 := rfl
  have hbits : Format.binary64.mantissaBits = 53 := rfl
  have hfits : ¬2 ^ 11 ≤ (e + (1023 : Nat) + (52 : Nat)).toNat + 1 := by omega
  simp only [UnpackedFloat.pack, hbias, hbits, if_neg hfits]
  by_cases hfull : 2 ^ 52 ≤ m
  · have hlog : m.log2 = 52 := (Nat.log2_eq_iff (Nat.ne_of_gt hpos)).2 ⟨hfull, hm⟩
    have hexponent : (BitVec.ofNat 11 (e + (1023 : Nat) + (52 : Nat)).toNat).toNat =
        (e + 1075).toNat := by
      rw [BitVec.toNat_ofNat, Nat.mod_eq_of_lt (by omega)]
      omega
    have hmantissa : (BitVec.ofNat 52 m).toNat = m - 2 ^ 52 := by
      rw [BitVec.toNat_ofNat]
      omega
    rw [if_pos (by omega), unpack_packComponents _ _ _ (by omega), if_neg (by omega)]
    simp only [hexponent, hmantissa, UnpackedFloat.finite.injEq, true_and]
    omega
  · have hlog : m.log2 < 52 := (Nat.log2_lt (Nat.ne_of_gt hpos)).2 (Nat.not_le.1 hfull)
    have hmantissa : (BitVec.ofNat 52 m).toNat = m := by
      rw [BitVec.toNat_ofNat]
      omega
    rw [if_neg (by omega), unpack_packComponents _ _ _ (by decide), if_pos (by rfl),
      dif_neg (by omega)]
    simp only [hmantissa, UnpackedFloat.finite.injEq, true_and]
    omega

/-- What is canonical and not too large is unpacked as it was packed. -/
theorem unpack_pack (hu : IsCanonical u) (h : (unitsOf u).natAbs < tooManyUnits) :
    (Float.Model.pack u).unpack = u := by
  cases u with
  | notANumber | infinity s => exact hu.elim
  | zero s => cases s <;> rfl
  | finite s m e hpos =>
    obtain ⟨hm, he, hm'⟩ := hu
    rw [unitsOf, natAbs_apply, magnitude_lt_tooManyUnits_iff hm he hm'] at h
    exact unpack_pack_finite hm he hm' h

/-- What is too large is packed as an infinity. -/
theorem isFinite_unpack_pack_iff (hu : IsCanonical u) :
    (Float.Model.pack u).unpack.isFinite ↔ (unitsOf u).natAbs < tooManyUnits := by
  constructor
  · intro h
    cases u with
    | notANumber | infinity s => exact hu.elim
    | zero s => exact magnitude_pos (by decide) _
    | finite s m e hpos =>
      obtain ⟨hm, he, hm'⟩ := hu
      rw [unitsOf, natAbs_apply, magnitude_lt_tooManyUnits_iff hm he hm']
      by_contra hlarge
      have hbias : Format.binary64.exponentBias = 1023 := rfl
      have hover : 2 ^ 11 ≤ (e + (1023 : Nat) + (52 : Nat)).toNat + 1 := by omega
      have hpack : UnpackedFloat.pack .binary64 (.finite s m e hpos) =
          packedInfinity .binary64 s := if_pos hover
      have hinfinite : (UnpackedFloat.unpack .binary64 (packedInfinity .binary64 s)).isFinite =
          false := by cases s <;> rfl
      rw [← hpack] at hinfinite
      exact Bool.false_ne_true (hinfinite.symm.trans h)
  · intro h
    rw [unpack_pack hu h]
    cases u with
    | notANumber | infinity s => exact hu.elim
    | zero s | finite s m e hpos => rfl

end Formulary.Number
