import Formulary.Proofs.Number.Units

/-!
# Rounded sums, differences and halves

A sum of two doubles is a whole number of units, of which 53 places are kept. No double lies strictly
between that number and the one it is rounded to, so a sum that is at least some double is still at
least that double when it is rounded.

## Main definitions

* `HasPlaces` : the counts of units that 53 places can write;
* `RoundsTo`, `Rounds` : a count of units, rounded to 53 places, without and with a sign;
* `lostPlaces` : the places that a mantissa loses when it is rounded.

## Main statements

* `Rounds.le_of_le`, `Rounds.ge_of_ge` : no count that 53 places can write is passed in rounding;
* `RoundsTo.lt_of_near` : a count that is not far above the largest double does not get too large;
* `rounds_add` : the units of a sum are rounded;
* `unitsOf_div_two` : the half of a double is at most half a unit off.
-/
namespace Formulary.Number

open Float.Model Float.Model.UnpackedFloat

/-! ### Whole numbers rounded to 53 places -/

/-- A whole number that 53 places can write. -/
def HasPlaces (t : Nat) : Prop := ∃ a j, t = a * 2 ^ j ∧ a < 2 ^ 53

/-- `w` rounded to the multiple `r` of `2 ^ n` below or above it. Less than half of `2 ^ n` is cut. -/
def RoundsTo (w r : Nat) : Prop :=
  ∃ n q, r = q * 2 ^ n ∧ (w / 2 ^ n ≤ q ∧ q ≤ w / 2 ^ n + 1) ∧
    (2 * (w % 2 ^ n) < 2 ^ n → q = w / 2 ^ n) ∧
    (2 ^ n ∣ w ∨ 2 ^ 52 ≤ w / 2 ^ n) ∧ w / 2 ^ n < 2 ^ 53

variable {t w r m n q k : Nat} {e f : Int} {s : Sign} {u : UnpackedFloat} {x y : Float}

theorem hasPlaces_zero : HasPlaces 0 := ⟨0, 0, rfl, by decide⟩

/-- A number with 53 places that is as large as 53 places of `2 ^ n` is a multiple of `2 ^ n`. -/
theorem HasPlaces.dvd (ht : HasPlaces t) (h : 2 ^ 52 * 2 ^ n < t) : 2 ^ n ∣ t := by
  obtain ⟨a, j, rfl, ha⟩ := ht
  have hlt : 2 ^ (52 + n) < 2 ^ (53 + j) := by
    rw [Nat.pow_add, Nat.pow_add]
    exact Nat.lt_of_lt_of_le h (Nat.mul_le_mul_right _ (Nat.le_of_lt ha))
  have hj : n ≤ j := by
    have := (Nat.pow_lt_pow_iff_right (by decide)).1 hlt
    omega
  exact Nat.dvd_mul_left_of_dvd (Nat.pow_dvd_pow 2 hj) a

theorem RoundsTo.eq_of_dvd (hn : 2 ^ n ∣ w) (hq : 2 * (w % 2 ^ n) < 2 ^ n → q = w / 2 ^ n) :
    q * 2 ^ n = w := by
  have hzero : w % 2 ^ n = 0 := Nat.mod_eq_zero_of_dvd hn
  rw [hq (by rw [hzero]; exact Nat.two_pow_pos n)]
  exact Nat.div_mul_cancel hn

/-- What is written with 53 places and not above a number is not above what it is rounded to. -/
theorem RoundsTo.le_of_le (h : RoundsTo w r) (ht : HasPlaces t) (hle : t ≤ w) : t ≤ r := by
  obtain ⟨n, q, rfl, ⟨hlow, -⟩, hcut, hdvd | hfull, -⟩ := h
  · rwa [RoundsTo.eq_of_dvd hdvd hcut]
  · by_cases hsmall : t ≤ 2 ^ 52 * 2 ^ n
    · exact Nat.le_trans hsmall (Nat.mul_le_mul_right _ (Nat.le_trans hfull hlow))
    · obtain ⟨b, rfl⟩ := ht.dvd (Nat.not_le.1 hsmall)
      have hb : b ≤ w / 2 ^ n := by
        rw [Nat.le_div_iff_mul_le (Nat.two_pow_pos n), Nat.mul_comm]
        exact hle
      rw [Nat.mul_comm]
      exact Nat.mul_le_mul_right _ (Nat.le_trans hb hlow)

/-- What is written with 53 places and not below a number is not below what it is rounded to. -/
theorem RoundsTo.ge_of_ge (h : RoundsTo w r) (ht : HasPlaces t) (hle : w ≤ t) : r ≤ t := by
  obtain ⟨n, q, rfl, ⟨-, hhigh⟩, hcut, hfull, -⟩ := h
  by_cases hdvd : 2 ^ n ∣ w
  · rwa [RoundsTo.eq_of_dvd hdvd hcut]
  · have hfull := hfull.resolve_left hdvd
    have hlt : w / 2 ^ n * 2 ^ n < w :=
      Nat.lt_of_le_of_ne (Nat.div_mul_le_self ..) fun h => hdvd ⟨w / 2 ^ n, by rw [Nat.mul_comm, h]⟩
    have hlarge : 2 ^ 52 * 2 ^ n < t :=
      Nat.lt_of_le_of_lt (Nat.mul_le_mul_right _ hfull) (Nat.lt_of_lt_of_le hlt hle)
    obtain ⟨b, rfl⟩ := ht.dvd hlarge
    have hb : w / 2 ^ n < b := by
      rw [Nat.mul_comm (2 ^ n)] at hle
      exact Nat.lt_of_mul_lt_mul_right (Nat.lt_of_lt_of_le hlt hle)
    rw [Nat.mul_comm (2 ^ n)]
    exact Nat.mul_le_mul_right _ (by omega)

/-- What is less than half a place above the largest number with 53 places up to `2 ^ n` does not reach
the next one. -/
theorem RoundsTo.lt_of_near {d : Nat} (h : RoundsTo w r) (hd : 2 * d < 2 ^ n)
    (hw : w ≤ (2 ^ 53 - 1) * 2 ^ n + d) : r < 2 ^ 53 * 2 ^ n := by
  have hnext : 2 ^ 53 * 2 ^ n = (2 ^ 53 - 1) * 2 ^ n + 2 ^ n := by omega
  obtain ⟨k, q, rfl, ⟨-, hhigh⟩, hcut, hfull, hlt⟩ := h
  by_cases hdvd : 2 ^ k ∣ w
  · rw [RoundsTo.eq_of_dvd hdvd hcut]
    omega
  · by_contra hlarge
    have hfull := hfull.resolve_left hdvd
    have hmul := Nat.div_mul_le_self w (2 ^ k)
    have hq : q ≤ 2 ^ 53 := by omega
    -- Only the place `2 ^ n` is left for a number between the two.
    have hnk : n ≤ k := by
      have hle : 2 ^ 53 * 2 ^ n ≤ 2 ^ 53 * 2 ^ k :=
        Nat.le_trans (Nat.not_lt.1 hlarge) (Nat.mul_le_mul_right _ hq)
      exact (Nat.pow_le_pow_iff_right (by decide)).1 (Nat.le_of_mul_le_mul_left hle (by decide))
    have hkn : k ≤ n := by
      have hle : 2 ^ (52 + k) < 2 ^ (53 + n) := by
        rw [Nat.pow_add, Nat.pow_add]
        have := Nat.mul_le_mul_right (2 ^ k) hfull
        omega
      have := (Nat.pow_lt_pow_iff_right (by decide)).1 hle
      omega
    obtain rfl := Nat.le_antisymm hnk hkn
    have hq' : 2 ^ 53 ≤ q := Nat.le_of_mul_le_mul_right (Nat.not_lt.1 hlarge) (Nat.two_pow_pos n)
    have hquotient : w / 2 ^ n = 2 ^ 53 - 1 := by omega
    have hmod := Nat.div_add_mod' w (2 ^ n)
    rw [hquotient] at hmod
    have := hcut (by omega)
    omega

/-! ### Signed numbers -/

/-- `w` rounded to 53 places, with its sign. -/
def Rounds (w r : Int) : Prop := ∃ n : Nat, RoundsTo w.natAbs n ∧ r = w.sign * n

theorem Rounds.neg {w r : Int} (h : Rounds w r) : Rounds (-w) (-r) := by
  obtain ⟨n, hn, rfl⟩ := h
  exact ⟨n, by rwa [Int.natAbs_neg], by rw [Int.sign_neg, Int.neg_mul]⟩

theorem Rounds.natAbs {w r : Int} (h : Rounds w r) : RoundsTo w.natAbs r.natAbs := by
  obtain ⟨n, hn, rfl⟩ := h
  by_cases hw : w = 0
  · subst hw
    have hzero : n = 0 :=
      Nat.le_zero.1 (hn.ge_of_ge hasPlaces_zero (Nat.le_refl 0))
    simpa [hzero] using hn
  · rwa [Int.natAbs_mul, Int.natAbs_sign_of_ne_zero hw, Int.natAbs_natCast, Nat.one_mul]

/-- What is not above a number, and has 53 places, is not above what it is rounded to. -/
theorem Rounds.le_of_le {w r t : Int} (h : Rounds w r) (ht : HasPlaces t.natAbs) (hle : t ≤ w) :
    t ≤ r := by
  obtain ⟨n, hn, rfl⟩ := h
  rcases Int.lt_trichotomy w 0 with hw | rfl | hw
  · rw [Int.sign_eq_neg_one_of_neg hw]
    have := hn.ge_of_ge ht (by omega)
    omega
  · simpa using hle
  · rw [Int.sign_eq_one_of_pos hw]
    by_cases hneg : t ≤ 0
    · omega
    · have := hn.le_of_le ht (by omega)
      omega

theorem Rounds.ge_of_ge {w r t : Int} (h : Rounds w r) (ht : HasPlaces t.natAbs) (hle : w ≤ t) :
    r ≤ t := by
  have := h.neg.le_of_le (t := -t) (by rwa [Int.natAbs_neg]) (by omega)
  omega

/-! ### Rounding mantissas -/

/-- A cut of less than half a place is not rounded up. -/
theorem roundedMantissa_shiftRight_of_lt (h : 2 * (m % 2 ^ k) < 2 ^ k) :
    (ExtendedMantissa.ofMantissaAndAccuracy m .exact >>> k).roundedMantissa = m / 2 ^ k := by
  have hmantissa (k : Nat) :
      (ExtendedMantissa.ofMantissaAndAccuracy m .exact >>> k).mantissa = m / 2 ^ k := by
    rw [mantissa_shiftRight, mantissa_ofMantissaAndAccuracy]
  cases k with
  | zero => exact (Nat.div_one m).symm
  | succ k =>
    have heven : m / 2 ^ k % 2 = 0 := by
      rw [Nat.mod_pow_succ] at h
      by_contra hodd
      have hone : m / 2 ^ k % 2 = 1 := by omega
      rw [hone, Nat.mul_one, Nat.pow_succ] at h
      omega
    have hround :
        (ExtendedMantissa.ofMantissaAndAccuracy m .exact >>> (k + 1)).roundBit = false := by
      change ((ExtendedMantissa.ofMantissaAndAccuracy m .exact >>> k).mantissa % 2 != 0) = false
      rw [hmantissa, heven]
      rfl
    rw [ExtendedMantissa.roundedMantissa, hmantissa]
    cases hem : ExtendedMantissa.ofMantissaAndAccuracy m .exact >>> (k + 1) with
    | mk mantissa roundBit stickyBit =>
      rw [hem] at hround
      subst hround
      cases stickyBit <;> rfl

/-- The places that a mantissa loses, so that 53 are left, or as many as the least exponent leaves. -/
def lostPlaces (m : Nat) (e : Int) : Nat := (max ((m.log2 : Int) + 1 + e - 53) (-1074) - e).toNat

/-- A mantissa that was rounded up to one place too many loses this place again, which is zero. -/
theorem lostPlaces_rounded (hq : q ≤ 2 ^ 53) (he : -1074 ≤ e) (hfull : 2 ^ 52 ≤ q ∨ e = -1074) :
    q / 2 ^ lostPlaces q e < 2 ^ 53 ∧
      (2 ^ 52 ≤ q / 2 ^ lostPlaces q e ∨ e + lostPlaces q e = -1074) ∧
      magnitude (q / 2 ^ lostPlaces q e) (e + lostPlaces q e) = magnitude q e := by
  unfold lostPlaces
  rcases Nat.lt_or_eq_of_le hq with hlt | rfl
  · have hlog : q.log2 ≤ 52 := log2_le_of_lt hlt
    have hkept : (max ((q.log2 : Int) + 1 + e - 53) (-1074) - e).toNat = 0 := by omega
    simpa [hkept] using ⟨hlt, hfull⟩
  · have hlog : (2 ^ 53 : Nat).log2 = 53 := by decide
    have hlost : (max (((2 ^ 53 : Nat).log2 : Int) + 1 + e - 53) (-1074) - e).toNat = 1 := by omega
    have hexponent : (e + 1 + 1074).toNat = (e + 1074).toNat + 1 := by omega
    rw [hlost]
    refine ⟨by decide, .inl (by decide), ?_⟩
    simp only [magnitude, Int.natCast_one, hexponent, Nat.pow_succ]
    omega

/-- A mantissa that is rounded to 53 places, or to the least exponent, is canonical. -/
theorem isCanonical_roundWithAccuracy (s : Sign) (accuracy : Accuracy)
    (he : -1074 ≤ e + lostPlaces m e) (hlt : m / 2 ^ lostPlaces m e < 2 ^ 53)
    (hfull : 2 ^ 52 ≤ m / 2 ^ lostPlaces m e ∨ e + lostPlaces m e = -1074) :
    IsCanonical (roundWithAccuracy .binary64 s m e accuracy) ∧
      unitsOf (roundWithAccuracy .binary64 s m e accuracy) =
        s.apply (magnitude (ExtendedMantissa.ofMantissaAndAccuracy m accuracy >>>
          lostPlaces m e).roundedMantissa (e + lostPlaces m e)) := by
  have hlow := le_roundedMantissa_shiftRight m accuracy (lostPlaces m e)
  have hhigh := roundedMantissa_shiftRight_le m accuracy (lostPlaces m e)
  have hlost (m : Nat) (e : Int) :
      (max ((m.log2 : Int) + 1 + e - 53) (-1074) - e).toNat = lostPlaces m e := rfl
  unfold roundWithAccuracy shiftToTargetExponent shiftToExponent
  simp only [targetExponent_binary64, totalExponent, mantissa_shiftRight,
    mantissa_ofMantissaAndAccuracy, hlost]
  obtain ⟨hplaces, hleast, hsame⟩ :=
    lostPlaces_rounded (Nat.le_trans hhigh hlt) he (hfull.imp_left (Nat.le_trans · hlow))
  rw [← hsame]
  split
  · rename_i hzero
    rw [hzero]
    exact ⟨trivial, by cases s <;> simp [unitsOf, magnitude, Sign.apply]⟩
  · exact ⟨⟨hplaces, by omega, hleast⟩, rfl⟩

/-- A mantissa that is cut to 53 places, or not cut at all, has its units rounded. -/
theorem roundsTo_shiftRight (he : -1074 ≤ e) (hlt : m / 2 ^ k < 2 ^ 53)
    (hfull : k = 0 ∨ 2 ^ 52 ≤ m / 2 ^ k) :
    RoundsTo (magnitude m e) (magnitude
      (ExtendedMantissa.ofMantissaAndAccuracy m .exact >>> k).roundedMantissa (e + k)) := by
  have hlow := le_roundedMantissa_shiftRight m .exact k
  have hhigh := roundedMantissa_shiftRight_le m .exact k
  have hcut := roundedMantissa_shiftRight_of_lt (m := m) (k := k)
  generalize (ExtendedMantissa.ofMantissaAndAccuracy m .exact >>> k).roundedMantissa = q
    at hlow hhigh hcut ⊢
  have hexponent : (e + k + 1074).toNat = k + (e + 1074).toNat := by omega
  have hdiv : magnitude m e / 2 ^ (k + (e + 1074).toNat) = m / 2 ^ k := by
    rw [magnitude, Nat.pow_add, Nat.mul_div_mul_right _ _ (Nat.two_pow_pos _)]
  have hmod : magnitude m e % 2 ^ (k + (e + 1074).toNat) = m % 2 ^ k * 2 ^ (e + 1074).toNat := by
    rw [magnitude, Nat.pow_add, Nat.mul_mod_mul_right]
  refine ⟨k + (e + 1074).toNat, q, ?_, ?_, ?_, ?_, ?_⟩
  · rw [magnitude, hexponent]
  · rw [hdiv]
    exact ⟨hlow, hhigh⟩
  · rw [hdiv, hmod, Nat.pow_add, ← Nat.mul_assoc]
    exact fun h => hcut (Nat.lt_of_mul_lt_mul_right h)
  · rw [hdiv]
    refine hfull.imp_left fun hzero => ?_
    rw [hzero, Nat.zero_add]
    exact Nat.dvd_mul_left ..
  · rwa [hdiv]

/-- The units of an exact mantissa are rounded. -/
theorem exists_roundWithAccuracy (s : Sign) (hm : 0 < m) (he : -1074 ≤ e)
    (hfull : 2 ^ 52 ≤ m ∨ e = -1074) :
    IsCanonical (roundWithAccuracy .binary64 s m e .exact) ∧
      ∃ r, RoundsTo (magnitude m e) r ∧
        unitsOf (roundWithAccuracy .binary64 s m e .exact) = s.apply r := by
  have hlost : lostPlaces m e = m.log2 - 52 := by
    unfold lostPlaces
    have hlog : 52 ≤ m.log2 ∨ e = -1074 := hfull.imp_left (Nat.le_log2 (Nat.ne_of_gt hm)).2
    omega
  have hlt : m / 2 ^ lostPlaces m e < 2 ^ 53 := by
    rw [hlost, Nat.div_lt_iff_lt_mul (Nat.two_pow_pos _), ← Nat.pow_add]
    exact Nat.lt_of_lt_of_le Nat.lt_log2_self (Nat.pow_le_pow_right (by decide) (by omega))
  have hquotient : lostPlaces m e = 0 ∨ 2 ^ 52 ≤ m / 2 ^ lostPlaces m e := by
    rw [hlost]
    refine (Nat.eq_zero_or_pos (m.log2 - 52)).imp_right fun hpos => ?_
    rw [Nat.le_div_iff_mul_le (Nat.two_pow_pos _), ← Nat.pow_add]
    exact (Nat.le_log2 (Nat.ne_of_gt hm)).1 (by omega)
  have hleast : 2 ^ 52 ≤ m / 2 ^ lostPlaces m e ∨ e + lostPlaces m e = -1074 := by
    rcases hquotient with hzero | hquotient
    · simpa [hzero] using hfull
    · exact .inl hquotient
  obtain ⟨hcanonical, hunits⟩ := isCanonical_roundWithAccuracy s .exact (by omega) hlt hleast
  exact ⟨hcanonical, _, roundsTo_shiftRight he hlt hquotient, hunits⟩

/-- At the least exponent no place is cut. -/
theorem isCanonical_roundWithAccuracy_least (s : Sign) (accuracy : Accuracy) (hm : m < 2 ^ 53) :
    IsCanonical (roundWithAccuracy .binary64 s m (-1074) accuracy) ∧
      unitsOf (roundWithAccuracy .binary64 s m (-1074) accuracy) =
        s.apply (accuracy.roundToNearestEven m) := by
  have hlost : lostPlaces m (-1074) = 0 := by
    have hlog : m.log2 ≤ 52 := log2_le_of_lt hm
    unfold lostPlaces
    omega
  obtain ⟨hcanonical, hunits⟩ := isCanonical_roundWithAccuracy s accuracy (m := m) (e := -1074)
    (by rw [hlost]; decide) (by rwa [hlost, Nat.pow_zero, Nat.div_one]) (.inr (by rw [hlost]; rfl))
  have hrounded : (ExtendedMantissa.ofMantissaAndAccuracy m accuracy >>> 0).roundedMantissa =
      accuracy.roundToNearestEven m := by
    rcases accuracy with _ | _ | _ | _ <;> rfl
  have hleast (n : Nat) : magnitude n (-1074 + (0 : Nat)) = n := Nat.mul_one n
  rw [hunits, hlost, hrounded, hleast]
  exact ⟨hcanonical, rfl⟩

/-! ### Sums and differences -/

theorem magnitude_shiftLeft (h : -1074 ≤ e - k) : magnitude (m <<< k) (e - k) = magnitude m e := by
  have hexponent : (e + 1074).toNat = k + (e - k + 1074).toNat := by omega
  rw [magnitude, magnitude, hexponent, Nat.shiftLeft_eq, Nat.pow_add, Nat.mul_assoc]

theorem exists_round (s : Sign) (hm : 0 < m) (he : -1074 ≤ e) :
    IsCanonical (UnpackedFloat.round .binary64 s m e) ∧
      ∃ r, RoundsTo (magnitude m e) r ∧ unitsOf (UnpackedFloat.round .binary64 s m e) = s.apply r := by
  unfold UnpackedFloat.round decreaseExponent
  simp only [targetExponent_binary64, totalExponent]
  generalize hk : (e - max ((m.log2 : Int) + 1 + e - 53) (-1074)).toNat = k
  have hpos : 0 < m <<< k := by
    rw [Nat.shiftLeft_eq]
    exact Nat.mul_pos hm (Nat.two_pow_pos k)
  have hfull : 2 ^ 52 ≤ m <<< k ∨ e - k = -1074 := by
    by_cases hleast : e - k = -1074
    · exact .inr hleast
    · refine .inl ?_
      rw [Nat.shiftLeft_eq]
      calc 2 ^ 52 ≤ 2 ^ (m.log2 + k) := Nat.pow_le_pow_right (by decide) (by omega)
        _ = 2 ^ m.log2 * 2 ^ k := Nat.pow_add ..
        _ ≤ m * 2 ^ k := Nat.mul_le_mul_right _ (Nat.log2_self_le (Nat.ne_of_gt hm))
  rw [← magnitude_shiftLeft (m := m) (show -1074 ≤ e - k by omega)]
  exact exists_roundWithAccuracy s hpos (by omega) hfull

theorem HasPlaces.roundsTo_self (h : HasPlaces t) : RoundsTo t t := by
  obtain ⟨a, j, rfl, ha⟩ := h
  have hdiv : a * 2 ^ j / 2 ^ j = a := Nat.mul_div_cancel a (Nat.two_pow_pos j)
  exact ⟨j, a, rfl, by omega, fun _ => hdiv.symm, .inl (Nat.dvd_mul_left ..), by omega⟩

theorem HasPlaces.rounds_self {i : Int} (h : HasPlaces i.natAbs) : Rounds i i :=
  ⟨i.natAbs, h.roundsTo_self, (Int.sign_mul_natAbs i).symm⟩

theorem hasPlaces_unitsOf (hu : IsCanonical u) : HasPlaces (unitsOf u).natAbs := by
  cases u with
  | notANumber | infinity s => exact hu.elim
  | zero s => exact hasPlaces_zero
  | finite s m e hm =>
    rw [unitsOf, natAbs_apply]
    exact ⟨m, (e + 1074).toNat, rfl, hu.1⟩

/-- A whole number of places is rounded with its sign. -/
theorem rounds_normalize (i : Int) (he : -1074 ≤ e) (s : Sign) :
    IsCanonical (UnpackedFloat.normalize .binary64 i e s) ∧
      Rounds (i * 2 ^ (e + 1074).toNat) (unitsOf (UnpackedFloat.normalize .binary64 i e s)) := by
  have hpow : (0 : Int) < 2 ^ (e + 1074).toNat := Int.pow_pos (by decide)
  have habs : (i * 2 ^ (e + 1074).toNat).natAbs = magnitude i.natAbs e := by
    rw [Int.natAbs_mul, Int.natAbs_pow]
    rfl
  have hsign : (i * 2 ^ (e + 1074).toNat).sign = i.sign := by
    rw [Int.sign_mul, Int.sign_eq_one_of_pos hpow, Int.mul_one]
  rw [Rounds, habs, hsign]
  unfold UnpackedFloat.normalize
  split
  · rename_i hlt
    rw [Int.compare_eq_lt] at hlt
    have hi : (-i).toNat = i.natAbs := by omega
    obtain ⟨hcanonical, r, hr, hunits⟩ := exists_round (m := i.natAbs) .negative (by omega) he
    rw [hi, Int.sign_eq_neg_one_of_neg hlt]
    exact ⟨hcanonical, r, hr, by rw [hunits, Sign.apply, Int.neg_mul, Int.one_mul]⟩
  · rename_i heq
    rw [Int.compare_eq_eq] at heq
    subst heq
    have hzero : magnitude 0 e = 0 := Nat.zero_mul _
    exact ⟨trivial, 0, by rw [Int.natAbs_zero, hzero]; exact hasPlaces_zero.roundsTo_self, rfl⟩
  · rename_i hgt
    rw [Int.compare_eq_gt] at hgt
    have hi : i.toNat = i.natAbs := by omega
    obtain ⟨hcanonical, r, hr, hunits⟩ := exists_round (m := i.natAbs) .positive (by omega) he
    rw [hi, Int.sign_eq_one_of_pos hgt]
    exact ⟨hcanonical, r, hr, by rw [hunits, Sign.apply, Int.one_mul]⟩

/-- A mantissa is moved to a smaller exponent, with its sign. -/
theorem apply_magnitude (s : Sign) (hf : -1074 ≤ f) (hle : f ≤ e) :
    s.apply (magnitude m e) = s.apply (m <<< (e - f).toNat : Nat) * 2 ^ (f + 1074).toNat := by
  have hexponent : e - ((e - f).toNat : Int) = f := by omega
  have happly (s : Sign) (a b : Nat) : s.apply ((a * b : Nat) : Int) = s.apply a * b := by
    cases s <;> simp [Sign.apply]
  rw [← magnitude_shiftLeft (k := (e - f).toNat) (by omega), hexponent, magnitude, happly]
  push_cast
  rfl

/-- The units of an exact sum are rounded. -/
theorem rounds_add {v : UnpackedFloat} (hu : IsCanonical u) (hv : IsCanonical v) :
    IsCanonical (UnpackedFloat.add .binary64 u v) ∧
      Rounds (unitsOf u + unitsOf v) (unitsOf (UnpackedFloat.add .binary64 u v)) := by
  cases u with
  | notANumber | infinity s => exact hu.elim
  | zero s =>
    cases v with
    | notANumber | infinity t => exact hv.elim
    | zero t =>
      have hself : Rounds 0 0 := HasPlaces.rounds_self hasPlaces_zero
      unfold UnpackedFloat.add
      dsimp only
      split <;> exact ⟨trivial, hself⟩
    | finite t n f hn =>
      have hself := (hasPlaces_unitsOf hv).rounds_self
      exact ⟨hv, by simpa [unitsOf, UnpackedFloat.add] using hself⟩
  | finite s m e hm =>
    cases v with
    | notANumber | infinity t => exact hv.elim
    | zero t =>
      have hself := (hasPlaces_unitsOf hu).rounds_self
      exact ⟨hu, by simpa [unitsOf, UnpackedFloat.add] using hself⟩
    | finite t n f hn =>
      obtain ⟨-, he, -⟩ := hu
      obtain ⟨-, hf, -⟩ := hv
      have hleast : -1074 ≤ min e f := by omega
      rw [unitsOf, unitsOf, apply_magnitude s hleast (Int.min_le_left e f),
        apply_magnitude t hleast (Int.min_le_right e f), ← Int.add_mul]
      exact rounds_normalize _ hleast .positive

/-- Subtracting is adding the opposite. -/
theorem sub_eq_add_neg (u v : UnpackedFloat) :
    UnpackedFloat.sub .binary64 u v = UnpackedFloat.add .binary64 u v.neg := by
  have happly (s : Sign) (i : Int) : (-s).apply i = -s.apply i := by
    cases s with
    | negative => exact (Int.neg_neg i).symm
    | positive => rfl
  cases u <;> cases v
  case finite.finite s m e hm t n f hn =>
    simp only [UnpackedFloat.sub, UnpackedFloat.add, UnpackedFloat.neg, happly, Int.sub_eq_add_neg]
  all_goals rfl

/-! ### Halves -/

theorem RoundsTo.eq_of_hasPlaces (h : RoundsTo w r) (hw : HasPlaces w) : r = w :=
  Nat.le_antisymm (h.ge_of_ge hw (Nat.le_refl w)) (h.le_of_le hw (Nat.le_refl w))

def unpackedTwo : UnpackedFloat := .finite .positive (2 ^ 52) (-51) (by decide)

/-- Above the least exponents, a mantissa is halved by its exponent. -/
theorem divCore_two_of_large (hm : 2 ^ 52 ≤ m) (hlt : m < 2 ^ 53) (he : -1072 ≤ e) :
    divCore .binary64 m e (2 ^ 52) (-51) = (m * 2, e - 2, .exact) := by
  have htwo : (2 ^ 52 : Nat).log2 = 52 := by decide
  have hlog : m.log2 = 52 := (Nat.log2_eq_iff (by omega)).2 ⟨hm, hlt⟩
  have htarget : min (e - -51) (max ((m.log2 : Int) + 1 + e - ((52 : Nat) + 1 + -51) - 53) (-1074)) =
      e - 2 := by omega
  have hshift : (e - -51 - (e - 2)).toNat = 53 := by omega
  have hquotient : m * 2 ^ 53 / 2 ^ 52 = m * 2 := by omega
  have hrest : m * 2 ^ 53 % 2 ^ 52 = 0 := by omega
  simp only [divCore, targetExponent_binary64, totalExponent, htwo, htarget, hshift,
    Nat.shiftLeft_eq, hquotient, hrest, accuracyOfFraction, if_true]

/-- At the least exponents, the units are halved. -/
theorem divCore_two_of_small (hlt : m < 2 ^ 53) (he : -1074 ≤ e) (hle : e ≤ -1073) :
    divCore .binary64 m e (2 ^ 52) (-51) = (magnitude m e / 2, -1074,
      if magnitude m e % 2 = 0 then .exact else .inexact .eq) := by
  have htwo : (2 ^ 52 : Nat).log2 = 52 := by decide
  have hlog : m.log2 ≤ 52 := log2_le_of_lt hlt
  have htarget : min (e - -51) (max ((m.log2 : Int) + 1 + e - ((52 : Nat) + 1 + -51) - 53) (-1074)) =
      -1074 := by omega
  have hshift : (e - -51 - -1074).toNat = (e + 1074).toNat + 51 := by omega
  have hquotient (w : Nat) : w * 2 ^ 51 / 2 ^ 52 = w / 2 := by omega
  have hrest (w : Nat) : w * 2 ^ 51 % 2 ^ 52 = w % 2 * 2 ^ 51 := by omega
  have hunits : m * 2 ^ ((e + 1074).toNat + 51) = magnitude m e * 2 ^ 51 := by
    rw [magnitude, Nat.pow_add, Nat.mul_assoc]
  have haccuracy : accuracyOfFraction (magnitude m e % 2 * 2 ^ 51) (2 ^ 52) =
      if magnitude m e % 2 = 0 then .exact else .inexact .eq := by
    rcases Nat.mod_two_eq_zero_or_one (magnitude m e) with h | h
    · simp [h, accuracyOfFraction]
    · simp [h, accuracyOfFraction]
  simp only [divCore, targetExponent_binary64, totalExponent, htwo, htarget, hshift,
    Nat.shiftLeft_eq, hunits, hquotient, hrest, haccuracy]

/-- Half of the units, as they are rounded, is at most half a unit off. -/
theorem roundToNearestEven_half (w : Nat) :
    (2 * ((if w % 2 = 0 then Accuracy.exact else .inexact .eq).roundToNearestEven (w / 2) : Int) -
      w).natAbs ≤ 1 := by
  split <;> simp only [Accuracy.roundToNearestEven] <;> omega

/-- Above the least exponents, the half is exact. -/
theorem isCanonical_half_of_large (s : Sign) (hm : 2 ^ 52 ≤ m) (hlt : m < 2 ^ 53) (he : -1072 ≤ e) :
    IsCanonical (roundWithAccuracy .binary64 s (m * 2) (e - 2) .exact) ∧
      ∃ r, magnitude m e = 2 * r ∧
        unitsOf (roundWithAccuracy .binary64 s (m * 2) (e - 2) .exact) = s.apply r := by
  obtain ⟨hcanonical, r, hr, hunits⟩ :=
    exists_roundWithAccuracy (m := m * 2) (e := e - 2) s (by omega) (by omega) (.inl (by omega))
  have hhalf : magnitude (m * 2) (e - 2) = m * 2 ^ (e - 1 + 1074).toNat := by
    have hexponent : (e - 1 + 1074).toNat = (e - 2 + 1074).toNat + 1 := by omega
    rw [magnitude, hexponent, Nat.pow_succ']
    exact Nat.mul_assoc ..
  have hwhole : magnitude m e = 2 * magnitude (m * 2) (e - 2) := by
    have hexponent : (e + 1074).toNat = (e - 1 + 1074).toNat + 1 := by omega
    rw [hhalf, magnitude, hexponent, Nat.pow_succ]
    ring
  obtain rfl := hr.eq_of_hasPlaces ⟨m, _, hhalf, hlt⟩
  exact ⟨hcanonical, _, hwhole, hunits⟩

/-- What is halved has enough places, or loses at most one. -/
theorem unitsOf_div_two (hu : IsCanonical u) :
    IsCanonical (UnpackedFloat.div .binary64 u unpackedTwo) ∧
      (2 * unitsOf (UnpackedFloat.div .binary64 u unpackedTwo) - unitsOf u).natAbs ≤ 1 := by
  cases u with
  | notANumber | infinity s => exact hu.elim
  | zero s => exact ⟨trivial, by simp [UnpackedFloat.div, unpackedTwo, unitsOf]⟩
  | finite s m e hm =>
    obtain ⟨hlt, he, hfull⟩ := hu
    have hsign : s / .positive = s := by cases s <;> rfl
    have happly (s : Sign) (a b : Nat) :
        (2 * s.apply (a : Int) - s.apply b).natAbs = (2 * (a : Int) - b).natAbs := by
      cases s with
      | negative =>
        simp only [Sign.apply]
        omega
      | positive => rfl
    simp only [UnpackedFloat.div, unpackedTwo, hsign]
    by_cases hsmall : e ≤ -1073
    · have hw : magnitude m e / 2 < 2 ^ 53 := by
        have hpow : 2 ^ (e + 1074).toNat ≤ 2 ^ 1 := Nat.pow_le_pow_right (by decide) (by omega)
        have := Nat.mul_le_mul_left m hpow
        rw [magnitude]
        omega
      rw [divCore_two_of_small hlt he hsmall]
      obtain ⟨hcanonical, hunits⟩ := isCanonical_roundWithAccuracy_least s
        (if magnitude m e % 2 = 0 then .exact else .inexact .eq) hw
      refine ⟨hcanonical, ?_⟩
      rw [hunits, unitsOf, happly]
      exact roundToNearestEven_half _
    · have hplaces : 2 ^ 52 ≤ m := hfull.resolve_right (by omega)
      have hlarge : -1072 ≤ e := by omega
      rw [divCore_two_of_large hplaces hlt hlarge]
      obtain ⟨hcanonical, r, hr, hunits⟩ := isCanonical_half_of_large s hplaces hlt hlarge
      refine ⟨hcanonical, ?_⟩
      rw [hunits, unitsOf, happly, hr]
      omega

end Formulary.Number
