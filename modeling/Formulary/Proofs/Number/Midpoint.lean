import Formulary.Proofs.Number.Rounding

/-!
# Numbers between two doubles

The middle of two doubles is computed as half of their sum, and a number next to a double by adding
one to it or taking one off. Rounding passes no double, so the middle lies between the two, and the
next number does not lie on the wrong side. The one thing that can go wrong is a sum that is too large.

## Main definitions

* `HasUnits` : a double of so many units, or an infinity when there are too many.

## Main statements

* `exists_units_add`, `exists_units_sub` : sums and differences are rounded;
* `midpoint_between` : the middle of two doubles, unless their sum is too large;
* `add_one_not_lt`, `not_lt_sub_one` : the numbers next to a double.
-/
namespace Formulary.Number

open Float.Model Float.Model.UnpackedFloat

variable {u : UnpackedFloat} {x y : Float} {w : Int}

/-- A double of `w` units, which is finite unless there are too many. -/
structure HasUnits (x : Float) (w : Int) : Prop where
  isFinite_iff : x.isFinite ↔ w.natAbs < tooManyUnits
  units_eq : x.isFinite → units x = w

theorem hasUnits_pack (hu : IsCanonical u) (h : x.toModel = Float.Model.pack u) :
    HasUnits x (unitsOf u) := by
  have hfinite : x.isFinite ↔ (unitsOf u).natAbs < tooManyUnits := by
    rw [← isFinite_unpack_pack_iff hu, ← h]
    rfl
  refine ⟨hfinite, fun hx => ?_⟩
  rw [units, h, unpack_pack hu (hfinite.1 hx)]

theorem exists_units_add (hx : x.isFinite) (hy : y.isFinite) :
    ∃ w, Rounds (units x + units y) w ∧ HasUnits (x + y) w := by
  obtain ⟨hcanonical, hrounds⟩ := rounds_add (isCanonical_unpack hx) (isCanonical_unpack hy)
  exact ⟨_, hrounds, hasUnits_pack hcanonical rfl⟩

theorem isCanonical_neg (hu : IsCanonical u) : IsCanonical u.neg ∧ unitsOf u.neg = -unitsOf u := by
  cases u with
  | notANumber | infinity s => exact hu.elim
  | zero s => exact ⟨trivial, rfl⟩
  | finite s m e hm =>
    refine ⟨hu, ?_⟩
    cases s with
    | negative => exact (Int.neg_neg _).symm
    | positive => rfl

theorem exists_units_sub (hx : x.isFinite) (hy : y.isFinite) :
    ∃ w, Rounds (units x - units y) w ∧ HasUnits (x - y) w := by
  obtain ⟨hneg, hunits⟩ := isCanonical_neg (isCanonical_unpack hy)
  obtain ⟨hcanonical, hrounds⟩ := rounds_add (isCanonical_unpack hx) hneg
  rw [hunits, ← Int.sub_eq_add_neg, ← sub_eq_add_neg] at hrounds
  rw [← sub_eq_add_neg] at hcanonical
  exact ⟨_, hrounds, hasUnits_pack hcanonical rfl⟩

theorem exists_units_half (hx : x.isFinite) :
    ∃ w, (2 * w - units x).natAbs ≤ 1 ∧ HasUnits (x / 2.0) w := by
  obtain ⟨hcanonical, hhalf⟩ := unitsOf_div_two (isCanonical_unpack hx)
  exact ⟨_, hhalf, hasUnits_pack hcanonical rfl⟩

/-! ### The largest double -/

theorem tooManyUnits_eq : tooManyUnits = 2 ^ 53 * 2 ^ 2045 := by
  have hexponent : (972 + 1074 : Int).toNat = 2045 + 1 := rfl
  rw [tooManyUnits, magnitude, hexponent, Nat.pow_succ]
  omega

theorem magnitude_le {m a k : Nat} {e : Int} (hm : m ≤ a) (he : (e + 1074).toNat ≤ k) :
    magnitude m e ≤ a * 2 ^ k :=
  Nat.mul_le_mul hm (Nat.pow_le_pow_right (by decide) he)

/-- No finite double has more units than all 53 places of the largest exponent. -/
theorem natAbs_units_le (hx : x.isFinite) : (units x).natAbs ≤ (2 ^ 53 - 1) * 2 ^ 2045 := by
  have hcanonical := isCanonical_unpack hx
  have hexponent : ExponentLe 971 x.toModel.unpack := isFinite_iff_fits.1 hx
  rw [units]
  revert hcanonical hexponent
  cases x.toModel.unpack with
  | notANumber | infinity s => exact fun h => h.elim
  | zero s => exact fun _ _ => Nat.zero_le _
  | finite s m e hm =>
    rintro ⟨hlt, -⟩ (hle : e ≤ 971)
    rw [unitsOf, natAbs_apply]
    exact magnitude_le (by omega) (by omega)

theorem places_lt_next (n : Nat) : (2 ^ 53 - 1) * 2 ^ n < 2 ^ 53 * 2 ^ n := by
  have := Nat.two_pow_pos n
  omega

theorem natAbs_units_lt (hx : x.isFinite) : (units x).natAbs < tooManyUnits := by
  rw [tooManyUnits_eq]
  exact Nat.lt_of_le_of_lt (natAbs_units_le hx) (places_lt_next 2045)

theorem hasPlaces_units (hx : x.isFinite) : HasPlaces (units x).natAbs :=
  hasPlaces_unitsOf (isCanonical_unpack hx)

/-! ### The middle of two doubles -/

theorem hasPlaces_two_mul {t : Nat} (h : HasPlaces t) : HasPlaces (2 * t) := by
  obtain ⟨a, j, rfl, ha⟩ := h
  exact ⟨a, j + 1, by rw [Nat.pow_succ]; ring, ha⟩

/-- The middle of two doubles lies between them, unless their sum is too large. -/
theorem midpoint_between (hx : x.isFinite) (hy : y.isFinite) (hle : ¬ y < x)
    (hsum : (x + y).isFinite) :
    ((x + y) / 2.0).isFinite ∧ ¬ (x + y) / 2.0 < x ∧ ¬ y < (x + y) / 2.0 := by
  rw [lt_iff_units_lt hy hx] at hle
  obtain ⟨w, hw, -, hunits⟩ := exists_units_add hx hy
  obtain rfl := hunits hsum
  -- Twice a double is written with 53 places, so it is not passed when the sum is rounded.
  have hlow : 2 * units x ≤ units (x + y) := by
    refine hw.le_of_le ?_ (by omega)
    rw [Int.natAbs_mul]
    exact hasPlaces_two_mul (hasPlaces_units hx)
  have hhigh : units (x + y) ≤ 2 * units y := by
    refine hw.ge_of_ge ?_ (by omega)
    rw [Int.natAbs_mul]
    exact hasPlaces_two_mul (hasPlaces_units hy)
  obtain ⟨h, hhalf, hfinite, hunits⟩ := exists_units_half hsum
  have hmiddle : ((x + y) / 2.0).isFinite := by
    have hlt := natAbs_units_lt hsum
    have hpow := Nat.two_pow_pos 2045
    rw [hfinite]
    rw [tooManyUnits_eq] at hlt ⊢
    omega
  rw [lt_iff_units_lt hmiddle hx, lt_iff_units_lt hy hmiddle, hunits hmiddle]
  exact ⟨hmiddle, by omega, by omega⟩

theorem isFinite_of_isFinite_half (h : (x / 2.0).isFinite) : x.isFinite := by
  change x.toModel.unpack.isFinite
  change (pack (div Format.binary64 x.toModel.unpack (2.0 : Float).toModel.unpack)).unpack.isFinite
    at h
  revert h
  cases x.toModel.unpack with
  | notANumber => exact fun h => h
  | infinity s => cases s <;> exact fun h => h
  | zero s | finite s m e hm => exact fun _ => rfl

/-! ### The numbers next to a double -/

theorem isFinite_one : (1.0 : Float).isFinite := rfl

theorem units_one : units 1.0 = (2 ^ 1074 : Nat) := by
  have hunpack : (1.0 : Float).toModel.unpack = .finite .positive (2 ^ 52) (-52) (by decide) := rfl
  have hexponent : (-52 + 1074 : Int).toNat = 1022 := rfl
  have hsum : 1074 = 52 + 1022 := rfl
  rw [units, hunpack, unitsOf, Sign.apply, magnitude, hexponent, hsum, Nat.pow_add]

theorem two_mul_two_pow_lt {j k : Nat} (h : j + 1 < k) : 2 * 2 ^ j < 2 ^ k := by
  rw [← Nat.pow_succ']
  exact Nat.pow_lt_pow_right (by decide) h

/-- Adding at most one to a double does not make it too large. -/
theorem natAbs_lt_of_rounds {i w : Int} (hi : i.natAbs ≤ (2 ^ 53 - 1) * 2 ^ 2045 + 2 ^ 1074)
    (h : Rounds i w) : w.natAbs < tooManyUnits := by
  rw [tooManyUnits_eq]
  exact h.natAbs.lt_of_near (two_mul_two_pow_lt (by decide)) hi

/-- One more than a double is a double that is not less. -/
theorem add_one_not_lt (hx : x.isFinite) : (x + 1.0).isFinite ∧ ¬ x + 1.0 < x := by
  obtain ⟨w, hw, hfinite, hunits⟩ := exists_units_add hx isFinite_one
  rw [units_one] at hw
  have hle := natAbs_units_le hx
  have hmore : (x + 1.0).isFinite := hfinite.2 (natAbs_lt_of_rounds (by omega) hw)
  have hnotless := hw.le_of_le (hasPlaces_units hx) (by omega)
  rw [lt_iff_units_lt hmore hx, hunits hmore]
  exact ⟨hmore, by omega⟩

/-- One less than a double is a double that is not more. -/
theorem not_lt_sub_one (hx : x.isFinite) : (x - 1.0).isFinite ∧ ¬ x < x - 1.0 := by
  obtain ⟨w, hw, hfinite, hunits⟩ := exists_units_sub hx isFinite_one
  rw [units_one] at hw
  have hle := natAbs_units_le hx
  have hless : (x - 1.0).isFinite := hfinite.2 (natAbs_lt_of_rounds (by omega) hw)
  have hnotmore := hw.ge_of_ge (hasPlaces_units hx) (by omega)
  rw [lt_iff_units_lt hx hless, hunits hless]
  exact ⟨hless, by omega⟩

end Formulary.Number
