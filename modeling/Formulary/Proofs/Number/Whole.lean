import Mathlib
import Formulary.Number.Layout
import Formulary.Proofs.Number.Midpoint

/-!
# Whole doubles

A double is a whole number when its units are a multiple of those of one. A whole number with no
more than 53 places is a double, so nothing is lost when it is converted to one or taken from one.

## Main definitions

* `Parts.ofUnpacked` : the parts of an unpacked double;
* `wholeUnits` : the units of one.

## Main statements

* `parts_eq` : the parts of a double are those of its unpacked form;
* `toInt?_eq_some_iff` : which doubles are which whole numbers;
* `toInt?_ofInt` : a whole number with 53 places is kept by its double;
* `ofInt_beq_of_toInt?` : a double that is such a number equals the double of that number.
-/
namespace Formulary.Number

open Float.Model Float.Model.UnpackedFloat

variable {m n : Nat} {e : Int} {i : Int} {x y : Float} {u : UnpackedFloat}

/-! ### Parts -/

def isNegative : Sign → Bool
  | .negative => true
  | .positive => false

def Parts.ofUnpacked : UnpackedFloat → Parts
  | .notANumber => .nan
  | .infinity s => .infinite (isNegative s)
  | .zero s => .finite (isNegative s) 0 (-1074)
  | .finite s m e _ => .finite (isNegative s) m e

theorem toNat_unpackExponent (b : BitVec 64) :
    (@unpackExponent .binary64 b).toNat = b.toNat / Nat.pow 2 52 % Nat.pow 2 11 := by
  simp [unpackExponent, Nat.shiftRight_eq_div_pow]

theorem toNat_unpackMantissa (b : BitVec 64) :
    (@unpackMantissa .binary64 b).toNat = b.toNat % Nat.pow 2 52 := by
  simp [unpackMantissa]

theorem isNegative_unpackSign (b : BitVec 64) :
    isNegative (Sign.ofBitVec (@unpackSign .binary64 b)) = (b.toNat / Nat.pow 2 63 == 1) := by
  have hlt : b.toNat < 2 ^ 64 := b.isLt
  have hsign : (@unpackSign .binary64 b).toNat = b.toNat / Nat.pow 2 63 := by
    simp [unpackSign, Nat.shiftRight_eq_div_pow]
    omega
  have hbit : b.toNat / Nat.pow 2 63 < 2 := hsign ▸ (@unpackSign .binary64 b).isLt
  unfold Sign.ofBitVec
  split
  · rename_i hzero
    rw [hzero] at hsign
    simp [← hsign, isNegative]
  · rename_i hzero
    have hne : b.toNat / Nat.pow 2 63 ≠ 0 := fun h => hzero (BitVec.eq_of_toNat_eq (hsign.trans h))
    have hone : b.toNat / Nat.pow 2 63 = 1 := by omega
    rw [hone]
    rfl

/-- The unpacked form of some bits, by the values of their fields. -/
theorem unpack_eq (b : BitVec 64) :
    Parts.ofUnpacked (UnpackedFloat.unpack .binary64 b) =
      let negative := isNegative (Sign.ofBitVec (@unpackSign .binary64 b))
      let exponent := (@unpackExponent .binary64 b).toNat
      let fraction := (@unpackMantissa .binary64 b).toNat
      if exponent = 2047 then if fraction = 0 then .infinite negative else .nan
      else if exponent = 0 then .finite negative fraction (-1074)
      else .finite negative (fraction + Nat.pow 2 52) ((exponent : Int) - 1075) := by
  have hbias : Format.binary64.exponentBias = 1023 := rfl
  have hlargest (v : BitVec 11) : v = -1#11 ↔ v.toNat = 2047 := by simp [BitVec.toNat_eq]
  have hleast (v : BitVec 11) : v = 0#11 ↔ v.toNat = 0 := by simp [BitVec.toNat_eq]
  have hnone (v : BitVec 52) : v = 0#52 ↔ v.toNat = 0 := by simp [BitVec.toNat_eq]
  unfold UnpackedFloat.unpack
  dsimp only
  by_cases hlarge : (@unpackExponent .binary64 b).toNat = 2047
  · rw [if_pos hlarge, if_pos ((hlargest _).2 hlarge)]
    by_cases hfraction : (@unpackMantissa .binary64 b).toNat = 0
    · rw [if_pos hfraction, if_pos ((hnone _).2 hfraction)]
      rfl
    · rw [if_neg hfraction, if_neg (mt (hnone _).1 hfraction)]
      rfl
  rw [if_neg hlarge, if_neg (mt (hlargest _).1 hlarge)]
  by_cases hsmall : (@unpackExponent .binary64 b).toNat = 0
  · rw [if_pos hsmall, if_pos ((hleast _).2 hsmall)]
    by_cases hfraction : (@unpackMantissa .binary64 b).toNat = 0
    · rw [dif_pos ((hnone _).2 hfraction), hfraction]
      rfl
    · rw [dif_neg (mt (hnone _).1 hfraction)]
      simp only [Parts.ofUnpacked, hbias, hsmall]
      rfl
  · rw [if_neg hsmall, if_neg (mt (hleast _).1 hsmall)]
    have hfull := toNat_one_append (@unpackMantissa .binary64 b)
    simp only [Parts.ofUnpacked, Parts.finite.injEq, true_and]
    exact ⟨hfull.trans (Nat.add_comm ..), by rw [hbias]; omega⟩

/-- The parts of a double are those of its unpacked form. -/
theorem parts_eq (x : Float) : parts x = .ofUnpacked x.toModel.unpack := by
  have hbits : x.toBits.toNat = x.toModel.toBits.toBitVec.toNat := rfl
  change parts x = .ofUnpacked (UnpackedFloat.unpack .binary64 x.toModel.toBits.toBitVec)
  simp only [unpack_eq, toNat_unpackExponent, toNat_unpackMantissa, isNegative_unpackSign, parts,
    hbits]

/-! ### Whole numbers -/

/-- The units of one. The number is not to be computed. -/
@[irreducible] def wholeUnits : Nat := magnitude 1 0

theorem wholeUnits_eq : wholeUnits = 2 ^ (0 + 1074 : Int).toNat := by
  unfold wholeUnits magnitude
  exact Nat.one_mul _

theorem wholeUnits_pos : 0 < wholeUnits := by
  rw [wholeUnits_eq]
  exact Nat.two_pow_pos _

theorem mul_wholeUnits (n : Nat) : n * wholeUnits = magnitude n 0 := by
  rw [wholeUnits_eq, magnitude]

/-- The magnitudes of whole numbers. -/
theorem magnitude_eq_iff (he : -1074 ≤ e) :
    magnitude m e = n * wholeUnits ↔
      (0 ≤ e || m % Nat.pow 2 (-e).toNat == 0) ∧ scaleDown m e = n := by
  rw [Bool.or_eq_true, decide_eq_true_iff, beq_iff_eq]
  by_cases hwhole : 0 ≤ e
  · have hmagnitude : magnitude m e = m * 2 ^ e.toNat * wholeUnits := by
      have hexponent : (e + 1074).toNat = e.toNat + (0 + 1074 : Int).toNat := by omega
      rw [magnitude, hexponent, Nat.pow_add, wholeUnits_eq, Nat.mul_assoc]
    rw [hmagnitude, Nat.mul_left_inj (Nat.ne_of_gt wholeUnits_pos), scaleDown, if_pos hwhole]
    exact ⟨fun h => ⟨.inl hwhole, h⟩, And.right⟩
  · generalize hk : (-e).toNat = k
    have hscaled : wholeUnits = 2 ^ k * 2 ^ (e + 1074).toNat := by
      have hexponent : (0 + 1074 : Int).toNat = k + (e + 1074).toNat := by omega
      rw [wholeUnits_eq, hexponent, Nat.pow_add]
    rw [hscaled, ← Nat.mul_assoc, magnitude, Nat.mul_left_inj (Nat.ne_of_gt (Nat.two_pow_pos _)),
      scaleDown, if_neg hwhole, hk]
    constructor
    · rintro rfl
      exact ⟨.inr (Nat.mul_mod_left ..), Nat.mul_div_cancel _ (Nat.two_pow_pos k)⟩
    · rintro ⟨hmod, rfl⟩
      exact (Nat.div_mul_cancel (Nat.dvd_of_mod_eq_zero (hmod.resolve_left hwhole))).symm

theorem natAbs_mul_wholeUnits (i : Int) : (i * wholeUnits).natAbs = i.natAbs * wholeUnits :=
  Int.natAbs_mul i wholeUnits

theorem magnitude_eq_of_apply {s : Sign} (h : s.apply (magnitude m e) = i * wholeUnits) :
    magnitude m e = i.natAbs * wholeUnits := by
  rw [← natAbs_apply s (magnitude m e), h, natAbs_mul_wholeUnits]

/-- The whole number that is taken from some parts is the one that has their units. -/
theorem wholePart_eq_some_iff (s : Sign) (he : -1074 ≤ e) :
    (if 0 ≤ e || m % Nat.pow 2 (-e).toNat == 0 then
      some (if isNegative s then -(scaleDown m e : Int) else scaleDown m e) else none) = some i ↔
        s.apply (magnitude m e) = i * wholeUnits := by
  constructor
  · intro h
    split at h
    · rename_i hwhole
      have hmagnitude : magnitude m e = scaleDown m e * wholeUnits :=
        (magnitude_eq_iff he).2 ⟨hwhole, rfl⟩
      obtain rfl := Option.some.inj h
      rw [hmagnitude]
      cases s <;> simp [Sign.apply, isNegative]
    · cases h
  · intro h
    obtain ⟨hwhole, hscaled⟩ := (magnitude_eq_iff he).1 (magnitude_eq_of_apply h)
    rw [if_pos hwhole, hscaled]
    have hpos : (0 : Int) < wholeUnits := Int.natCast_pos.2 wholeUnits_pos
    cases s with
    | negative =>
      have hle : i ≤ 0 := by
        by_contra hlt
        have hmul := Int.mul_pos (Int.not_le.1 hlt) hpos
        have hneg : -(magnitude m e : Int) = i * wholeUnits := h
        omega
      exact congrArg some (by simp only [isNegative, if_true]; omega)
    | positive =>
      have hle : 0 ≤ i := by
        by_contra hlt
        have hmul := Int.mul_neg_of_neg_of_pos (Int.not_le.1 hlt) hpos
        have hsame : (magnitude m e : Int) = i * wholeUnits := h
        omega
      exact congrArg some (by simp only [isNegative, Bool.false_eq_true, if_false]; omega)

/-- A double is a whole number when its units are those of that number. -/
theorem toInt?_eq_some_iff : toInt? x = some i ↔ x.isFinite ∧ units x = i * wholeUnits := by
  have hcanonical : x.toModel.unpack.isFinite → IsCanonical x.toModel.unpack := isCanonical_unpack
  change _ ↔ x.toModel.unpack.isFinite ∧ unitsOf x.toModel.unpack = _
  rw [toInt?, parts_eq]
  revert hcanonical
  cases x.toModel.unpack with
  | notANumber | infinity s => simp [Parts.ofUnpacked, UnpackedFloat.isFinite]
  | zero s =>
    intro
    have hzero : s.apply (magnitude 0 (-1074)) = 0 := by cases s <;> simp [magnitude, Sign.apply]
    have hwhole := wholePart_eq_some_iff (m := 0) (i := i) s (Int.le_refl (-1074))
    rw [hzero] at hwhole
    exact hwhole.trans (and_iff_right rfl).symm
  | finite s m e hm =>
    intro hcanonical
    obtain ⟨-, he, -⟩ := hcanonical rfl
    exact (wholePart_eq_some_iff s he).trans (and_iff_right rfl).symm

/-! ### Doubles of whole numbers -/

theorem leadingPlace_pos : 0 < 2 ^ 52 := by decide

def unpackedOne : UnpackedFloat := .finite .positive (2 ^ 52) (-52) leadingPlace_pos

/-- A whole number is at least one, and so is its last place in its canonical form. -/
theorem neg_le_of_whole (hm : 0 < m) (hlt : m < 2 ^ 53) (he : -1074 ≤ e)
    (h : magnitude m e = n * wholeUnits) : -52 ≤ e := by
  by_contra hsmall
  have hn : n ≠ 0 := fun hzero => by
    rw [hzero, Nat.zero_mul] at h
    exact absurd h (Nat.ne_of_gt (magnitude_pos hm e))
  have hone : wholeUnits = magnitude (1 <<< 52) (0 - (52 : Nat)) := by
    rw [magnitude_shiftLeft (by decide), ← mul_wholeUnits, Nat.one_mul]
  have hless : magnitude m e < magnitude (1 <<< 52) (0 - (52 : Nat)) :=
    magnitude_lt_of_exponent_lt hlt he (.inl (Nat.le_refl _)) (by omega)
  have hleast : wholeUnits ≤ n * wholeUnits := Nat.le_mul_of_pos_left _ (Nat.pos_of_ne_zero hn)
  omega

/-- A whole number is not changed by a product with one. -/
theorem unitsOf_mul_one (hu : IsCanonical u) (h : unitsOf u = i * wholeUnits) :
    IsCanonical (UnpackedFloat.mul .binary64 u unpackedOne) ∧
      unitsOf (UnpackedFloat.mul .binary64 u unpackedOne) = i * wholeUnits := by
  cases u with
  | notANumber | infinity s => exact hu.elim
  | zero s => exact ⟨trivial, h⟩
  | finite s m e hm =>
    obtain ⟨hlt, hleast, -⟩ := hu
    have hpoint := neg_le_of_whole hm hlt hleast (magnitude_eq_of_apply h)
    have he : -1074 ≤ e - (52 : Nat) := by omega
    have hsign : s * .positive = s := by cases s <;> rfl
    have hshift : m <<< 52 = m * 2 ^ 52 := Nat.shiftLeft_eq ..
    obtain ⟨hcanonical, r, hr, hunits⟩ :=
      exists_roundWithAccuracy s (m := m <<< 52) (by omega) he (.inl (by omega))
    rw [magnitude_shiftLeft he] at hr
    obtain rfl := hr.eq_of_hasPlaces ⟨m, _, rfl, hlt⟩
    rw [hshift] at hcanonical hunits
    simp only [UnpackedFloat.mul, unpackedOne, hsign]
    exact ⟨hcanonical, hunits.trans h⟩

theorem Rounds.eq_of_hasPlaces {w r : Int} (h : Rounds w r) (hw : HasPlaces w.natAbs) : r = w :=
  Int.le_antisymm (h.ge_of_ge hw (Int.le_refl w)) (h.le_of_le hw (Int.le_refl w))

/-- Whole numbers with 53 places have no more units than a double can have. -/
theorem mul_wholeUnits_lt (h : n < 2 ^ 53) : n * wholeUnits < tooManyUnits := by
  rw [mul_wholeUnits]
  exact magnitude_lt_of_exponent_lt h (by decide) (.inl (Nat.le_refl _)) (by decide)

theorem hasPlaces_mul_wholeUnits (h : n < 2 ^ 53) : HasPlaces (n * wholeUnits) :=
  ⟨n, _, by rw [wholeUnits_eq], h⟩

/-- Words with 53 places are not rounded. -/
theorem hasUnits_toFloat {word : UInt64} (h : word.toNat < 2 ^ 53) :
    HasUnits word.toFloat ((word.toNat : Int) * wholeUnits) := by
  obtain ⟨hcanonical, hrounds⟩ :=
    rounds_normalize word.toNat (show -1074 ≤ (0 : Int) by decide) .positive
  have hscale : (2 ^ (0 + 1074 : Int).toNat : Int) = wholeUnits := by
    rw [wholeUnits_eq, Nat.cast_pow]
    rfl
  rw [hscale] at hrounds
  have hplaces : HasPlaces ((word.toNat : Int) * wholeUnits).natAbs := by
    rw [natAbs_mul_wholeUnits]
    exact hasPlaces_mul_wholeUnits h
  rw [← hrounds.eq_of_hasPlaces hplaces]
  exact hasUnits_pack hcanonical rfl

/-- Whole numbers with 53 places are not rounded. -/
theorem hasUnits_ofNat (h : n < 2 ^ 53) : HasUnits (Float.ofNat n) ((n : Int) * wholeUnits) := by
  have hword : n.toUInt64.toNat = n := Nat.mod_eq_of_lt (by omega)
  have hunits : HasUnits n.toUInt64.toFloat (n.toUInt64.toNat * wholeUnits) :=
    hasUnits_toFloat (by rwa [hword])
  rw [hword] at hunits
  have hfinite : n.toUInt64.toFloat.isFinite := hunits.isFinite_iff.2 (by
    rw [natAbs_mul_wholeUnits]
    exact mul_wholeUnits_lt h)
  obtain ⟨hcanonical, hsame⟩ :=
    unitsOf_mul_one (isCanonical_unpack hfinite) (hunits.units_eq hfinite)
  rw [ofNat_eq_mul h, ← hsame]
  exact hasUnits_pack hcanonical rfl

theorem HasUnits.neg {w : Int} (h : HasUnits x w) (hx : x.isFinite) : HasUnits (-x) (-w) := by
  obtain ⟨hcanonical, hunits⟩ := isCanonical_neg (isCanonical_unpack hx)
  have hsame : unitsOf x.toModel.unpack.neg = -w := hunits.trans (congrArg Neg.neg (h.units_eq hx))
  rw [← hsame]
  exact hasUnits_pack hcanonical rfl

theorem hasUnits_ofInt (h : i.natAbs < 2 ^ 53) : HasUnits (Float.ofInt i) (i * wholeUnits) := by
  cases i with
  | ofNat n => exact hasUnits_ofNat h
  | negSucc n =>
    have hunits := hasUnits_ofNat h
    have hneg := hunits.neg (isFinite_ofNat (Nat.lt_trans h (by decide)))
    rwa [← Int.neg_mul] at hneg

/-- A whole number with 53 places is kept by its double. -/
theorem toInt?_ofInt (h : i.natAbs < 2 ^ 53) : toInt? (Float.ofInt i) = some i := by
  have hfinite : (Float.ofInt i).isFinite := isFinite_ofInt (Nat.lt_trans h (by decide))
  exact toInt?_eq_some_iff.2 ⟨hfinite, (hasUnits_ofInt h).units_eq hfinite⟩

/-- Finite doubles are equal when their units are. -/
theorem beq_iff_units_eq (hx : x.isFinite) (hy : y.isFinite) : x == y ↔ units x = units y := by
  rw [beq_iff_compare, compare_unitsOf (isCanonical_unpack hx) (isCanonical_unpack hy),
    Option.some_inj, Int.compare_eq_eq]
  rfl

/-- A double that is a whole number with 53 places equals the double of that number. -/
theorem ofInt_beq_of_toInt? (h : i.natAbs < 2 ^ 53) (hx : toInt? x = some i) :
    Float.ofInt i == x := by
  obtain ⟨hfinite, hunits⟩ := toInt?_eq_some_iff.1 hx
  obtain ⟨hfinite', hunits'⟩ := toInt?_eq_some_iff.1 (toInt?_ofInt h)
  rw [beq_iff_units_eq hfinite' hfinite, hunits, hunits']

theorem safeInt?_eq_some_iff : safeInt? x = some i ↔ toInt? x = some i ∧ i.natAbs < 2 ^ 53 := by
  rw [safeInt?, Option.filter_eq_some_iff, decide_eq_true_iff]
  rfl

end Formulary.Number
