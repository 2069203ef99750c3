import Mathlib.Order.Monotone.Basic
import Mathlib.Tactic.IntervalCases
import Formulary.Calendar.Instant

/-!
# Days and their numbers

A cycle of 400 years has 146097 days, and every year of it starts after the days of the years before.
The year of a day is found by one division, after the leap days before the day are taken off. These are
nearly told from the day itself, and nearly is enough: within a year the quotient stays the same.

## Main definitions

* `daysBefore` : the days before a year of a cycle;
* `yearIndex` : the year of a day of a cycle, as it is computed;
* `ofDayOfYear` : the day with some count of days of its year before it.

## Main statements

* `yearIndex_eq` : the computed year is the one that the day is in;
* `exists_ofNumber` : every number is a cycle, a year of it and a day of that year;
* `CivilDay.number_ofNumber` : the number of the day of a number;
* `CivilDay.isReal_ofNumber` : such a day is a day of the calendar.
-/
namespace Formulary.Calendar

/-! ### The years of a cycle -/

def daysBefore (y : Nat) : Nat := 365 * y + y / 4 - y / 100 + y / 400

/-- The days of the year `y` of a cycle, which ends in the February of the next year. -/
def yearLength (y : Nat) : Nat := if isLeapYear (y + 1 : Nat) then 366 else 365

theorem isLeapYear_iff {year : Int} :
    isLeapYear year ↔ year % 4 = 0 ∧ (year % 100 ≠ 0 ∨ year % 400 = 0) := by
  simp [isLeapYear]

theorem isLeapYear_natCast {n : Nat} : isLeapYear n ↔ 4 ∣ n ∧ (¬ 100 ∣ n ∨ 400 ∣ n) := by
  rw [isLeapYear_iff]
  omega

theorem daysBefore_succ (y : Nat) : daysBefore (y + 1) = daysBefore y + yearLength y := by
  have hcentury : 100 ∣ y + 1 → 4 ∣ y + 1 := (Nat.dvd_trans (by decide) ·)
  have hcycle : 400 ∣ y + 1 → 100 ∣ y + 1 := (Nat.dvd_trans (by decide) ·)
  simp only [daysBefore, yearLength, isLeapYear_natCast, Nat.succ_div]
  split_ifs <;> omega

/-- Every day is in some year. -/
theorem exists_year {d k : Nat} (h : d < daysBefore k) :
    ∃ y < k, daysBefore y ≤ d ∧ d < daysBefore (y + 1) := by
  induction k with
  | zero => exact absurd h (Nat.not_lt_zero d)
  | succ k ih =>
    by_cases hk : d < daysBefore k
    · obtain ⟨y, hy, hyear⟩ := ih hk
      exact ⟨y, by omega, hyear⟩
    · exact ⟨k, by omega, by omega, h⟩

/-- A day of a cycle without the leap days before it, as they are counted. -/
def withoutLeapDays (d : Nat) : Nat := d - d / 1460 + d / 36524 - d / 146096

def yearIndex (d : Nat) : Nat := withoutLeapDays d / 365

theorem withoutLeapDays_mono {a b : Nat} (h : a ≤ b) : withoutLeapDays a ≤ withoutLeapDays b := by
  refine monotone_nat_of_le_succ (fun d => ?_) h
  unfold withoutLeapDays
  omega

/-- The first and the last day of a year are found to be in that year. -/
theorem yearIndex_ends :
    ∀ y < 400, yearIndex (daysBefore y) = y ∧ yearIndex (daysBefore (y + 1) - 1) = y := by
  decide +kernel

/-- So are all days between them. -/
theorem yearIndex_eq {d y : Nat} (hy : y < 400) (hfirst : daysBefore y ≤ d)
    (hlast : d < daysBefore (y + 1)) : yearIndex d = y := by
  obtain ⟨hstart, hend⟩ := yearIndex_ends y hy
  apply Nat.le_antisymm
  · rw [← hend]
    exact Nat.div_le_div_right (withoutLeapDays_mono (by omega))
  · rw [← hstart]
    exact Nat.div_le_div_right (withoutLeapDays_mono hfirst)

/-! ### The days of a year -/

/-- The day of a year with `dayOfYear` days of the year before it. The year is counted from March. -/
def ofDayOfYear (year : Int) (dayOfYear : Nat) : CivilDay :=
  let marchMonth := (5 * dayOfYear + 2) / 153
  let month := if marchMonth < 10 then marchMonth + 3 else marchMonth - 9
  ⟨if month ≤ 2 then year + 1 else year, month, dayOfYear - (153 * marchMonth + 2) / 5 + 1⟩

/-- A number is a cycle, a year of the cycle and a day of the year. -/
theorem exists_ofNumber (n : Int) : ∃ (cycle : Int) (y dayOfYear : Nat), y < 400 ∧
    dayOfYear < yearLength y ∧ n + 719468 = cycle * 146097 + (daysBefore y + dayOfYear : Nat) ∧
    CivilDay.ofNumber n = ofDayOfYear (y + cycle * 400) dayOfYear := by
  have hday : ((n + 719468) % 146097).toNat < daysBefore 400 := by
    have : daysBefore 400 = 146097 := rfl
    omega
  obtain ⟨y, hy, hfirst, hlast⟩ := exists_year hday
  have hyear := yearIndex_eq hy hfirst hlast
  have hsucc := daysBefore_succ y
  refine ⟨(n + 719468) / 146097, y, ((n + 719468) % 146097).toNat - daysBefore y, hy, by omega,
    by omega, ?_⟩
  have hdays : daysBefore y = 365 * y + y / 4 - y / 100 := by
    unfold daysBefore
    omega
  unfold yearIndex withoutLeapDays at hyear
  simp only [CivilDay.ofNumber, ofDayOfYear, hyear, hdays]

variable {year cycle : Int} {y dayOfYear : Nat}

/-- The months from March on are counted back from January. -/
theorem number_ofDayOfYear (hy : y < 400) (h : dayOfYear < 366) :
    (ofDayOfYear (y + cycle * 400) dayOfYear).number =
      cycle * 146097 + (daysBefore y + dayOfYear : Nat) - 719468 := by
  have hlast : (5 * dayOfYear + 2) / 153 < 12 := by omega
  have hfirst : (153 * ((5 * dayOfYear + 2) / 153) + 2) / 5 ≤ dayOfYear := by omega
  generalize hyear : (y : Int) + cycle * 400 = year
  have hcycle : year / 400 = cycle := by omega
  have hyearOfCycle : year % 400 = y := by omega
  unfold ofDayOfYear CivilDay.number
  generalize (5 * dayOfYear + 2) / 153 = marchMonth at hlast hfirst ⊢
  have hday : (153 * marchMonth + 2) / 5 + (dayOfYear - (153 * marchMonth + 2) / 5 + 1) - 1 =
      dayOfYear := by omega
  have hdays : (y : Int) * 365 + (y : Int) / 4 - (y : Int) / 100 = (daysBefore y : Nat) := by
    unfold daysBefore
    omega
  by_cases hmarch : marchMonth < 10
  · have hback : marchMonth + 3 - 3 = marchMonth := by omega
    simp only [if_pos hmarch, if_neg (show ¬ marchMonth + 3 ≤ 2 by omega),
      if_pos (show 2 < marchMonth + 3 by omega), hback, hcycle, hyearOfCycle, hday]
    omega
  · have hback : marchMonth - 9 + 9 = marchMonth := by omega
    simp only [if_neg hmarch, if_pos (show marchMonth - 9 ≤ 2 by omega),
      if_neg (show ¬ 2 < marchMonth - 9 by omega), hback, Int.add_sub_cancel, hcycle, hyearOfCycle,
      hday]
    omega

/-- All months but February have their days in every year. -/
theorem monthLength_of_march {year : Int} {marchMonth : Nat} (h : marchMonth < 11) :
    monthLength year (if marchMonth < 10 then marchMonth + 3 else marchMonth - 9) =
      (153 * (marchMonth + 1) + 2) / 5 - (153 * marchMonth + 2) / 5 := by
  unfold monthLength
  interval_cases marchMonth <;> rfl

/-- No day of a year is after the last day of its month. -/
theorem day_ofDayOfYear_le (h : dayOfYear < if isLeapYear (year + 1) then 366 else 365) :
    (ofDayOfYear year dayOfYear).day ≤
      monthLength (ofDayOfYear year dayOfYear).year (ofDayOfYear year dayOfYear).month := by
  have hlt : dayOfYear < 366 := by grind
  by_cases hmarch : (5 * dayOfYear + 2) / 153 < 11
  · simp only [ofDayOfYear, monthLength_of_march hmarch]
    omega
  · have hfebruary : (5 * dayOfYear + 2) / 153 = 11 := by omega
    have hlength : monthLength (year + 1) 2 = if isLeapYear (year + 1) then 29 else 28 := rfl
    simp only [ofDayOfYear, hfebruary, Nat.reduceLT, if_false, Nat.reduceSub, Nat.le_refl, if_true,
      hlength]
    split at h
    · rw [if_pos ‹_›]
      omega
    · rw [if_neg ‹_›]
      omega

theorem isReal_ofDayOfYear (hyear : CivilDay.firstYear ≤ (ofDayOfYear year dayOfYear).year ∧
      (ofDayOfYear year dayOfYear).year ≤ CivilDay.lastYear)
    (h : dayOfYear < if isLeapYear (year + 1) then 366 else 365) :
    (ofDayOfYear year dayOfYear).isReal := by
  have hlast := day_ofDayOfYear_le h
  have hmonth : 1 ≤ (ofDayOfYear year dayOfYear).month ∧
      (ofDayOfYear year dayOfYear).month ≤ 12 := by
    have hlt : dayOfYear < 366 := by grind
    unfold ofDayOfYear
    grind
  have hday : 1 ≤ (ofDayOfYear year dayOfYear).day := Nat.succ_pos _
  simp [CivilDay.isReal, hyear, hmonth, hday, hlast]

namespace CivilDay

/-- The day of a number has that number. -/
theorem number_ofNumber (n : Int) : (ofNumber n).number = n := by
  obtain ⟨cycle, y, dayOfYear, hy, hlength, hn, hday⟩ := exists_ofNumber n
  have hlt : dayOfYear < 366 := by
    unfold yearLength at hlength
    grind
  rw [hday, number_ofDayOfYear hy hlt, ← hn]
  omega

/-- It is a day of the calendar, unless its year is too far away. -/
theorem isReal_ofNumber (n : Int)
    (h : firstYear ≤ (ofNumber n).year ∧ (ofNumber n).year ≤ lastYear) : (ofNumber n).isReal := by
  obtain ⟨cycle, y, dayOfYear, hy, hlength, -, hday⟩ := exists_ofNumber n
  rw [hday] at h ⊢
  refine isReal_ofDayOfYear h ?_
  have hleap : isLeapYear (y + cycle * 400 + 1) = isLeapYear (y + 1 : Nat) := by
    rw [Bool.eq_iff_iff, isLeapYear_iff, isLeapYear_iff]
    omega
  rw [hleap]
  exact hlength

end CivilDay

end Formulary.Calendar
