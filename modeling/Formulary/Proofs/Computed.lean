import Formulary.Proofs.Finite.Magnitude
import Formulary.Proofs.Finite.Value

/-!
# Computed values

Operators and functions compute values of their own: truth values, texts, dates, and numbers that
they check, that count, or that tell the parts of a date, none of which comes near the largest
double. Only the logical operators and `coalesce` pass on a value that they were given.

## Main definitions

* `Value.Computed` : the values that are computed from arguments;
* `BinaryOp.isLogical` : the operators that pass on an operand.

## Main statements

* `Builtin.apply_computed` : what a call computes;
* `Expr.applyUnary_computed`, `Expr.applyBinary_computed` : what an operator computes.
-/
namespace Formulary

/-- A value that is computed from arguments. The only number that is not checked is an argument,
which `num` leaves as it is. -/
inductive Value.Computed (arguments : List Value) : Value → Prop
  | bool (b : Bool) : Computed arguments (.bool b)
  | text (s : String) : Computed arguments (.text s)
  | date (t : Calendar.Instant) : Computed arguments (.date t)
  | finite {x : Float} : x.isFinite → Computed arguments (.number x)
  | argument {x : Float} : .number x ∈ arguments → Computed arguments (.number x)

abbrev GivesComputed (arguments : List Value) (r : Except FormulaError Value) : Prop :=
  Gives (Value.Computed arguments) r

namespace Value.Computed

variable {arguments : List Value} {v : Value}

theorem kind_ne_object (h : Computed arguments v) : v.kind ≠ .object := by
  cases h <;> exact nofun

end Value.Computed

/-- Whether an operator has one of its operands as its value. -/
def BinaryOp.isLogical : BinaryOp → Bool
  | .and | .or | .nullish => true
  | _ => false

/-! ### Dates -/

namespace Calendar

theorem CivilDay.month_ofNumber_le (n : Int) : (ofNumber n).month ≤ 10000 := by
  simp only [ofNumber]
  split <;> omega

theorem CivilDay.day_ofNumber_le (n : Int) : (ofNumber n).day ≤ 146098 := by
  simp only [ofNumber]
  omega

/-- A year is told from a day by way of cycles of 146097 days, 400 years each. -/
theorem CivilDay.natAbs_year_ofNumber_le {n : Int} (h : n.natAbs ≤ 100000000) :
    (ofNumber n).year.natAbs ≤ 1000000 := by
  simp only [ofNumber]
  split <;> omega

theorem Instant.natAbs_dayNumber_le (t : Instant) :
    (t.seconds / daySeconds).natAbs ≤ 100000000 := by
  have := t.first_le
  have := t.le_last
  simp only [daySeconds]
  omega

theorem Instant.natAbs_nanosSince_le (t s : Instant) :
    (t.nanosSince s).natAbs ≤ 20000000000000000000000 := by
  have := t.first_le
  have := t.le_last
  have := s.first_le
  have := s.le_last
  have := t.nanos_lt
  have := s.nanos_lt
  simp only [nanosSince, secondOfDay, daySeconds, second] at *
  omega

/-- The milliseconds between two dates fit 64 bits. -/
theorem Instant.natAbs_millisSince_lt (t s : Instant) : (t.millisSince s).natAbs < 2 ^ 64 := by
  have := t.natAbs_nanosSince_le s
  rw [millisSince, Int.natAbs_tdiv]
  change (t.nanosSince s).natAbs / 1000000 < 2 ^ 64
  omega

end Calendar

/-! ### Functions -/

namespace Builtin

variable (function : Builtin) (arguments : List Value)

theorem finite_computed (x : Float) : GivesComputed arguments (function.finite x) := by
  unfold finite
  split
  · exact .ok (.finite ‹_›)
  · exact .error trivial

theorem wrongArity_computed (expected : Arity) :
    GivesComputed arguments (function.wrongArity expected arguments) := .error trivial

theorem ofNumber_computed (f : Float → Float) :
    GivesComputed arguments (function.ofNumber f arguments) := by
  unfold ofNumber
  split
  · exact .bind_any fun x => function.finite_computed _ _
  · exact function.wrongArity_computed _ _

theorem ofText_computed (f : String → String) :
    GivesComputed arguments (function.ofText f arguments) := by
  unfold ofText
  split
  · exact .ok (.text _)
  · exact .error trivial
  · exact function.wrongArity_computed _ _

theorem ofDate_computed {f : Calendar.CivilDay → Float}
    (hf : ∀ t : Calendar.Instant, (f t.day).isFinite) :
    GivesComputed arguments (function.ofDate f arguments) := by
  unfold ofDate
  split
  · exact .bind_any fun t => .pure (.finite (hf t))
  · exact function.wrongArity_computed _ _

theorem combined_computed (f : Float → Float → Float) :
    GivesComputed arguments (function.combined f arguments) := by
  refine .bind_any fun xs => ?_
  split
  · exact .error trivial
  · exact function.finite_computed _ _

theorem isFinite_year (t : Calendar.Instant) : (Float.ofInt t.day.year).isFinite := by
  have hyear : t.day.year.natAbs ≤ 1000000 :=
    Calendar.CivilDay.natAbs_year_ofNumber_le t.natAbs_dayNumber_le
  exact Number.isFinite_ofInt (by omega)

theorem isFinite_month (t : Calendar.Instant) : (Float.ofNat t.day.month).isFinite := by
  have hmonth : t.day.month ≤ 10000 := Calendar.CivilDay.month_ofNumber_le _
  exact Number.isFinite_ofNat (by omega)

theorem isFinite_dayOfMonth (t : Calendar.Instant) : (Float.ofNat t.day.day).isFinite := by
  have hday : t.day.day ≤ 146098 := Calendar.CivilDay.day_ofNumber_le _
  exact Number.isFinite_ofNat (by omega)

/-- The quotient of the milliseconds between two dates by those of a day. -/
theorem isFinite_daysBetween (t s : Calendar.Instant) :
    (Float.ofInt (t.millisSince s) / dayMillis).isFinite := by
  have hday : Number.AtLeastOne dayMillis := by decide
  exact ((Number.fits_ofInt (t.natAbs_millisSince_lt s)).div hday (by decide)).isFinite (by decide)

/-- All functions but `coalesce` compute their values. -/
theorem apply_computed (h : function ≠ .coalesce) :
    GivesComputed arguments (function.apply arguments) := by
  cases function with
  | coalesce => exact absurd rfl h
  | abs | ceil | floor | trunc | sqrt | sign => exact ofNumber_computed _ _ _
  | upper | lower | trim => exact ofText_computed _ _ _
  | year =>
    simp only [apply]
    refine ofDate_computed _ _ ?_
    exact isFinite_year
  | month =>
    simp only [apply]
    refine ofDate_computed _ _ ?_
    exact isFinite_month
  | day =>
    simp only [apply]
    refine ofDate_computed _ _ ?_
    exact isFinite_dayOfMonth
  | min | max => exact combined_computed _ _ _
  | concat => exact .ok (.text _)
  | sum => exact .bind_any fun xs => finite_computed _ _ _
  | avg =>
    refine .bind_any fun xs => ?_
    split
    · exact .error trivial
    · exact finite_computed _ _ _
  | pow =>
    simp only [apply]
    split
    · exact .bind_any fun x => .bind_any fun y => finite_computed _ _ _
    · exact wrongArity_computed _ _ _
  | round =>
    simp only [apply]
    split
    · exact .bind_any fun x => finite_computed _ _ _
    · exact .bind_any fun x => .bind_any fun y => finite_computed _ _ _
    · exact wrongArity_computed _ _ _
  | clamp =>
    simp only [apply]
    split
    · refine .bind_any fun x => .bind_any fun low => .bind_any fun high => ?_
      split
      · exact .error trivial
      · split
        · exact .error trivial
        · exact finite_computed _ _ _
    · exact wrongArity_computed _ _ _
  | len =>
    simp only [apply]
    split
    · exact .ok (.finite (Number.isFinite_ofCount _))
    · exact .ok (.finite (Number.isFinite_ofCount _))
    · exact .ok (.finite (Number.isFinite_ofCount _))
    · exact .error trivial
    · exact wrongArity_computed _ _ _
  | str =>
    simp only [apply]
    split
    · exact .ok (.text _)
    · exact wrongArity_computed _ _ _
  | num =>
    simp only [apply]
    split
    · exact .ok (.argument (.head _))
    · split <;> exact .ok (.finite (by decide))
    · split
      · rename_i hread
        exact .ok (.finite (Option.filter_eq_some_iff.1 hread).2)
      · exact .error trivial
    · exact .error trivial
    · exact wrongArity_computed _ _ _
  | date =>
    simp only [apply]
    split
    · exact .bind_any fun t => .pure (.date _)
    · refine .bind_any fun y => .bind_any fun m => .bind_any fun d => ?_
      split
      · exact .pure (.date _)
      · exact .error trivial
    · exact wrongArity_computed _ _ _
  | addDays =>
    simp only [apply]
    split
    · refine .bind_any fun t => .bind_any fun n => ?_
      split
      · exact .pure (.date _)
      · exact .error trivial
    · exact wrongArity_computed _ _ _
  | daysBetween =>
    simp only [apply]
    split
    · exact .bind_any fun t => .bind_any fun s => .pure (.finite (isFinite_daysBetween s t))
    · exact wrongArity_computed _ _ _

end Builtin

/-! ### Operators -/

namespace Expr

theorem finite_computed (origin : Origin) (x : Float) : GivesComputed [] (finite origin x) := by
  unfold finite
  split
  · exact .ok (.finite ‹_›)
  · exact .error trivial

theorem applyUnary_computed (op : UnaryOp) (v : Value) : GivesComputed [] (applyUnary op v) := by
  unfold applyUnary
  split
  · exact .ok (.bool _)
  · exact finite_computed _ _
  · exact finite_computed _ _
  · exact .error trivial

theorem applyComparison_computed (op : BinaryOp) (holds : Ordering → Bool) (left right : Value) :
    GivesComputed [] (applyComparison op holds left right) := by
  unfold applyComparison
  split
  · exact .ok (.bool _)
  · exact .error trivial

theorem applyArithmetic_computed (op : BinaryOp) (f : Float → Float → Float)
    (left right : Value) : GivesComputed [] (applyArithmetic op f left right) := by
  unfold applyArithmetic
  split
  · exact finite_computed _ _
  · exact .error trivial

theorem applySum_computed (left right : Value) : GivesComputed [] (applySum left right) := by
  unfold applySum
  split
  · exact finite_computed _ _
  · exact .ok (.text _)
  · exact .ok (.text _)
  · exact .error trivial

/-- All operators but the logical ones compute their values. -/
theorem applyBinary_computed {op : BinaryOp} (h : op.isLogical = false) (left right : Value) :
    GivesComputed [] (applyBinary op left right) := by
  cases op with
  | and | or | nullish => cases h
  | equal | notEqual => exact .ok (.bool _)
  | less | lessEqual | greater | greaterEqual => exact applyComparison_computed _ _ _ _
  | add => exact applySum_computed _ _
  | sub | mul | div | mod | pow => exact applyArithmetic_computed _ _ _ _

end Expr

end Formulary
