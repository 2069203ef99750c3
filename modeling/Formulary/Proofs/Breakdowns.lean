import Formulary.Proofs.Computed
import Formulary.Proofs.EvaluationErrors
import Formulary.Proofs.Number.Units

/-!
# Calls that break down

A function takes its arguments by their places, and it uses operations that are not defined for all
operands: an argument can be missing, bounds can have no order, a duration can be too long. Written
with these operations, each of which breaks down where it is not defined, a call is what `apply`
says that it is, but for calls of `clamp` whose bounds have no order. Those break down.

## Main definitions

* `Breakdown`, `Attempt` : computations that break down, fail or yield;
* `Builtin.perform` : a call, step by step.

## Main statements

* `millisBetween_eq` : no duration between two dates is too long;
* `Builtin.perform_eq_report` : a call that does not break down;
* `Builtin.perform_sound` : which calls break down.
-/
namespace Formulary

open Calendar (Instant second daySeconds)

variable {α β : Type}

/-- The operation that a computation breaks down at, and the operands that it is not defined for. -/
inductive Breakdown
  | noArgument (place count : Nat)
  | noOrder (low high : Float)
  | longDuration (nanos : Int)
  | wideInteger (n : Int)

/-- A computation that breaks down, or else fails with an error or yields a value. -/
abbrev Attempt (α : Type) := ExceptT FormulaError (Except Breakdown) α

namespace Attempt

def breakDown (b : Breakdown) : Attempt α := ExceptT.mk (.error b)

/-- Fail with an error or yield a value. -/
def report (r : Except FormulaError α) : Attempt α := ExceptT.mk (.ok r)

@[simp]
theorem report_ok_bind (a : α) (f : α → Attempt β) : report (.ok a) >>= f = f a := rfl

theorem report_bind_report (r : Except FormulaError α) (f : α → Except FormulaError β) :
    (report r >>= fun a => report (f a)) = report (r >>= f) := by
  cases r <;> rfl

theorem report_bind_congr {r : Except FormulaError α} {f g : α → Attempt β}
    (h : ∀ a, r = .ok a → f a = g a) : report r >>= f = report r >>= g := by
  cases r with
  | error e => rfl
  | ok a => exact h a rfl

theorem breakDown_ne_report (b : Breakdown) (r : Except FormulaError α) :
    (breakDown b : Attempt α) ≠ report r := nofun

end Attempt

open Attempt (breakDown report)

/-! ### Operations that are not defined for all operands -/

/-- The argument at a place. There has to be one. -/
def argumentAt (arguments : List Value) (place : Nat) : Attempt Value :=
  match arguments[place]? with
  | some v => pure v
  | none => breakDown (.noArgument place arguments.length)

/-- A number kept within bounds. The lower bound must not exceed the upper one, and neither may be
no number. -/
def keepWithin (x low high : Float) : Attempt Float :=
  if low ≤ high then pure (Builtin.within x low high) else breakDown (.noOrder low high)

/-- A duration. Its milliseconds have to fit a machine integer, the least one apart. -/
def duration (nanos : Int) : Attempt Int :=
  if nanos.natAbs ≤ (2 ^ 63 - 1) * 1000000 then pure nanos else breakDown (.longDuration nanos)

def machineInteger (n : Int) : Attempt Int :=
  if -2 ^ 63 ≤ n ∧ n < 2 ^ 63 then pure n else breakDown (.wideInteger n)

namespace Calendar.Instant

variable (t : Instant)

theorem first_le_secondOfDay : -8334601228800 ≤ t.secondOfDay := by
  simp only [secondOfDay, daySeconds]
  omega

theorem secondOfDay_le_last : t.secondOfDay ≤ 8210266876799 := by
  simp only [secondOfDay, daySeconds]
  omega

/-- The same time on the first day of 1970. -/
def timeOfDay : Instant where
  seconds := t.secondOfDay
  nanos := t.nanos
  first_le := t.first_le_secondOfDay
  le_last := t.secondOfDay_le_last
  nanos_lt := t.nanos_lt

end Calendar.Instant

/-- The whole milliseconds from `s` to `t`: the duration between their days and the one between their
times of day are added, and the sum is cut to whole seconds and milliseconds. -/
def millisBetween (t s : Instant) : Attempt Int := do
  let days ← duration ((t.seconds / daySeconds - s.seconds / daySeconds) * daySeconds * second)
  let time ← duration (t.timeOfDay.nanosSince s.timeOfDay)
  let both ← duration (days + time)
  let whole ← machineInteger (both.tdiv second * 1000)
  machineInteger (whole + (both.tmod second).tdiv 1000000)

theorem duration_eq {nanos : Int} (h : nanos.natAbs ≤ (2 ^ 63 - 1) * 1000000) :
    duration nanos = report (.ok nanos) :=
  if_pos h

theorem machineInteger_eq {n : Int} (h : -2 ^ 63 ≤ n ∧ n < 2 ^ 63) :
    machineInteger n = report (.ok n) :=
  if_pos h

/-! ### Durations between dates -/

theorem nanosSince_eq_add (t s : Instant) : t.nanosSince s =
    (t.seconds / daySeconds - s.seconds / daySeconds) * daySeconds * second +
      t.timeOfDay.nanosSince s.timeOfDay := by
  simp only [Instant.nanosSince, Instant.timeOfDay, Instant.secondOfDay, Int.emod_emod, daySeconds,
    second]
  omega

theorem tdiv_add_tdiv_tmod_of_nonneg {n : Int} (h : 0 ≤ n) :
    n.tdiv second * 1000 + (n.tmod second).tdiv 1000000 = n.tdiv 1000000 := by
  have hrest : 0 ≤ n % second := Int.emod_nonneg n (by decide)
  rw [Int.tdiv_eq_ediv_of_nonneg h, Int.tdiv_eq_ediv_of_nonneg h, Int.tmod_eq_emod_of_nonneg h,
    Int.tdiv_eq_ediv_of_nonneg hrest]
  simp only [second]
  omega

/-- The whole seconds and the milliseconds that are left are all whole milliseconds. -/
theorem tdiv_add_tdiv_tmod (n : Int) :
    n.tdiv second * 1000 + (n.tmod second).tdiv 1000000 = n.tdiv 1000000 := by
  obtain ⟨k, rfl | rfl⟩ := n.eq_nat_or_neg
  · exact tdiv_add_tdiv_tmod_of_nonneg (by omega)
  · have := tdiv_add_tdiv_tmod_of_nonneg (n := k) (by omega)
    simp only [Int.neg_tdiv, Int.neg_tmod]
    omega

/-- Dates are so close to each other that no duration between them is too long. -/
theorem millisBetween_eq (t s : Instant) :
    millisBetween t s = report (.ok (t.millisSince s)) := by
  have hsum := nanosSince_eq_add t s
  have hboth := t.natAbs_nanosSince_le s
  have htime := t.timeOfDay.natAbs_nanosSince_le s.timeOfDay
  have hdays : ((t.seconds / daySeconds - s.seconds / daySeconds) * daySeconds * second).natAbs ≤
      (2 ^ 63 - 1) * 1000000 := by
    omega
  have hseconds : ((t.nanosSince s).tdiv second).natAbs = (t.nanosSince s).natAbs / second :=
    Int.natAbs_tdiv ..
  have hmillis : (t.millisSince s).natAbs = (t.nanosSince s).natAbs / 1000000 := Int.natAbs_tdiv ..
  simp only [second] at hseconds
  rw [millisBetween, duration_eq hdays, Attempt.report_ok_bind, duration_eq (by omega),
    Attempt.report_ok_bind, ← hsum, duration_eq (by omega), Attempt.report_ok_bind,
    machineInteger_eq (by simp only [second]; omega), Attempt.report_ok_bind, tdiv_add_tdiv_tmod]
  exact machineInteger_eq (by rw [← Instant.millisSince]; omega)

/-! ### Calls -/

namespace Builtin

variable (function : Builtin)

def checkArity (expected : Arity) (arguments : List Value) : Attempt Unit :=
  if expected.admits arguments.length then pure ()
  else report (function.wrongArity expected arguments)

/-- A call, step by step. Arguments are counted before they are taken by their places. What comes
after that, and all of the other functions, is made of operations that are defined everywhere. -/
def perform (arguments : List Value) : Attempt Value :=
  match function with
  | abs | ceil | floor | trunc | sqrt | sign | upper | lower | trim | len | str | num | year | month
  | day => do
    function.checkArity (.exactly 1) arguments
    report (function.apply [← argumentAt arguments 0])
  | pow => do
    pow.checkArity (.exactly 2) arguments
    let base ← report (pow.numberArgument (← argumentAt arguments 0))
    let exponent ← report (pow.numberArgument (← argumentAt arguments 1))
    report (pow.finite (base.pow exponent))
  | round => do
    round.checkArity (.either 1 2) arguments
    let x ← report (round.numberArgument (← argumentAt arguments 0))
    let places ← match arguments[1]? with
      | some d => report (round.numberArgument d)
      | none => pure 0.0
    report (round.finite (roundTo x places))
  | clamp => do
    clamp.checkArity (.exactly 3) arguments
    let x ← report (clamp.numberArgument (← argumentAt arguments 0))
    let low ← report (clamp.numberArgument (← argumentAt arguments 1))
    let high ← report (clamp.numberArgument (← argumentAt arguments 2))
    if high < low then report (.error (.type (.invertedBounds low high)))
    else report (clamp.finite (← keepWithin x low high))
  | addDays => do
    addDays.checkArity (.exactly 2) arguments
    let start ← report (addDays.dateArgument (← argumentAt arguments 0))
    let days ← report (addDays.numberArgument (← argumentAt arguments 1))
    report (addDays.apply [.date start, .number days])
  | daysBetween => do
    daysBetween.checkArity (.exactly 2) arguments
    let start ← report (daysBetween.dateArgument (← argumentAt arguments 0))
    let stop ← report (daysBetween.dateArgument (← argumentAt arguments 1))
    let millis ← millisBetween stop start
    report (pure (.number (Float.ofInt millis / dayMillis)))
  | min | max | sum | avg | concat | coalesce | date => report (function.apply arguments)

@[simp]
theorem numberArgument_number (x : Float) : function.numberArgument (.number x) = .ok x := rfl

@[simp]
theorem dateArgument_date (t : Instant) : function.dateArgument (.date t) = .ok t := rfl

/-- Bounds that are not inverted are in order, unless one is no number. -/
theorem keepWithin_eq {x low high : Float} (h : ¬ high < low) :
    keepWithin x low high =
      if low.isNaN ∨ high.isNaN then breakDown (.noOrder low high)
      else report (.ok (within x low high)) := by
  unfold keepWithin
  have horder := Number.le_iff_not_isNaN_and_not_lt (x := low) (y := high)
  by_cases hnan : low.isNaN ∨ high.isNaN
  · rw [if_neg (by tauto), if_pos hnan]
  · rw [if_pos (horder.2 ⟨hnan, h⟩), if_neg hnan]
    rfl

/-- The steps of `clamp` once its arguments are there. -/
theorem perform_clamp (v l u : Value) :
    clamp.perform [v, l, u] = (do
      let x ← report (clamp.numberArgument v)
      let low ← report (clamp.numberArgument l)
      let high ← report (clamp.numberArgument u)
      if high < low then report (.error (.type (.invertedBounds low high)))
      else report (clamp.finite (← keepWithin x low high))) := rfl

/-- A call of `clamp` for bounds without an order breaks down. -/
theorem perform_eq_breakDown {x low high : Float} (h : low.isNaN ∨ high.isNaN) :
    clamp.perform [.number x, .number low, .number high] = breakDown (.noOrder low high) := by
  have hlt : ¬ high < low := Number.not_lt_of_isNaN (or_comm.1 h)
  simp only [perform_clamp, numberArgument_number, Attempt.report_ok_bind, if_neg hlt,
    keepWithin_eq hlt, if_pos h]
  rfl

/-- A call that does not compare bounds without an order goes through all of its steps. -/
theorem perform_eq_report {arguments : List Value} (h : ¬ function.Unordered arguments) :
    function.perform arguments = report (function.apply arguments) := by
  cases function with
  | abs | ceil | floor | trunc | sqrt | sign | str | year | month | day =>
    rcases arguments with _ | ⟨v, _ | ⟨w, rest⟩⟩ <;> rfl
  | upper | lower | trim | len | num =>
    rcases arguments with _ | ⟨v, _ | ⟨w, rest⟩⟩
    · rfl
    · rfl
    · cases v <;> rfl
  | min | max | sum | avg | concat | coalesce | date => rfl
  | pow =>
    rcases arguments with _ | ⟨b, _ | ⟨e, _ | ⟨w, rest⟩⟩⟩
    · rfl
    · rfl
    · simp [perform, checkArity, Arity.admits, argumentAt, apply, ← Attempt.report_bind_report]
    · rfl
  | round =>
    rcases arguments with _ | ⟨v, _ | ⟨d, _ | ⟨w, rest⟩⟩⟩
    · rfl
    · simp [perform, checkArity, Arity.admits, argumentAt, apply, ← Attempt.report_bind_report]
    · simp [perform, checkArity, Arity.admits, argumentAt, apply, ← Attempt.report_bind_report]
    · rfl
  | addDays =>
    rcases arguments with _ | ⟨s, _ | ⟨n, _ | ⟨w, rest⟩⟩⟩
    · rfl
    · rfl
    · simp [perform, checkArity, Arity.admits, argumentAt, apply, ← Attempt.report_bind_report]
    · rfl
  | daysBetween =>
    rcases arguments with _ | ⟨s, _ | ⟨t, _ | ⟨w, rest⟩⟩⟩
    · rfl
    · rfl
    · simp [perform, checkArity, Arity.admits, argumentAt, apply, ← Attempt.report_bind_report,
        millisBetween_eq, -bind_pure_comp]
    · rfl
  | clamp =>
    rcases arguments with _ | ⟨v, _ | ⟨l, _ | ⟨u, _ | ⟨w, rest⟩⟩⟩⟩
    · rfl
    · rfl
    · rfl
    · rw [perform_clamp]
      simp only [apply, ← Attempt.report_bind_report]
      refine Attempt.report_bind_congr fun x hx => Attempt.report_bind_congr fun low hlow =>
        Attempt.report_bind_congr fun high hhigh => ?_
      obtain rfl := eq_number_of_numberArgument _ hx
      obtain rfl := eq_number_of_numberArgument _ hlow
      obtain rfl := eq_number_of_numberArgument _ hhigh
      have hnan : ¬ (low.isNaN ∨ high.isNaN) := fun hnan => h ⟨rfl, x, low, high, rfl, hnan⟩
      split
      · rfl
      · rename_i hlt
        rw [keepWithin_eq hlt, if_neg hnan, if_neg (by simpa using hnan)]
        rfl
    · rfl

/-- A call breaks down when it is one of `clamp` and a bound is no number. Every other call goes
through all of its steps, and yields a value or an error that says what is wrong with its
arguments. -/
theorem perform_sound (arguments : List Value) :
    (∃ x low high : Float, function = .clamp ∧
      arguments = [.number x, .number low, .number high] ∧ (low.isNaN ∨ high.isNaN) ∧
      function.perform arguments = breakDown (.noOrder low high)) ∨
    ¬ function.Unordered arguments ∧ ∃ r, function.perform arguments = report r ∧
      function.apply arguments = r ∧ FailsByOperands r := by
  by_cases h : function.Unordered arguments
  · obtain ⟨rfl, x, low, high, rfl, hnan⟩ := h
    exact .inl ⟨x, low, high, rfl, rfl, hnan, perform_eq_breakDown hnan⟩
  · refine .inr ⟨h, _, function.perform_eq_report h, rfl, ?_⟩
    exact (function.apply_fails arguments).mono_error fun e he =>
      he.resolve_right fun hun => h hun.2

/-- `clamp(1, limit, 2)` breaks down for a limit that is not a number. -/
theorem not_forall_perform_answers :
    ¬ ∀ (function : Builtin) (arguments : List Value),
      ∃ r, function.perform arguments = report r := by
  intro h
  obtain ⟨r, hr⟩ := h .clamp [.number 1, .number (0.0 / 0.0), .number 2]
  rw [perform_eq_breakDown (.inl (by decide +kernel))] at hr
  exact Attempt.breakDown_ne_report _ _ hr

end Builtin

end Formulary
