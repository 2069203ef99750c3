import Formulary.Formula.Error
import Formulary.Number.Numeral
import Formulary.Text.LetterCase

/-!
# The builtin functions

What each function computes. A function checks its argument count first, then its arguments from
left to right, then its result.

## Main definitions

* `Builtin.apply` : the value of a call.
-/
namespace Formulary

open Calendar (Instant CivilDay)

namespace Builtin

def finite (function : Builtin) (x : Float) : Except FormulaError Value :=
  if x.isFinite then .ok (.number x) else .error (.nonFinite (.function function))

def numberArgument (function : Builtin) : Value → Except FormulaError Float
  | .number x => .ok x
  | other => .error (.type (.argument function .number other.kind))

/-- An argument that has to be a date, or the text of one. -/
def dateArgument (function : Builtin) : Value → Except FormulaError Instant
  | .date t => .ok t
  | .text s =>
    match Calendar.readDate? s with
    | some t => .ok t
    | none => .error (.type (.noDate function s))
  | other => .error (.type (.argument function .date other.kind))

def wrongArity {α : Type} (function : Builtin) (expected : Arity) (arguments : List Value) :
    Except FormulaError α :=
  .error (.arity function expected arguments.length)

def ofNumber (function : Builtin) (f : Float → Float) : List Value → Except FormulaError Value
  | [v] => do function.finite (f (← function.numberArgument v))
  | arguments => function.wrongArity (.exactly 1) arguments

def ofText (function : Builtin) (f : String → String) : List Value → Except FormulaError Value
  | [.text s] => .ok (.text (f s))
  | [other] => .error (.type (.argument function .string other.kind))
  | arguments => function.wrongArity (.exactly 1) arguments

def ofDate (function : Builtin) (f : CivilDay → Float) : List Value → Except FormulaError Value
  | [v] => do return .number (f (← function.dateArgument v).day)
  | arguments => function.wrongArity (.exactly 1) arguments

/-- The numbers of the only argument, an array, or else of the arguments. -/
def numbers (function : Builtin) (arguments : List Value) : Except FormulaError (List Float) :=
  match arguments with
  | [.array items] => items.mapM function.numberArgument
  | _ => arguments.mapM function.numberArgument

/-- The numbers combined from left to right; there has to be one. -/
def combined (function : Builtin) (f : Float → Float → Float) (arguments : List Value) :
    Except FormulaError Value := do
  match ← function.numbers arguments with
  | [] => .error (.arity function (.atLeast 1) 0)
  | x :: rest => function.finite (rest.foldl f x)

/-- The smaller number; not a number yields to the other. -/
def smaller (x y : Float) : Float := if x.isNaN then y else if y < x then y else x

/-- The larger number; not a number yields to the other. -/
def larger (x y : Float) : Float := if x.isNaN then y else if x < y then y else x

def total (xs : List Float) : Float := xs.foldl (· + ·) (-0.0)

/-- The sign of a number; zero has none. -/
def signOf (x : Float) : Float :=
  if x == 0.0 then 0.0 else if x.isNaN then x else if x < 0.0 then -1.0 else 1.0

/-- A number rounded to so many decimal places, by scaling, rounding and scaling back. -/
def roundTo (x places : Float) : Float :=
  let factor := Number.tenToThe (Number.toIntWithin (-2147483648) 2147483647 places)
  Number.round (x * factor) / factor

def within (x low high : Float) : Float := if x < low then low else if high < x then high else x

def dayMillis : Float := 86400000.0

/-- The day of three numbers, each cut to a whole one. -/
def dayOf (year month day : Float) : CivilDay where
  year := Number.toIntWithin (-2147483648) 2147483647 year
  month := (Number.toIntWithin 0 4294967295 month).toNat
  day := (Number.toIntWithin 0 4294967295 day).toNat

def apply (function : Builtin) (arguments : List Value) : Except FormulaError Value :=
  match function with
  | abs => ofNumber abs Float.abs arguments
  | ceil => ofNumber ceil Number.ceil arguments
  | floor => ofNumber floor Number.floor arguments
  | trunc => ofNumber trunc Number.trunc arguments
  | sqrt => ofNumber sqrt Float.sqrt arguments
  | sign => ofNumber sign signOf arguments
  | pow =>
    match arguments with
    | [b, e] => do
      let base ← pow.numberArgument b
      let exponent ← pow.numberArgument e
      pow.finite (base.pow exponent)
    | _ => wrongArity pow (.exactly 2) arguments
  | round =>
    match arguments with
    | [v] => do round.finite (roundTo (← round.numberArgument v) 0.0)
    | [v, d] => do
      let x ← round.numberArgument v
      let places ← round.numberArgument d
      round.finite (roundTo x places)
    | _ => wrongArity round (.either 1 2) arguments
  | clamp =>
    match arguments with
    | [v, l, h] => do
      let x ← clamp.numberArgument v
      let low ← clamp.numberArgument l
      let high ← clamp.numberArgument h
      if high < low then .error (.type (.invertedBounds low high))
      else if low.isNaN || high.isNaN then .error .unorderedBounds
      else clamp.finite (within x low high)
    | _ => wrongArity clamp (.exactly 3) arguments
  | min => combined min smaller arguments
  | max => combined max larger arguments
  | sum => do sum.finite (total (← sum.numbers arguments))
  | avg => do
    let xs ← avg.numbers arguments
    if xs.isEmpty then .error (.type .emptyAverage)
    else avg.finite (total xs / Number.ofCount xs.length)
  | concat => .ok (.text (String.join (arguments.map Value.display)))
  | upper => ofText upper Text.upper arguments
  | lower => ofText lower Text.lower arguments
  | trim => ofText trim Text.trim arguments
  | len =>
    match arguments with
    | [.text s] => .ok (.number (Number.ofCount s.length))
    | [.array items] => .ok (.number (Number.ofCount items.length))
    | [.object fields] => .ok (.number (Number.ofCount fields.length))
    | [other] => .error (.type (.argument len .measurable other.kind))
    | _ => wrongArity len (.exactly 1) arguments
  | str =>
    match arguments with
    | [v] => .ok (.text v.display)
    | _ => wrongArity str (.exactly 1) arguments
  | num =>
    match arguments with
    | [.number x] => .ok (.number x)
    | [.bool b] => .ok (.number (if b then 1.0 else 0.0))
    | [.text s] =>
      match (Number.readNumber? (Text.trim s)).filter Float.isFinite with
      | some x => .ok (.number x)
      | none => .error (.type (.noNumber s))
    | [other] => .error (.type (.argument num .numeric other.kind))
    | _ => wrongArity num (.exactly 1) arguments
  | coalesce => .ok ((arguments.find? fun v => !v.isNull).getD .null)
  | date =>
    match arguments with
    | [v] => do return .date (← date.dateArgument v)
    | [y, m, d] => do
      let year ← date.numberArgument y
      let month ← date.numberArgument m
      let day ← date.numberArgument d
      match Instant.ofDay? (dayOf year month day) with
      | some t => return .date t
      | none => .error (.type (.noCalendarDate year month day))
    | _ => wrongArity date (.either 1 3) arguments
  | year => ofDate year (fun d => Float.ofInt d.year) arguments
  | month => ofDate month (fun d => Float.ofNat d.month) arguments
  | day => ofDate day (fun d => Float.ofNat d.day) arguments
  | addDays =>
    match arguments with
    | [s, n] => do
      let start ← addDays.dateArgument s
      let days ← addDays.numberArgument n
      let limit := Int.pow 2 63
      let millis := Number.toIntWithin (-limit) (limit - 1) (Number.round (days * dayMillis))
      match start.shift? millis with
      | some t => return .date t
      | none => .error (.nonFinite .dateShift)
    | _ => wrongArity addDays (.exactly 2) arguments
  | daysBetween =>
    match arguments with
    | [f, t] => do
      let start ← daysBetween.dateArgument f
      let stop ← daysBetween.dateArgument t
      return .number (Float.ofInt (stop.millisSince start) / dayMillis)
    | _ => wrongArity daysBetween (.exactly 2) arguments

end Builtin

end Formulary
