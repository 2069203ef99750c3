import Formulary.Number.Binary

/-!
# Written numbers

The reals that round to a double form an interval around it. `shortest` takes the decimal with
the fewest digits in that interval, and of two with as many digits the nearer one. A `Layout` holds
the decisions of a format; there are two of them, one for messages and results as text, one for JSON.

## Main definitions

* `Rounding` : the interval of the reals that round to a double, scaled to integers;
* `shortest` : the decimal of a double;
* `Layout` : which exponents are written positionally, and what a whole number ends in;
* `plain`, `document` : the two formats;
* `Layout.write` : the text of a double;
* `display` : a number as the author of a formula expects it.
-/
namespace Formulary.Number

/-! ### The shortest decimal that reads back -/

structure Decimal where
  digits : Nat
  exponent : Int
deriving DecidableEq, Repr, Inhabited

/-- Which of two decimals, equally near, is taken. -/
inductive Tie
  | away | even
deriving DecidableEq, Repr

def digitCount (n : Nat) : Nat := (Nat.toDigits 10 n).length

/-- Write a decimal without zeros at its end, at most `steps` of them. -/
def Decimal.dropZeros (d : Decimal) : Nat → Decimal
  | 0 => d
  | steps + 1 =>
    if d.digits % 10 = 0 ∧ d.digits ≠ 0 then
      Decimal.dropZeros ⟨d.digits / 10, d.exponent + 1⟩ steps
    else d

/-- The reals that round to `m · 2 ^ e`, in units of `2 ^ (e - 2)`: from `low` to `high` around
`4 · m`. The ends belong to it when `m` is even. -/
structure Rounding where
  m : Nat
  e : Int
deriving Repr

namespace Rounding

/-- The lower end. Below a power of two the doubles lie twice as close. -/
def low (r : Rounding) : Nat :=
  if r.m = Nat.pow 2 52 ∧ -1074 < r.e then 4 * r.m - 1 else 4 * r.m - 2

def high (r : Rounding) : Nat := 4 * r.m + 2

def magnitude (r : Rounding) : Int :=
  if 0 ≤ r.e then (digitCount (scaleDown r.m r.e) : Int) - 1
  else (digitCount (r.m * Nat.pow 10 400 / Nat.pow 2 (-r.e).toNat) : Int) - 401

/-- What the scaled interval is multiplied by so that a grid of `10 ^ k` has whole steps. -/
def factor (r : Rounding) (k : Int) : Nat := Nat.pow 2 (r.e - 2).toNat * Nat.pow 10 (-k).toNat

/-- The step of the grid of `10 ^ k` in the same units. -/
def step (r : Rounding) (k : Int) : Nat := Nat.pow 2 (2 - r.e).toNat * Nat.pow 10 k.toNat

/-- Whether the point `c` of the grid of `10 ^ k` lies in the interval. -/
def holds (r : Rounding) (k : Int) (c : Nat) : Bool :=
  let low := r.low * r.factor k
  let high := r.high * r.factor k
  let point := c * r.step k
  if r.m % 2 = 0 then low ≤ point && point ≤ high else low < point && point < high

/-- The nearer of the value's two neighbours on the grid of `10 ^ k`, if one is in the
interval. -/
def onGrid? (r : Rounding) (tie : Tie) (k : Int) : Option Nat :=
  let value := 4 * r.m * r.factor k
  let below := value / r.step k
  let above := below + 1
  match r.holds k below, r.holds k above with
  | false, false => none
  | true, false => some below
  | false, true => some above
  | true, true =>
    let down := value - below * r.step k
    let up := above * r.step k - value
    if down < up then some below
    else if up < down then some above
    else match tie with
      | .away => some above
      | .even => some (if below % 2 = 0 then below else above)

/-- The shortest decimal in the interval. Seventeen digits always suffice. -/
def decimal (r : Rounding) (tie : Tie) : Decimal :=
  let top := r.magnitude
  let found := (List.range 17).findSome? fun (n : Nat) =>
    (r.onGrid? tie (top - n)).map fun c => (⟨c, top - n⟩ : Decimal)
  (found.getD ⟨4 * r.m * r.factor (top - 16) / r.step (top - 16), top - 16⟩).dropZeros 18

end Rounding

/-- The shortest decimal that reads back as `m · 2 ^ e`. -/
def shortest (tie : Tie) (m : Nat) (e : Int) : Decimal :=
  if m = 0 then ⟨0, 0⟩ else (Rounding.mk m e).decimal tie

/-! ### Layouts -/

structure Layout where
  /-- Which of two equally near shortest decimals is written. -/
  tie : Tie
  /-- The exponents of the leading digit that are written without an exponent; `none` is all. -/
  positional : Option (Int × Int)
  /-- What follows a whole number that is written without an exponent. -/
  wholeEnd : String
deriving Repr

/-- Numbers in messages: never an exponent. -/
def plain : Layout := ⟨.away, none, ""⟩

/-- Numbers in JSON: an exponent below `1e-5` and from `1e16`, and a fraction on whole numbers. -/
def document : Layout := ⟨.even, some (-5, 15), ".0"⟩

def digitText (n : Nat) : String := String.ofList (Nat.toDigits 10 n)

def intText (n : Int) : String :=
  if n < 0 then "-" ++ digitText n.natAbs else digitText n.natAbs

def zeros (n : Nat) : String := String.ofList (List.replicate n '0')

def padded (width n : Nat) : String :=
  let text := digitText n
  zeros (width - text.length) ++ text

namespace Decimal

def magnitude (d : Decimal) : Int := (digitCount d.digits : Int) - 1 + d.exponent

def positionalText (wholeEnd : String) (d : Decimal) : String :=
  let digits := Nat.toDigits 10 d.digits
  if 0 ≤ d.exponent then String.ofList digits ++ zeros d.exponent.toNat ++ wholeEnd
  else
    let point := d.magnitude + 1
    if 0 < point then
      String.ofList (digits.take point.toNat) ++ "." ++ String.ofList (digits.drop point.toNat)
    else "0." ++ zeros (-point).toNat ++ String.ofList digits

def scientificText (d : Decimal) : String :=
  let digits := Nat.toDigits 10 d.digits
  let fraction := digits.drop 1
  let mantissa := String.ofList (digits.take 1)
    ++ (if fraction.isEmpty then "" else "." ++ String.ofList fraction)
  let e := d.magnitude
  mantissa ++ "e" ++ (if e < 0 then "-" else "+") ++ digitText e.natAbs

end Decimal

namespace Layout

def writeDecimal (l : Layout) (d : Decimal) : String :=
  match l.positional with
  | none => d.positionalText l.wholeEnd
  | some (low, high) =>
    if d.digits = 0 ∨ (low ≤ d.magnitude ∧ d.magnitude ≤ high) then d.positionalText l.wholeEnd
    else d.scientificText

def write (l : Layout) (x : Float) : String :=
  match parts x with
  | .nan => "NaN"
  | .infinite negative => if negative then "-inf" else "inf"
  | .finite negative m e =>
    (if negative then "-" else "") ++ l.writeDecimal (shortest l.tie m e)

end Layout

/-- The whole number of a double that is one below `2 ^ 53` in magnitude. -/
def safeInt? (x : Float) : Option Int :=
  (toInt? x).filter fun n => n.natAbs < Nat.pow 2 53

/-- A number as the author of a formula expects it: a whole number has neither fraction nor a
negative zero. -/
def display (x : Float) : String :=
  match safeInt? x with
  | some n => intText n
  | none => plain.write x

end Formulary.Number
