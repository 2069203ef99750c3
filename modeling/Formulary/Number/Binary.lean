/-!
# Doubles as integers times powers of two

A finite double is `± significand · 2 ^ exponent`. Rounding to whole numbers, remainders and
casts are computed on these integers, without rounding error of their own.

## Main definitions

* `Parts`, `parts`, `ofParts` : a double taken apart and put together;
* `trunc`, `floor`, `ceil`, `round` : rounding to a whole number, a half away from zero;
* `remainder` : the remainder of a truncating division;
* `toInt?` : the value of a whole number;
* `ofCount` : a count as a double.
-/
namespace Formulary.Number

inductive Parts
  | nan
  | infinite (negative : Bool)
  | finite (negative : Bool) (significand : Nat) (exponent : Int)
deriving DecidableEq, Repr, Inhabited

/-- Take a double apart. The significand of a normal number has its leading bit. -/
def parts (x : Float) : Parts :=
  let bits := x.toBits.toNat
  let negative := bits / Nat.pow 2 63 == 1
  let exponent : Nat := bits / Nat.pow 2 52 % Nat.pow 2 11
  let fraction : Nat := bits % Nat.pow 2 52
  if exponent = 2047 then
    if fraction = 0 then .infinite negative else .nan
  else if exponent = 0 then .finite negative fraction (-1074)
  else .finite negative (fraction + Nat.pow 2 52) ((exponent : Int) - 1075)

/-- `m · 2 ^ e` rounded down to a whole number. -/
def scaleDown (m : Nat) (e : Int) : Nat :=
  if 0 ≤ e then m * Nat.pow 2 e.toNat else m / Nat.pow 2 (-e).toNat

/-- The double `± m · 2 ^ e`. The value has to be that of a double. -/
def ofParts (negative : Bool) (m : Nat) (e : Int) : Float :=
  let sign := if negative then Nat.pow 2 63 else 0
  if m = 0 then Float.ofBits (UInt64.ofNat sign)
  else
    let top := (m.log2 : Int) + e
    if top < -1022 then Float.ofBits (UInt64.ofNat (sign + scaleDown m (e + 1074)))
    else
      let significand := scaleDown m (52 - m.log2)
      Float.ofBits (UInt64.ofNat (sign + (top + 1022).toNat * Nat.pow 2 52 + significand))

def ofWhole (negative : Bool) (n : Nat) : Float :=
  if negative then -Float.ofNat n else Float.ofNat n

/-- Round to a whole number. `adjust` is given the sign, the significand and the count of bits
after the binary point, and tells the whole number. -/
def roundBy (adjust : Bool → Nat → Nat → Nat) (x : Float) : Float :=
  match parts x with
  | .finite negative m e =>
    if 0 ≤ e then x else ofWhole negative (adjust negative m (-e).toNat)
  | _ => x

def trunc : Float → Float := roundBy fun _ m k => m / Nat.pow 2 k

def floor : Float → Float := roundBy fun negative m k =>
  if negative then (m + Nat.pow 2 k - 1) / Nat.pow 2 k else m / Nat.pow 2 k

def ceil : Float → Float := roundBy fun negative m k =>
  if negative then m / Nat.pow 2 k else (m + Nat.pow 2 k - 1) / Nat.pow 2 k

def round : Float → Float := roundBy fun _ m k => (2 * m + Nat.pow 2 k) / Nat.pow 2 (k + 1)

/-- The remainder of the division of `x` by `y` that truncates; it has the sign of `x`. -/
def remainder (x y : Float) : Float :=
  match parts x, parts y with
  | .finite negative m e, .finite _ n f =>
    if n = 0 then 0.0 / 0.0
    else
      let low := min e f
      ofParts negative ((m * Nat.pow 2 (e - low).toNat) % (n * Nat.pow 2 (f - low).toNat)) low
  | .finite .., .infinite _ => x
  | _, _ => 0.0 / 0.0

def toInt? (x : Float) : Option Int :=
  match parts x with
  | .finite negative m e =>
    if 0 ≤ e || m % Nat.pow 2 (-e).toNat == 0 then
      let n : Int := scaleDown m e
      some (if negative then -n else n)
    else none
  | _ => none

/-- Truncate toward zero and clamp to the bounds; not a number is `0`. -/
def toIntWithin (low high : Int) (x : Float) : Int :=
  match parts x with
  | .nan => 0
  | .infinite negative => if negative then low else high
  | .finite negative m e =>
    let n : Int := scaleDown m e
    max low (min high (if negative then -n else n))

/-- A count as a double. Counts are words of 64 bits. -/
def ofCount (n : Nat) : Float := (UInt64.ofNat n).toFloat

/-- Ten to a whole power by repeated squaring, as `1 / 10 ^ |n|` for a negative one. The
rounding of each product shows in the last digits, so their order is part of the rule. -/
def tenToThe (n : Int) : Float :=
  let power := go n.natAbs 64 10.0 1.0
  if n < 0 then 1.0 / power else power
where
  /-- Square `b` for each binary digit of `n`, and multiply those of the digits that are one. -/
  go (n : Nat) : Nat → Float → Float → Float
    | 0, _, r => r
    | steps + 1, b, r =>
      let r := if n % 2 = 1 then r * b else r
      if n / 2 = 0 then r else go (n / 2) steps (b * b) r

end Formulary.Number
