/-!
# Numerals

The number that a decimal text stands for: a sign, digits with an optional point, an optional
exponent, or the word for an infinity or for not a number.

## Main definitions

* `scaled` : the double nearest to a whole number times a power of ten;
* `Numeral` : the parts of a numeral;
* `readNumber?` : the double of a text.
-/
namespace Formulary.Number

def digitsValue (s : List Char) : Nat :=
  s.foldl (fun n c => 10 * n + (c.toNat - '0'.toNat)) 0

/-- The double nearest to `n · 10 ^ e`. Beyond the range of the doubles the power itself is not
computed. -/
def scaled (n : Nat) (e : Int) : Float :=
  let magnitude : Int := (Nat.toDigits 10 n).length + e
  if n = 0 ∨ magnitude < -330 then 0.0
  else if 330 < magnitude then 1.0 / 0.0
  else if e < 0 then Float.ofScientific n true (-e).toNat
  else Float.ofScientific n false e.toNat

structure Numeral where
  whole : List Char
  fraction : List Char
  exponent : Int
deriving Repr

namespace Numeral

def value (n : Numeral) : Float :=
  scaled (digitsValue (n.whole ++ n.fraction)) (n.exponent - n.fraction.length)

/-- A whole number with an optional sign, to the end of the text. -/
def readExponent? (s : List Char) : Option Int :=
  let (negative, digits) := match s with
    | '-' :: rest => (true, rest)
    | '+' :: rest => (false, rest)
    | _ => (false, s)
  if digits.isEmpty || !digits.all Char.isDigit then none
  else
    let n : Int := digitsValue digits
    some (if negative then -n else n)

/-- Read an unsigned numeral to the end of the text. There is a digit before the exponent. -/
def read? (s : List Char) : Option Numeral :=
  let whole := s.takeWhile Char.isDigit
  let rest := s.dropWhile Char.isDigit
  let (fraction, rest) := match rest with
    | '.' :: rest => (rest.takeWhile Char.isDigit, rest.dropWhile Char.isDigit)
    | _ => ([], rest)
  if whole.isEmpty && fraction.isEmpty then none
  else match rest with
    | [] => some ⟨whole, fraction, 0⟩
    | c :: rest =>
      if c = 'e' ∨ c = 'E' then (readExponent? rest).map (⟨whole, fraction, ·⟩) else none

end Numeral

/-- The double of an unsigned text: a numeral, or a word in any case. -/
def readUnsigned? (s : List Char) : Option Float :=
  match s.map Char.toLower with
  | ['i', 'n', 'f'] | ['i', 'n', 'f', 'i', 'n', 'i', 't', 'y'] => some (1.0 / 0.0)
  | ['n', 'a', 'n'] => some (0.0 / 0.0)
  | _ => (Numeral.read? s).map Numeral.value

def readNumber? (s : String) : Option Float :=
  match s.toList with
  | '-' :: rest => (readUnsigned? rest).map (-·)
  | '+' :: rest => readUnsigned? rest
  | rest => readUnsigned? rest

end Formulary.Number
