import Formulary.Text.Basic
import Formulary.Number.Numeral

/-!
# The smallest parts of a document

What the readers of JSON text share: the faults that they report, the blanks between the parts of
a document, its words, and the digits of escapes.

A number of a document is a whole number when it has neither point nor exponent and fits 64
bits. Any other one is a double: its significand, cut after the digits that fit 64 bits, is
scaled by a power of ten, and each of these steps rounds.

## Main definitions

* `Fault`, `Fault.message` : what is wrong with a text;
* `skipBlanks`, `skipWord` : what follows blanks or a word;
* `readHex` : the number of an escape;
* `readDocumentNumber` : the number that a text begins with, and the rest.
-/
namespace Formulary.Json

inductive Fault
  | endInList | endInObject | endInText | endInValue
  | colonExpected | listContinuationExpected | objectContinuationExpected
  | wordExpected | valueExpected | keyExpected
  | invalidEscape | invalidNumber | numberOutOfRange | controlCharacter
  | loneSurrogate | endOfEscape
  | trailingComma | trailingCharacters | tooNested
deriving DecidableEq, Repr

def Fault.message : Fault → String
  | endInList => "EOF while parsing a list"
  | endInObject => "EOF while parsing an object"
  | endInText => "EOF while parsing a string"
  | endInValue => "EOF while parsing a value"
  | colonExpected => "expected `:`"
  | listContinuationExpected => "expected `,` or `]`"
  | objectContinuationExpected => "expected `,` or `\x7d`"
  | wordExpected => "expected ident"
  | valueExpected => "expected value"
  | keyExpected => "key must be a string"
  | invalidEscape => "invalid escape"
  | invalidNumber => "invalid number"
  | numberOutOfRange => "number out of range"
  | controlCharacter => "control character (\\u0000-\\u001F) found while parsing a string"
  | loneSurrogate => "lone leading surrogate in hex escape"
  | endOfEscape => "unexpected end of hex escape"
  | trailingComma => "trailing comma"
  | trailingCharacters => "trailing characters"
  | tooNested => "recursion limit exceeded"

def isDocumentBlank (c : Char) : Bool := c == ' ' || c == '\n' || c == '\t' || c == '\r'

def skipBlanks (s : List Char) : List Char := s.dropWhile isDocumentBlank

def skipWord : (word : List Char) → List Char → Except Fault (List Char)
  | [], s => .ok s
  | _ :: _, [] => .error .endInValue
  | w :: word, c :: s => if c = w then skipWord word s else .error .wordExpected

def byteCount (s : List Char) : Nat := s.foldr (fun c count => c.utf8Size + count) 0

/-- Four hexadecimal digits and the rest. Other characters in the place of the digits are at
fault; the text ends too early only when it has less than four bytes left. -/
def readHex (s : List Char) : Except Fault (Nat × List Char) :=
  match s with
  | a :: b :: c :: d :: rest =>
    match Text.hexValue? a, Text.hexValue? b, Text.hexValue? c, Text.hexValue? d with
    | some a, some b, some c, some d => .ok (((a * 16 + b) * 16 + c) * 16 + d, rest)
    | _, _, _, _ => .error .invalidEscape
  | s => .error (if byteCount s < 4 then .endInText else .invalidEscape)

/-! ### Numbers -/

inductive DocumentNumber
  | integer (n : Int)
  | double (x : Float)

def significandLimit : Nat := Nat.pow 2 64 - 1

/-- Append digits to a significand as long as they fit: the significand, how many were taken, and
the digits that were not. -/
def appendDigits : Nat → List Char → Nat × Nat × List Char
  | significand, [] => (significand, 0, [])
  | significand, c :: rest =>
    let longer := 10 * significand + (c.toNat - '0'.toNat)
    if significandLimit < longer then (significand, 0, c :: rest)
    else
      let (final, taken, left) := appendDigits longer rest
      (final, taken + 1, left)

/-- Ten to a power that a double can hold. -/
def powerOfTen (n : Nat) : Float := Number.scaled 1 n

/-- `x · 10 ^ e`, each scaling rounded; `none` when it is too large. Small numbers are scaled at
most `steps` times before they are zero. -/
def scaleByTens (x : Float) (e : Int) : (steps : Nat) → Option Float
  | 0 => some x
  | steps + 1 =>
    if e.natAbs ≤ 308 then
      if 0 ≤ e then
        let y := x * powerOfTen e.toNat
        if y.isFinite then some y else none
      else some (x / powerOfTen e.natAbs)
    else if x == 0.0 then some x
    else if 0 ≤ e then none
    else scaleByTens (x / powerOfTen 308) (e + 308) steps

/-- The double `± significand · 10 ^ e`. -/
def scaledSignificand (negative : Bool) (significand : Nat) (e : Int) :
    Except Fault DocumentNumber :=
  match scaleByTens (Float.ofNat significand) e 8 with
  | some x => .ok (.double (if negative then -x else x))
  | none => .error .numberOutOfRange

/-- The largest magnitude of an exponent that is not cut off. -/
def exponentLimit : Nat := Nat.pow 2 31 - 1

/-- The exponent after `e`, and the double that it makes. -/
def readScaled (negative : Bool) (significand : Nat) (exponent : Int) (s : List Char) :
    Except Fault (DocumentNumber × List Char) :=
  let (down, digitsOn) := match s with
    | '+' :: rest => (false, rest)
    | '-' :: rest => (true, rest)
    | _ => (false, s)
  let digits := digitsOn.takeWhile Char.isDigit
  let rest := digitsOn.dropWhile Char.isDigit
  if digits.isEmpty then .error (if rest.isEmpty then .endInValue else .invalidNumber)
  else
    let e : Int := Number.digitsValue digits
    if (exponentLimit : Int) < e then
      if significand ≠ 0 ∧ !down then .error .numberOutOfRange
      else .ok (.double (if negative then -0.0 else 0.0), rest)
    else do
      let scale := if down then exponent - e else exponent + e
      return (← scaledSignificand negative significand scale, rest)

def readExponentPart (negative : Bool) (significand : Nat) (exponent : Int) (s : List Char) :
    Except Fault (DocumentNumber × List Char) :=
  match s with
  | 'e' :: rest | 'E' :: rest => readScaled negative significand exponent rest
  | _ => do return (← scaledSignificand negative significand exponent, s)

def readFractionPart (negative : Bool) (significand : Nat) (exponent : Int) (s : List Char) :
    Except Fault (DocumentNumber × List Char) :=
  let digits := s.takeWhile Char.isDigit
  let rest := s.dropWhile Char.isDigit
  if digits.isEmpty then .error (if rest.isEmpty then .endInValue else .invalidNumber)
  else
    let (longer, taken, _) := appendDigits significand digits
    readExponentPart negative longer (exponent - taken) rest

def readUnsigned (negative : Bool) (s : List Char) :
    Except Fault (DocumentNumber × List Char) :=
  let digits := s.takeWhile Char.isDigit
  let rest := s.dropWhile Char.isDigit
  match digits with
  | [] => .error (if rest.isEmpty then .endInValue else .invalidNumber)
  | '0' :: _ :: _ => .error .invalidNumber
  | _ =>
    let (significand, _, cut) := appendDigits 0 digits
    match rest with
    | '.' :: rest => readFractionPart negative significand cut.length rest
    | 'e' :: rest | 'E' :: rest => readScaled negative significand cut.length rest
    | _ =>
      if !cut.isEmpty then do
        return (← scaledSignificand negative significand cut.length, rest)
      else if !negative then .ok (.integer significand, rest)
      else if significand = 0 ∨ Nat.pow 2 63 < significand then
        .ok (.double (-Float.ofNat significand), rest)
      else .ok (.integer (-significand), rest)

def readDocumentNumber : List Char → Except Fault (DocumentNumber × List Char)
  | '-' :: rest => readUnsigned true rest
  | s => readUnsigned false s

end Formulary.Json
