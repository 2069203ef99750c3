import Formulary.Calendar.Instant
import Formulary.Text.Basic

/-!
# Reading dates

Three forms of a date are tried in turn: a time with an offset, in fields of fixed width; a time
without one, which is universal time; and a day, which stands for its start.

## Main definitions

* `readOffsetTime?`, `readTime?`, `readDay?` : the three forms;
* `readDate?` : the first of them that fits the trimmed text.
-/
namespace Formulary.Calendar

/-- At least `least` and at most `most` digits, as a number. -/
def takeNumber? (least most : Nat) (s : List Char) : Option (Nat × List Char) :=
  let digits := (s.take most).takeWhile Char.isDigit
  if digits.length < least ∨ digits.isEmpty then none
  else some (digits.foldl (fun n c => 10 * n + (c.toNat - '0'.toNat)) 0, s.drop digits.length)

def takeChar? (c : Char) : List Char → Option (List Char)
  | d :: rest => if d = c then some rest else none
  | [] => none

/-- The instant of a day and a time of day, less an offset in seconds. The second 60 is a leap
second. -/
def instantOf? (d : CivilDay) (hour minute second_ nanos : Nat) (offset : Int) :
    Option Instant :=
  if d.isReal && hour < 24 && minute < 60 && second_ ≤ 60 then
    let leap := second_ = 60
    let time : Nat := hour * 3600 + minute * 60 + if leap then 59 else second_
    Instant.make? (d.number * daySeconds + time - offset) (nanos + if leap then second else 0)
  else none

/-- A fraction of a second: digits, of which nine count. -/
def takeFraction? (s : List Char) : Option (Nat × List Char) :=
  let digits := s.takeWhile Char.isDigit
  if digits.isEmpty then none
  else
    let kept := digits.take 9
    some (kept.foldl (fun n c => 10 * n + (c.toNat - '0'.toNat)) 0 * Nat.pow 10 (9 - kept.length),
      s.dropWhile Char.isDigit)

/-- An offset from universal time in seconds: `Z`, or a sign with hours and minutes. -/
def takeOffset? : List Char → Option (Int × List Char)
  | [] => none
  | c :: rest =>
    if c = 'Z' ∨ c = 'z' then some (0, rest)
    else if c = '+' ∨ c = '-' ∨ c = '−' then do
      let (hours, rest) ← takeNumber? 2 2 rest
      let rest ← takeChar? ':' rest
      let (minutes, rest) ← takeNumber? 2 2 rest
      if hours < 24 && minutes < 60 then
        let seconds : Int := hours * 3600 + minutes * 60
        some (if c = '+' then seconds else -seconds, rest)
      else none
    else none

/-- A time with an offset: fields of fixed width, an optional fraction. -/
def readOffsetTime? (s : List Char) : Option Instant := do
  let (year, s) ← takeNumber? 4 4 s
  let s ← takeChar? '-' s
  let (month, s) ← takeNumber? 2 2 s
  let s ← takeChar? '-' s
  let (day, s) ← takeNumber? 2 2 s
  let s ← takeChar? 'T' s <|> takeChar? 't' s <|> takeChar? ' ' s
  let (hour, s) ← takeNumber? 2 2 s
  let s ← takeChar? ':' s
  let (minute, s) ← takeNumber? 2 2 s
  let s ← takeChar? ':' s
  let (second, s) ← takeNumber? 2 2 s
  let (nanos, s) ← match s with
    | '.' :: rest => takeFraction? rest
    | _ => some (0, s)
  let (offset, s) ← takeOffset? s
  if s.isEmpty then instantOf? ⟨year, month, day⟩ hour minute second nanos offset else none

def takeField? (s : List Char) : Option (Nat × List Char) :=
  takeNumber? 1 2 (s.dropWhile Text.isBlank)

/-- A year, after blank characters: up to four digits, or a sign and any count of them. -/
def takeYear? (s : List Char) : Option (Int × List Char) :=
  match s.dropWhile Text.isBlank with
  | '-' :: rest => (takeNumber? 1 rest.length rest).map fun (n, rest) => (-(n : Int), rest)
  | '+' :: rest => (takeNumber? 1 rest.length rest).map fun (n, rest) => ((n : Int), rest)
  | rest => (takeNumber? 1 4 rest).map fun (n, rest) => ((n : Int), rest)

def takeDay? (s : List Char) : Option (CivilDay × List Char) := do
  let (year, s) ← takeYear? s
  let s ← takeChar? '-' s
  let (month, s) ← takeField? s
  let s ← takeChar? '-' s
  let (day, s) ← takeField? s
  some (⟨year, month, day⟩, s)

/-- A day, `T` and a time in whole seconds. -/
def readTime? (s : List Char) : Option Instant := do
  let (day, s) ← takeDay? s
  let s ← takeChar? 'T' s
  let (hour, s) ← takeField? s
  let s ← takeChar? ':' s
  let (minute, s) ← takeField? s
  let s ← takeChar? ':' s
  let (second, s) ← takeField? s
  if s.isEmpty then instantOf? day hour minute second 0 0 else none

/-- A day, which stands for its start. -/
def readDay? (s : List Char) : Option Instant := do
  let (day, s) ← takeDay? s
  if s.isEmpty then Instant.ofDay? day else none

/-- The date of a text, in the first form that fits. -/
def readDate? (text : String) : Option Instant :=
  let s := Text.trimChars text.toList
  readOffsetTime? s <|> readTime? s <|> readDay? s

end Formulary.Calendar
