import Formulary.Number.Layout

/-!
# Days and instants

Days of the Gregorian calendar are numbered from 1 January 1970. A year is counted from March, so that
a leap day is the last day of its year, and 400 years are one cycle of 146097 days.

An instant is a point in coordinated universal time, to the nanosecond. A leap second is the second
before it with a fraction of one second or more. Leap seconds end a minute, but any second may have
such a fraction.

## Main definitions

* `CivilDay` : a year, a month and a day of the month;
* `CivilDay.number`, `CivilDay.ofNumber` : the number of a day, and back;
* `Instant` : seconds since the start of 1970 and a fraction;
* `Instant.shift?` : the instant some milliseconds later;
* `Instant.millisSince` : the milliseconds between two instants;
* `Instant.text` : an instant as text, in whole seconds.
-/
namespace Formulary.Calendar

/-! ### Days -/

structure CivilDay where
  year : Int
  month : Nat
  day : Nat
deriving DecidableEq, Repr, Inhabited

/-- A year with a 29 February. -/
def isLeapYear (year : Int) : Bool :=
  year % 4 == 0 && (year % 100 != 0 || year % 400 == 0)

def monthLength (year : Int) (month : Nat) : Nat :=
  if month = 2 then (if isLeapYear year then 29 else 28)
  else if month = 4 ∨ month = 6 ∨ month = 9 ∨ month = 11 then 30
  else 31

namespace CivilDay

def firstYear : Int := -262143

def lastYear : Int := 262142

def isReal (d : CivilDay) : Bool :=
  firstYear ≤ d.year && d.year ≤ lastYear && 1 ≤ d.month && d.month ≤ 12 && 1 ≤ d.day
    && d.day ≤ monthLength d.year d.month

def number (d : CivilDay) : Int :=
  let year := if d.month ≤ 2 then d.year - 1 else d.year
  let cycle := year / 400
  let yearOfCycle := year % 400
  let month : Nat := if 2 < d.month then d.month - 3 else d.month + 9
  let dayOfYear : Nat := (153 * month + 2) / 5 + d.day - 1
  cycle * 146097 + (yearOfCycle * 365 + yearOfCycle / 4 - yearOfCycle / 100 + dayOfYear) - 719468

def ofNumber (n : Int) : CivilDay :=
  let shifted := n + 719468
  let cycle := shifted / 146097
  let dayOfCycle := (shifted % 146097).toNat
  let yearOfCycle :=
    (dayOfCycle - dayOfCycle / 1460 + dayOfCycle / 36524 - dayOfCycle / 146096) / 365
  let dayOfYear := dayOfCycle - (365 * yearOfCycle + yearOfCycle / 4 - yearOfCycle / 100)
  let marchMonth := (5 * dayOfYear + 2) / 153
  let day := dayOfYear - (153 * marchMonth + 2) / 5 + 1
  let month := if marchMonth < 10 then marchMonth + 3 else marchMonth - 9
  let year : Int := yearOfCycle + cycle * 400
  ⟨if month ≤ 2 then year + 1 else year, month, day⟩

end CivilDay

/-! ### Instants -/

abbrev second : Nat := 1000000000

abbrev daySeconds : Nat := 86400

structure Instant where
  /-- Whole seconds since the start of 1970. -/
  seconds : Int
  /-- The fraction in nanoseconds; a whole second more in a leap second. -/
  nanos : Nat
  first_le : -8334601228800 ≤ seconds
  le_last : seconds ≤ 8210266876799
  nanos_lt : nanos < 2 * second
deriving DecidableEq, Repr

-- The bounds are the first second of the first year with days and the last second of the last one.
example : CivilDay.number ⟨CivilDay.firstYear, 1, 1⟩ * daySeconds = -8334601228800 ∧
    (CivilDay.number ⟨CivilDay.lastYear, 12, 31⟩ + 1) * daySeconds - 1 = 8210266876799 := by
  decide

namespace Instant

/-- The instant of these seconds and nanoseconds, unless it is out of range. -/
def make? (seconds : Int) (nanos : Nat) : Option Instant :=
  if h : (-8334601228800 ≤ seconds ∧ seconds ≤ 8210266876799) ∧ nanos < 2 * second then
    some ⟨seconds, nanos, h.1.1, h.1.2, h.2⟩
  else none

def epoch : Instant := ⟨0, 0, by decide, by decide, by decide⟩

instance : Inhabited Instant := ⟨epoch⟩

/-- The start of a day, unless there is no such day. -/
def ofDay? (d : CivilDay) : Option Instant :=
  if d.isReal then make? (d.number * daySeconds) 0 else none

def day (t : Instant) : CivilDay := CivilDay.ofNumber (t.seconds / daySeconds)

/-- The seconds since the start of the day; a leap second is not counted. -/
def secondOfDay (t : Instant) : Int := t.seconds % daySeconds

/-- Earlier or not later, by seconds first and nanoseconds then. -/
def compare (a b : Instant) : Ordering :=
  (Ord.compare a.seconds b.seconds).then (Ord.compare a.nanos b.nanos)

/-- The instant some milliseconds later. A leap second that is left counts as passed; time that
stays within it moves its fraction alone. -/
def shift? (t : Instant) (millis : Int) : Option Instant :=
  let seconds := millis.tdiv 1000
  let fraction := millis.tmod 1000 * 1000000
  let inLeap := second ≤ t.nanos
  let leavesForward := 0 < seconds || (0 < fraction && 2 * second ≤ t.nanos + fraction)
  if inLeap && !leavesForward && 0 ≤ seconds then make? t.seconds (t.nanos + fraction).toNat
  else
    let base : Int := t.seconds + if inLeap && !leavesForward then 1 else 0
    let nanos : Int := t.nanos - (if inLeap then second else 0) + fraction
    make? (base + seconds + nanos / second) (nanos % second).toNat

/-- The nanoseconds from `s` to `t`. A leap second between them in the time of day is counted. -/
def nanosSince (t s : Instant) : Int :=
  let days := t.seconds / daySeconds - s.seconds / daySeconds
  let seconds := t.secondOfDay - s.secondOfDay
  let leap : Int :=
    if 0 < seconds ∧ second ≤ s.nanos then 1
    else if seconds < 0 ∧ second ≤ t.nanos then -1
    else 0
  (days * daySeconds + seconds + leap) * second + ((t.nanos : Int) - s.nanos)

def millisSince (t s : Instant) : Int := (t.nanosSince s).tdiv 1000000

/-- The year as text: four digits, with a sign when it is not one of the years 0 to 9999. -/
def yearText (year : Int) : String :=
  if 0 ≤ year ∧ year ≤ 9999 then Number.padded 4 year.toNat
  else (if year < 0 then "-" else "+") ++ Number.padded 4 year.natAbs

/-- An instant as text, its fraction cut. A fraction of a second or more is one more second, which makes
the second 60 of a leap second. -/
def text (t : Instant) : String :=
  let d := t.day
  let time := t.secondOfDay.toNat
  let shown := time % 60 + if second ≤ t.nanos then 1 else 0
  yearText d.year ++ "-" ++ Number.padded 2 d.month ++ "-" ++ Number.padded 2 d.day ++ "T"
    ++ Number.padded 2 (time / 3600) ++ ":" ++ Number.padded 2 (time / 60 % 60) ++ ":"
    ++ Number.padded 2 shown ++ "Z"

end Instant

end Formulary.Calendar
