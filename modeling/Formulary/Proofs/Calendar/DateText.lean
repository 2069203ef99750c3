import Mathlib.Data.List.Nodup
import Mathlib.Data.List.TakeWhile
import Formulary.Calendar.Reader
import Formulary.Proofs.Calendar.Day
import Formulary.Proofs.Conformance

/-!
# Dates as texts

A date leaves a run as a text, with fields of fixed width and without its fraction. The text is read
field by field: each field has exactly the digits that were written, so the first form of a date fits
and no other is tried. A leap second that ends a minute is written as the second 60, and read as a
leap second. Any other fraction of a second or more is written as the next second, and read as that.

## Main definitions

* `Instant.wholeSeconds` : an instant, its fraction cut;
* `Instant.shown` : the instant that a text shows;
* `Instant.IsRegular` : a fraction of a second or more only at the end of a minute.

## Main statements

* `takeNumber?_padded` : a field is read as it was written;
* `Instant.readDate?_text` : the text of an instant is read as the instant that it shows;
* `Instant.shown_eq_wholeSeconds_iff` : which is the instant in whole seconds, when it is regular;
* `readDate?_text_of_readDate?` : dates that were read from texts are regular, and read again so;
* `bindInputs_toJson_date` : a date that is supplied as it was written is bound to what was shown.
-/
namespace Formulary.Calendar

open Number (padded)

/-! ### Fields -/

variable {k n : Nat} {rest : List Char}

theorem toList_padded (k n : Nat) : (padded k n).toList =
    List.replicate (k - (Nat.toDigits 10 n).length) '0' ++ Nat.toDigits 10 n := by
  simp [padded, Number.digitText, Number.zeros]

theorem length_padded (hk : 0 < k) (hn : n < 10 ^ k) : (padded k n).toList.length = k := by
  have hle : (Nat.toDigits 10 n).length ≤ k := (Nat.length_toDigits_le_iff (by decide) hk).2 hn
  rw [toList_padded, List.length_append, List.length_replicate]
  omega

theorem isDigit_of_mem_padded {c : Char} (h : c ∈ (padded k n).toList) : c.isDigit := by
  rw [toList_padded, List.mem_append] at h
  rcases h with hzero | hdigit
  · obtain ⟨-, rfl⟩ := List.mem_replicate.1 hzero
    rfl
  · exact Nat.isDigit_of_mem_toDigits (by decide) (by decide) hdigit

/-- A field has as many digits as are asked for, and they are those of its number. -/
theorem takeNumber?_padded (hk : 0 < k) (hn : n < 10 ^ k) (rest : List Char) :
    takeNumber? k k ((padded k n).toList ++ rest) = some (n, rest) := by
  have hlength := length_padded hk hn
  have hall : (padded k n).toList.takeWhile Char.isDigit = (padded k n).toList :=
    List.takeWhile_eq_self_iff.2 fun c hc => isDigit_of_mem_padded hc
  have hvalue : (padded k n).toList.foldl (fun n c => 10 * n + (c.toNat - '0'.toNat)) 0 = n := by
    change Nat.ofDigitChars 10 (padded k n).toList 0 = n
    rw [toList_padded, Nat.ofDigitChars_append, Nat.ofDigitChars_replicate_zero, Nat.mul_zero,
      Nat.ofDigitChars_toDigits (by decide) (by decide)]
  have hsome : ¬ ((padded k n).toList.length < k ∨ (padded k n).toList.isEmpty) := by
    rw [hlength, List.isEmpty_iff_length_eq_zero, hlength]
    omega
  simp only [takeNumber?, List.take_left' hlength, hall, if_neg hsome, hvalue,
    List.drop_left' rfl]

theorem takeChar?_self (c : Char) (rest : List Char) :
    takeChar? c (c :: rest) = some rest := if_pos rfl

/-- Fields with their separators are read one after the other. -/
theorem readOffsetTime?_fields {year month day hour minute second : Nat} (hyear : year < 10 ^ 4)
    (hmonth : month < 10 ^ 2) (hday : day < 10 ^ 2) (hhour : hour < 10 ^ 2)
    (hminute : minute < 10 ^ 2) (hsecond : second < 10 ^ 2) :
    readOffsetTime? ((padded 4 year).toList ++ '-' :: ((padded 2 month).toList ++ '-' ::
      ((padded 2 day).toList ++ 'T' :: ((padded 2 hour).toList ++ ':' ::
      ((padded 2 minute).toList ++ ':' :: ((padded 2 second).toList ++ ['Z'])))))) =
      instantOf? ⟨year, month, day⟩ hour minute second 0 0 := by
  have hzone : takeOffset? ['Z'] = some (0, []) := rfl
  have hfield {n : Nat} (hn : n < 10 ^ 2) (rest : List Char) :
      takeNumber? 2 2 ((padded 2 n).toList ++ rest) = some (n, rest) :=
    takeNumber?_padded (by decide) hn rest
  rw [readOffsetTime?, takeNumber?_padded (by decide) hyear, Option.bind_eq_bind, Option.bind_some]
  simp only [takeChar?_self, Option.bind_eq_bind, Option.bind_some]
  rw [hfield hmonth]
  simp only [takeChar?_self, Option.bind_some]
  rw [hfield hday]
  have hchoice (s : List Char) (other : Option (List Char)) : (some s <|> other) = some s := rfl
  simp only [takeChar?_self, hchoice, Option.bind_some]
  rw [hfield hhour]
  simp only [takeChar?_self, Option.bind_some]
  rw [hfield hminute]
  simp only [takeChar?_self, Option.bind_some]
  rw [hfield hsecond]
  rfl

namespace Instant

variable {t : Instant}

/-- An instant without its fraction. A fraction of a second or more leaves one second. -/
def wholeSeconds (t : Instant) : Instant where
  seconds := t.seconds
  nanos := if second ≤ t.nanos then second else 0
  first_le := t.first_le
  le_last := t.le_last
  nanos_lt := by split <;> decide

/-- A fraction of a second or more only follows the last second of a minute. -/
def IsRegular (t : Instant) : Prop := second ≤ t.nanos → t.seconds % 60 = 59

instance : Decidable t.IsRegular := inferInstanceAs (Decidable (_ → _))

/-- The instant that the text of an instant shows: its whole seconds, when it is regular, and the start
of the next second otherwise. -/
def shown (t : Instant) : Instant :=
  if h : t.IsRegular then t.wholeSeconds
  else
    { seconds := t.seconds + 1
      nanos := 0
      first_le := by have := t.first_le; omega
      le_last := by
        -- The last second of all is the last of its minute.
        have hlast := t.le_last
        have hminute : ¬ t.seconds % 60 = 59 := (Classical.not_imp.1 h).2
        omega
      nanos_lt := epoch.nanos_lt }

theorem shown_of_isRegular (h : t.IsRegular) : t.shown = t.wholeSeconds := dif_pos h

theorem shown_eq_wholeSeconds_iff : t.shown = t.wholeSeconds ↔ t.IsRegular := by
  refine ⟨fun heq => ?_, shown_of_isRegular⟩
  by_contra h
  have hseconds : t.seconds + 1 = t.seconds := by
    rw [shown, dif_neg h] at heq
    exact congrArg Instant.seconds heq
  omega

theorem toList_text (h : 0 ≤ t.day.year ∧ t.day.year ≤ 9999) : t.text.toList =
    (padded 4 t.day.year.toNat).toList ++ '-' :: ((padded 2 t.day.month).toList ++
      '-' :: ((padded 2 t.day.day).toList ++ 'T' ::
      ((padded 2 (t.secondOfDay.toNat / 3600)).toList ++ ':' ::
      ((padded 2 (t.secondOfDay.toNat / 60 % 60)).toList ++ ':' ::
      ((padded 2 (t.secondOfDay.toNat % 60 + if second ≤ t.nanos then 1 else 0)).toList ++
        ['Z']))))) := by
  have hhyphen : "-".toList = ['-'] := rfl
  have htime : "T".toList = ['T'] := rfl
  have hcolon : ":".toList = [':'] := rfl
  have hzone : "Z".toList = ['Z'] := rfl
  simp only [text, yearText, if_pos h, String.toList_append, hhyphen, htime, hcolon, hzone,
    List.append_assoc, List.cons_append, List.nil_append]

theorem isReal_day (h : 0 ≤ t.day.year ∧ t.day.year ≤ 9999) : t.day.isReal := by
  refine CivilDay.isReal_ofNumber _ ⟨?_, ?_⟩
  · exact Int.le_trans (by decide) h.1
  · exact Int.le_trans h.2 (by decide)

/-- The day and the time of day, as they are written, are those of the instant that is shown. -/
theorem instantOf?_fields (hreal : t.day.isReal) :
    instantOf? t.day (t.secondOfDay.toNat / 3600) (t.secondOfDay.toNat / 60 % 60)
      (t.secondOfDay.toNat % 60 + if second ≤ t.nanos then 1 else 0) 0 0 = some t.shown := by
  have hnumber : t.day.number = t.seconds / daySeconds := CivilDay.number_ofNumber _
  have htime : t.secondOfDay = t.seconds % 86400 := rfl
  have hday : (daySeconds : Int) = 86400 := rfl
  have hhour : t.secondOfDay.toNat / 3600 < 24 := by omega
  have hminute : t.secondOfDay.toNat / 60 % 60 < 60 := Nat.mod_lt _ (by decide)
  have hmade (u : Instant) : make? u.seconds u.nanos = some u :=
    dif_pos ⟨⟨u.first_le, u.le_last⟩, u.nanos_lt⟩
  have hwritten : t.secondOfDay.toNat % 60 + (if second ≤ t.nanos then 1 else 0) ≤ 60 := by grind
  rw [instantOf?, if_pos (by simp [hreal, hhour, hminute, hwritten]), ← hmade t.shown, hnumber, hday]
  -- The second 60 is written for a late fraction in the last second of a minute.
  by_cases hlate : second ≤ t.nanos
  · by_cases hregular : t.seconds % 60 = 59
    · have h60 : t.secondOfDay.toNat % 60 + 1 = 60 := by omega
      simp only [shown_of_isRegular fun _ => hregular, wholeSeconds, if_pos hlate, h60, if_true]
      congr 1
      omega
    · have h60 : ¬ t.secondOfDay.toNat % 60 + 1 = 60 := by omega
      have hshown : ¬ t.IsRegular := fun h => hregular (h hlate)
      simp only [shown, dif_neg hshown, if_pos hlate, if_neg h60]
      congr 1
      omega
  · have h60 : ¬ t.secondOfDay.toNat % 60 + 0 = 60 := by omega
    simp only [shown_of_isRegular fun h => absurd h hlate, wholeSeconds, if_neg hlate, if_neg h60]
    congr 1
    omega

/-- The first form of a date fits the text of an instant. -/
theorem readOffsetTime?_text (h : 0 ≤ t.day.year ∧ t.day.year ≤ 9999) :
    readOffsetTime? t.text.toList = some t.shown := by
  have hreal := isReal_day h
  have hyear : ((t.day.year.toNat : Nat) : Int) = t.day.year := Int.toNat_of_nonneg h.1
  have hfields := instantOf?_fields hreal
  have htime : t.secondOfDay = t.seconds % 86400 := rfl
  obtain ⟨hmonth, hday⟩ : t.day.month ≤ 12 ∧ t.day.day ≤ 31 := by
    have hlength : monthLength t.day.year t.day.month ≤ 31 := by
      unfold monthLength
      grind
    simp only [CivilDay.isReal, Bool.and_eq_true, decide_eq_true_eq] at hreal
    omega
  have hshown : t.secondOfDay.toNat % 60 + (if second ≤ t.nanos then 1 else 0) < 10 ^ 2 := by grind
  rw [toList_text h, readOffsetTime?_fields (by omega) (by omega) (by omega) (by omega) (by omega)
    hshown, hyear]
  exact hfields

/-- The text of an instant is read as the instant that it shows. -/
theorem readDate?_text (h : 0 ≤ t.day.year ∧ t.day.year ≤ 9999) :
    readDate? t.text = some t.shown := by
  -- The text begins with a digit and ends in `Z`.
  have htrim : Text.trimChars t.text.toList = t.text.toList := by
    have hyear : (padded 4 t.day.year.toNat).toList ≠ [] := by
      have hlength : (padded 4 t.day.year.toNat).toList.length = 4 :=
        length_padded (by decide) (by omega)
      exact List.ne_nil_of_length_pos (by omega)
    rw [toList_text h]
    refine Text.trimChars_eq_self (fun c hc => ?_) (fun c hc => ?_)
    · rw [List.head?_append_of_ne_nil _ hyear] at hc
      exact Text.isBlank_eq_false_of_isDigit (isDigit_of_mem_padded (List.mem_of_head? hc))
    · obtain rfl : 'Z' = c := by simpa [List.getLast?_append, List.getLast?_cons] using hc
      decide
  have hread := readOffsetTime?_text h
  simp only [readDate?, htrim, hread]
  rfl

end Instant

/-! ### Dates that were read -/

variable {d : CivilDay} {t : Instant} {s : List Char} {nanos : Nat}

theorem eq_of_make?_eq_some {seconds : Int} (h : Instant.make? seconds nanos = some t) :
    t.seconds = seconds ∧ t.nanos = nanos := by
  unfold Instant.make? at h
  split at h
  · cases h
    exact ⟨rfl, rfl⟩
  · cases h

/-- The offsets that texts have are of whole minutes. -/
theorem takeOffset?_emod {offset : Int} (h : takeOffset? s = some (offset, rest)) :
    offset % 60 = 0 := by
  cases s with
  | nil => cases h
  | cons c s =>
    simp only [takeOffset?, Option.bind_eq_bind] at h
    split at h
    · cases h
      rfl
    · split at h
      · simp only [Option.bind_eq_some_iff] at h
        obtain ⟨⟨hours, rest₁⟩, -, rest₂, -, ⟨minutes, rest₃⟩, -, h⟩ := h
        split at h
        · split at h <;> cases h <;> omega
        · cases h
      · cases h

theorem ofDigitChars_lt {digits : List Char} (h : ∀ c ∈ digits, c.isDigit) (init : Nat) :
    Nat.ofDigitChars 10 digits init < 10 ^ digits.length * (init + 1) := by
  induction digits generalizing init with
  | nil => simp [Nat.ofDigitChars_nil]
  | cons c digits ih =>
    rw [List.forall_mem_cons] at h
    have hdigit : 48 ≤ c.toNat ∧ c.toNat ≤ 57 := Char.isDigit_iff_toNat.1 h.1
    have hzero : '0'.toNat = 48 := rfl
    rw [Nat.ofDigitChars_cons, List.length_cons, pow_succ, mul_assoc]
    refine (ih h.2 _).trans_le (Nat.mul_le_mul_left _ ?_)
    omega

/-- A fraction that is written is below a second. -/
theorem takeFraction?_lt (h : takeFraction? s = some (nanos, rest)) : nanos < second := by
  simp only [takeFraction?] at h
  split at h
  · cases h
  · simp only [Option.some.injEq, Prod.mk.injEq] at h
    obtain ⟨rfl, -⟩ := h
    set kept := (s.takeWhile Char.isDigit).take 9
    have hlength : kept.length ≤ 9 := List.length_take_le ..
    have hdigits : ∀ c ∈ kept, c.isDigit := fun c hc =>
      List.mem_takeWhile_imp (List.mem_of_mem_take hc)
    have hvalue := ofDigitChars_lt hdigits 0
    rw [zero_add, mul_one] at hvalue
    calc Nat.ofDigitChars 10 kept 0 * 10 ^ (9 - kept.length)
        < 10 ^ kept.length * 10 ^ (9 - kept.length) :=
          Nat.mul_lt_mul_of_pos_right hvalue (by positivity)
      _ = 10 ^ 9 := by rw [← pow_add, Nat.add_sub_cancel' hlength]

theorem isRegular_of_instantOf? {hour minute second_ : Nat} {offset : Int}
    (h : instantOf? d hour minute second_ nanos offset = some t)
    (hnanos : nanos < second) (hoffset : offset % 60 = 0) : t.IsRegular := by
  unfold instantOf? at h
  split at h
  · obtain ⟨hseconds, hfraction⟩ := eq_of_make?_eq_some h
    intro hlate
    have h60 : second_ = 60 := by
      by_contra hne
      rw [hfraction, if_neg (by simpa using hne)] at hlate
      omega
    have hday : (daySeconds : Int) = 86400 := rfl
    simp only [h60, if_true, hday] at hseconds
    omega
  · cases h

theorem isRegular_of_readOffsetTime? (h : readOffsetTime? s = some t) : t.IsRegular := by
  rw [readOffsetTime?] at h
  -- The fields of the day and of the time of day do not matter.
  iterate 10 obtain ⟨_, -, h⟩ := Option.bind_eq_some_iff.1 h
  obtain ⟨⟨second_, s⟩, -, h⟩ := Option.bind_eq_some_iff.1 h
  have hrest {nanos : Nat} {s : List Char} {day : CivilDay} {hour minute : Nat}
      (hnanos : nanos < second)
      (h : (takeOffset? s).bind (fun taken =>
        if taken.2.isEmpty then instantOf? day hour minute second_ nanos taken.1 else none) = some t) :
      t.IsRegular := by
    obtain ⟨taken, hoffset, h⟩ := Option.bind_eq_some_iff.1 h
    split at h
    · exact isRegular_of_instantOf? h hnanos (takeOffset?_emod hoffset)
    · cases h
  dsimp only at h
  split at h
  · obtain ⟨⟨nanos, s⟩, hfraction, h⟩ := Option.bind_eq_some_iff.1 h
    exact hrest (takeFraction?_lt hfraction) h
  · exact hrest (show 0 < second by decide) h

theorem isRegular_of_readTime? (h : readTime? s = some t) : t.IsRegular := by
  simp only [readTime?, Option.bind_eq_bind, Option.bind_eq_some_iff] at h
  obtain ⟨_, -, _, -, _, -, _, -, _, -, _, -, _, -, h⟩ := h
  split at h
  · exact isRegular_of_instantOf? h (by decide) rfl
  · cases h

theorem isRegular_of_readDay? (h : readDay? s = some t) : t.IsRegular := by
  simp only [readDay?, Option.bind_eq_bind, Option.bind_eq_some_iff, Instant.ofDay?] at h
  obtain ⟨_, -, h⟩ := h
  split at h
  · split at h
    · obtain ⟨-, hnanos⟩ := eq_of_make?_eq_some h
      intro hlate
      rw [hnanos] at hlate
      exact absurd hlate (by decide)
    · cases h
  · cases h

/-- The date of a text is regular. -/
theorem isRegular_of_readDate? {text : String} (h : readDate? text = some t) : t.IsRegular := by
  rcases (Option.orElse_eq_some ..).1 h with h | ⟨-, h⟩
  · exact isRegular_of_readOffsetTime? h
  · rcases (Option.orElse_eq_some ..).1 h with h | ⟨-, h⟩
    · exact isRegular_of_readTime? h
    · exact isRegular_of_readDay? h

/-- A date that was read from a text is written as a text that is read as the date in whole seconds. -/
theorem readDate?_text_of_readDate? {text : String} (h : readDate? text = some t)
    (hyear : 0 ≤ t.day.year ∧ t.day.year ≤ 9999) : readDate? t.text = some t.wholeSeconds := by
  rw [Instant.readDate?_text hyear, Instant.shown_of_isRegular (isRegular_of_readDate? h)]

end Formulary.Calendar

namespace Formulary

open Calendar (Instant)

variable {p : Parameter} {t : Instant} {parameters : List Parameter} {supplied : Values}

/-- An input for dates accepts a date as it was written, and is bound to the date that is shown. -/
theorem Parameter.conforms_toJson_date (hdate : p.dataType = .date)
    (h : 0 ≤ t.day.year ∧ t.day.year ≤ 9999) :
    p.Conforms (.ofJson (Value.date t).toJson) (.date t.shown) := by
  rw [Value.toJson, Value.ofJson]
  exact .dateText hdate (Instant.readDate?_text h)

/-- No problem is reported for an input without a violation, as no other input has its name. -/
theorem parameter_ne_of_mem_validate {problem : Problem}
    (hn : ((parameters.filter Parameter.isInput).map Parameter.name).Nodup)
    (hp : p ∈ parameters.filter Parameter.isInput) (hvalid : p.violation? supplied = none)
    (h : problem ∈ validate parameters supplied) : problem.parameter ≠ p.name := by
  intro hname
  obtain ⟨q, hq, hproblem⟩ := List.mem_filterMap.1 h
  obtain ⟨violation, hviolation, rfl⟩ := Option.map_eq_some_iff.1 hproblem
  obtain rfl := List.inj_on_of_nodup_map hn hq hp hname
  cases hviolation.symm.trans hvalid

/-- A date in one of the years 0 to 9999 is written as a text that is read as the date it shows. An input
for dates that is supplied with it has no problem, and is bound to that. The date that is shown is the
date in whole seconds for regular dates, and only for these. -/
theorem bindInputs_toJson_date (t : Instant) (h : 0 ≤ t.day.year ∧ t.day.year ≤ 9999) :
    (∃ s, (Value.date t).toJson = .text s ∧ Calendar.readDate? s = some t.shown) ∧
    (∀ (parameters : List Parameter) (p : Parameter) (supplied : Values),
      ((parameters.filter Parameter.isInput).map Parameter.name).Nodup →
      p ∈ parameters.filter Parameter.isInput → p.dataType = .date →
      supplied.get? p.name = some (.ofJson (Value.date t).toJson) →
        (∀ problem ∈ validate parameters supplied, problem.parameter ≠ p.name) ∧
        (bindInputs parameters supplied).get? p.name = some (.date t.shown)) ∧
    (t.shown = t.wholeSeconds ↔ t.IsRegular) := by
  refine ⟨⟨t.text, rfl, Instant.readDate?_text h⟩, ?_, Instant.shown_eq_wholeSeconds_iff⟩
  intro parameters p supplied hn hp hdate hget
  obtain ⟨hvalid, hcoerce⟩ := Parameter.conforms_iff.1 (Parameter.conforms_toJson_date hdate h)
  have hsupplied : Parameter.suppliedFor p.name supplied =
      some (.ofJson (Value.date t).toJson) := by
    rw [Parameter.suppliedFor, hget]
    rfl
  constructor
  · have hviolation : p.violation? supplied = none := by
      rw [Parameter.violation?, hsupplied]
      exact hvalid
    exact fun problem => parameter_ne_of_mem_validate hn hp hviolation
  · rw [get?_bindInputs hn hp, Parameter.bound, hsupplied]
    exact congrArg some hcoerce

def lastLeapSecond : Instant := ⟨1483228799, 1500000000, by decide, by decide, by decide⟩

example : lastLeapSecond.text = "2016-12-31T23:59:60Z" := by decide +kernel

/-- A day that is supplied as this leap second was written is bound to the start of the leap second. -/
theorem bindInputs_toJson_date_lastLeapSecond :
    let day : Parameter := Parameter.input "day" .date
    let supplied : Values := NameMap.insert .empty "day" (.ofJson (Value.date lastLeapSecond).toJson)
    (0 ≤ lastLeapSecond.day.year ∧ lastLeapSecond.day.year ≤ 9999) ∧ lastLeapSecond.IsRegular ∧
      (bindInputs [day] supplied).get? "day" =
        some (.date ⟨1483228799, 1000000000, by decide, by decide, by decide⟩) := by
  intro day supplied
  have hyear : 0 ≤ lastLeapSecond.day.year ∧ lastLeapSecond.day.year ≤ 9999 := by decide +kernel
  have hregular : lastLeapSecond.IsRegular := by decide
  obtain ⟨-, hbound, hwhole⟩ := bindInputs_toJson_date lastLeapSecond hyear
  have hget : supplied.get? day.name = some (.ofJson (Value.date lastLeapSecond).toJson) := by
    simp [supplied, day, Parameter.input]
  have hday := (hbound [day] day supplied (by decide) List.mem_cons_self rfl hget).2
  rw [hwhole.2 hregular] at hday
  exact ⟨hyear, hregular, hday⟩

/-- Half a minute after noon, with a fraction of a second and a half. -/
def lateFraction : Instant := ⟨1704110430, 1500000000, by decide, by decide, by decide⟩

/-- Not every date is read as its whole seconds: this one is written as the next second. -/
theorem not_forall_readDate_toJson :
    ¬ ∀ t : Instant, 0 ≤ t.day.year ∧ t.day.year ≤ 9999 →
      ∃ s, (Value.date t).toJson = .text s ∧ Calendar.readDate? s = some t.wholeSeconds := by
  intro hall
  have hyear : 0 ≤ lateFraction.day.year ∧ lateFraction.day.year ≤ 9999 := by decide +kernel
  have htext : lateFraction.text = "2024-01-01T12:00:31Z" := by decide +kernel
  have hread : Calendar.readDate? "2024-01-01T12:00:31Z" =
      some ⟨1704110431, 0, by decide, by decide, by decide⟩ := by decide +kernel
  obtain ⟨s, hs, hwhole⟩ := hall lateFraction hyear
  obtain rfl : lateFraction.text = s := by injection hs
  rw [htext, hread] at hwhole
  exact absurd hwhole (by decide)

end Formulary
