import Mathlib.Data.List.TakeWhile
import Formulary.Number.Numeral

/-!
# Decimal numerals

A decimal numeral is digits, perhaps a point and more digits, and perhaps an exponent; there is a
digit before the exponent. These are the texts without a sign that are read as a number, apart from
the words for an infinity and for not a number.

## Main definitions

* `Numeral.IsSpelt` : how the parts of a numeral are written one after the other.

## Main statements

* `Numeral.read?_eq_some_iff` : what is read as an unsigned numeral;
* `Numeral.IsSpelt.readNumber?` : the number of such a text.
-/
namespace Formulary.Number

def AllDigits (s : List Char) : Prop := ∀ c ∈ s, c.isDigit

variable {s digits tail : List Char}

theorem allDigits_takeWhile (s : List Char) : AllDigits (s.takeWhile Char.isDigit) :=
  fun _ hc => List.mem_takeWhile_imp hc

/-- The digits in front of a text that goes on without one. -/
theorem AllDigits.takeWhile_append (h : AllDigits digits)
    (ht : ∀ c ∈ tail.head?, c.isDigit = false) :
    (digits ++ tail).takeWhile Char.isDigit = digits := by
  rw [List.takeWhile_append_of_pos h]
  cases tail with
  | nil => exact List.append_nil _
  | cons c tail => rw [List.takeWhile_cons_of_neg (by simp [ht c rfl]), List.append_nil]

theorem AllDigits.dropWhile_append (h : AllDigits digits)
    (ht : ∀ c ∈ tail.head?, c.isDigit = false) :
    (digits ++ tail).dropWhile Char.isDigit = tail := by
  rw [List.dropWhile_append_of_pos h]
  cases tail with
  | nil => rfl
  | cons c tail => exact List.dropWhile_cons_of_neg (by simp [ht c rfl])

/-- What follows the digits that a text begins with is no digit. -/
theorem head?_dropWhile_isDigit (s : List Char) :
    ∀ c ∈ (s.dropWhile Char.isDigit).head?, c.isDigit = false := by
  intro c hc
  have := List.head?_dropWhile_not Char.isDigit s
  grind

namespace Numeral

/-- The point and the digits after it. A numeral without a point has none. -/
inductive SpellsFraction : (digits : List Char) → List Char → Prop
  | absent : SpellsFraction [] []
  | point {digits : List Char} (h : AllDigits digits) : SpellsFraction digits ('.' :: digits)

/-- The sign of an exponent, and what it multiplies the exponent with. -/
inductive SpellsSign : (factor : Int) → List Char → Prop
  | absent : SpellsSign 1 []
  | plus : SpellsSign 1 ['+']
  | minus : SpellsSign (-1) ['-']

/-- The letter, the sign and the digits of an exponent. Without them the exponent is zero. -/
inductive SpellsExponent : (exponent : Int) → List Char → Prop
  | absent : SpellsExponent 0 []
  | written {letter : Char} {factor : Int} {sign digits : List Char}
      (hletter : letter = 'e' ∨ letter = 'E') (hsign : SpellsSign factor sign)
      (hdigits : AllDigits digits) (hne : digits ≠ []) :
      SpellsExponent (factor * digitsValue digits) (letter :: (sign ++ digits))

/-- How a numeral is written. A digit stands before its exponent. -/
inductive IsSpelt (n : Numeral) : List Char → Prop
  | parts {fraction exponent : List Char} (hwhole : AllDigits n.whole)
      (hfraction : SpellsFraction n.fraction fraction)
      (hexponent : SpellsExponent n.exponent exponent) (hdigit : n.whole ≠ [] ∨ n.fraction ≠ []) :
      IsSpelt n (n.whole ++ (fraction ++ exponent))

variable {n : Numeral} {i factor : Int} {c : Char} {sign fraction exponent : List Char}

/-! ### Exponents -/

/-- No sign is a digit. -/
theorem exists_head_of_allDigits (h : AllDigits digits) (hne : digits ≠ []) :
    ∃ d ds, digits = d :: ds ∧ d ≠ '-' ∧ d ≠ '+' := by
  obtain ⟨d, ds, rfl⟩ := List.exists_cons_of_ne_nil hne
  have hd : d.isDigit := h d List.mem_cons_self
  refine ⟨d, ds, rfl, ?_, ?_⟩ <;> rintro rfl <;> cases hd

/-- The sign of a whole number is taken off, and the digits are read. -/
theorem readExponent?_eq_ite (s : List Char) :
    ∃ factor sign digits, s = sign ++ digits ∧ SpellsSign factor sign ∧
      readExponent? s = if digits ≠ [] ∧ digits.all Char.isDigit then
        some (factor * digitsValue digits) else none := by
  unfold readExponent?
  split
  rename_i negative digits hparts
  have hread (factor : Int) (hfactor : factor * digitsValue digits =
      if negative then -(digitsValue digits : Int) else digitsValue digits) :
      (if digits.isEmpty || !digits.all Char.isDigit then none
        else some (if negative then -(digitsValue digits : Int) else digitsValue digits)) =
      if digits ≠ [] ∧ digits.all Char.isDigit then some (factor * digitsValue digits)
        else none := by
    rw [hfactor]
    by_cases hempty : digits = [] <;> by_cases hall : digits.all Char.isDigit <;>
      simp [hempty, hall]
  split at hparts <;> cases hparts
  · exact ⟨-1, ['-'], _, rfl, .minus, hread _ (Int.neg_one_mul _)⟩
  · exact ⟨1, ['+'], _, rfl, .plus, hread _ (Int.one_mul _)⟩
  · exact ⟨1, [], _, rfl, .absent, hread _ (Int.one_mul _)⟩

/-- A whole number is read from its sign and its digits. -/
theorem readExponent?_eq_some_iff :
    readExponent? s = some i ↔ ∃ factor sign digits, SpellsSign factor sign ∧ AllDigits digits ∧
      digits ≠ [] ∧ s = sign ++ digits ∧ i = factor * digitsValue digits := by
  constructor
  · intro h
    obtain ⟨factor, sign, digits, rfl, hsign, hread⟩ := readExponent?_eq_ite s
    rw [hread] at h
    split at h
    · rename_i hdigits
      exact ⟨factor, sign, digits, hsign, List.all_eq_true.1 hdigits.2, hdigits.1, rfl,
        (Option.some.inj h).symm⟩
    · cases h
  · rintro ⟨factor, sign, digits, hsign, hdigits, hne, rfl, rfl⟩
    obtain ⟨d, ds, rfl, hminus, hplus⟩ := exists_head_of_allDigits hdigits hne
    have hall : (d :: ds).all Char.isDigit := List.all_eq_true.2 hdigits
    cases hsign <;> simp_all [readExponent?]

/-- What follows the digits: nothing, or the letter of an exponent and a whole number. -/
def readTail? : List Char → Option Int
  | [] => some 0
  | c :: rest => if c = 'e' ∨ c = 'E' then readExponent? rest else none

theorem map_readTail? {α : Type} (f : Int → α) (s : List Char) :
    (readTail? s).map f = match s with
      | [] => some (f 0)
      | c :: rest => if c = 'e' ∨ c = 'E' then (readExponent? rest).map f else none := by
  cases s with
  | nil => rfl
  | cons c rest =>
    dsimp only [readTail?]
    split <;> rfl

theorem readTail?_eq_some_iff : readTail? s = some i ↔ SpellsExponent i s := by
  cases s with
  | nil =>
    constructor
    · rintro ⟨⟩
      exact .absent
    · rintro ⟨⟩
      rfl
  | cons c rest =>
    rw [readTail?, Option.ite_none_right_eq_some, readExponent?_eq_some_iff]
    constructor
    · rintro ⟨hletter, factor, sign, digits, hsign, hdigits, hne, rfl, rfl⟩
      exact .written hletter hsign hdigits hne
    · rintro (_ | ⟨hletter, hsign, hdigits, hne⟩)
      exact ⟨hletter, _, _, _, hsign, hdigits, hne, rfl, rfl⟩

/-- An exponent begins with neither a digit nor a point. -/
theorem SpellsExponent.head? (h : SpellsExponent i exponent) :
    ∀ c ∈ exponent.head?, c.isDigit = false ∧ c ≠ '.' := by
  cases h with
  | absent => exact nofun
  | written hletter =>
    intro c hc
    obtain rfl := Option.some.inj hc
    obtain rfl | rfl := hletter <;> decide

/-! ### Whole numerals -/

/-- A text in the order in which it is read: digits, a point and digits if there is a point, and the
rest. -/
structure IsSpanned (whole digits fraction tail : List Char) : Prop where
  allDigits : AllDigits whole
  spells : SpellsFraction digits fraction
  ends : ∀ c ∈ tail.head?, c.isDigit = false ∧ (c = '.' → fraction ≠ [])

theorem exists_isSpanned (s : List Char) : ∃ whole digits fraction tail,
    s = whole ++ (fraction ++ tail) ∧ IsSpanned whole digits fraction tail := by
  have hrest := head?_dropWhile_isDigit s
  have hs : s = s.takeWhile Char.isDigit ++ s.dropWhile Char.isDigit :=
    List.takeWhile_append_dropWhile.symm
  by_cases hpoint : ∃ rest, s.dropWhile Char.isDigit = '.' :: rest
  · obtain ⟨rest, hpoint⟩ := hpoint
    refine ⟨_, rest.takeWhile Char.isDigit, '.' :: rest.takeWhile Char.isDigit,
      rest.dropWhile Char.isDigit, ?_, allDigits_takeWhile s, .point (allDigits_takeWhile rest),
      fun c hc => ⟨head?_dropWhile_isDigit rest c hc, fun _ => List.cons_ne_nil _ _⟩⟩
    rwa [List.cons_append, List.takeWhile_append_dropWhile, ← hpoint]
  · refine ⟨_, [], [], _, hs, allDigits_takeWhile s, .absent, fun c hc => ⟨hrest c hc, ?_⟩⟩
    rintro rfl
    exact absurd ⟨_, (List.head?_eq_some_iff.1 hc).choose_spec⟩ hpoint

/-- The digits that the text begins with end there. -/
theorem IsSpanned.head?_append {whole : List Char} (h : IsSpanned whole digits fraction tail) :
    ∀ c ∈ (fraction ++ tail).head?, c.isDigit = false := by
  obtain ⟨-, hfraction, hends⟩ := h
  cases hfraction with
  | absent => exact fun c hc => (hends c hc).1
  | point => rintro c ⟨⟩; rfl

/-- A numeral is read part by part. -/
theorem IsSpanned.read? {whole : List Char} (h : IsSpanned whole digits fraction tail) :
    read? (whole ++ (fraction ++ tail)) =
      if whole = [] ∧ digits = [] then none else (readTail? tail).map (⟨whole, digits, ·⟩) := by
  have hhead := h.head?_append
  obtain ⟨hwhole, hfraction, hends⟩ := h
  unfold Numeral.read?
  rw [hwhole.takeWhile_append hhead, hwhole.dropWhile_append hhead]
  cases hfraction with
  | absent =>
    rw [List.nil_append]
    dsimp only
    split
    · exact absurd rfl ((hends '.' rfl).2 rfl)
    · cases tail <;> simp [map_readTail?]
  | point hdigits =>
    have hrest : ∀ c ∈ tail.head?, c.isDigit = false := fun c hc => (hends c hc).1
    simp only [List.cons_append, hdigits.takeWhile_append hrest, hdigits.dropWhile_append hrest]
    cases tail <;> simp [map_readTail?]

/-- A numeral that is spelt has its exponent behind the digits. -/
theorem IsSpelt.exists_isSpanned (h : n.IsSpelt s) : ∃ fraction exponent,
    s = n.whole ++ (fraction ++ exponent) ∧ IsSpanned n.whole n.fraction fraction exponent ∧
      SpellsExponent n.exponent exponent ∧ (n.whole ≠ [] ∨ n.fraction ≠ []) := by
  obtain ⟨hwhole, hfraction, hexponent, hdigit⟩ := h
  refine ⟨_, _, rfl, ⟨hwhole, hfraction, fun c hc => ?_⟩, hexponent, hdigit⟩
  exact (hexponent.head? c hc).imp_right fun hne heq => absurd heq hne

/-- The reader of unsigned numerals reads those that are spelt in their parts. -/
theorem read?_eq_some_iff : read? s = some n ↔ n.IsSpelt s := by
  constructor
  · intro h
    obtain ⟨whole, digits, fraction, tail, rfl, hspanned⟩ := exists_isSpanned s
    rw [hspanned.read?] at h
    split at h
    · cases h
    · rename_i hdigit
      obtain ⟨i, htail, rfl⟩ := Option.map_eq_some_iff.1 h
      exact .parts hspanned.allDigits hspanned.spells (readTail?_eq_some_iff.1 htail)
        (not_and_or.1 hdigit)
  · intro h
    obtain ⟨fraction, exponent, rfl, hspanned, hexponent, hdigit⟩ := h.exists_isSpanned
    rw [hspanned.read?, if_neg (not_and_or.2 hdigit), readTail?_eq_some_iff.2 hexponent]
    rfl

/-- A numeral begins with a digit or with a point. -/
theorem IsSpelt.exists_head (h : n.IsSpelt s) :
    ∃ c rest, s = c :: rest ∧ (c.isDigit ∨ c = '.') := by
  obtain ⟨whole, digits, i⟩ := n
  obtain ⟨hwhole, hfraction, -, hdigit⟩ := h
  cases whole with
  | cons c rest => exact ⟨c, _, rfl, .inl (hwhole c List.mem_cons_self)⟩
  | nil =>
    cases hfraction with
    | absent => simp at hdigit
    | point => exact ⟨'.', _, rfl, .inr rfl⟩

theorem ne_of_begins {d : Char} (hc : c.isDigit ∨ c = '.') (hd : d.isDigit = false)
    (hpoint : d ≠ '.') : c ≠ d := by
  rintro rfl
  simp [hd, hpoint] at hc

/-- A numeral without a sign is none of the words, which begin with a letter. -/
theorem IsSpelt.readUnsigned? (h : n.IsSpelt s) : readUnsigned? s = some n.value := by
  obtain ⟨c, rest, rfl, hc⟩ := h.exists_head
  have hlower : c.toLower = c := by
    obtain hc | rfl := hc
    · unfold Char.toLower
      grind [Char.isDigit]
    · rfl
  have hi : c ≠ 'i' := ne_of_begins hc rfl (by decide)
  have hn : c ≠ 'n' := ne_of_begins hc rfl (by decide)
  simp only [Number.readUnsigned?, List.map_cons, hlower, read?_eq_some_iff.2 h]
  split <;> simp_all

/-- The double of a numeral. -/
theorem IsSpelt.readNumber? {text : String} (h : n.IsSpelt text.toList) :
    readNumber? text = some n.value := by
  obtain ⟨c, rest, hlist, hc⟩ := h.exists_head
  rw [Number.readNumber?, hlist]
  split
  · rename_i heq
    exact absurd (List.cons.inj heq).1 (ne_of_begins hc rfl (by decide))
  · rename_i heq
    exact absurd (List.cons.inj heq).1 (ne_of_begins hc rfl (by decide))
  · rw [← hlist]
    exact h.readUnsigned?

end Numeral

end Formulary.Number
