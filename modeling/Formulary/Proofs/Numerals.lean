import Formulary.Proofs.FirstFault
import Formulary.Proofs.Number.Range

/-!
# The numerals of a text

The reader of words and the reader of numbers agree on what a numeral is: a word is a numeral
exactly when it is a decimal one without a sign. So a formula is never refused because a numeral is
no number, only because its number is too large.

## Main statements

* `Lexer.scan_eq_numeral_iff` : the texts that are read as numerals;
* `Lexer.Passes.forall_isSpelt` : the numerals among the words of a text;
* `Parser.atom_numeral` : what becomes of such a word;
* `numerals_readable` : all of this, and the faults that a formula is refused for.
-/
namespace Formulary

open Number (AllDigits Numeral)
open Number.Numeral

namespace Lexer

variable {s rest word exponent : List Char} {c : Char} {start place : Nat}
  {numeral : String} {n : Numeral} {i : Int} {scanned : Scanned} {lexemes : List Lexeme}

/-! ### Both readers take a text apart in the same way -/

section
variable {whole digits fraction tail : List Char} (h : IsSpanned whole digits fraction tail)

include h

theorem spanDigits_of_isSpanned :
    spanDigits (whole ++ (fraction ++ tail)) = (whole, fraction ++ tail) := by
  rw [spanDigits, h.allDigits.takeWhile_append h.head?_append,
    h.allDigits.dropWhile_append h.head?_append]

theorem spanFraction_of_isSpanned : spanFraction (fraction ++ tail) = (fraction, tail) := by
  obtain ⟨-, hfraction, hends⟩ := h
  cases hfraction with
  | absent =>
    rw [List.nil_append]
    unfold spanFraction
    split
    · exact absurd rfl ((hends '.' rfl).2 rfl)
    · rfl
  | point hdigits =>
    have hrest : ∀ c ∈ tail.head?, c.isDigit = false := fun c hc => (hends c hc).1
    simp only [List.cons_append, spanFraction, spanDigits, hdigits.takeWhile_append hrest,
      hdigits.dropWhile_append hrest]

/-- A numeral begins where there is a digit in front of an exponent. -/
theorem beginsNumeral_iff_of_isSpanned :
    beginsNumeral (whole ++ (fraction ++ tail)) ↔ whole ≠ [] ∨ digits ≠ [] := by
  obtain ⟨hwhole, hfraction, hends⟩ := h
  cases whole with
  | cons c rest =>
    have hc : c.isDigit := hwhole c List.mem_cons_self
    have hpoint : c ≠ '.' := by rintro rfl; cases hc
    simp [beginsNumeral, hc, hpoint]
  | nil =>
    cases hfraction with
    | absent =>
      cases tail with
      | nil => simp [beginsNumeral]
      | cons c rest =>
        obtain ⟨hc, hpoint⟩ := hends c rfl
        have hpoint : c ≠ '.' := fun heq => hpoint heq rfl
        simp [beginsNumeral, hc, hpoint]
    | point hdigits =>
      cases digits with
      | nil =>
        cases tail with
        | nil => simp [beginsNumeral]
        | cons c rest => simp [beginsNumeral, (hends c rfl).1]
      | cons d digits =>
        have hd : d.isDigit := hdigits d List.mem_cons_self
        simp [beginsNumeral, hd]

end

/-! ### Numerals as words -/

/-- An exponent that is read is a letter, a sign and digits. -/
theorem spellsExponent_of_spanExponent? (h : spanExponent? s = some (word, rest)) :
    ∃ i, SpellsExponent i word := by
  obtain rfl | ⟨letter, sign, digits, rfl, hletter, hsign, hdigits⟩ := spanExponent?_eq_some h
  · exact ⟨0, .absent⟩
  · have hall : AllDigits (spanDigits digits).1 := Number.allDigits_takeWhile digits
    obtain rfl | rfl | rfl := hsign
    · exact ⟨_, .written hletter .absent hall hdigits⟩
    · exact ⟨_, .written hletter .plus hall hdigits⟩
    · exact ⟨_, .written hletter .minus hall hdigits⟩

/-- An exponent is read to its end. -/
theorem spanExponent?_of_spellsExponent (h : SpellsExponent i exponent) :
    spanExponent? exponent = some (exponent, []) := by
  cases h with
  | absent => rfl
  | written hletter hsign hdigits hne =>
    obtain ⟨d, ds, rfl, hminus, hplus⟩ := exists_head_of_allDigits hdigits hne
    have hspan : spanDigits (d :: ds) = (d :: ds, []) := by
      rw [spanDigits, List.takeWhile_eq_self_iff.2 hdigits, List.dropWhile_eq_nil_iff.2 hdigits]
    cases hsign <;> simp [spanExponent?, hletter, hspan, hminus, hplus]

/-- What is read as a numeral is a decimal one. -/
theorem exists_isSpelt (hs : beginsNumeral s) (h : scanNumeral start s = .ok scanned) :
    ∃ n : Numeral, n.IsSpelt scanned.word := by
  obtain ⟨whole, digits, fraction, tail, rfl, hspanned⟩ := exists_isSpanned s
  simp only [scanNumeral, spanDigits_of_isSpanned hspanned, spanFraction_of_isSpanned hspanned] at h
  cases hexponent : spanExponent? tail with
  | none => simp [hexponent] at h
  | some parts =>
    obtain ⟨exponent, rest⟩ := parts
    simp only [hexponent, Except.ok.injEq] at h
    subst h
    obtain ⟨i, hi⟩ := spellsExponent_of_spanExponent? hexponent
    refine ⟨⟨whole, digits, i⟩, ?_⟩
    rw [List.append_assoc]
    exact .parts hspanned.allDigits hspanned.spells hi
      ((beginsNumeral_iff_of_isSpanned hspanned).1 hs)

/-- A decimal numeral is read to its end. -/
theorem scanNumeral_of_isSpelt (start : Nat) (h : n.IsSpelt numeral.toList) :
    scanNumeral start numeral.toList = .ok ⟨.numeral numeral, numeral.toList, []⟩ ∧
      beginsNumeral numeral.toList := by
  obtain ⟨fraction, exponent, hlist, hspanned, hexponent, hdigit⟩ := h.exists_isSpanned
  rw [hlist]
  refine ⟨?_, (beginsNumeral_iff_of_isSpanned hspanned).2 hdigit⟩
  simp only [scanNumeral, spanDigits_of_isSpanned hspanned, spanFraction_of_isSpanned hspanned,
    spanExponent?_of_spellsExponent hexponent, List.append_assoc]
  rw [← hlist, String.ofList_toList]

theorem nameToken_ne_numeral (s : List Char) : nameToken s ≠ .numeral numeral := by
  unfold nameToken
  dsimp only
  split_ifs <;> simp

/-- Numerals are read by their own reader only. -/
theorem scanNumeral_of_scan (h : scan start c s = .ok scanned)
    (htoken : scanned.token = .numeral numeral) :
    beginsNumeral (c :: s) ∧ scanNumeral start (c :: s) = .ok scanned := by
  unfold scan at h
  split at h
  · exact ⟨‹_›, h⟩
  split at h
  · unfold scanText at h
    cases hinside : scanQuoted c start (start + c.utf8Size) s with
    | error e => simp [hinside, bind, Except.bind] at h
    | ok parts =>
      simp only [hinside, bind, Except.bind, pure, Except.pure, Except.ok.injEq] at h
      simp [← h] at htoken
  · split at h
    · simp only [Except.ok.injEq] at h
      simp [← h] at htoken
    · split at h
      · simp only [Except.ok.injEq] at h
        rw [← h] at htoken
        exact absurd htoken (nameToken_ne_numeral _)
      · cases h

/-- A word that is a numeral is a decimal one. -/
theorem exists_isSpelt_of_scan (h : scan start c s = .ok scanned)
    (htoken : scanned.token = .numeral numeral) : ∃ n : Numeral, n.IsSpelt numeral.toList := by
  obtain ⟨hbegins, hscan⟩ := scanNumeral_of_scan h htoken
  rw [(scanNumeral_of_eq_ok hscan).2.1, Token.numeral.injEq] at htoken
  rw [← htoken, String.toList_ofList]
  exact exists_isSpelt hbegins hscan

/-- The words that are numerals are the decimal ones. -/
theorem scan_eq_numeral_iff :
    (∃ start c s scanned, scan start c s = .ok scanned ∧ scanned.token = .numeral numeral) ↔
      ∃ n : Numeral, n.IsSpelt numeral.toList := by
  constructor
  · rintro ⟨start, c, s, scanned, hscan, htoken⟩
    exact exists_isSpelt_of_scan hscan htoken
  · rintro ⟨n, h⟩
    obtain ⟨c, rest, hlist, -⟩ := h.exists_head
    obtain ⟨hscan, hbegins⟩ := scanNumeral_of_isSpelt 0 h
    rw [hlist] at hbegins hscan
    exact ⟨0, c, rest, _, by rw [scan, if_pos hbegins, hscan], rfl⟩

/-! ### The words of a text -/

/-- The numerals among the words of a text are decimal ones. -/
theorem Passes.forall_isSpelt (h : Passes start s lexemes place rest) :
    ∀ word ∈ lexemes, ∀ numeral, word.token = .numeral numeral →
      ∃ n : Numeral, n.IsSpelt numeral.toList := by
  induction h with
  | done => exact nofun
  | blank _ _ ih => exact ih
  | word _ hscan _ ih =>
    rw [List.forall_mem_cons]
    exact ⟨fun numeral htoken => exists_isSpelt_of_scan hscan htoken, ih⟩

end Lexer

/-- The numerals among the words of a formula are decimal ones. -/
theorem exists_isSpelt_of_lex {text : String} {words : List Lexeme} (h : lex text = .ok words)
    {word : Lexeme} (hword : word ∈ words) {numeral : String}
    (htoken : word.token = .numeral numeral) :
    ∃ n : Numeral, n.IsSpelt numeral.toList := by
  have htiles : Lexer.Tiles 0 text.toList words :=
    Lexer.tiles_of_lexFrom (Nat.le_of_eq String.length_toList) h
  obtain ⟨c, s, -, -, hscan⟩ := htiles.readsAs hword 0 [] .nil
  exact Lexer.exists_isSpelt_of_scan hscan htoken

/-! ### Numerals in formulas -/

/-- A numeral stands for its number, unless that is too large. -/
theorem Parser.atom_numeral (frame : Parser.Frame) (expression : Parser.Phrase Expr)
    {word : Lexeme} (rest : List Lexeme) (depth : Nat) {numeral : String} {n : Numeral}
    (htoken : word.token = .numeral numeral) (h : n.IsSpelt numeral.toList) :
    Parser.atom frame expression ⟨word :: rest, depth⟩ =
      if n.number < Number.overflow then .ok (.const (.number n.value), ⟨rest, depth⟩)
      else .error (.malformed word.start (.numberOutOfRange numeral)) := by
  obtain ⟨start, token, stop⟩ := word
  obtain rfl : token = .numeral numeral := htoken
  simp only [Parser.atom, h.readNumber?, value_isFinite_iff]

section
variable {limits : Limits} {text : String} {place : Nat} {fault : SyntaxFault} {numeral : String}

/-- A fault in the number of a numeral is found in a word, when all words are there. -/
theorem Formula.exists_numeral_of_fault
    (h : Formula.parse limits text = .error (.malformed place fault))
    (hfault : fault = .numberOutOfRange numeral ∨ fault = .invalidNumber numeral) :
    ∃ words, lex text = .ok words ∧
      ∃ word ∈ words, word.start = place ∧ word.token = .numeral numeral ∧ fault.FitsNumeral := by
  rw [Formula.parse_of_le limits text (Formula.length_le_of_malformed h)] at h
  cases hlex : lex text with
  | error e =>
    obtain rfl : e = .malformed place fault := by simpa [hlex, bind, Except.bind] using h
    obtain ⟨before, c, after, fault', -, hfound, heq⟩ := (lex_eq_error_iff.1 hlex).foundIn
    cases heq
    obtain rfl | rfl := hfault <;> exact hfound.elim
  | ok words =>
    rw [hlex] at h
    obtain ⟨-, heq⟩ | hpoints := Parser.wholeFormula_eq_error h
    · cases heq
      simp at hfault
    · cases hpoints with
      | word hword habout hnumeral =>
        refine ⟨words, rfl, _, hword, rfl, ?_, hnumeral⟩
        obtain rfl | rfl := hfault <;> exact habout
      | ending => simp at hfault

end

/-- The words of a text that are read as numerals are the decimal ones, wherever the reader of words
stands, and each of them is read as a number. When the formula is parsed, such a word stands for its
number unless that is too large for a double. So no formula is refused because a numeral is no
number, and one that is refused for being out of range holds a number that is too large, where the
fault is: it is read as the infinity. -/
theorem numerals_readable (limits : Limits) (text : String) :
    (∀ numeral : String,
      (∃ start c s scanned, Lexer.scan start c s = .ok scanned ∧ scanned.token = .numeral numeral) ↔
        ∃ n : Numeral, n.IsSpelt numeral.toList ∧ Number.readNumber? numeral = some n.value) ∧
    (∀ words place rest, Lexer.Passes 0 text.toList words place rest →
      ∀ word ∈ words, ∀ numeral, word.token = .numeral numeral →
        ∃ x, Number.readNumber? numeral = some x) ∧
    (∀ words, lex text = .ok words → ∀ word rest, word :: rest <:+ words →
      ∀ numeral, word.token = .numeral numeral →
        ∃ n : Numeral, n.IsSpelt numeral.toList ∧ ∀ frame expression depth,
          Parser.atom frame expression ⟨word :: rest, depth⟩ =
            if n.number < Number.overflow then .ok (.const (.number n.value), ⟨rest, depth⟩)
            else .error (.malformed word.start (.numberOutOfRange numeral))) ∧
    ∀ place numeral,
      Formula.parse limits text ≠ .error (.malformed place (.invalidNumber numeral)) ∧
      (Formula.parse limits text = .error (.malformed place (.numberOutOfRange numeral)) →
        ∃ words, lex text = .ok words ∧ ∃ word ∈ words, word.start = place ∧
          word.token = .numeral numeral ∧
            ∃ n : Numeral, n.IsSpelt numeral.toList ∧ ¬ n.number < Number.overflow ∧
              Number.readNumber? numeral = some (1.0 / 0.0)) := by
  refine ⟨fun numeral => ?_, ?_, ?_, fun place numeral => ⟨fun h => ?_, fun h => ?_⟩⟩
  · rw [Lexer.scan_eq_numeral_iff]
    exact exists_congr fun n => (and_iff_left_of_imp IsSpelt.readNumber?).symm
  · intro words place rest hpasses word hword numeral htoken
    obtain ⟨n, hn⟩ := hpasses.forall_isSpelt word hword numeral htoken
    exact ⟨n.value, hn.readNumber?⟩
  · intro words hlex word rest hsuffix numeral htoken
    obtain ⟨n, hn⟩ := exists_isSpelt_of_lex hlex (hsuffix.subset List.mem_cons_self) htoken
    exact ⟨n, hn, fun frame expression depth =>
      Parser.atom_numeral frame expression rest depth htoken hn⟩
  · obtain ⟨words, hlex, word, hword, -, htoken, hnone⟩ :=
      Formula.exists_numeral_of_fault h (.inr rfl)
    obtain ⟨n, hn⟩ := exists_isSpelt_of_lex hlex hword htoken
    exact absurd (hn.readNumber?.symm.trans hnone) (Option.some_ne_none _)
  · obtain ⟨words, hlex, word, hword, hstart, htoken, x, hread, hinfinite⟩ :=
      Formula.exists_numeral_of_fault h (.inl rfl)
    obtain ⟨n, hn⟩ := exists_isSpelt_of_lex hlex hword htoken
    obtain rfl : n.value = x := Option.some.inj (hn.readNumber?.symm.trans hread)
    have hlarge : ¬ n.number < Number.overflow := mt (value_isFinite_iff n).2 hinfinite
    have hinfinity : Number.readNumber? numeral = some (1.0 / 0.0) := by
      rw [hn.readNumber?, value_eq_infinity hlarge]
    exact ⟨words, hlex, word, hword, hstart, htoken, n, hn, hlarge, hinfinity⟩

/-- The point of a numeral needs no digits behind it, and the letter in front takes up two bytes. -/
theorem numerals_readable_largeFactor :
    Formula.parse {} "é * 1.e400" = .error (.malformed 5 (.numberOutOfRange "1.e400")) ∧
      ∃ words, lex "é * 1.e400" = .ok words ∧ ∃ word ∈ words, word.start = 5 ∧
        word.token = .numeral "1.e400" ∧
          ∃ n : Numeral, n.IsSpelt "1.e400".toList ∧ ¬ n.number < Number.overflow ∧
            Number.readNumber? "1.e400" = some (1.0 / 0.0) := by
  have herror : (match Formula.parse {} "é * 1.e400" with
      | .error e => some e
      | .ok _ => none) = some (.malformed 5 (.numberOutOfRange "1.e400")) := by decide +kernel
  have h : Formula.parse {} "é * 1.e400" = .error (.malformed 5 (.numberOutOfRange "1.e400")) := by
    cases hparse : Formula.parse {} "é * 1.e400" with
    | error e =>
      rw [hparse] at herror
      rw [Option.some.inj herror]
    | ok e =>
      rw [hparse] at herror
      cases herror
  exact ⟨h, ((numerals_readable {} "é * 1.e400").2.2.2 5 "1.e400").2 h⟩

end Formulary
