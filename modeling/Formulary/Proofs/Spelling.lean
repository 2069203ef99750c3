import Mathlib.Data.List.Forall2
import Formulary.Formula.Printer

/-!
# Reading what is written

Every word is read from its spelling, whatever word comes next, since a blank or the end of the
text stands between them. So the words of a formula can be told from the text that they are
written in.

## Main definitions

* `Token.IsWord`, `AllWords` : the tokens that can be written;
* `Lexer.Ends` : the texts that no word reaches into;
* `Lexer.ScansAs`, `Lexer.ReadsAs` : the characters that are read as a word;
* `Lexer.Spaced` : words with blanks between them.

## Main statements

* `Lexer.scansAs_spelling` : a word is read from its spelling, whatever follows;
* `lex_of_spaced` : words with blanks between them are read one after the other;
* `lex_spellings` : so are spellings.
-/
namespace Formulary

/-- A token that some text is read as. -/
def Token.IsWord : Token → Prop
  | .numeral digits => isNumeral digits
  | .name n => isName n
  | _ => True

def AllWords (ts : List Token) : Prop := ∀ t ∈ ts, t.IsWord

section AllWords
variable {t : Token} {ts us : List Token}

@[simp] theorem isWord_mark (m : Mark) : (Token.mark m).IsWord := trivial

@[simp] theorem isWord_text (contents : String) : (Token.text contents).IsWord := trivial

@[simp] theorem isWord_name {name : String} : (Token.name name).IsWord ↔ isName name := Iff.rfl

@[simp] theorem allWords_nil : AllWords [] := by simp [AllWords]

@[simp] theorem allWords_cons : AllWords (t :: ts) ↔ t.IsWord ∧ AllWords ts :=
  List.forall_mem_cons

@[simp] theorem allWords_append : AllWords (ts ++ us) ↔ AllWords ts ∧ AllWords us :=
  List.forall_mem_append

end AllWords

namespace Lexer

/-- What may follow a word: the end of the text, or a blank. -/
inductive Ends : List Char → Prop
  | nil : Ends []
  | blank {c : Char} (h : Text.isBlank c) (s : List Char) : Ends (c :: s)

/-- In front of `tail`, the word is read as the token. -/
def ScansAs (start : Nat) (word tail : List Char) (t : Token) : Prop :=
  ∃ c s, word = c :: s ∧ Text.isBlank c = false ∧ scan start c (s ++ tail) = .ok ⟨t, word, tail⟩

variable {s tail : List Char} {p : Char → Bool} {c d : Char} {start : Nat}

theorem ne_of_isBlank (h : Text.isBlank c) (hd : Text.isBlank d = false) : c ≠ d := by
  rintro rfl
  cases h.symm.trans hd

theorem not_isDigit_of_isBlank (h : Text.isBlank c) : c.isDigit = false :=
  Bool.eq_false_iff.2 fun hdigit => by simp [Text.isBlank_eq_false_of_isDigit hdigit] at h

theorem takeWhile_append_of_ends (ht : Ends tail) (hp : ∀ c, Text.isBlank c → p c = false) :
    (s ++ tail).takeWhile p = s.takeWhile p := by
  induction s with
  | nil =>
    cases ht with
    | nil => rfl
    | blank h s => simp [hp _ h]
  | cons c s ih => simp only [List.cons_append, List.takeWhile_cons, ih]

theorem dropWhile_append_of_ends (ht : Ends tail) (hp : ∀ c, Text.isBlank c → p c = false) :
    (s ++ tail).dropWhile p = s.dropWhile p ++ tail := by
  induction s with
  | nil =>
    cases ht with
    | nil => rfl
    | blank h s => simp [hp _ h]
  | cons c s ih =>
    simp only [List.cons_append, List.dropWhile_cons, ih]
    split <;> rfl

/-! ### Numerals -/

theorem spanDigits_append (ht : Ends tail) :
    spanDigits (s ++ tail) = ((spanDigits s).1, (spanDigits s).2 ++ tail) := by
  have hp : ∀ c, Text.isBlank c → c.isDigit = false := fun _ => not_isDigit_of_isBlank
  simp only [spanDigits, takeWhile_append_of_ends ht hp, dropWhile_append_of_ends ht hp]

theorem spanFraction_append (ht : Ends tail) :
    spanFraction (s ++ tail) = ((spanFraction s).1, (spanFraction s).2 ++ tail) := by
  cases s with
  | nil =>
    cases ht with
    | nil => rfl
    | @blank b h s =>
      have hpoint : b ≠ '.' := ne_of_isBlank h (by decide)
      simp [spanFraction, hpoint]
  | cons c s =>
    by_cases hc : c = '.'
    · subst hc
      simp [spanFraction, spanDigits_append ht]
    · simp [spanFraction, hc]

theorem spanExponent?_append (ht : Ends tail) :
    spanExponent? (s ++ tail) = (spanExponent? s).map fun (word, rest) => (word, rest ++ tail) := by
  cases s with
  | nil =>
    cases ht with
    | nil => rfl
    | @blank b h s =>
      have hlower : b ≠ 'e' := ne_of_isBlank h (by decide)
      have hupper : b ≠ 'E' := ne_of_isBlank h (by decide)
      simp [spanExponent?, hlower, hupper]
  | cons e s =>
    simp only [List.cons_append, spanExponent?]
    split
    · cases s with
      | nil =>
        cases ht with
        | nil => rfl
        | @blank b h s =>
          have hplus : b ≠ '+' := ne_of_isBlank h (by decide)
          have hminus : b ≠ '-' := ne_of_isBlank h (by decide)
          simp [spanDigits, hplus, hminus, not_isDigit_of_isBlank h]
      | cons c s =>
        simp only [List.cons_append]
        split <;> simp only [spanDigits_append ht, ← List.cons_append] <;> split <;> simp
    · rfl

theorem scanNumeral_append (ht : Ends tail) :
    scanNumeral start (s ++ tail) =
      (scanNumeral start s).map fun scanned => { scanned with rest := scanned.rest ++ tail } := by
  simp only [scanNumeral, spanDigits_append ht, spanFraction_append ht, spanExponent?_append ht]
  cases spanExponent? (spanFraction (spanDigits s).2).2 <;> rfl

theorem spanDigits_fst_append_snd (s : List Char) : (spanDigits s).1 ++ (spanDigits s).2 = s :=
  List.takeWhile_append_dropWhile

theorem spanFraction_fst_append_snd (s : List Char) :
    (spanFraction s).1 ++ (spanFraction s).2 = s := by
  unfold spanFraction
  split
  · simp [spanDigits_fst_append_snd]
  · rfl

theorem append_of_spanExponent? {word rest : List Char} (h : spanExponent? s = some (word, rest)) :
    word ++ rest = s := by
  cases s with
  | nil => simp_all [spanExponent?]
  | cons e s =>
    simp only [spanExponent?] at h
    split at h
    · cases s with
      | nil => simp [spanDigits] at h
      | cons c s =>
        simp only at h
        split at h <;> split at h <;>
          simp only [Option.some.injEq, Prod.mk.injEq, reduceCtorEq] at h <;>
          obtain ⟨rfl, rfl⟩ := h <;> simp [spanDigits_fst_append_snd]
    · simp_all

/-- What is read as a numeral stands in front of the rest, and where it starts does not matter. -/
theorem scanNumeral_of_isNumeral {digits : String} (h : isNumeral digits) :
    scanNumeral start digits.toList = .ok ⟨.numeral digits, digits.toList, []⟩ := by
  simp only [isNumeral, scanNumeral, Bool.and_eq_true] at h
  simp only [scanNumeral]
  cases hexponent : spanExponent? (spanFraction (spanDigits digits.toList).2).2 with
  | none => simp [hexponent] at h
  | some parts =>
    obtain ⟨word, rest⟩ := parts
    simp only [hexponent, List.isEmpty_iff] at h
    obtain ⟨-, rfl⟩ := h
    have hword : word = (spanFraction (spanDigits digits.toList).2).2 := by
      simpa using append_of_spanExponent? hexponent
    have hdigits : (spanDigits digits.toList).1 ++
        (spanFraction (spanDigits digits.toList).2).1 ++ word = digits.toList := by
      rw [hword, List.append_assoc, spanFraction_fst_append_snd, spanDigits_fst_append_snd]
    simp only [hdigits, String.ofList_toList]

/-! ### Quoted texts -/

section Quoted
variable {quote : Char} {place : Nat}

theorem scanQuoted_quote :
    scanQuoted quote start place (quote :: tail) = .ok ([], [quote], tail) := by
  rw [scanQuoted.eq_def]
  simp

theorem scanQuoted_escape {meant : Char} (hquote : quote ≠ '\\') (h : unescape? c = some meant) :
    scanQuoted quote start place ('\\' :: c :: s) =
      (scanQuoted quote start (place + 1 + c.utf8Size) s).map fun (contents, word, rest) =>
        (meant :: contents, '\\' :: c :: word, rest) := by
  rw [scanQuoted.eq_def]
  simp only [hquote.symm, if_false, if_true, h]
  cases scanQuoted quote start (place + 1 + c.utf8Size) s <;> rfl

theorem scanQuoted_plain (hquote : c ≠ quote) (hescape : c ≠ '\\') :
    scanQuoted quote start place (c :: s) =
      (scanQuoted quote start (place + c.utf8Size) s).map fun (contents, word, rest) =>
        (c :: contents, c :: word, rest) := by
  rw [scanQuoted.eq_def]
  simp only [hquote, hescape, if_false]
  cases scanQuoted quote start (place + c.utf8Size) s <;> rfl

end Quoted

/-- A character comes back from its escape. -/
theorem exists_escaped (c : Char) :
    (escaped c = [c] ∧ c ≠ '"' ∧ c ≠ '\\') ∨
      ∃ written, escaped c = ['\\', written] ∧ unescape? written = some c := by
  unfold escaped
  split
  · subst c; exact .inr ⟨_, rfl, by decide⟩
  split
  · subst c; exact .inr ⟨_, rfl, by decide⟩
  split
  · subst c; exact .inr ⟨_, rfl, by decide⟩
  split
  · subst c; exact .inr ⟨_, rfl, by decide⟩
  split
  · subst c; exact .inr ⟨_, rfl, by decide⟩
  · exact .inl ⟨rfl, ‹_›, ‹_›⟩

theorem scanQuoted_escaped (place : Nat) :
    scanQuoted '"' start place (s.flatMap escaped ++ '"' :: tail) =
      .ok (s, s.flatMap escaped ++ ['"'], tail) := by
  induction s generalizing place with
  | nil => exact scanQuoted_quote
  | cons c s ih =>
    rw [List.flatMap_cons, List.append_assoc]
    obtain ⟨h, hquote, hescape⟩ | ⟨written, h, hmeant⟩ := exists_escaped c
    · rw [h, List.singleton_append, scanQuoted_plain hquote hescape, ih]
      rfl
    · rw [h, List.cons_append, List.singleton_append, scanQuoted_escape (by decide) hmeant, ih]
      rfl

/-! ### Names -/

open Text (CodeRun)

theorem isOneOf_mono {categories more : List Text.Category} (hsub : categories ⊆ more)
    (h : Text.isOneOf categories c) : Text.isOneOf more c := by
  simp only [Text.isOneOf, List.any_eq_true] at h ⊢
  obtain ⟨category, hmem, hc⟩ := h
  exact ⟨category, hsub hmem, hc⟩

/-- What does not even continue an identifier does not begin one. -/
theorem covers_startExclusions {code : Nat} (h : CodeRun.covers Text.continueExclusions code) :
    CodeRun.covers Text.startExclusions code := by
  have hall : ∀ code ∈ Text.continueExclusions.flatMap CodeRun.codes,
      CodeRun.covers Text.startExclusions code := by decide
  exact hall code (CodeRun.mem_codes_of_covers h)

theorem continuesIdentifier_of_beginsIdentifier (h : Text.beginsIdentifier c) :
    Text.continuesIdentifier c := by
  simp only [Text.beginsIdentifier, Text.continuesIdentifier, Bool.and_eq_true, Bool.or_eq_true,
    Bool.not_eq_true'] at h ⊢
  obtain ⟨⟨hclass, hsyntax⟩, hstart⟩ := h
  refine ⟨⟨.inl (hclass.imp_left (isOneOf_mono (by decide))), hsyntax⟩, ?_⟩
  exact Bool.eq_false_iff.2 fun hcovers => by simp [covers_startExclusions hcovers] at hstart

theorem continuesName_of_beginsName (h : beginsName c) : continuesName c := by
  simp only [beginsName, continuesName, Bool.or_eq_true, beq_iff_eq] at h ⊢
  obtain (h | rfl) | rfl := h
  · exact .inl (continuesIdentifier_of_beginsIdentifier h)
  · exact .inl (by decide)
  · exact .inr rfl

/-- The constants are spelled like names. -/
theorem isNameWord_constant : ∀ word ∈ ["true", "false", "null"], isNameWord word.toList := by
  decide

/-- A kind of characters that is told from runs by going through their code points. -/
theorem covers_eq_false {runs : List CodeRun}
    (hall : ∀ code ∈ runs.flatMap CodeRun.codes, p (Char.ofNat code) = false)
    (h : p c) : CodeRun.covers runs c.toNat = false := by
  refine Bool.eq_false_iff.2 fun hcovers => ?_
  have hc := hall c.toNat (CodeRun.mem_codes_of_covers hcovers)
  rw [Char.ofNat_toNat, h] at hc
  cases hc

/-- No name reaches over a blank. -/
theorem not_continuesName_of_isBlank (h : Text.isBlank c) : continuesName c = false := by
  have hall : ∀ code ∈ Text.blankRuns.flatMap CodeRun.codes,
      continuesName (Char.ofNat code) = false := by decide +kernel
  refine Bool.eq_false_iff.2 fun hname => ?_
  cases h.symm.trans (covers_eq_false hall hname)

/-- Characters of marks, numerals and quoted texts. -/
def otherStarts : List CodeRun :=
  [(0x21, 0x23, 1), (0x25, 0x40, 1), (0x5B, 0x5D, 1), (0x7B, 0x7D, 1)]

/-- Neither blanks nor the characters of other words begin names. -/
theorem not_beginsName_ofNat :
    ∀ code ∈ (Text.blankRuns ++ otherStarts).flatMap CodeRun.codes,
      beginsName (Char.ofNat code) = false := by decide +kernel

theorem not_isBlank_of_beginsName (h : beginsName c) : Text.isBlank c = false := by
  refine covers_eq_false (fun code hcode => not_beginsName_ofNat code ?_) h
  rw [List.flatMap_append]
  exact List.mem_append_left _ hcode

theorem covers_otherStarts_eq_false (h : beginsName c) :
    CodeRun.covers otherStarts c.toNat = false := by
  refine covers_eq_false (fun code hcode => not_beginsName_ofNat code ?_) h
  rw [List.flatMap_append]
  exact List.mem_append_right _ hcode

theorem not_isDigit_of_beginsName (h : beginsName c) : c.isDigit = false := by
  have hcovers := covers_otherStarts_eq_false h
  refine Bool.eq_false_iff.2 fun hdigit => ?_
  have hrange : 48 ≤ c.toNat ∧ c.toNat ≤ 57 := Char.isDigit_iff_toNat.1 hdigit
  have hfirst : ¬c.toNat < 0x21 := by omega
  have hsecond : ¬c.toNat < 0x25 := by omega
  have hlast : c.toNat ≤ 0x40 := by omega
  simp [otherStarts, CodeRun.covers, hfirst, hsecond, hlast, Nat.mod_one] at hcovers

theorem beginsNumeral_eq_false (h : beginsName c) : beginsNumeral (c :: s) = false := by
  unfold beginsNumeral
  split
  · rename_i heq
    obtain ⟨rfl, -⟩ := List.cons.inj heq
    cases covers_otherStarts_eq_false h
  · rename_i heq
    obtain ⟨rfl, -⟩ := List.cons.inj heq
    exact not_isDigit_of_beginsName h
  · rfl

theorem scanMark?_eq_none (h : beginsName c) : scanMark? (c :: s) = none := by
  have hcovers := covers_otherStarts_eq_false h
  unfold scanMark?
  split
  -- No mark begins with a character that begins a name.
  all_goals first
    | rfl
    | rename_i heq
      obtain ⟨rfl, -⟩ := List.cons.inj heq
      cases hcovers

/-- A word that is read as it stands, as its characters all continue a name. -/
theorem scan_word (hbegins : beginsName c) (hcontinues : ∀ d ∈ s, continuesName d)
    (ht : Ends tail) :
    scan start c (s ++ tail) = .ok ⟨nameToken (c :: s), c :: s, tail⟩ := by
  have hquote : ¬(c = '"' ∨ c = '\'') := by
    rintro (rfl | rfl) <;> cases covers_otherStarts_eq_false hbegins
  have hall : ∀ d ∈ c :: s, continuesName d :=
    List.forall_mem_cons.2 ⟨continuesName_of_beginsName hbegins, hcontinues⟩
  have htake : (c :: (s ++ tail)).takeWhile continuesName = c :: s := by
    rw [← List.cons_append, List.takeWhile_append_of_pos hall]
    simpa using takeWhile_append_of_ends (s := []) ht fun _ => not_continuesName_of_isBlank
  have hdrop : (c :: (s ++ tail)).dropWhile continuesName = tail := by
    rw [← List.cons_append, List.dropWhile_append_of_pos hall]
    simpa using dropWhile_append_of_ends (s := []) ht fun _ => not_continuesName_of_isBlank
  simp only [scan, beginsNumeral_eq_false hbegins, hquote, scanMark?_eq_none hbegins, hbegins,
    scanName, htake, hdrop, if_true, if_false, Bool.false_eq_true]

/-- The word of a name or a constant is read as it stands. -/
theorem scansAs_of_nameToken {t : Token} (h : isNameWord s) (htoken : nameToken s = t)
    (ht : Ends tail) : ScansAs start s tail t := by
  subst htoken
  cases s with
  | nil => cases h
  | cons c s =>
    simp only [isNameWord, Bool.and_eq_true, List.all_eq_true] at h
    exact ⟨c, s, rfl, not_isBlank_of_beginsName h.1, scan_word h.1 h.2 ht⟩

/-! ### Words -/

theorem beginsNumeral_append (h : beginsNumeral s) : beginsNumeral (s ++ tail) := by
  cases s with
  | nil => cases h
  | cons c s =>
    by_cases hpoint : c = '.'
    · subst hpoint
      cases s with
      | nil => cases h
      | cons d s => exact h
    · simpa [beginsNumeral, hpoint] using h

theorem not_isBlank_of_beginsNumeral (h : beginsNumeral (c :: s)) : Text.isBlank c = false := by
  by_cases hpoint : c = '.'
  · subst hpoint
    decide
  · have hdigit : c.isDigit := by simpa [beginsNumeral, hpoint] using h
    exact Text.isBlank_eq_false_of_isDigit hdigit

theorem scansAs_numeral {digits : String} (h : isNumeral digits) (ht : Ends tail) :
    ScansAs start digits.toList tail (.numeral digits) := by
  have hbegins : beginsNumeral digits.toList := by
    simp only [isNumeral, Bool.and_eq_true] at h
    exact h.1
  have hscan : scanNumeral start digits.toList = .ok ⟨.numeral digits, digits.toList, []⟩ :=
    scanNumeral_of_isNumeral h
  cases hdigits : digits.toList with
  | nil => simp [hdigits, beginsNumeral] at hbegins
  | cons c s =>
    rw [hdigits] at hbegins hscan
    refine ⟨c, s, rfl, not_isBlank_of_beginsNumeral hbegins, ?_⟩
    rw [scan, ← List.cons_append, if_pos (beginsNumeral_append hbegins), scanNumeral_append ht,
      hscan]
    rfl

theorem scansAs_text (contents : String) :
    ScansAs start (Token.text contents).spelling.toList tail (.text contents) := by
  have hspelling : (Token.text contents).spelling.toList =
      '"' :: (contents.toList.flatMap escaped ++ ['"']) := by
    simp [Token.spelling]
  refine ⟨'"', _, hspelling, by decide, ?_⟩
  simp [scan, beginsNumeral, scanText, scanQuoted_escaped, hspelling, bind, Except.bind, pure,
    Except.pure]

/-- No numeral begins with the end of a word that begins none. -/
theorem beginsNumeral_append_of_ends (hs : s ≠ []) (h : beginsNumeral s = false) (ht : Ends tail) :
    beginsNumeral (s ++ tail) = false := by
  cases s with
  | nil => exact absurd rfl hs
  | cons c s =>
    by_cases hpoint : c = '.'
    · subst hpoint
      cases s with
      | nil =>
        cases ht with
        | nil => rfl
        | blank hblank s => exact not_isDigit_of_isBlank hblank
      | cons d s => exact h
    · simpa [beginsNumeral, hpoint] using h

/-- A blank makes no mark longer. -/
theorem scanMark?_append {m : Mark} (h : scanMark? s = some (m, s.length)) (ht : Ends tail) :
    scanMark? (s ++ tail) = some (m, s.length) := by
  cases ht with
  | nil => rwa [List.append_nil]
  | @blank b hblank rest =>
    have hstar : b ≠ '*' := ne_of_isBlank hblank (by decide)
    have hequal : b ≠ '=' := ne_of_isBlank hblank (by decide)
    have hquestion : b ≠ '?' := ne_of_isBlank hblank (by decide)
    unfold scanMark? at h
    split at h
    all_goals
      simp only [Option.some.injEq, Prod.mk.injEq, List.length_cons, Nat.right_eq_add,
        List.length_eq_zero_iff, reduceCtorEq] at h
    -- The mark is all of the text, so the blank comes right after it.
    all_goals
      obtain ⟨rfl, rfl⟩ := h
      simp [scanMark?, hstar, hequal, hquestion]

/-- Characters that are all of a mark are read as that mark. -/
theorem scansAs_of_scanMark? {m : Mark} (hblank : Text.isBlank c = false)
    (hnumeral : beginsNumeral (c :: s) = false) (hquote : ¬(c = '"' ∨ c = '\''))
    (hmark : scanMark? (c :: s) = some (m, (c :: s).length)) (ht : Ends tail) :
    ScansAs start (c :: s) tail (.mark m) := by
  refine ⟨c, s, rfl, hblank, ?_⟩
  have hnumeral' : beginsNumeral (c :: (s ++ tail)) = false :=
    beginsNumeral_append_of_ends (List.cons_ne_nil c s) hnumeral ht
  have hmark' : scanMark? (c :: (s ++ tail)) = some (m, (c :: s).length) :=
    scanMark?_append hmark ht
  simp [scan, hnumeral', hquote, hmark']

theorem scansAs_mark (m : Mark) (ht : Ends tail) :
    ScansAs start m.spelling.toList tail (.mark m) := by
  cases m <;> exact scansAs_of_scanMark? (by decide) (by decide) (by decide) rfl ht

/-- A word that can be written is read from its spelling. -/
theorem scansAs_spelling {t : Token} (h : t.IsWord) (ht : Ends tail) :
    ScansAs start t.spelling.toList tail t := by
  cases t with
  | numeral digits => exact scansAs_numeral h ht
  | text contents => exact scansAs_text contents
  | name n =>
    obtain ⟨hword, htoken⟩ : isNameWord n.toList ∧ nameToken n.toList = .name n := by
      simpa [Token.IsWord, isName] using h
    exact scansAs_of_nameToken hword htoken ht
  | bool b =>
    cases b with
    | true => exact scansAs_of_nameToken (isNameWord_constant "true" (by simp)) rfl ht
    | false => exact scansAs_of_nameToken (isNameWord_constant "false" (by simp)) rfl ht
  | null => exact scansAs_of_nameToken (isNameWord_constant "null" (by simp)) rfl ht
  | mark m => exact scansAs_mark m ht

def spellings (ts : List Token) : List Char :=
  [' '].intercalate (ts.map fun t => t.spelling.toList)

theorem spellings_singleton (t : Token) : spellings [t] = t.spelling.toList := by
  simp [spellings]

theorem spellings_cons_cons (t u : Token) (ts : List Token) :
    spellings (t :: u :: ts) = t.spelling.toList ++ ' ' :: spellings (u :: ts) := by
  simp [spellings, List.intercalate_cons_cons]

/-- One word is read, and the rest after it. -/
theorem lexFrom_of_scansAs {fuel : Nat} {word : List Char} {t : Token}
    (h : ScansAs start word tail t) :
    lexFrom (fuel + 1) start (word ++ tail) =
      (lexFrom fuel (start + byteCount word) tail).map
        (⟨start, t, start + byteCount word⟩ :: ·) := by
  obtain ⟨c, s, rfl, hblank, hscan⟩ := h
  simp only [List.cons_append, lexFrom, hblank, hscan, Bool.false_eq_true, if_false, bind,
    Except.bind]
  cases lexFrom fuel (start + byteCount (c :: s)) tail <;> rfl

theorem lexFrom_blank {fuel : Nat} (h : Text.isBlank c) :
    lexFrom (fuel + 1) start (c :: s) = lexFrom fuel (start + c.utf8Size) s := by
  rw [lexFrom, if_pos h]

/-- Words in order, with at least one blank between two of them and any blanks around them. -/
inductive Spaced : List (List Char) → List Char → Prop
  | nil : Spaced [] []
  | blank {words : List (List Char)} {c : Char} {s : List Char} (h : Text.isBlank c)
      (hs : Spaced words s) : Spaced words (c :: s)
  | word {words : List (List Char)} {s : List Char} (word : List Char) (h : Ends s)
      (hs : Spaced words s) : Spaced (word :: words) (word ++ s)

/-- A word that is read as the token, wherever it starts and whatever comes after its end. -/
def ReadsAs (word : List Char) (t : Token) : Prop :=
  ∀ start tail, Ends tail → ScansAs start word tail t

/-- Words with blanks between them are read one after the other. -/
theorem lexFrom_spaced {words : List (List Char)} {ts : List Token}
    (hwords : List.Forall₂ ReadsAs words ts) (hs : Spaced words s) {fuel : Nat}
    (hfuel : s.length ≤ fuel) :
    ∃ lexemes, lexFrom fuel start s = .ok lexemes ∧ lexemes.map Lexeme.token = ts := by
  induction hs generalizing start ts fuel with
  | nil =>
    cases hwords
    exact ⟨[], by simp [lexFrom], rfl⟩
  | blank h hs ih =>
    obtain ⟨fuel, rfl⟩ : ∃ k, fuel = k + 1 := ⟨fuel - 1, by grind⟩
    rw [lexFrom_blank h]
    exact ih hwords (Nat.le_of_succ_le_succ hfuel)
  | @word _ s word h hs ih =>
    cases hwords with
    | cons ht hwords =>
      obtain ⟨c, w, rfl, -⟩ := ht start _ h
      obtain ⟨fuel, rfl⟩ : ∃ k, fuel = k + 1 := ⟨fuel - 1, by grind⟩
      have hrest : s.length ≤ fuel := by grind
      obtain ⟨lexemes, hlexemes, rfl⟩ := ih hwords hrest
      rw [lexFrom_of_scansAs (ht start _ h), hlexemes]
      exact ⟨_, rfl, rfl⟩

theorem spaced_spellings (ts : List Token) :
    Spaced (ts.map fun t => t.spelling.toList) (spellings ts) := by
  induction ts with
  | nil => exact .nil
  | cons t ts ih =>
    cases ts with
    | nil =>
      rw [spellings_singleton, ← List.append_nil t.spelling.toList]
      exact .word _ .nil .nil
    | cons u ts =>
      rw [spellings_cons_cons]
      exact .word _ (.blank (by decide) _) (.blank (by decide) ih)

theorem readsAs_spellings {ts : List Token} (h : AllWords ts) :
    List.Forall₂ ReadsAs (ts.map fun t => t.spelling.toList) ts :=
  List.forall₂_map_left_iff.2
    (List.forall₂_same.2 fun t ht _ _ htail => scansAs_spelling (h t ht) htail)

end Lexer

/-- A text of words with blanks between them has the tokens of the words. -/
theorem lex_of_spaced {text : String} {words : List (List Char)} {ts : List Token}
    (hwords : List.Forall₂ Lexer.ReadsAs words ts) (hs : Lexer.Spaced words text.toList) :
    ∃ lexemes, lex text = .ok lexemes ∧ lexemes.map Lexeme.token = ts := by
  rw [lex, ← String.length_toList]
  exact Lexer.lexFrom_spaced hwords hs (Nat.le_refl _)

/-- The words of a text are those that it is written with. -/
theorem lex_spellings {ts : List Token} (h : AllWords ts) :
    ∃ words, lex (" ".intercalate (ts.map Token.spelling)) = .ok words ∧
      words.map Lexeme.token = ts := by
  refine lex_of_spaced (Lexer.readsAs_spellings h) ?_
  have hchars : (" ".intercalate (ts.map Token.spelling)).toList = Lexer.spellings ts := by
    simp [Lexer.spellings, String.toList_intercalate, Function.comp_def]
  rw [hchars]
  exact Lexer.spaced_spellings ts

end Formulary
