import Formulary.Proofs.Number.Decimal
import Formulary.Proofs.Spelling

/-!
# Words tile a text

What the words of a text leave out is blank, and each word is told from its own characters: what
follows decides where a word ends, but a word that has ended is read in the same way in front of a
blank or of the end. So the words may be written again with any blanks between them.

## Main definitions

* `places` : the characters of a text with their bytes;
* `IsBoundary` : a byte between two characters, or at an end of a text;
* `Lexeme.chars` : the characters of a word in its text;
* `Lexer.Tiles` : words that leave out blanks only.

## Main statements

* `Lexer.scan_eq_ok` : what is read stands in front of the rest, and is read again;
* `Lexer.tiles_of_lexFrom` : the words of a text tile it;
* `lex_tiles` : the words of a text, and the texts that have the same words.
-/
namespace Formulary

namespace Lexer

variable {s rest tail word contents : List Char} {c quote : Char} {start place : Nat}

/-! ### Numerals -/

theorem spanDigits_of_head (hs : ∀ c ∈ tail.head?, c.isDigit = false) :
    spanDigits ((spanDigits s).1 ++ tail) = ((spanDigits s).1, tail) := by
  have hdigits : Number.AllDigits (spanDigits s).1 := Number.allDigits_takeWhile s
  rw [spanDigits, hdigits.takeWhile_append hs, hdigits.dropWhile_append hs]

theorem spanFraction_of_head (hs : ∀ c ∈ tail.head?, c.isDigit = false ∧ c ≠ '.') :
    spanFraction ((spanFraction s).1 ++ tail) = ((spanFraction s).1, tail) := by
  by_cases hpoint : ∃ s', s = '.' :: s'
  · obtain ⟨s', rfl⟩ := hpoint
    have hdigits := spanDigits_of_head (s := s') fun c hc => (hs c hc).1
    simp only [spanFraction, List.cons_append, hdigits]
  · have hnone : (spanFraction s).1 = [] := by
      unfold spanFraction
      split
      · exact absurd ⟨_, rfl⟩ hpoint
      · rfl
    rw [hnone, List.nil_append]
    unfold spanFraction
    split
    · exact absurd rfl (hs '.' rfl).2
    · rfl

theorem spanDigits_fst (s : List Char) : spanDigits (spanDigits s).1 = ((spanDigits s).1, []) := by
  have h : spanDigits ((spanDigits s).1 ++ []) = ((spanDigits s).1, []) :=
    spanDigits_of_head (by simp)
  rwa [List.append_nil] at h

/-- An exponent is empty, or a letter, perhaps a sign, and digits. -/
theorem spanExponent?_eq_some (h : spanExponent? s = some (word, rest)) :
    word = [] ∨ ∃ e sign digits, word = e :: (sign ++ (spanDigits digits).1) ∧
      (e = 'e' ∨ e = 'E') ∧ (sign = [] ∨ sign = ['+'] ∨ sign = ['-']) ∧
      (spanDigits digits).1 ≠ [] := by
  cases s with
  | nil =>
    obtain ⟨rfl, -⟩ : [] = word ∧ [] = rest := by simpa [spanExponent?] using h
    exact .inl rfl
  | cons e s =>
    simp only [spanExponent?] at h
    split at h
    · rename_i he
      cases s with
      | nil => simp [spanDigits] at h
      | cons c s =>
        simp only at h
        split at h <;> split at h <;>
          simp only [Option.some.injEq, Prod.mk.injEq, reduceCtorEq] at h <;>
          obtain ⟨rfl, rfl⟩ := h
        · rename_i hsign hdigits
          refine .inr ⟨e, [c], s, rfl, he, .inr ?_, mt List.isEmpty_iff.2 hdigits⟩
          exact hsign.imp (congrArg ([·])) (congrArg ([·]))
        · rename_i hsign hdigits
          exact .inr ⟨e, [], c :: s, rfl, he, .inl rfl, mt List.isEmpty_iff.2 hdigits⟩
    · obtain ⟨rfl, -⟩ : [] = word ∧ e :: s = rest := by simpa using h
      exact .inl rfl

/-- An exponent is read from its characters alone. -/
theorem spanExponent?_of_eq_some (h : spanExponent? s = some (word, rest)) :
    spanExponent? word = some (word, []) := by
  obtain rfl | ⟨e, sign, digits, rfl, he, hsign, hdigits⟩ := spanExponent?_eq_some h
  · rfl
  · obtain ⟨d, ds, hds⟩ := List.exists_cons_of_ne_nil hdigits
    have hd : d.isDigit := List.mem_takeWhile_imp (hds ▸ List.mem_cons_self : d ∈ (spanDigits digits).1)
    have hspan := spanDigits_fst digits
    rw [hds] at hspan
    have hplus : d ≠ '+' := by rintro rfl; cases hd
    have hminus : d ≠ '-' := by rintro rfl; cases hd
    obtain rfl | rfl | rfl := hsign <;>
      simp [spanExponent?, he, hds, hspan, hplus, hminus]

/-- An exponent begins with neither a digit nor a point. -/
theorem head?_of_spanExponent? (h : spanExponent? s = some (word, rest)) :
    ∀ c ∈ word.head?, c.isDigit = false ∧ c ≠ '.' := by
  obtain rfl | ⟨e, sign, digits, rfl, he, -⟩ := spanExponent?_eq_some h
  · exact nofun
  · intro c hc
    obtain rfl := Option.some.inj hc
    obtain rfl | rfl := he <;> decide

theorem scanNumeral_of_eq_ok {scanned : Scanned} (h : scanNumeral start s = .ok scanned) :
    scanned.word ++ scanned.rest = s ∧ scanned.token = .numeral (String.ofList scanned.word) ∧
      scanNumeral 0 scanned.word = .ok ⟨scanned.token, scanned.word, []⟩ := by
  simp only [scanNumeral] at h
  cases hexponent : spanExponent? (spanFraction (spanDigits s).2).2 with
  | none => simp [hexponent] at h
  | some parts =>
    obtain ⟨exponent, rest⟩ := parts
    simp only [hexponent, Except.ok.injEq] at h
    subst h
    have hhead := head?_of_spanExponent? hexponent
    have hfraction : ∀ c ∈ ((spanFraction (spanDigits s).2).1 ++ exponent).head?,
        c.isDigit = false := by
      intro c hc
      unfold spanFraction at hc
      split at hc
      · obtain rfl := Option.some.inj hc
        rfl
      · exact (hhead c hc).1
    refine ⟨?_, rfl, ?_⟩
    · rw [List.append_assoc, append_of_spanExponent? hexponent, List.append_assoc,
        spanFraction_fst_append_snd, spanDigits_fst_append_snd]
    · simp only [scanNumeral, List.append_assoc, spanDigits_of_head hfraction,
        spanFraction_of_head hhead, spanExponent?_of_eq_some hexponent]

theorem beginsNumeral_word {scanned : Scanned} (h : scanNumeral start s = .ok scanned)
    (hs : beginsNumeral s) : beginsNumeral scanned.word := by
  simp only [scanNumeral] at h
  cases hexponent : spanExponent? (spanFraction (spanDigits s).2).2 with
  | none => simp [hexponent] at h
  | some parts =>
    simp only [hexponent, Except.ok.injEq] at h
    subst h
    cases s with
    | nil => cases hs
    | cons c s =>
      by_cases hpoint : c = '.'
      · subst hpoint
        cases s with
        | nil => cases hs
        | cons d s =>
          have hd : d.isDigit := hs
          have hnone : spanDigits ('.' :: d :: s) = ([], '.' :: d :: s) := rfl
          have hsome : (spanDigits (d :: s)).1 = d :: (spanDigits s).1 :=
            List.takeWhile_cons_of_pos hd
          simpa [hnone, spanFraction, hsome, beginsNumeral] using hd
      · have hc : c.isDigit := by simpa [beginsNumeral, hpoint] using hs
        have hsome : (spanDigits (c :: s)).1 = c :: (spanDigits s).1 :=
          List.takeWhile_cons_of_pos hc
        simpa [hsome, beginsNumeral, hpoint] using hc

theorem readsAs_of_scanNumeral {scanned : Scanned} (hs : beginsNumeral s)
    (h : scanNumeral start s = .ok scanned) : ReadsAs scanned.word scanned.token := by
  obtain ⟨-, htoken, hagain⟩ := scanNumeral_of_eq_ok h
  have hnumeral : isNumeral (String.ofList scanned.word) := by
    simp [isNumeral, hagain, beginsNumeral_word h hs]
  intro start tail ht
  have hscans : ScansAs start (String.ofList scanned.word).toList tail _ :=
    scansAs_numeral hnumeral ht
  rwa [String.toList_ofList, ← htoken] at hscans

/-! ### Quoted texts -/

/-- A quoted text is read up to its closing quote, whatever comes after it. -/
theorem scanQuoted_of_eq_ok (h : scanQuoted quote start place s = .ok (contents, word, rest)) :
    word ++ rest = s ∧ ∀ start place tail,
      scanQuoted quote start place (word ++ tail) = .ok (contents, word, tail) := by
  fun_induction scanQuoted quote start place s generalizing contents word rest with
  | case1 place => cases h
  | case2 place rest' =>
    obtain ⟨rfl, rfl, rfl⟩ : [] = contents ∧ [quote] = word ∧ rest' = rest := by simpa using h
    exact ⟨rfl, fun _ _ _ => scanQuoted_quote⟩
  | case3 => cases h
  | case4 => cases h
  | case5 place escaped rest' meant hescaped hquote ih =>
    cases hinside : scanQuoted quote start (place + 1 + escaped.utf8Size) rest' with
    | error e => simp [hinside, bind, Except.bind] at h
    | ok parts =>
      obtain ⟨contents', word', rest''⟩ := parts
      obtain ⟨rfl, rfl, rfl⟩ : meant :: contents' = contents ∧ '\\' :: escaped :: word' = word ∧
          rest'' = rest := by
        simpa [hinside, bind, Except.bind, pure, Except.pure] using h
      obtain ⟨hword, hagain⟩ := ih hinside
      refine ⟨by simp [hword], fun start place tail => ?_⟩
      rw [List.cons_append, List.cons_append, scanQuoted_escape (Ne.symm hquote) hescaped, hagain]
      rfl
  | case6 place c rest' hquote hescape ih =>
    cases hinside : scanQuoted quote start (place + c.utf8Size) rest' with
    | error e => simp [hinside, bind, Except.bind] at h
    | ok parts =>
      obtain ⟨contents', word', rest''⟩ := parts
      obtain ⟨rfl, rfl, rfl⟩ : c :: contents' = contents ∧ c :: word' = word ∧ rest'' = rest := by
        simpa [hinside, bind, Except.bind, pure, Except.pure] using h
      obtain ⟨hword, hagain⟩ := ih hinside
      refine ⟨by simp [hword], fun start place tail => ?_⟩
      rw [List.cons_append, scanQuoted_plain hquote hescape, hagain]
      rfl

theorem readsAs_of_scanText {scanned : Scanned} (hquote : quote = '"' ∨ quote = '\'')
    (h : scanText start quote s = .ok scanned) :
    scanned.word ++ scanned.rest = quote :: s ∧ ReadsAs scanned.word scanned.token := by
  unfold scanText at h
  cases hinside : scanQuoted quote start (start + quote.utf8Size) s with
  | error e => simp [hinside, bind, Except.bind] at h
  | ok parts =>
    obtain ⟨contents, word, rest⟩ := parts
    obtain rfl : ⟨.text (String.ofList contents), quote :: word, rest⟩ = scanned := by
      simpa [hinside, bind, Except.bind, pure, Except.pure] using h
    obtain ⟨hword, hagain⟩ := scanQuoted_of_eq_ok hinside
    refine ⟨congrArg (quote :: ·) hword, fun start tail _ => ⟨quote, word, rfl, ?_, ?_⟩⟩
    · obtain rfl | rfl := hquote <;> decide
    · have hnumeral : beginsNumeral (quote :: (word ++ tail)) = false := by
        obtain rfl | rfl := hquote <;> rfl
      simp [scan, hnumeral, hquote, scanText, hagain, bind, Except.bind, pure, Except.pure]

/-! ### Words -/

/-- A mark is read from its characters alone. -/
theorem scanMark?_take {m : Mark} {n : Nat} (h : scanMark? s = some (m, n)) :
    0 < n ∧ scanMark? (s.take n) = some (m, (s.take n).length) := by
  unfold scanMark? at h
  split at h
  all_goals
    simp only [Option.some.injEq, Prod.mk.injEq, reduceCtorEq] at h
  all_goals
    obtain ⟨rfl, rfl⟩ := h
    exact ⟨by decide, rfl⟩

/-- The word that a text begins with stands in front of the rest. It is read as the same token
wherever it stands in front of a blank or the end. -/
theorem scan_eq_ok {scanned : Scanned} (hblank : Text.isBlank c = false)
    (h : scan start c s = .ok scanned) :
    scanned.word ++ scanned.rest = c :: s ∧ ReadsAs scanned.word scanned.token := by
  unfold scan at h
  by_cases hnumeral : beginsNumeral (c :: s)
  · rw [if_pos hnumeral] at h
    exact ⟨(scanNumeral_of_eq_ok h).1, readsAs_of_scanNumeral hnumeral h⟩
  by_cases hquote : c = '"' ∨ c = '\''
  · rw [if_neg hnumeral, if_pos hquote] at h
    exact readsAs_of_scanText hquote h
  rw [if_neg hnumeral, if_neg hquote] at h
  cases hmark : scanMark? (c :: s) with
  | some parts =>
    obtain ⟨m, n⟩ := parts
    rw [hmark] at h
    obtain rfl := Except.ok.inj h
    obtain ⟨hn, htake⟩ := scanMark?_take hmark
    obtain ⟨k, rfl⟩ : ∃ k, n = k + 1 := ⟨n - 1, by omega⟩
    have hword : beginsNumeral (c :: s.take k) = false := by
      refine Bool.eq_false_iff.2 fun hbegins => hnumeral ?_
      have hall : beginsNumeral (c :: s.take k ++ s.drop k) := beginsNumeral_append hbegins
      rwa [List.cons_append, List.take_append_drop] at hall
    exact ⟨List.take_append_drop .., fun _ _ ht =>
      scansAs_of_scanMark? hblank hword hquote htake ht⟩
  | none =>
    rw [hmark] at h
    by_cases hbegins : beginsName c
    · simp only [hbegins, if_true, Except.ok.injEq] at h
      subst h
      refine ⟨List.takeWhile_append_dropWhile, fun start tail ht => ?_⟩
      have hword : (c :: s).takeWhile continuesName = c :: s.takeWhile continuesName :=
        List.takeWhile_cons_of_pos (continuesName_of_beginsName hbegins)
      simp only [scanName, hword]
      exact ⟨c, _, rfl, hblank, scan_word hbegins (fun d hd => List.mem_takeWhile_imp hd) ht⟩
    · simp [hbegins] at h

end Lexer

/-! ### Places -/

/-- The characters of a text that starts at byte `start`, each with the byte at which it starts. -/
def places : (start : Nat) → List Char → List (Nat × Char)
  | _, [] => []
  | start, c :: s => (start, c) :: places (start + c.utf8Size) s

/-- A byte of a text before a character, or the end of the text. -/
def IsBoundary (text : String) (place : Nat) : Prop :=
  ∃ before after : String, text = before ++ after ∧ before.utf8ByteSize = place

/-- Whether a byte belongs to a word. -/
def Lexeme.covers (l : Lexeme) (place : Nat) : Bool := l.start ≤ place && place < l.stop

/-- The characters of a text from byte `start` on that belong to a word. -/
def Lexeme.charsFrom (start : Nat) (s : List Char) (l : Lexeme) : List Char :=
  ((places start s).filter fun (place, _) => l.covers place).map (·.2)

def Lexeme.chars (text : String) (l : Lexeme) : List Char := l.charsFrom 0 text.toList

section Places
variable {s rest word : List Char} {c : Char} {start place : Nat} {l : Lexeme}

@[simp] theorem byteCount_nil : byteCount [] = 0 := rfl

@[simp] theorem byteCount_cons : byteCount (c :: s) = c.utf8Size + byteCount s := rfl

theorem byteCount_append : byteCount (word ++ s) = byteCount word + byteCount s := by
  induction word with
  | nil => simp
  | cons c word ih => simp [ih, Nat.add_assoc]

theorem utf8ByteSize_ofList (s : List Char) : (String.ofList s).utf8ByteSize = byteCount s := by
  induction s with
  | nil => rfl
  | cons c s ih => simp [String.ofList_cons, ih]

theorem places_append :
    places start (word ++ s) = places start word ++ places (start + byteCount word) s := by
  induction word generalizing start with
  | nil => rfl
  | cons c word ih => simp [places, ih, Nat.add_assoc]

theorem map_snd_places : (places start s).map (·.2) = s := by
  induction s generalizing start with
  | nil => rfl
  | cons c s ih => simp [places, ih]

/-- The characters of a text start within its bytes. -/
theorem mem_places (h : (place, c) ∈ places start s) :
    start ≤ place ∧ place < start + byteCount s := by
  induction s generalizing start with
  | nil => cases h
  | cons d s ih =>
    have hpos := d.utf8Size_pos
    rcases List.mem_cons.1 h with h | h
    · obtain ⟨rfl, -⟩ := Prod.mk.inj h
      simp only [byteCount_cons]
      omega
    · have := ih h
      simp only [byteCount_cons]
      omega

/-- A word is what it covers. -/
theorem charsFrom_self (t : Token) :
    Lexeme.charsFrom start (word ++ s) ⟨start, t, start + byteCount word⟩ = word := by
  have hword : (places start word).filter
      (fun (place, _) => (⟨start, t, start + byteCount word⟩ : Lexeme).covers place) =
      places start word := by
    refine List.filter_eq_self.2 fun (place, c) h => ?_
    simpa [Lexeme.covers] using mem_places h
  have hrest : (places (start + byteCount word) s).filter
      (fun (place, _) => (⟨start, t, start + byteCount word⟩ : Lexeme).covers place) = [] := by
    refine List.filter_eq_nil_iff.2 fun (place, c) h => ?_
    have := (mem_places h).1
    simp only [Lexeme.covers, Bool.and_eq_true, decide_eq_true_eq]
    omega
  rw [Lexeme.charsFrom, places_append, List.filter_append, hword, hrest, List.append_nil,
    map_snd_places]

/-- A word does not cover what stands before it. -/
theorem charsFrom_append (h : start + byteCount word ≤ l.start) :
    l.charsFrom start (word ++ s) = l.charsFrom (start + byteCount word) s := by
  have hword : (places start word).filter (fun (place, _) => l.covers place) = [] := by
    refine List.filter_eq_nil_iff.2 fun (place, c) hc => ?_
    have := (mem_places hc).2
    simp only [Lexeme.covers, Bool.and_eq_true, decide_eq_true_eq]
    omega
  rw [Lexeme.charsFrom, places_append, List.filter_append, hword, List.nil_append,
    Lexeme.charsFrom]

end Places

namespace Lexer

variable {s : List Char} {start place : Nat} {c : Char} {l : Lexeme} {lexemes : List Lexeme}

/-- A text from byte `start` on is its words and blanks. -/
inductive Tiles : Nat → List Char → List Lexeme → Prop
  | nil (start : Nat) : Tiles start [] []
  | blank {start : Nat} {c : Char} {s : List Char} {lexemes : List Lexeme} (h : Text.isBlank c)
      (hs : Tiles (start + c.utf8Size) s lexemes) : Tiles start (c :: s) lexemes
  | word {start : Nat} {word s : List Char} {t : Token} {lexemes : List Lexeme} (h : ReadsAs word t)
      (hs : Tiles (start + byteCount word) s lexemes) :
      Tiles start (word ++ s) (⟨start, t, start + byteCount word⟩ :: lexemes)

theorem byteCount_pos_of_readsAs {word : List Char} {t : Token} (h : ReadsAs word t) :
    0 < byteCount word := by
  obtain ⟨c, s, rfl, -⟩ := h 0 [] .nil
  have := c.utf8Size_pos
  rw [byteCount_cons]
  omega

theorem tiles_of_lexFrom {fuel : Nat} (hfuel : s.length ≤ fuel)
    (h : lexFrom fuel start s = .ok lexemes) : Tiles start s lexemes := by
  induction fuel generalizing start s lexemes with
  | zero =>
    obtain rfl := List.eq_nil_of_length_eq_zero (Nat.le_zero.1 hfuel)
    obtain rfl : [] = lexemes := by simpa [lexFrom] using h
    exact .nil start
  | succ fuel ih =>
    cases s with
    | nil =>
      obtain rfl : [] = lexemes := by simpa [lexFrom] using h
      exact .nil start
    | cons c s =>
      rw [lexFrom] at h
      split at h
      · exact .blank ‹_› (ih (Nat.le_of_succ_le_succ hfuel) h)
      · rename_i hblank
        cases hscan : scan start c s with
        | error e => simp [hscan, bind, Except.bind] at h
        | ok scanned =>
          obtain ⟨hword, hreads⟩ := scan_eq_ok (Bool.eq_false_iff.2 hblank) hscan
          cases hrest : lexFrom fuel (start + byteCount scanned.word) scanned.rest with
          | error e => simp [hscan, hrest, bind, Except.bind] at h
          | ok rest =>
            obtain rfl : ⟨start, scanned.token, start + byteCount scanned.word⟩ :: rest =
                lexemes := by
              simpa [hscan, hrest, bind, Except.bind, pure, Except.pure] using h
            obtain ⟨d, w, hnonempty, -⟩ := hreads 0 [] .nil
            have hlength := congrArg List.length hword
            rw [hnonempty] at hlength
            rw [← hword]
            exact .word hreads (ih (by grind) hrest)

namespace Tiles

/-- No word starts before its text. -/
theorem le_start (h : Tiles start s lexemes) : ∀ l ∈ lexemes, start ≤ l.start := by
  induction h with
  | nil => exact nofun
  | blank _ _ ih =>
    intro l hl
    exact Nat.le_trans (Nat.le_add_right ..) (ih l hl)
  | word _ _ ih =>
    intro l hl
    rcases List.mem_cons.1 hl with rfl | hl
    · exact Nat.le_refl _
    · exact Nat.le_trans (Nat.le_add_right ..) (ih l hl)

/-- Every word ends before the next one starts. -/
theorem pairwise (h : Tiles start s lexemes) :
    lexemes.Pairwise fun l m => l.stop ≤ m.start := by
  induction h with
  | nil => exact .nil
  | blank _ _ ih => exact ih
  | word _ hs ih => exact .cons hs.le_start ih

/-- Every word has characters, which stand in its text where it says. -/
theorem exists_append (h : Tiles start s lexemes) (hl : l ∈ lexemes) :
    l.start < l.stop ∧ ∃ before word after, s = before ++ word ++ after ∧
      l.start = start + byteCount before ∧ l.stop = l.start + byteCount word := by
  induction h with
  | nil => cases hl
  | @blank start c s lexemes _ _ ih =>
    obtain ⟨hlt, before, word, after, rfl, hstart, hstop⟩ := ih hl
    refine ⟨hlt, c :: before, word, after, rfl, ?_, hstop⟩
    rw [hstart, byteCount_cons, Nat.add_assoc]
  | @word start word s t lexemes hreads _ ih =>
    rcases List.mem_cons.1 hl with rfl | hl
    · exact ⟨Nat.lt_add_of_pos_right (byteCount_pos_of_readsAs hreads), [], word, s, rfl, rfl, rfl⟩
    · obtain ⟨hlt, before, word', after, rfl, hstart, hstop⟩ := ih hl
      refine ⟨hlt, word ++ before, word', after, by simp, ?_, hstop⟩
      rw [hstart, byteCount_append, Nat.add_assoc]

/-- What belongs to no word is blank. -/
theorem isBlank_of_not_covers (h : Tiles start s lexemes) (hc : (place, c) ∈ places start s)
    (hnone : ∀ l ∈ lexemes, l.covers place = false) : Text.isBlank c := by
  induction h with
  | nil => cases hc
  | blank hblank _ ih =>
    rcases List.mem_cons.1 hc with hc | hc
    · obtain ⟨-, rfl⟩ := Prod.mk.inj hc
      exact hblank
    · exact ih hc hnone
  | @word start word s t lexemes _ _ ih =>
    rw [places_append, List.mem_append] at hc
    rcases hc with hc | hc
    · have hcovers : (⟨start, t, start + byteCount word⟩ : Lexeme).covers place := by
        simpa [Lexeme.covers] using mem_places hc
      rw [hnone _ List.mem_cons_self] at hcovers
      cases hcovers
    · exact ih hc fun l hl => hnone l (.tail _ hl)

/-- Every word is read from its characters. -/
theorem readsAs (h : Tiles start s lexemes) (hl : l ∈ lexemes) :
    ReadsAs (l.charsFrom start s) l.token := by
  induction h with
  | nil => cases hl
  | @blank start c s lexemes _ hs ih =>
    have hafter : start + byteCount [c] ≤ l.start := hs.le_start l hl
    rw [← List.singleton_append, charsFrom_append hafter]
    exact ih hl
  | word hreads hs ih =>
    rcases List.mem_cons.1 hl with rfl | hl
    · rwa [charsFrom_self]
    · rw [charsFrom_append (hs.le_start l hl)]
      exact ih hl

end Tiles

end Lexer

/-- The words of a text have bytes, which begin and end at boundaries of the text; they are in order
and do not overlap, and what they leave out is blank. A text of the same words with blanks between
them has the same tokens. -/
theorem lex_tiles (text : String) (lexemes : List Lexeme) (h : lex text = .ok lexemes) :
    (∀ l ∈ lexemes, l.start < l.stop ∧ l.stop ≤ text.utf8ByteSize ∧
      IsBoundary text l.start ∧ IsBoundary text l.stop) ∧
    lexemes.Pairwise (fun l m => l.stop ≤ m.start) ∧
    (∀ place c, (place, c) ∈ places 0 text.toList → (∀ l ∈ lexemes, l.covers place = false) →
      Text.isBlank c) ∧
    ∀ text' : String, Lexer.Spaced (lexemes.map (Lexeme.chars text)) text'.toList →
      ∃ lexemes', lex text' = .ok lexemes' ∧
        lexemes'.map Lexeme.token = lexemes.map Lexeme.token := by
  have htiles : Lexer.Tiles 0 text.toList lexemes := by
    rw [lex, ← String.length_toList] at h
    exact Lexer.tiles_of_lexFrom (Nat.le_refl _) h
  refine ⟨fun l hl => ?_, htiles.pairwise, fun place c => htiles.isBlank_of_not_covers, ?_⟩
  · obtain ⟨hlt, before, word, after, htext, hstart, hstop⟩ := htiles.exists_append hl
    have htext' : text = String.ofList before ++ String.ofList word ++ String.ofList after := by
      rw [← String.ofList_append, ← String.ofList_append, ← htext, String.ofList_toList]
    have hsize : text.utf8ByteSize = byteCount before + byteCount word + byteCount after := by
      simp [htext', utf8ByteSize_ofList]
    refine ⟨hlt, by omega, ⟨String.ofList before, String.ofList word ++ String.ofList after, ?_, ?_⟩,
      ⟨String.ofList before ++ String.ofList word, String.ofList after, htext', ?_⟩⟩
    · rw [htext', String.append_assoc]
    · rw [utf8ByteSize_ofList, hstart, Nat.zero_add]
    · rw [String.utf8ByteSize_append, utf8ByteSize_ofList, utf8ByteSize_ofList, hstop, hstart,
        Nat.zero_add]
  · intro text' hspaced
    refine lex_of_spaced ?_ hspaced
    rw [List.forall₂_map_left_iff, List.forall₂_map_right_iff]
    exact List.forall₂_same.2 fun l hl => htiles.readsAs hl

def powerLexemes : List Lexeme :=
  [⟨0, .name "é", 2⟩, ⟨2, .mark .power, 4⟩, ⟨4, .numeral ".5", 6⟩]

/-- The words of a power are the same when they are pulled apart. -/
theorem lex_tiles_powerLexemes :
    lex "é**.5" = .ok powerLexemes ∧
      ∃ lexemes, lex "\té **\n .5 " = .ok lexemes ∧
        lexemes.map Lexeme.token = [.name "é", .mark .power, .numeral ".5"] := by
  have hlex : lex "é**.5" = .ok powerLexemes := by rfl
  obtain ⟨-, -, -, hspaced⟩ := lex_tiles "é**.5" powerLexemes hlex
  refine ⟨hlex, hspaced "\té **\n .5 " ?_⟩
  have hchars : powerLexemes.map (Lexeme.chars "é**.5") = [['é'], ['*', '*'], ['.', '5']] := by rfl
  rw [hchars]
  exact .blank (by decide) (.word ['é'] (.blank (by decide) _) (.blank (by decide)
    (.word ['*', '*'] (.blank (by decide) _) (.blank (by decide) (.blank (by decide)
      (.word ['.', '5'] (.blank (by decide) _) (.blank (by decide) .nil)))))))

end Formulary
