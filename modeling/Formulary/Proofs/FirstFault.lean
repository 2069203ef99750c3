import Formulary.Proofs.Parser.ErrorPlaces
import Formulary.Proofs.Tiling

/-!
# Where a text goes wrong

The reader of a text passes its words from left to right and stops at the first text that is no
word, before a word of it is parsed. The fault is found at a character of that text. A fault that
is found later, when all words are there, is found in one of them or beyond them. So every fault of
a text has a place in it, which is counted in bytes and is a boundary between characters.

## Main definitions

* `SyntaxFault.IsFoundAt` : the characters that a fault is found at before there are words;
* `Lexer.Passes` : words of a text that are read one after the other;
* `FirstFault` : the first text after such words that is no word, and why;
* `FormulaError.isOfReading` : the errors of reading a formula.

## Main statements

* `Lexer.scan_eq_error` : a text that is no word has a fault at one of its characters;
* `lex_eq_error_iff` : reading words stops at the first fault;
* `parse_malformed` : the places of the faults that a formula is refused for.
-/
namespace Formulary

/-- The characters at which a fault is found by the reader of words. -/
def SyntaxFault.IsFoundAt (c : Char) : SyntaxFault → Prop
  | .malformedExponent => c.isDigit ∨ c = '.'
  | .unterminatedText => c = '"' ∨ c = '\'' ∨ c = '\\'
  | .unknownEscape d | .unexpectedCharacter d => c = d
  | .assignment => c = '='
  | .singleAmpersand => c = '&'
  | .singleBar => c = '|'
  | .empty | .expected .. | .notCallable | .numberOutOfRange _ | .invalidNumber _ => False

namespace Lexer

variable {s rest : List Char} {c quote : Char} {start place : Nat} {e : FormulaError}
  {lexemes : List Lexeme}

/-- The error of a text that starts at byte `start` is a fault at one of its characters. -/
def FoundIn (start : Nat) (s : List Char) (e : FormulaError) : Prop :=
  ∃ before c after fault, s = before ++ c :: after ∧ fault.IsFoundAt c ∧
    e = .malformed (start + byteCount before) fault

theorem FoundIn.head {fault : SyntaxFault} (h : fault.IsFoundAt c) :
    FoundIn start (c :: s) (.malformed start fault) :=
  ⟨[], c, s, fault, rfl, h, rfl⟩

theorem FoundIn.append (word : List Char) (h : FoundIn (start + byteCount word) s e) :
    FoundIn start (word ++ s) e := by
  obtain ⟨before, c, after, fault, rfl, hfault, rfl⟩ := h
  refine ⟨word ++ before, c, after, fault, (List.append_assoc ..).symm, hfault, ?_⟩
  rw [byteCount_append, Nat.add_assoc]

/-! ### Texts that are no words -/

theorem scanNumeral_eq_error (hbegins : beginsNumeral (c :: s))
    (h : scanNumeral start (c :: s) = .error e) : FoundIn start (c :: s) e := by
  have hc : c.isDigit ∨ c = '.' := by
    unfold beginsNumeral at hbegins
    grind
  simp only [scanNumeral] at h
  split at h
  · cases h
    exact .head hc
  · cases h

/-- The fault of a quoted text is that its quote is not closed, or it is found inside. -/
theorem scanQuoted_eq_error (h : scanQuoted quote start place s = .error e) :
    e = .malformed start .unterminatedText ∨ FoundIn place s e := by
  fun_induction scanQuoted quote start place s with
  | case1 place =>
    cases h
    exact .inl rfl
  | case2 => cases h
  | case3 place =>
    cases h
    exact .inr (.head (.inr (.inr rfl)))
  | case4 place escaped rest hescaped =>
    cases h
    have hfault : SyntaxFault.IsFoundAt escaped (.unknownEscape escaped) := rfl
    exact .inr (FoundIn.append ['\\'] (.head hfault))
  | case5 place escaped rest meant hescaped hquote ih =>
    cases hinside : scanQuoted quote start (place + 1 + escaped.utf8Size) rest with
    | ok parts => simp [hinside, bind, Except.bind, pure, Except.pure] at h
    | error e' =>
      obtain rfl : e' = e := by simpa [hinside, bind, Except.bind] using h
      refine (ih hinside).imp_right fun hfound => FoundIn.append ['\\', escaped] ?_
      rwa [Nat.add_assoc] at hfound
  | case6 place c rest hquote hescape ih =>
    cases hinside : scanQuoted quote start (place + c.utf8Size) rest with
    | ok parts => simp [hinside, bind, Except.bind, pure, Except.pure] at h
    | error e' =>
      obtain rfl : e' = e := by simpa [hinside, bind, Except.bind] using h
      exact (ih hinside).imp_right fun hfound => FoundIn.append [c] hfound

theorem isFoundAt_strayCharacter (c : Char) : (strayCharacter c).IsFoundAt c := by
  unfold strayCharacter
  split
  · assumption
  · split
    · assumption
    · split
      · assumption
      · rfl

/-- A text that is no word has a fault at one of its characters. -/
theorem scan_eq_error (h : scan start c s = .error e) : FoundIn start (c :: s) e := by
  unfold scan at h
  split at h
  · exact scanNumeral_eq_error ‹_› h
  split at h
  · rename_i hquote
    unfold scanText at h
    cases hinside : scanQuoted c start (start + c.utf8Size) s with
    | ok parts => simp [hinside, bind, Except.bind, pure, Except.pure] at h
    | error e' =>
      obtain rfl : e' = e := by simpa [hinside, bind, Except.bind] using h
      obtain rfl | hfound := scanQuoted_eq_error hinside
      · exact .head (hquote.imp_right .inl)
      · exact FoundIn.append [c] hfound
  · split at h
    · cases h
    · split at h
      · cases h
      · cases h
        exact .head (isFoundAt_strayCharacter c)

/-! ### The first of them -/

/-- The words of a text from byte `start` on are read one after the other, and reading comes to
`rest` at byte `place`. -/
inductive Passes : (start : Nat) → List Char → List Lexeme → (place : Nat) → List Char → Prop
  | done (start : Nat) (s : List Char) : Passes start s [] start s
  | blank {start place : Nat} {c : Char} {s rest : List Char} {lexemes : List Lexeme}
      (h : Text.isBlank c) (hs : Passes (start + c.utf8Size) s lexemes place rest) :
      Passes start (c :: s) lexemes place rest
  | word {start place : Nat} {c : Char} {s rest : List Char} {lexemes : List Lexeme}
      {scanned : Scanned} (hblank : Text.isBlank c = false) (h : scan start c s = .ok scanned)
      (hs : Passes (start + byteCount scanned.word) scanned.rest lexemes place rest) :
      Passes start (c :: s)
        (⟨start, scanned.token, start + byteCount scanned.word⟩ :: lexemes) place rest

/-- A word has characters. -/
theorem length_rest_le {scanned : Scanned} (hblank : Text.isBlank c = false)
    (h : scan start c s = .ok scanned) : scanned.rest.length ≤ s.length := by
  obtain ⟨hword, hreads⟩ := scan_eq_ok hblank h
  obtain ⟨d, w, hnonempty, -⟩ := hreads 0 [] .nil
  have hlength := congrArg List.length hword
  rw [hnonempty] at hlength
  simp only [List.length_append, List.length_cons] at hlength
  omega

/-- What has been passed stands in front of the rest. -/
theorem Passes.exists_append (h : Passes start s lexemes place rest) :
    ∃ before, s = before ++ rest ∧ place = start + byteCount before := by
  induction h with
  | done start s => exact ⟨[], rfl, rfl⟩
  | @blank start _ c _ _ _ _ _ ih =>
    obtain ⟨before, rfl, rfl⟩ := ih
    exact ⟨c :: before, rfl, by rw [byteCount_cons, Nat.add_assoc]⟩
  | @word _ _ _ _ _ _ scanned hblank hscan _ ih =>
    obtain ⟨before, hrest, rfl⟩ := ih
    refine ⟨scanned.word ++ before, ?_, by rw [byteCount_append, Nat.add_assoc]⟩
    rw [← (scan_eq_ok hblank hscan).1, hrest, List.append_assoc]

/-- Reading words stops at a text that is no word. -/
theorem Passes.lexFrom_eq_error (h : Passes start s lexemes place (c :: rest))
    (hblank : Text.isBlank c = false) (hscan : scan place c rest = .error e) {fuel : Nat}
    (hfuel : s.length ≤ fuel) : lexFrom fuel start s = .error e := by
  generalize hahead : c :: rest = ahead at h
  induction h generalizing fuel with
  | done start s =>
    subst hahead
    obtain ⟨fuel, rfl⟩ : ∃ n, fuel = n + 1 := ⟨fuel - 1, by grind⟩
    simp [lexFrom, hblank, hscan, bind, Except.bind]
  | @blank start _ d s _ _ hd _ ih =>
    obtain ⟨fuel, rfl⟩ : ∃ n, fuel = n + 1 := ⟨fuel - 1, by grind⟩
    rw [lexFrom, if_pos hd]
    exact ih hscan (Nat.le_of_succ_le_succ hfuel) hahead
  | @word start _ d s _ _ scanned hd hword _ ih =>
    obtain ⟨fuel, rfl⟩ : ∃ n, fuel = n + 1 := ⟨fuel - 1, by grind⟩
    have hrest : scanned.rest.length ≤ fuel :=
      Nat.le_trans (length_rest_le hd hword) (Nat.le_of_succ_le_succ hfuel)
    simp [lexFrom, hd, hword, ih hscan hrest hahead, bind, Except.bind]

/-- Reading words that fails passes some of them and then stops at a text that is no word. -/
theorem exists_passes {fuel : Nat} (h : lexFrom fuel start s = .error e) :
    ∃ lexemes place c rest, Passes start s lexemes place (c :: rest) ∧ Text.isBlank c = false ∧
      scan place c rest = .error e := by
  fun_induction lexFrom fuel start s with
  | case1 | case2 => cases h
  | case3 fuel start c s hblank ih =>
    obtain ⟨lexemes, place, d, rest, hpasses, hscan⟩ := ih h
    exact ⟨lexemes, place, d, rest, .blank hblank hpasses, hscan⟩
  | case4 fuel start c s hblank ih =>
    have hblank : Text.isBlank c = false := Bool.eq_false_iff.2 hblank
    cases hword : scan start c s with
    | error e' =>
      obtain rfl : e' = e := by simpa [hword, bind, Except.bind] using h
      exact ⟨[], start, c, s, .done start _, hblank, hword⟩
    | ok scanned =>
      cases hlater : lexFrom fuel (start + byteCount scanned.word) scanned.rest with
      | ok lexemes => simp [hword, hlater, bind, Except.bind, pure, Except.pure] at h
      | error e' =>
        obtain rfl : e' = e := by simpa [hword, hlater, bind, Except.bind] using h
        obtain ⟨lexemes, place, d, rest, hpasses, hscan⟩ := ih scanned hlater
        exact ⟨_, place, d, rest, .word hblank hword hpasses, hscan⟩

end Lexer

/-- The first text after some words of a text that is no word, and what is wrong with it. -/
def FirstFault (text : String) (e : FormulaError) : Prop :=
  ∃ lexemes place c rest, Lexer.Passes 0 text.toList lexemes place (c :: rest) ∧
    Text.isBlank c = false ∧ Lexer.scan place c rest = .error e

/-- Reading words stops at the first fault, and only there. -/
theorem lex_eq_error_iff {text : String} {e : FormulaError} :
    lex text = .error e ↔ FirstFault text e := by
  unfold lex
  constructor
  · exact Lexer.exists_passes
  · rintro ⟨lexemes, place, c, rest, hpasses, hblank, hscan⟩
    exact hpasses.lexFrom_eq_error hblank hscan (Nat.le_of_eq String.length_toList)

theorem FirstFault.foundIn {text : String} {e : FormulaError} (h : FirstFault text e) :
    Lexer.FoundIn 0 text.toList e := by
  obtain ⟨lexemes, place, c, rest, hpasses, -, hscan⟩ := h
  obtain ⟨before, htext, rfl⟩ := hpasses.exists_append
  rw [htext]
  exact (Lexer.scan_eq_error hscan).append before

/-! ### Places of faults -/

section

variable {text : String} {place : Nat} {before after : List Char}

theorem isBoundary_of_append (h : text.toList = before ++ after) :
    IsBoundary text (byteCount before) := by
  refine ⟨String.ofList before, String.ofList after, ?_, utf8ByteSize_ofList before⟩
  rw [← String.ofList_append, ← h, String.ofList_toList]

theorem IsBoundary.le (h : IsBoundary text place) : place ≤ text.utf8ByteSize := by
  obtain ⟨before, after, rfl, rfl⟩ := h
  rw [String.utf8ByteSize_append]
  exact Nat.le_add_right _ _

/-- The end of a text is a boundary of it. -/
theorem isBoundary_utf8ByteSize (text : String) : IsBoundary text text.utf8ByteSize :=
  ⟨text, "", (String.append_empty).symm, rfl⟩

theorem isBoundary_zero (text : String) : IsBoundary text 0 :=
  isBoundary_of_append (List.nil_append _).symm

/-- The words of a text start at boundaries. -/
theorem isBoundary_start {words : List Lexeme} (h : lex text = .ok words) {word : Lexeme}
    (hword : word ∈ words) : IsBoundary text word.start := by
  have htiles : Lexer.Tiles 0 text.toList words :=
    Lexer.tiles_of_lexFrom (Nat.le_of_eq String.length_toList) h
  obtain ⟨-, before, inside, after, htext, hstart, -⟩ := htiles.exists_append hword
  rw [hstart, Nat.zero_add]
  rw [List.append_assoc] at htext
  exact isBoundary_of_append htext

theorem FirstFault.exists_isBoundary {e : FormulaError} (h : FirstFault text e) :
    ∃ place fault, e = .malformed place fault ∧ IsBoundary text place := by
  obtain ⟨before, c, after, fault, htext, -, rfl⟩ := h.foundIn
  exact ⟨_, fault, rfl, by rw [Nat.zero_add]; exact isBoundary_of_append htext⟩

end

variable (limits : Limits) (text : String)

theorem Formula.parse_of_le (h : text.utf8ByteSize ≤ limits.maxLength) :
    parse limits text = lex text >>= fun words =>
      Parser.wholeFormula ⟨limits.maxDepth, text.utf8ByteSize, words.length⟩ words := by
  rw [parse, if_neg (Nat.not_lt.2 h)]

variable {limits text} in
/-- A text with a fault in it is not refused for its length. -/
theorem Formula.length_le_of_malformed {place : Nat} {fault : SyntaxFault}
    (h : parse limits text = .error (.malformed place fault)) :
    text.utf8ByteSize ≤ limits.maxLength := by
  by_contra hlong
  rw [parse, if_pos (Nat.not_le.1 hlong)] at h
  cases h

variable {text} in
/-- The faults that are found when all words of a text are there. -/
theorem place_of_wholeFormula {words : List Lexeme} {depth count place : Nat} {fault : SyntaxFault}
    (hlex : lex text = .ok words)
    (h : Parser.wholeFormula ⟨depth, text.utf8ByteSize, count⟩ words =
      .error (.malformed place fault)) :
    IsBoundary text place ∧
      ((∃ word ∈ words, word.start = place ∧ fault.IsAbout word.token) ∨
      (place = text.utf8ByteSize ∧ ∃ what, fault = .expected what none) ∨
      (place = 0 ∧ words = [] ∧ fault = .empty)) := by
  obtain ⟨hempty, heq⟩ | hpoints := Parser.wholeFormula_eq_error h
  · cases heq
    exact ⟨isBoundary_zero text, .inr (.inr ⟨rfl, hempty, rfl⟩)⟩
  · cases hpoints with
    | word hword hfault _ => exact ⟨isBoundary_start hlex hword, .inl ⟨_, hword, rfl, hfault⟩⟩
    | ending what => exact ⟨isBoundary_utf8ByteSize text, .inr (.inl ⟨rfl, what, rfl⟩)⟩

/-- The errors of reading a formula. -/
def FormulaError.isOfReading : FormulaError → Bool
  | .malformed .. | .tooLong _ | .tooDeep _ | .unknownFunction _ => true
  | .undefinedVariable _ | .arity .. | .type _ | .nonFinite _ | .unorderedBounds => false

variable {limits text} in
theorem Formula.isOfReading_of_parse_eq_error {e : FormulaError}
    (h : parse limits text = .error e) : e.isOfReading := by
  by_cases hlength : text.utf8ByteSize ≤ limits.maxLength
  · rw [parse_of_le limits text hlength] at h
    cases hlex : lex text with
    | error e' =>
      obtain ⟨place, fault, rfl, -⟩ := (lex_eq_error_iff.1 hlex).exists_isBoundary
      rw [hlex] at h
      cases h
      rfl
    | ok words =>
      rw [hlex] at h
      obtain ⟨-, rfl⟩ | hpoints := Parser.wholeFormula_eq_error h
      · rfl
      · cases hpoints <;> rfl
  · rw [parse, if_pos (Nat.not_le.1 hlength)] at h
    cases h
    rfl

/-- The place of a fault is a boundary of the text. When the text has words, the fault is found in
one of them, or at the end when it comes too early, or at the beginning when there are no words at
all. When it has not, the fault is the first one in reading words, which is found at a character of
the text. -/
theorem parse_malformed :
    (∀ place fault, Formula.parse limits text = .error (.malformed place fault) →
      place ≤ text.utf8ByteSize ∧ IsBoundary text place ∧
      ∀ words, lex text = .ok words →
        (∃ word ∈ words, word.start = place ∧ fault.IsAbout word.token) ∨
        (place = text.utf8ByteSize ∧ ∃ what, fault = .expected what none) ∨
        (place = 0 ∧ words = [] ∧ fault = .empty)) ∧
    (text.utf8ByteSize ≤ limits.maxLength → ∀ e, lex text = .error e →
      Formula.parse limits text = .error e ∧ FirstFault text e ∧
        Lexer.FoundIn 0 text.toList e) := by
  constructor
  · intro place fault h
    rw [Formula.parse_of_le limits text (Formula.length_le_of_malformed h)] at h
    cases hlex : lex text with
    | error e =>
      obtain rfl : e = .malformed place fault := by simpa [hlex, bind, Except.bind] using h
      obtain ⟨place', fault', heq, hboundary⟩ := (lex_eq_error_iff.1 hlex).exists_isBoundary
      cases heq
      exact ⟨hboundary.le, hboundary, nofun⟩
    | ok words =>
      rw [hlex] at h
      obtain ⟨hboundary, hplace⟩ := place_of_wholeFormula hlex h
      refine ⟨hboundary.le, hboundary, fun words' hwords => ?_⟩
      cases hwords
      exact hplace
  · intro hlength e he
    have hfirst : FirstFault text e := lex_eq_error_iff.1 he
    refine ⟨?_, hfirst, hfirst.foundIn⟩
    rw [Formula.parse_of_le limits text hlength, he]
    rfl

/-- A bracket too many comes after a letter of two bytes. -/
example : Formula.parse {} "é)" =
    .error (.malformed 2 (.expected .endOfFormula (some (.mark .closeParen)))) := by rfl

/-- The fault in the last text is found first, as the words before it are not parsed yet. -/
example : Formula.parse {} ") é '" = .error (.malformed 5 .unterminatedText) := by rfl

end Formulary
