import Formulary.Proofs.Parser.Operation

/-!
# The parser is exact

The parser accepts the words that the grammar derives with a nesting under the limit, and it yields
the expression of their derivation. As its result is one expression, and as no formula nests deeper
than it is long, the words of a formula have one expression only.

## Main definitions

* `Grammar.Derives` : tokens are a formula of an expression.

## Main statements

* `Parser.expression_reads` : expressions are read exactly;
* `Parser.wholeFormula_eq_ok` : what is accepted under a limit;
* `Parser.wholeFormula_exact` : what is accepted under a limit that is large enough, and that the
  grammar is not ambiguous;
* `Formula.parse_eq_ok` : which texts are accepted.
-/
namespace Formulary

/-- The grammar derives the tokens as a formula of an expression. -/
def Grammar.Derives (ts : List Token) (e : Expr) : Prop := Nonempty (Grammar.Expression ts e)

theorem Grammar.Expression.nesting_pos {ts : List Token} {e : Expr} (d : Expression ts e) :
    0 < d.nesting := by
  cases d <;> exact Nat.succ_pos _

namespace Parser

open Grammar

variable {frame : Frame} {expression : Phrase Expr} {depth : Nat}

/-- The parser has the operators of the grammar. -/
theorem levels_eq : levels = precedence := rfl

/-- Conditionals are read as the grammar derives them. -/
theorem conditional_reads (h : ReadsExpressions frame (depth + 1) expression) :
    Reads frame depth expressionMarks (Expression.Within (frame.maxDepth - depth))
      (conditional frame expression) where
  sound := by
    intro ahead e c hread
    obtain ⟨c₁, henter, hbody⟩ := bind_eq_ok.1 hread
    obtain ⟨hdepth, rfl⟩ := enter_eq_ok.1 henter
    obtain ⟨⟨condition, c₂⟩, hcondition, hthen⟩ := bind_eq_ok.1 hbody
    obtain ⟨words, cs, ahead', rfl, rfl, hwords, d, hd⟩ :=
      (operation_reads h precedence (by decide)).sound hcondition
    clear hread henter hbody hcondition
    dsimp only at hthen
    split at hthen
    · rename_i start stop rest
      obtain ⟨⟨yes, c₃⟩, hyes, hthen⟩ := bind_eq_ok.1 hthen
      obtain ⟨words₁, ys, rest₁, rfl, rfl, hwords₁, y, hy⟩ := (h _ (Nat.le_refl _)).sound hyes
      obtain ⟨c₄, hpass, hthen⟩ := bind_eq_ok.1 hthen
      obtain ⟨colon, rest₂, hcolon, rfl, rfl⟩ := pass_eq_ok.1 hpass
      obtain ⟨⟨no, c₅⟩, hno, hthen⟩ := bind_eq_ok.1 hthen
      cases hthen
      obtain ⟨words₂, ns, rest₃, rfl, rfl, hwords₂, n, hn⟩ := (h _ (Nat.le_refl _)).sound hno
      exact ⟨words ++ ⟨start, .mark .question, stop⟩ :: (words₁ ++ colon :: words₂), _, rest₃,
        by simp, rfl, by simp [hwords, hwords₁, hwords₂, hcolon], .conditional d y n,
        by simp only [Expression.nesting]; omega⟩
    · cases hthen
      exact ⟨words, cs, ahead', rfl, rfl, hwords, .operation d,
        by simp only [Expression.nesting]; omega⟩
  complete := by
    rintro ts e ⟨d, hd⟩ words hwords rest hstops hcount
    have hdepth : depth < frame.maxDepth := by
      have := d.nesting_pos
      omega
    cases d with
    | operation d =>
      simp only [Expression.nesting] at hd
      have hcondition := (operation_reads h precedence (by decide)).complete ⟨d, by omega⟩ hwords
        rest (hstops.mono (List.subset_cons_self _ _)) hcount
      simp only [conditional, levels_eq, enter_of_lt hdepth, bind, Except.bind, hcondition]
      split
      · exact absurd rfl (hstops .question List.mem_cons_self)
      · rfl
    | conditional d y n =>
      simp only [Expression.nesting] at hd
      obtain ⟨before, ⟨start, token, stop⟩, later, rfl, hbefore, hquestion, hlater⟩ :=
        exists_of_map_eq_append_cons hwords
      obtain ⟨middle, colon, after, rfl, hmiddle, hcolon, hafter⟩ :=
        exists_of_map_eq_append_cons hlater
      simp only [List.length_append, List.length_cons] at hcount
      have hcondition := (operation_reads h precedence (by decide)).complete ⟨d, by omega⟩ hbefore
        (_ :: (middle ++ colon :: (after ++ rest))) (stops_cons hquestion (by decide))
        (by simp only [List.length_cons, List.length_append]; omega)
      have hyes := (h _ (Nat.le_refl _)).complete ⟨y, by omega⟩ hmiddle (colon :: (after ++ rest))
        (stops_cons hcolon (by decide)) (by simp only [List.length_cons, List.length_append]; omega)
      have hno := (h _ (Nat.le_refl _)).complete ⟨n, by omega⟩ hafter rest hstops (by omega)
      obtain rfl : token = _ := hquestion
      rw [List.append_assoc, List.cons_append, List.append_assoc, List.cons_append]
      simp only [conditional, levels_eq, enter_of_lt hdepth, bind, Except.bind, hcondition, hyes,
        pass_of_eq frame hcolon, hno]
      rfl

/-- Expressions are read exactly when there is fuel for all depths under the limit. -/
theorem expression_reads {fuel : Nat} (hfuel : frame.maxDepth ≤ fuel + depth) :
    Reads frame depth expressionMarks (Expression.Within (frame.maxDepth - depth))
      (Parser.expression frame fuel) := by
  induction fuel generalizing depth with
  | zero =>
    refine ⟨nofun, ?_⟩
    rintro ts e ⟨d, hd⟩
    have := d.nesting_pos
    omega
  | succ fuel ih => exact conditional_reads fun depth' hdepth => ih (by omega)

variable {maxDepth endOffset : Nat} {words : List Lexeme} {e : Expr}

/-- Exactly the formulas that nest no deeper than the limit are accepted. -/
theorem wholeFormula_eq_ok :
    wholeFormula ⟨maxDepth, endOffset, words.length⟩ words = .ok e ↔
      Expression.Within maxDepth (words.map Lexeme.token) e := by
  have h : Reads ⟨maxDepth, endOffset, words.length⟩ 0 expressionMarks
      (Expression.Within maxDepth)
      (Parser.expression ⟨maxDepth, endOffset, words.length⟩ maxDepth) :=
    expression_reads (Nat.le_refl _)
  constructor
  · intro hread
    cases hempty : words.isEmpty with
    | true => simp [wholeFormula, hempty, bind, Except.bind] at hread
    | false =>
      simp only [wholeFormula, hempty, Bool.false_eq_true, if_false] at hread
      obtain ⟨⟨e', c⟩, he, hthen⟩ := bind_eq_ok.1 hread
      obtain ⟨before, ts, rest, hwords, rfl, rfl, hwithin⟩ := h.sound he
      cases rest with
      | nil =>
        cases hthen
        rwa [hwords, List.append_nil]
      | cons word rest => cases hthen
  · rintro ⟨d, hd⟩
    obtain ⟨t, us, hts, -⟩ := d.begins
    obtain ⟨word, later, rfl, -, -⟩ := List.map_eq_cons_iff.1 hts
    have he := h.complete ⟨d, hd⟩ rfl [] trivial (by simp)
    rw [List.append_nil] at he
    simp only [wholeFormula, he, bind, Except.bind]
    rfl

/-- Under a limit that is no less than the count of words, the parser accepts exactly what the
grammar derives. The grammar derives no tokens as formulas of two expressions. -/
theorem wholeFormula_exact :
    (∀ (words : List Lexeme) (maxDepth endOffset : Nat), words.length ≤ maxDepth → ∀ e : Expr,
      wholeFormula ⟨maxDepth, endOffset, words.length⟩ words = .ok e ↔
        Derives (words.map Lexeme.token) e) ∧
    ∀ (ts : List Token) (e e' : Expr), Derives ts e → Derives ts e' → e = e' := by
  have hexact (words : List Lexeme) (maxDepth endOffset : Nat) (hlimit : words.length ≤ maxDepth)
      (e : Expr) : wholeFormula ⟨maxDepth, endOffset, words.length⟩ words = .ok e ↔
        Derives (words.map Lexeme.token) e := by
    rw [wholeFormula_eq_ok]
    refine ⟨fun ⟨d, _⟩ => ⟨d⟩, fun ⟨d⟩ => ⟨d, Nat.le_trans d.nesting_le ?_⟩⟩
    rwa [List.length_map]
  refine ⟨hexact, fun ts e e' h h' => ?_⟩
  -- The two expressions are what the parser yields for words that spell the tokens.
  let words : List Lexeme := ts.map fun t => ⟨0, t, 0⟩
  have hwords : words.map Lexeme.token = ts := by simp [words, Function.comp_def]
  have hparse := (hexact words words.length 0 (Nat.le_refl _) e).2 (hwords ▸ h)
  have hparse' := (hexact words words.length 0 (Nat.le_refl _) e').2 (hwords ▸ h')
  exact Except.ok.inj (hparse.symm.trans hparse')

def powerWords : List Lexeme :=
  [⟨0, .name "base", 4⟩, ⟨5, .mark .power, 7⟩, ⟨8, .mark .minus, 9⟩, ⟨9, .name "rate", 13⟩]

/-- The exponent of a power may have a sign. -/
theorem wholeFormula_exact_powerWords :
    Derives (powerWords.map Lexeme.token)
        (.binary .pow (.var "base") (.unary .negative (.var "rate"))) ∧
      wholeFormula ⟨64, 13, powerWords.length⟩ powerWords =
        .ok (.binary .pow (.var "base") (.unary .negative (.var "rate"))) := by
  let base : Postfix [.name "base"] (.var "base") := .atom (.leaf (.name "base"))
  let rate : Postfix [.name "rate"] (.var "rate") := .atom (.leaf (.name "rate"))
  let power : Unary (powerWords.map Lexeme.token) _ :=
    .power (.power base (.sign .minus (.power (.operand rate))))
  have hderives : Derives (powerWords.map Lexeme.token) _ :=
    ⟨.operation (.tighter (.tighter (.tighter (.tighter (.tighter (.tighter (.tighter
      (.unary power))))))))⟩
  exact ⟨hderives, (wholeFormula_exact.1 powerWords 64 13 (by decide) _).2 hderives⟩

end Parser

/-- A text is accepted when it is short enough and its words are a formula that nests no deeper
than the limit. -/
theorem Formula.parse_eq_ok {limits : Limits} {text : String} {e : Expr} :
    Formula.parse limits text = .ok e ↔
      text.utf8ByteSize ≤ limits.maxLength ∧ ∃ words, lex text = .ok words ∧
        Grammar.Expression.Within limits.maxDepth (words.map Lexeme.token) e := by
  by_cases hlength : limits.maxLength < text.utf8ByteSize
  · simp [parse, hlength, Nat.not_le.2 hlength, bind, Except.bind]
  · simp only [parse, hlength, if_false, Nat.not_lt.1 hlength, true_and]
    rw [bind_eq_ok]
    simp only [Parser.wholeFormula_eq_ok]

end Formulary
