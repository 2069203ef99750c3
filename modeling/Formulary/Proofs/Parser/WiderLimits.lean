import Formulary.Formula.Parser

/-!
# Reading under wider limits

Limits only refuse. Two readings of the same words, the second one allowed to go deeper, take the
same steps until the first one is refused for its depth; a reading that is not refused is therefore
the same under the wider limits, whether it finds an expression or a fault in the words.

## Main definitions

* `FormulaError.isLimit` : the refusals that the size of a formula causes;
* `Upholds` : what a result is under wider limits;
* `Limits` are ordered: wider limits accept more.

## Main statements

* `Parser.expression_upholds` : an expression is upheld in a wider frame;
* `Formula.parse_upholds` : so is a whole text.
-/
namespace Formulary

/-- A formula is refused for its size, not for what it says. -/
def FormulaError.isLimit : FormulaError → Bool
  | .tooLong _ | .tooDeep _ => true
  | _ => false

/-- Wider limits accept longer texts and deeper expressions. -/
instance : LE Limits where
  le narrow wider := narrow.maxLength ≤ wider.maxLength ∧ narrow.maxDepth ≤ wider.maxDepth

variable {α β : Type}

/-- The second result is the first one, unless a limit refused that. -/
def Upholds (r r' : Except FormulaError α) : Prop :=
  (∀ e, r = .error e → e.isLimit = false) → r' = r

namespace Upholds

theorem refl (r : Except FormulaError α) : Upholds r r := fun _ => rfl

theorem of_isLimit {e : FormulaError} (h : e.isLimit) (r : Except FormulaError α) :
    Upholds (.error e) r := by
  intro hr
  cases h.symm.trans (hr e rfl)

/-- What goes on from results in upheld ways is upheld. -/
theorem bind {r r' : Except FormulaError α} {f f' : α → Except FormulaError β}
    (h : Upholds r r') (hf : ∀ a, Upholds (f a) (f' a)) : Upholds (r >>= f) (r' >>= f') := by
  intro hr
  cases r with
  | error e =>
    have heq : r' = .error e := h fun e' he => hr e' (congrArg (· >>= f) he)
    rw [heq]
    rfl
  | ok a =>
    have heq : r' = .ok a := h nofun
    rw [heq]
    exact hf a hr

end Upholds

namespace Parser

variable {frame wider : Frame}

/-- A frame for the same words with more depth. -/
structure Frame.Widens (frame wider : Frame) : Prop where
  maxDepth_le : frame.maxDepth ≤ wider.maxDepth
  endOffset_eq : wider.endOffset = frame.endOffset
  wordCount_eq : wider.wordCount = frame.wordCount

namespace Frame.Widens

/-- Wrong words are reported in the same way. -/
theorem unexpected_eq (h : frame.Widens wider) : unexpected wider = unexpected frame := by
  funext what c
  simp only [unexpected, h.endOffset_eq]

theorem pass_eq (h : frame.Widens wider) : pass wider = pass frame := by
  funext m c
  simp only [pass, h.unexpected_eq]

/-- Only a step down can be refused in one frame and taken in the other. -/
theorem enter_upholds (h : frame.Widens wider) (c : Cursor) :
    Upholds (enter frame c) (enter wider c) := by
  by_cases hdepth : c.depth < frame.maxDepth
  · have hwider : c.depth < wider.maxDepth := Nat.lt_of_lt_of_le hdepth h.maxDepth_le
    simp only [enter, if_pos hdepth, if_pos hwider]
    exact .refl _
  · rw [enter, if_neg hdepth]
    exact .of_isLimit rfl _

theorem phrasesUpTo_upholds (h : frame.Widens wider) {phrase phrase' : Phrase α}
    (hp : ∀ c, Upholds (phrase c) (phrase' c)) (close : Mark) (fuel : Nat) (c : Cursor) :
    Upholds (phrasesUpTo frame close phrase fuel c) (phrasesUpTo wider close phrase' fuel c) := by
  induction fuel generalizing c with
  | zero =>
    rw [phrasesUpTo, phrasesUpTo, h.unexpected_eq]
    exact .refl _
  | succ fuel ih =>
    rw [phrasesUpTo, phrasesUpTo, h.pass_eq]
    cases pass frame close c with
    | ok c => exact .refl _
    | error _ =>
      refine (hp c).bind fun ⟨first, c⟩ => ?_
      dsimp only
      split
      · exact (ih _).bind fun _ => .refl _
      · exact .refl _

theorem fold_upholds (h : frame.Widens wider) {tighter tighter' : Phrase Expr}
    (ht : ∀ c, Upholds (tighter c) (tighter' c)) (ops : List (Mark × BinaryOp))
    (fuel charged : Nat) (left : Expr) (c : Cursor) :
    Upholds (fold frame ops tighter fuel charged left c)
      (fold wider ops tighter' fuel charged left c) := by
  induction fuel generalizing charged left c with
  | zero => exact .refl _
  | succ fuel ih =>
    rw [fold, fold]
    split
    · exact .refl _
    · exact (h.enter_upholds _).bind fun c => (ht c).bind fun ⟨right, c⟩ => ih _ _ c

section

/- The phrase for the expressions inside is upheld. -/
variable (h : frame.Widens wider) {expression expression' : Phrase Expr}
  (he : ∀ c, Upholds (expression c) (expression' c))

include h he

theorem entry_upholds (c : Cursor) :
    Upholds (entry frame expression c) (entry wider expression' c) := by
  unfold entry
  rw [h.unexpected_eq]
  split
  · dsimp only
    split
    · exact .refl _
    · split
      · exact (he _).bind fun _ => .refl _
      · exact .refl _
  · exact .refl _

theorem atom_upholds (c : Cursor) :
    Upholds (atom frame expression c) (atom wider expression' c) := by
  unfold atom
  rw [h.unexpected_eq, h.pass_eq, h.wordCount_eq]
  obtain ⟨ahead, depth⟩ := c
  cases ahead with
  | nil => exact .refl _
  | cons word rest =>
    obtain ⟨start, token, stop⟩ := word
    cases token with
    | mark m =>
      -- Only what stands in brackets is read by the phrase for expressions.
      cases m with
      | openParen => exact (he _).bind fun _ => .refl _
      | openBracket =>
        refine (h.enter_upholds _).bind fun c => ?_
        exact (h.phrasesUpTo_upholds he _ _ c).bind fun _ => .refl _
      | openBrace =>
        refine (h.enter_upholds _).bind fun c => ?_
        exact (h.phrasesUpTo_upholds (h.entry_upholds he) _ _ c).bind fun _ => .refl _
      | _ => exact .refl _
    | _ => exact .refl _

theorem chain_upholds (fuel : Nat) (operand : Expr) (c : Cursor) :
    Upholds (chain frame expression fuel operand c) (chain wider expression' fuel operand c) := by
  induction fuel generalizing operand c with
  | zero => exact .refl _
  | succ fuel ih =>
    rw [chain, chain, h.unexpected_eq, h.pass_eq, h.wordCount_eq]
    split
    · refine (h.enter_upholds _).bind fun c => ?_
      split
      · exact ih _ _
      · exact .refl _
    · refine (h.enter_upholds _).bind fun c => (he c).bind fun ⟨position, c⟩ => ?_
      exact (Upholds.refl _).bind fun c => ih _ c
    · refine (h.enter_upholds _).bind fun c => ?_
      split
      · exact .refl _
      · split
        · exact .refl _
        · exact (h.phrasesUpTo_upholds he _ _ c).bind fun _ => ih _ _
    · exact .refl _

theorem operand_upholds (c : Cursor) :
    Upholds (operand frame expression c) (operand wider expression' c) := by
  rw [operand, operand, h.wordCount_eq]
  refine (h.atom_upholds he c).bind fun ⟨head, after⟩ => ?_
  exact (h.chain_upholds he _ head after).bind fun _ => .refl _

theorem unary_upholds (fuel : Nat) (c : Cursor) :
    Upholds (unary frame expression fuel c) (unary wider expression' fuel c) := by
  induction fuel generalizing c with
  | zero => exact h.operand_upholds he c
  | succ fuel ih =>
    rw [unary, unary]
    split
    · exact (h.enter_upholds _).bind fun c => (ih c).bind fun _ => .refl _
    · refine (h.operand_upholds he c).bind fun ⟨base, c⟩ => ?_
      dsimp only
      split
      · exact (h.enter_upholds _).bind fun c => (ih c).bind fun _ => .refl _
      · exact .refl _

theorem operation_upholds (levels : List (List (Mark × BinaryOp))) (c : Cursor) :
    Upholds (operation frame expression levels c) (operation wider expression' levels c) := by
  induction levels generalizing c with
  | nil =>
    rw [operation, operation, h.wordCount_eq]
    exact h.unary_upholds he _ c
  | cons ops tighter ih =>
    rw [operation, operation, level, level, h.wordCount_eq]
    exact (ih c).bind fun ⟨left, c⟩ => h.fold_upholds ih ops _ 0 left c

theorem conditional_upholds (c : Cursor) :
    Upholds (conditional frame expression c) (conditional wider expression' c) := by
  rw [conditional, conditional, h.pass_eq]
  refine (h.enter_upholds c).bind fun c => (h.operation_upholds he levels c).bind ?_
  rintro ⟨condition, c⟩
  dsimp only
  split
  · refine (he _).bind fun ⟨yes, c⟩ => (Upholds.refl _).bind fun c => ?_
    exact (he c).bind fun _ => .refl _
  · exact .refl _

end

/-- An expression is read in the same way where it may nest deeper. -/
theorem expression_upholds (h : frame.Widens wider) {fuel fuel' : Nat} (hfuel : fuel ≤ fuel')
    (c : Cursor) : Upholds (Parser.expression frame fuel c) (Parser.expression wider fuel' c) := by
  induction fuel generalizing fuel' c with
  | zero => exact .of_isLimit rfl _
  | succ fuel ih =>
    cases fuel' with
    | zero => exact absurd hfuel (Nat.not_succ_le_zero fuel)
    | succ fuel' => exact h.conditional_upholds (ih (Nat.le_of_succ_le_succ hfuel)) c

theorem wholeFormula_upholds (h : frame.Widens wider) (words : List Lexeme) :
    Upholds (wholeFormula frame words) (wholeFormula wider words) := by
  rw [wholeFormula, wholeFormula, h.unexpected_eq]
  split
  · exact .refl _
  · exact (h.expression_upholds h.maxDepth_le _).bind fun _ => .refl _

end Frame.Widens

end Parser

/-- A text that is not refused for its size has the same expression, or the same fault, under wider
limits. -/
theorem Formula.parse_upholds {narrow wider : Limits} (h : narrow ≤ wider) (text : String) :
    Upholds (parse narrow text) (parse wider text) := by
  by_cases hlength : narrow.maxLength < text.utf8ByteSize
  · rw [parse, if_pos hlength]
    exact .of_isLimit rfl _
  · have hwider : ¬ wider.maxLength < text.utf8ByteSize := fun hlt =>
      hlength (Nat.lt_of_le_of_lt h.1 hlt)
    rw [parse, parse, if_neg hlength, if_neg hwider]
    refine (Upholds.refl (lex text)).bind fun words => ?_
    have hframe : Parser.Frame.Widens ⟨narrow.maxDepth, text.utf8ByteSize, words.length⟩
        ⟨wider.maxDepth, text.utf8ByteSize, words.length⟩ := ⟨h.2, rfl, rfl⟩
    exact hframe.wholeFormula_upholds words

end Formulary
