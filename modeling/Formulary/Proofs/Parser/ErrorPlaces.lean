import Mathlib
import Formulary.Proofs.Parser.Operation

/-!
# Where a reader stops

A reader that finds a fault points to the word that it stands at, or beyond the words when it has
read all of them. However many words it has passed, what is ahead of it is the end of the words
that it has been given.

## Main definitions

* `SyntaxFault.IsAbout` : the faults that are found in a token;
* `SyntaxFault.FitsNumeral` : what a fault says of the number of a numeral;
* `Parser.PointsInto` : an error of a reader points to one of some words, or beyond them;
* `Parser.StaysWithin` : a phrase that stops before the last of the words, wherever it starts.

## Main statements

* `Parser.expression_staysWithin` : where the reader of an expression stops;
* `Parser.wholeFormula_settles` : the errors of the reader of a whole formula.
-/
namespace Formulary

/-- The faults that are found in a token when it comes in the wrong place, or has no meaning. -/
def SyntaxFault.IsAbout (t : Token) : SyntaxFault → Prop
  | .expected _ found => found = some t
  | .notCallable => t = .mark .openParen
  | .numberOutOfRange numeral | .invalidNumber numeral => t = .numeral numeral
  | .empty | .malformedExponent | .unterminatedText | .unknownEscape _ | .assignment
  | .singleAmpersand | .singleBar | .unexpectedCharacter _ => False

/-- A numeral that is found invalid is no number, and one that is out of range is no finite one. -/
def SyntaxFault.FitsNumeral : SyntaxFault → Prop
  | .numberOutOfRange numeral => ∃ x, Number.readNumber? numeral = some x ∧ ¬ x.isFinite
  | .invalidNumber numeral => Number.readNumber? numeral = none
  | _ => True

namespace Parser

variable {α β : Type}

/-- An error of a reader of some words points to one of them, or beyond them. -/
inductive PointsInto (frame : Frame) (words : List Lexeme) : FormulaError → Prop
  | word {word : Lexeme} {fault : SyntaxFault} (hword : word ∈ words)
      (hfault : fault.IsAbout word.token) (hnumeral : fault.FitsNumeral) :
      PointsInto frame words (.malformed word.start fault)
  | ending (what : Expectation) :
      PointsInto frame words (.malformed frame.endOffset (.expected what none))
  | tooDeep (limit : Nat) : PointsInto frame words (.tooDeep limit)
  | unknownFunction (name : String) : PointsInto frame words (.unknownFunction name)

variable (frame : Frame) (words : List Lexeme)

/-- A step that takes a cursor before the end of the words to another such cursor. -/
abbrev StepsWithin (step : Cursor → Except FormulaError Cursor) : Prop :=
  ∀ c : Cursor, c.ahead <:+ words →
    Settles (PointsInto frame words) (fun c' => c'.ahead <:+ words) (step c)

/-- A phrase that is read from the words ahead of a cursor, and leaves the last ones of them. -/
abbrev StaysWithin (phrase : Phrase α) : Prop :=
  ∀ c : Cursor, c.ahead <:+ words →
    Settles (PointsInto frame words) (fun p => p.2.ahead <:+ words) (phrase c)

variable {frame words} {c : Cursor} {word : Lexeme} {rest : List Lexeme}

theorem suffix_of_cons (h : word :: rest <:+ words) : rest <:+ words :=
  (List.suffix_cons word rest).trans h

theorem mem_of_cons (h : word :: rest <:+ words) : word ∈ words := h.subset List.mem_cons_self

/-! ### Steps -/

/-- A word that is not waited for is the next one. -/
theorem unexpected_pointsInto (what : Expectation) (h : c.ahead <:+ words) :
    PointsInto frame words (unexpected frame what c) := by
  unfold unexpected
  split
  · exact .ending what
  · rename_i hahead
    exact .word (mem_of_cons (hahead ▸ h)) rfl trivial

theorem pass_stepsWithin (m : Mark) : StepsWithin frame words (pass frame m) := by
  intro c h
  unfold pass
  split
  · rename_i hahead
    split
    · exact suffix_of_cons (hahead ▸ h)
    · exact unexpected_pointsInto _ h
  · exact unexpected_pointsInto _ h

theorem enter_stepsWithin : StepsWithin frame words (enter frame) := by
  intro c h
  unfold enter
  split
  · exact h
  · exact .tooDeep _

theorem phrasesUpTo_staysWithin {phrase : Phrase α} (hp : StaysWithin frame words phrase)
    (close : Mark) (fuel : Nat) :
    StaysWithin frame words (phrasesUpTo frame close phrase fuel) := by
  induction fuel with
  | zero => exact fun c h => unexpected_pointsInto _ h
  | succ fuel ih =>
    intro c h
    have hclose : Settles (PointsInto frame words) _ (pass frame close c) :=
      pass_stepsWithin close c h
    rw [phrasesUpTo]
    split
    · rename_i hpass
      rwa [hpass] at hclose
    · refine (hp c h).bind fun p h' => ?_
      dsimp only
      split
      · rename_i hahead
        refine (ih _ (suffix_of_cons (hahead ▸ h'))).bind fun _ h'' => h''
      · exact (pass_stepsWithin close _ h').bind fun _ h'' => h''

theorem fold_staysWithin {tighter : Phrase Expr} (ht : StaysWithin frame words tighter)
    (ops : List (Mark × BinaryOp)) (fuel charged : Nat) (left : Expr) :
    StaysWithin frame words (fold frame ops tighter fuel charged left) := by
  induction fuel generalizing charged left with
  | zero => exact fun c h => h
  | succ fuel ih =>
    intro c h
    rw [fold]
    split
    · exact h
    · rename_i op rest hop
      obtain ⟨word, _, -, -, hahead⟩ := exists_operator hop
      have hrest : rest <:+ words := suffix_of_cons (hahead ▸ h)
      refine (enter_stepsWithin _ hrest).bind fun c' h' => ?_
      exact (ht c' h').bind fun p h'' => ih _ _ p.2 h''

/-! ### Phrases around expressions -/

section

/- The phrase for the expressions inside stays within the words. -/
variable {expression : Phrase Expr} (he : StaysWithin frame words expression)

include he

theorem entry_staysWithin : StaysWithin frame words (entry frame expression) := by
  intro c h
  unfold entry
  split
  · rename_i token _ rest hahead
    have hrest : rest <:+ words := suffix_of_cons (hahead ▸ h)
    dsimp only
    split
    · exact unexpected_pointsInto _ h
    · split
      · exact (he _ (suffix_of_cons hrest)).bind fun _ h' => h'
      · split
        · exact hrest
        · exact unexpected_pointsInto _ hrest
  · exact unexpected_pointsInto _ h

theorem atom_staysWithin : StaysWithin frame words (atom frame expression) := by
  intro c h
  obtain ⟨ahead, depth⟩ := c
  cases ahead with
  | nil => exact unexpected_pointsInto _ h
  | cons word rest =>
    obtain ⟨start, token, stop⟩ := word
    have hrest : rest <:+ words := suffix_of_cons h
    cases token with
    | numeral text =>
      unfold atom
      dsimp only
      split
      · rename_i x hread
        split
        · exact hrest
        · rename_i hinfinite
          exact .word (mem_of_cons h) rfl ⟨x, hread, hinfinite⟩
      · rename_i hread
        exact .word (mem_of_cons h) rfl hread
    | mark m =>
      cases m with
      | openParen =>
        refine (he _ hrest).bind fun p h' => ?_
        exact (pass_stepsWithin _ _ h').bind fun _ h'' => h''
      | openBracket =>
        refine (enter_stepsWithin _ hrest).bind fun c h' => ?_
        exact (phrasesUpTo_staysWithin he _ _ c h').bind fun _ h'' => h''
      | openBrace =>
        refine (enter_stepsWithin _ hrest).bind fun c h' => ?_
        exact (phrasesUpTo_staysWithin (entry_staysWithin he) _ _ c h').bind fun _ h'' => h''
      | _ => exact unexpected_pointsInto _ h
    | _ => exact hrest

theorem chain_staysWithin (fuel : Nat) (operand : Expr) :
    StaysWithin frame words (chain frame expression fuel operand) := by
  induction fuel generalizing operand with
  | zero => exact fun c h => h
  | succ fuel ih =>
    intro c h
    rw [chain]
    split
    · rename_i rest hahead
      have hrest : rest <:+ words := suffix_of_cons (hahead ▸ h)
      refine (enter_stepsWithin _ hrest).bind fun c' h' => ?_
      split
      · exact ih _ _ (suffix_of_cons hrest)
      · exact unexpected_pointsInto _ h'
    · rename_i hahead
      refine (enter_stepsWithin _ (suffix_of_cons (hahead ▸ h))).bind fun c' h' => ?_
      refine (he c' h').bind fun p h'' => ?_
      exact (pass_stepsWithin _ _ h'').bind fun c'' h''' => ih _ _ h'''
    · rename_i start _ rest hahead
      refine (enter_stepsWithin _ (suffix_of_cons (hahead ▸ h))).bind fun c' h' => ?_
      split
      · have hword := mem_of_cons (hahead ▸ h)
        exact .word hword rfl trivial
      · split
        · exact .unknownFunction _
        · exact (phrasesUpTo_staysWithin he _ _ c' h').bind fun _ h'' => ih _ _ h''
    · exact h

theorem operand_staysWithin : StaysWithin frame words (operand frame expression) := by
  intro c h
  refine (atom_staysWithin he c h).bind fun p h' => ?_
  exact (chain_staysWithin he _ p.1 p.2 h').bind fun _ h'' => h''

theorem unary_staysWithin (fuel : Nat) :
    StaysWithin frame words (unary frame expression fuel) := by
  induction fuel with
  | zero => exact operand_staysWithin he
  | succ fuel ih =>
    intro c h
    rw [unary]
    split
    · rename_i op rest hop
      obtain ⟨word, _, -, -, hahead⟩ := exists_sign hop
      refine (enter_stepsWithin _ (suffix_of_cons (hahead ▸ h))).bind fun c' h' => ?_
      exact (ih c' h').bind fun _ h'' => h''
    · refine (operand_staysWithin he c h).bind fun p h' => ?_
      dsimp only
      split
      · rename_i hahead
        refine (enter_stepsWithin _ (suffix_of_cons (hahead ▸ h'))).bind fun c'' h'' => ?_
        exact (ih c'' h'').bind fun _ h''' => h'''
      · exact h'

theorem operation_staysWithin (levels : List (List (Mark × BinaryOp))) :
    StaysWithin frame words (operation frame expression levels) := by
  induction levels with
  | nil => exact unary_staysWithin he _
  | cons ops tighter ih =>
    intro c h
    exact (ih c h).bind fun p h' => fold_staysWithin ih ops _ 0 p.1 p.2 h'

theorem conditional_staysWithin : StaysWithin frame words (conditional frame expression) := by
  intro c h
  refine (enter_stepsWithin c h).bind fun c₁ h₁ => ?_
  refine (operation_staysWithin he levels c₁ h₁).bind fun p₂ h₂ => ?_
  dsimp only
  split
  · rename_i hahead
    refine (he _ (suffix_of_cons (hahead ▸ h₂))).bind fun p₃ h₃ => ?_
    refine (pass_stepsWithin _ _ h₃).bind fun c₄ h₄ => ?_
    exact (he c₄ h₄).bind fun _ h₅ => h₅
  · exact h₂

end

/-- The reader of an expression stops at one of the words, or when it has read all of them. -/
theorem expression_staysWithin (fuel : Nat) :
    StaysWithin frame words (expression frame fuel) := by
  induction fuel with
  | zero => exact fun c h => .tooDeep _
  | succ fuel ih => exact conditional_staysWithin ih

/-- The fault of a formula without words is that it is empty; every other one is found in a word or
beyond the words. -/
theorem wholeFormula_eq_error {e : FormulaError} (h : wholeFormula frame words = .error e) :
    (words = [] ∧ e = .malformed 0 .empty) ∨ PointsInto frame words e := by
  cases words with
  | nil => exact .inl ⟨rfl, (Except.error.inj h).symm⟩
  | cons word rest =>
    have hread : Settles (PointsInto frame (word :: rest)) _
        (expression frame frame.maxDepth ⟨word :: rest, 0⟩) :=
      expression_staysWithin _ _ List.suffix_rfl
    have hsettles : Settles (PointsInto frame (word :: rest)) (fun _ => True)
        (wholeFormula frame (word :: rest)) := by
      refine hread.bind fun p hc => ?_
      dsimp only
      split
      · trivial
      · exact unexpected_pointsInto _ hc
    rw [h] at hsettles
    exact .inr hsettles

end Parser

end Formulary
