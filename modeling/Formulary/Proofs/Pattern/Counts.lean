import Formulary.Proofs.Pattern.Progress

/-!
# Counts inside an enclosure

A counted repetition that is complete is read inside an enclosure as it is alone.

## Main statements

* `readDecimal_within` : reading a number;
* `readCounts_agrees` : reading a counted repetition.
-/
namespace Formulary.Pattern

open Cursor

variable {c : Cursor} {d : Char}

/-! ### Blanks and digits -/

theorem isBlank_paren : Text.isBlank ')' = false := by decide

theorem skipBlanksBy_of_end (step : Cursor → Cursor) (n : Nat) (h : c.ahead = []) :
    skipBlanksBy step n c = c := by
  cases n with
  | zero => rfl
  | succ n => simp [skipBlanksBy, next?_eq_none_iff.2 h]

theorem skipBlanksBy_within_of_end (step : Cursor → Cursor) (w : Enclosure) (m : Nat)
    (h : c.ahead = []) : skipBlanksBy step m (c.within w) = c.within w := by
  cases m with
  | zero => rfl
  | succ m => simp [skipBlanksBy, next?_within_of_end w h, isBlank_paren]

/-- What skips blanks by steps that agree agrees as well. -/
theorem skipBlanksBy_within {step : Cursor → Cursor}
    (hstep : ∀ {c : Cursor} {d : Char}, c.next? = some d →
      (∀ w, step (c.within w) = (step c).within w) ∨
        '#' ∈ c.ahead ∧ ∀ w, (step (c.within w)).ahead = [])
    (hsuffix : ∀ c, (step c).ahead <:+ c.ahead)
    (hless : ∀ {c : Cursor} {d : Char}, c.next? = some d →
      (step c).ahead.length < c.ahead.length)
    {n : Nat} {m : Enclosure → Nat} (c : Cursor)
    (hn : c.ahead.length ≤ n) (hm : ∀ w, c.ahead.length ≤ m w) :
    (∀ w, skipBlanksBy step (m w) (c.within w) = (skipBlanksBy step n c).within w) ∨
      '#' ∈ c.ahead ∧ ∀ w, (skipBlanksBy step (m w) (c.within w)).ahead = [] := by
  induction n generalizing m c with
  | zero =>
    have hend : c.ahead = [] := List.length_eq_zero_iff.1 (by omega)
    exact .inl fun w => by rw [skipBlanksBy_within_of_end _ w _ hend, skipBlanksBy]
  | succ n ih =>
    cases hd : c.next? with
    | none =>
      have hend := next?_eq_none_iff.1 hd
      refine .inl fun w => ?_
      rw [skipBlanksBy_within_of_end _ w _ hend, skipBlanksBy_of_end _ _ hend]
    | some d =>
      have hlt := hless hd
      obtain ⟨m, rfl, hle⟩ := Enclosure.exists_fuel fun w => Nat.lt_of_lt_of_le hlt (hm w)
      simp only [skipBlanksBy, hd, next?_within _ hd]
      split
      · obtain hskip | ⟨hmem, hhidden⟩ := hstep hd
        · simp only [hskip]
          exact (ih _ (by omega) hle).imp_right (And.imp_left fun h => (hsuffix c).subset h)
        · refine .inr ⟨hmem, fun w => ?_⟩
          rw [skipBlanksBy_of_end _ _ (hhidden w), hhidden w]
      · exact .inl fun w => rfl

theorem readDecimalDigits_of_end (n : Nat) (digits : List Char) (h : c.ahead = []) :
    readDecimalDigits n digits c = (digits.reverse, c) := by
  cases n with
  | zero => rfl
  | succ n => simp [readDecimalDigits, next?_eq_none_iff.2 h]

theorem readDecimalDigits_within_of_end (w : Enclosure) (m : Nat) (digits : List Char)
    (h : c.ahead = []) :
    readDecimalDigits m digits (c.within w) = (digits.reverse, c.within w) := by
  cases m with
  | zero => rfl
  | succ m => simp [readDecimalDigits, next?_within_of_end w h, show ')'.isDigit = false from rfl]

theorem readDecimalDigits_within {n : Nat} {m : Enclosure → Nat} (digits : List Char) (c : Cursor)
    (hn : c.ahead.length ≤ n) (hm : ∀ w, c.ahead.length ≤ m w) :
    (∀ w, readDecimalDigits (m w) digits (c.within w) =
        (readDecimalDigits n digits c).map id (within w)) ∨
      '#' ∈ c.ahead ∧ ∀ w, (readDecimalDigits (m w) digits (c.within w)).2.ahead = [] := by
  induction n generalizing m digits c with
  | zero =>
    have hend : c.ahead = [] := List.length_eq_zero_iff.1 (by omega)
    exact .inl fun w => by rw [readDecimalDigits_within_of_end w _ _ hend, readDecimalDigits]; rfl
  | succ n ih =>
    cases hd : c.next? with
    | none =>
      have hend := next?_eq_none_iff.1 hd
      refine .inl fun w => ?_
      rw [readDecimalDigits_within_of_end w _ _ hend, readDecimalDigits_of_end _ _ hend]
      rfl
    | some d =>
      have hlt := length_bumpSkip_lt hd
      obtain ⟨m, rfl, hle⟩ := Enclosure.exists_fuel fun w => Nat.lt_of_lt_of_le hlt (hm w)
      simp only [readDecimalDigits, hd, next?_within _ hd]
      split
      · obtain hskip | ⟨hmem, hhidden⟩ := bumpSkip_within hd
        · simp only [hskip]
          exact (ih _ _ (by omega) hle).imp_right
            (And.imp_left fun h => c.bumpSkip_suffix.subset h)
        · refine .inr ⟨hmem, fun w => ?_⟩
          rw [readDecimalDigits_of_end _ _ (hhidden w), hhidden w]
      · exact .inl fun w => rfl

/-! ### Numbers -/

theorem toOption_decimalOf (span span' : Span) (digits : List Char) :
    (decimalOf span digits).toOption = (decimalOf span' digits).toOption := by
  simp only [decimalOf, apply_ite Except.toOption]
  rfl

theorem readDecimal_within (c : Cursor) :
    (∀ w, (readDecimal (c.within w)).2 = (readDecimal c).2.within w ∧
        (readDecimal (c.within w)).1.toOption = (readDecimal c).1.toOption) ∨
      '#' ∈ c.ahead ∧ ∀ w, (readDecimal (c.within w)).2.ahead = [] := by
  have hm : ∀ (d : Cursor) (w : Enclosure), d.ahead.length ≤ (d.within w).ahead.length := by
    simp
  have hblanks := ahead_skipBlanksBy_suffix ahead_bump_suffix c.ahead.length c
  obtain hfirst | ⟨hmem, hhidden⟩ :=
    skipBlanksBy_within (fun hd => .inl fun w => bump_within w hd) ahead_bump_suffix
      length_bump_lt c (Nat.le_refl _) (hm c)
  · generalize hc : skipBlanksBy bump c.ahead.length c = e at hfirst hblanks
    have hdigits := ahead_readDecimalDigits_suffix e.ahead.length [] e
    obtain hsecond | ⟨hmem, hhidden⟩ := readDecimalDigits_within [] e (Nat.le_refl _) (hm e)
    · obtain hthird | ⟨hmem, hhidden⟩ :=
        skipBlanksBy_within bumpSkip_within bumpSkip_suffix length_bumpSkip_lt
          (readDecimalDigits e.ahead.length [] e).2 (Nat.le_refl _) (hm _)
      · refine .inl fun w => ?_
        simp only [readDecimal, hc, hfirst w, hsecond w]
        exact ⟨hthird w, toOption_decimalOf ..⟩
      · refine .inr ⟨hblanks.subset (hdigits.subset hmem), fun w => ?_⟩
        simp only [readDecimal, hfirst w, hsecond w]
        exact hhidden w
    · refine .inr ⟨hblanks.subset hmem, fun w => ?_⟩
      simp only [readDecimal, hfirst w]
      rw [skipBlanksBy_of_end _ _ (hhidden w), hhidden w]
  · refine .inr ⟨hmem, fun w => ?_⟩
    simp only [readDecimal, readDecimalDigits_of_end _ _ (hhidden w)]
    rw [skipBlanksBy_of_end _ _ (hhidden w), hhidden w]

/-- There is no number at the closing parenthesis. -/
theorem readDecimal_within_of_end (w : Enclosure) (h : c.ahead = []) :
    (readDecimal (c.within w)).1.toOption = none ∧ (readDecimal (c.within w)).2 = c.within w := by
  simp only [readDecimal, skipBlanksBy_within_of_end _ w _ h,
    readDecimalDigits_within_of_end w _ _ h]
  exact ⟨rfl, trivial⟩

/-! ### Counted repetitions -/

section

variable {least : Except Fault Nat} {least' : Enclosure → Except Fault Nat}

theorem readUpper_agrees (hleast : ∀ w, (least' w).toOption = least.toOption) (c : Cursor) :
    Agrees Enclosure.closing c (fun _ a => a) (readUpper least c) fun w =>
      readUpper (least' w) (c.within w) := by
  refine .value (fun w => by rw [hleast, Option.map_id']) fun least => ?_
  simp only [next?_within_eq_some_iff _ (by decide : '}' ≠ ')')]
  split
  · exact .same _ _ rfl fun w => rfl
  · obtain hsame | hhidden := readDecimal_within c
    · simp only [(hsame _).1]
      exact .value (fun w => by rw [(hsame w).2, Option.map_id']) fun most =>
        .same _ _ rfl fun w => rfl
    · refine .hidden hhidden fun w => ?_
      cases (readDecimal (c.within w)).1 with
      | error => exact .error
      | ok most => exact .pure List.suffix_rfl

theorem readMost_agrees (start : Nat) (start' : Enclosure → Nat)
    (hleast : ∀ w, (least' w).toOption = least.toOption) (c : Cursor) :
    Agrees Enclosure.closing c (fun _ a => a) (readMost start least c) fun w =>
      readMost (start' w) (least' w) (c.within w) := by
  by_cases hcomma : c.next? = some ','
  · simp only [readMost, hcomma, next?_within _ hcomma, if_true]
    obtain hskip | hhidden := bumpSkip_within hcomma
    · refine Agrees.of_suffix ?_ c.bumpSkip_suffix
      simp only [hskip, atEnd_within, Bool.false_eq_true, if_false]
      cases he : c.bumpSkip.next? with
      | none =>
        have hend := next?_eq_none_iff.1 he
        exact .atEnd_closing hend (fun w => rfl) (ite_atEnd_ne_ok hend) fun w =>
          leaves_readUpper ..
      | some e =>
        simp only [atEnd_of_next? he, Bool.false_eq_true, if_false]
        exact readUpper_agrees hleast _
    · simp only [atEnd_of_end (hhidden.2 _), if_true]
      exact .beyond (.inr hhidden.1) fun w => .error
  · have hcomma' := fun w => mt (next?_within_eq_some_iff w (by decide : ',' ≠ ')')).1 hcomma
    simp only [readMost, hcomma, hcomma', if_false]
    exact .value (fun w => by rw [hleast, Option.map_id']) fun least => .same _ _ rfl fun w => rfl

end

theorem closeCounts_agrees (start : Nat) (start' : Enclosure → Nat) (bounds : Nat × Option Nat)
    (c : Cursor) :
    Agrees Enclosure.rest c (fun _ a => a) (closeCounts start bounds c) fun w =>
      closeCounts (start' w) bounds (c.within w) := by
  by_cases hbrace : c.next? = some '}'
  · obtain hskip | hhidden := bumpSkip_within hbrace
    · refine Agrees.of_suffix ?_ c.bumpSkip_suffix
      simp only [closeCounts, hskip, hbrace, next?_within _ hbrace, bne_self_eq_false,
        Bool.false_eq_true, if_false, next?_within_beq _ (by decide : '?' ≠ ')')]
      split
      · exact .faultAt
      · refine .same _ _ rfl fun w => ?_
        rw [ite_bump_within]
    · exact .hidden hhidden fun w => leaves_closeCounts ..
  · have hne := bne_iff_ne.2 hbrace
    have hne' := fun w =>
      bne_iff_ne.2 (mt (next?_within_eq_some_iff w (by decide : '}' ≠ ')')).1 hbrace)
    simp only [closeCounts, hne, hne', if_true]
    exact .faultAt

/-- A counted repetition that is complete is read alike. -/
theorem readCounts_agrees (hd : c.next? = some d) :
    Agrees Enclosure.rest c (fun _ a => a) (readCounts c) fun w => readCounts (c.within w) := by
  obtain hskip | hhidden := bumpSkip_within hd
  · refine Agrees.of_suffix ?_ c.bumpSkip_suffix
    cases he : c.bumpSkip.next? with
    | none =>
      have hend := next?_eq_none_iff.1 he
      refine .atEnd hend hskip ?_ fun w => leaves_readCounts ..
      simp [readCounts, atEnd_of_end hend, faultUnclosed, faultAt]
    | some e =>
      simp only [readCounts, hskip, atEnd_of_next? he, atEnd_within, Bool.false_eq_true, if_false]
      have hplace := ahead_readDecimal_suffix c.bumpSkip
      obtain hsame | hhidden := readDecimal_within c.bumpSkip
      · refine Agrees.of_suffix ?_ hplace
        simp only [(hsame _).1, atEnd_within, Bool.false_eq_true, if_false]
        cases hafter : (readDecimal c.bumpSkip).2.next? with
        | none =>
          have hend := next?_eq_none_iff.1 hafter
          refine .atEnd hend (fun w => rfl) (ite_atEnd_ne_ok hend) fun w => ?_
          refine (leaves_readMost ..).bind fun bounds d hd => (leaves_closeCounts ..).mono ?_
          exact d.ahead_bumpSkip_suffix.trans (ahead_bump_suffix_bump hd)
        | some mark =>
          simp only [atEnd_of_next? hafter, Bool.false_eq_true, if_false]
          refine (readMost_agrees c.pos _ (fun w => (hsame w).2) _).bind (leaves_readMost ..)
            (fun bounds d _ => closeCounts_agrees ..) fun w bounds d hd => ?_
          exact (leaves_closeCounts ..).mono
            (d.ahead_bumpSkip_suffix.trans (ahead_bump_suffix_rest hd))
      · simp only [atEnd_of_end (hhidden.2 _), if_true]
        exact .beyond (.inr hhidden.1) fun w => .error
  · exact .hidden hhidden fun w => (leaves_readCounts ..).mono (ahead_bump_suffix _)

/-- A brace that is followed by the closing parenthesis begins no counted repetition. -/
theorem readCounts_within_of_end (w : Enclosure) (hend : c.bumpSkip.ahead = [])
    (hskip : (c.within w).bumpSkip = c.bumpSkip.within w) :
    ∀ r, readCounts (c.within w) ≠ .ok r := by
  obtain ⟨hnumber, hplace⟩ := readDecimal_within_of_end w hend
  have hcomma : (c.bumpSkip.within w).next? ≠ some ',' := by
    simp [next?_within_of_end w hend]
  simp only [readCounts, hskip, atEnd_within, Bool.false_eq_true, if_false, hplace, readMost,
    if_neg hcomma]
  cases hvalue : (readDecimal (c.bumpSkip.within w)).1 with
  | error => nofun
  | ok least =>
    rw [hvalue] at hnumber
    cases hnumber

end Formulary.Pattern
