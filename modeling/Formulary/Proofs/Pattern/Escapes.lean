import Formulary.Proofs.Pattern.Progress

/-!
# Escapes inside an enclosure

An escape that is complete is read inside an enclosure as it is alone.

## Main statements

* `readEscape_agrees` : reading an escape.
-/
namespace Formulary.Pattern

open Cursor

variable {c : Cursor} {d : Char}

/-! ### Hexadecimal escapes -/

theorem readHexDigits_agrees (start : Nat) (start' : Enclosure → Nat) (count value : Nat)
    (c : Cursor) :
    Agrees Enclosure.rest c (fun _ a => a) (readHexDigits start count value c) fun w =>
      readHexDigits (start' w) count value (c.within w) := by
  induction count generalizing value c with
  | zero =>
    simp only [readHexDigits]
    split
    · exact .same _ _ rfl fun w => rfl
    · exact .faultAt
  | succ count ih =>
    cases hd : c.next? with
    | none =>
      refine .atEnd (next?_eq_none_iff.1 hd) (fun w => rfl) ?_ fun w =>
        leaves_readHexDigits_of_pos (Nat.succ_pos count) _
      simp [readHexDigits, hd, faultAt]
    | some d =>
      simp only [readHexDigits, hd, next?_within _ hd]
      split
      · exact .faultAt
      · obtain hskip | hhidden := bumpSkip_within hd
        · simp only [hskip]
          exact (ih ..).of_suffix c.bumpSkip_suffix
        · exact .hidden hhidden fun w => leaves_readHexDigits ..

theorem readHexBraced_agrees (brace : Nat) (brace' : Enclosure → Nat) {n : Nat}
    {m : Enclosure → Nat} (digits : List Nat) (c : Cursor) (hn : c.ahead.length < n)
    (hm : ∀ w, c.ahead.length < m w) :
    Agrees Enclosure.rest c (fun _ a => a) (readHexBraced brace n digits c) fun w =>
      readHexBraced (brace' w) (m w) digits (c.within w) := by
  induction n generalizing m digits c with
  | zero => omega
  | succ n ih =>
    obtain ⟨m, rfl, hle⟩ := Enclosure.exists_fuel hm
    cases hd : c.next? with
    | none =>
      refine .atEnd (next?_eq_none_iff.1 hd) (fun w => rfl) ?_ fun w => leaves_readHexBraced ..
      simp [readHexBraced, hd, faultAt]
    | some d =>
      simp only [readHexBraced, hd, next?_within _ hd]
      by_cases hbrace : d = '}'
      · subst hbrace
        simp only
        split
        · exact .faultAt
        · split
          · obtain hskip | hhidden := bumpSkip_within hd
            · exact .same _ _ rfl fun w => by rw [hskip]
            · exact .hidden hhidden fun w => .ok List.suffix_rfl
          · exact .faultAt
      · simp only
        split
        · exact .faultAt
        · obtain hskip | hhidden := bumpSkip_within hd
          · have hlt := length_bumpSkip_lt hd
            simp only [hskip]
            refine (ih _ _ (by omega) fun w => ?_).of_suffix c.bumpSkip_suffix
            exact Nat.lt_of_lt_of_le hlt (hle w)
          · exact .hidden hhidden fun w => (leaves_readHexBraced ..).mono (ahead_bump_suffix _)

theorem readHex_agrees (start : Nat) (letter : Char) (hd : c.next? = some d) :
    Agrees Enclosure.rest c Literal.shift (readHex start letter c) fun w =>
      readHex (start + w.offset) letter (c.within w) := by
  obtain hskip | hhidden := bumpSkip_within hd
  · refine Agrees.of_suffix ?_ c.bumpSkip_suffix
    cases he : c.bumpSkip.next? with
    | none =>
      refine .atEnd (next?_eq_none_iff.1 he) hskip ?_ fun w => leaves_readHex ..
      simp [readHex, he, faultAt]
    | some e =>
      simp only [readHex, hskip, he, next?_within _ he]
      by_cases hbrace : e = '{'
      · subst hbrace
        simp only
        obtain hskip | hhidden := bumpSkip_within he
        · simp only [hskip]
          have hlt := length_bumpSkip_lt he
          refine Agrees.of_suffix ?_ (bumpSkip_suffix _)
          refine (readHexBraced_agrees _ _ _ _ (by omega) fun w => ?_).bind ?_
            (fun a d _ => .same _ _ rfl fun w => rfl) fun w a d hd => .pure hd
          · simp only [ahead_within, List.length_append]
            omega
          · exact (leaves_readHexBraced ..).mono (ahead_bump_suffix _)
        · exact .hidden hhidden fun w => (leaves_readHexBraced ..).bind fun _ d hd =>
            .pure (hd.trans (ahead_bump_suffix _))
      · simp only
        exact Agrees.bind (readHexDigits_agrees ..) (leaves_readHexDigits ..)
          (fun a d _ => .same _ _ rfl fun w => rfl) fun w a d hd => .pure hd
  · exact .hidden hhidden fun w => (leaves_readHex ..).mono (ahead_bump_suffix _)

/-! ### Property classes -/

theorem readPropertyName_agrees {n : Nat} {m : Enclosure → Nat} (name : List Char) (c : Cursor)
    (hn : c.ahead.length < n) (hm : ∀ w, c.ahead.length < m w) :
    Agrees Enclosure.rest c (fun _ a => a) (readPropertyName n name c) fun w =>
      readPropertyName (m w) name (c.within w) := by
  induction n generalizing m name c with
  | zero => omega
  | succ n ih =>
    obtain ⟨m, rfl, hle⟩ := Enclosure.exists_fuel hm
    cases hd : c.next? with
    | none =>
      refine .atEnd (next?_eq_none_iff.1 hd) (fun w => rfl) ?_ fun w => leaves_readPropertyName ..
      simp [readPropertyName, hd, faultAt]
    | some d =>
      simp only [readPropertyName, hd, next?_within _ hd]
      by_cases hbrace : d = '}'
      · subst hbrace
        simp only
        exact .same _ _ rfl fun w => by rw [bump_within w hd]
      · simp only
        obtain hskip | hhidden := bumpSkip_within hd
        · have hlt := length_bumpSkip_lt hd
          simp only [hskip]
          refine (ih _ _ (by omega) fun w => ?_).of_suffix c.bumpSkip_suffix
          exact Nat.lt_of_lt_of_le hlt (hle w)
        · exact .hidden hhidden fun w => (leaves_readPropertyName ..).mono (ahead_bump_suffix _)

theorem readProperty_agrees (start : Nat) (negated : Bool) (hd : c.next? = some d) :
    Agrees Enclosure.rest c ClassItem.shift (readProperty start negated c) fun w =>
      readProperty (start + w.offset) negated (c.within w) := by
  obtain hskip | hhidden := bumpSkip_within hd
  · refine Agrees.of_suffix ?_ c.bumpSkip_suffix
    cases he : c.bumpSkip.next? with
    | none =>
      refine .atEnd (next?_eq_none_iff.1 he) hskip ?_ fun w => leaves_readProperty ..
      simp [readProperty, he, faultAt]
    | some e =>
      simp only [readProperty, hskip, he, next?_within _ he]
      by_cases hbrace : e = '{'
      · subst hbrace
        simp only
        obtain hskip | hhidden := bumpSkip_within he
        · simp only [hskip]
          have hlt := length_bumpSkip_lt he
          refine Agrees.of_suffix ?_ (bumpSkip_suffix _)
          refine (readPropertyName_agrees _ _ (by omega) fun w => ?_).bind ?_
            (fun a d _ => .same _ _ rfl fun w => rfl) fun w a d hd => .pure hd
          · simp only [ahead_within, List.length_append]
            omega
          · exact (leaves_readPropertyName ..).mono (ahead_bump_suffix _)
        · exact .hidden hhidden fun w => (leaves_readPropertyName ..).bind fun _ d hd =>
            .pure (hd.trans (ahead_bump_suffix _))
      · by_cases hbackslash : e = '\\'
        · subst hbackslash
          exact .faultAt
        · simp only
          obtain hskip | hhidden := bumpSkip_within he
          · exact .same _ _ rfl fun w => by rw [hskip]; rfl
          · exact .hidden hhidden fun w => .ok List.suffix_rfl
  · exact .hidden hhidden fun w => (leaves_readProperty ..).mono (ahead_bump_suffix _)

/-! ### Word boundaries -/

theorem readBoundaryName_of_end (n : Nat) (name : List Char) (h : c.ahead = []) :
    readBoundaryName n name c = (name.reverse, c) := by
  cases n with
  | zero => rfl
  | succ n => simp [readBoundaryName, next?_eq_none_iff.2 h]

theorem readBoundaryName_within_of_end (w : Enclosure) (m : Nat) (name : List Char)
    (h : c.ahead = []) : readBoundaryName m name (c.within w) = (name.reverse, c.within w) := by
  cases m with
  | zero => rfl
  | succ m => simp [readBoundaryName, next?_within_of_end w h, show ')'.isAlpha = false from rfl]

theorem readBoundaryName_agrees {n : Nat} {m : Enclosure → Nat} (name : List Char) (c : Cursor)
    (hn : c.ahead.length ≤ n) (hm : ∀ w, c.ahead.length ≤ m w) :
    Agrees Enclosure.rest c (fun _ a => a) (.ok (readBoundaryName n name c)) fun w =>
      .ok (readBoundaryName (m w) name (c.within w)) := by
  induction n generalizing m name c with
  | zero =>
    have hend : c.ahead = [] := List.length_eq_zero_iff.1 (by omega)
    exact .same _ _ rfl fun w => by rw [readBoundaryName_within_of_end w _ name hend]
  | succ n ih =>
    cases hd : c.next? with
    | none =>
      have hend := next?_eq_none_iff.1 hd
      refine .same _ _ (congrArg _ (readBoundaryName_of_end _ name hend)) fun w => ?_
      rw [readBoundaryName_within_of_end w _ name hend]
    | some d =>
      have hlt := length_bumpSkip_lt hd
      obtain ⟨m, rfl, hle⟩ := Enclosure.exists_fuel fun w => Nat.lt_of_lt_of_le hlt (hm w)
      simp only [readBoundaryName, hd, next?_within _ hd]
      split
      · obtain hskip | hhidden := bumpSkip_within hd
        · simp only [hskip]
          exact (ih _ _ (by omega) hle).of_suffix c.bumpSkip_suffix
        · exact .hidden hhidden fun w => .ok (ahead_readBoundaryName_suffix ..)
      · exact .same _ _ rfl fun w => rfl

theorem closeBoundary_agrees (opening begun : Nat) (opening' begun' : Enclosure → Nat)
    (name : List Char) (c : Cursor) :
    Agrees Enclosure.rest c (fun _ a => a) (closeBoundary opening begun name c) fun w =>
      closeBoundary (opening' w) (begun' w) name (c.within w) := by
  by_cases hbrace : c.next? = some '}'
  · simp only [closeBoundary, hbrace, next?_within _ hbrace, bne_self_eq_false, Bool.false_eq_true,
      if_false]
    split
    · exact .same _ _ rfl fun w => by rw [bump_within w hbrace]
    · exact .faultAt
  · have hne := bne_iff_ne.2 hbrace
    have hne' := fun w =>
      bne_iff_ne.2 (mt (next?_within_eq_some_iff w (by decide : '}' ≠ ')')).1 hbrace)
    simp only [closeBoundary, hne, hne', if_true]
    exact .faultAt

/-- The reading of a word boundary comes to the end after an opening brace. In an enclosure the
brace is left to be read as that of a count. -/
structure StopsAtBrace (x : Except Fault (Ast × Cursor))
    (y : Enclosure → Except Fault (Ast × Cursor)) (d : Cursor) : Prop where
  fails : ∀ r, x ≠ .ok r
  brace : d.next? = some '{'
  ending : d.bumpSkip.ahead = []
  skips : ∀ w, (d.within w).bumpSkip = d.bumpSkip.within w
  leaves : ∀ w, ∃ span, y w = .ok (.look span .wordBoundary, d.within w)

theorem readBoundary_agrees (start : Nat) (start' : Enclosure → Nat) (hd : c.next? = some '{') :
    Agrees Enclosure.rest c (fun _ a => a) (readBoundary start c)
        (fun w => readBoundary (start' w) (c.within w)) ∨
      (∀ r, readBoundary start c ≠ .ok r) ∧ c.bumpSkip.ahead = [] ∧
        (∀ w, (c.within w).bumpSkip = c.bumpSkip.within w) ∧
        ∀ w, readBoundary (start' w) (c.within w) = .ok (.wordBoundary, c.within w) := by
  obtain hskip | hhidden := bumpSkip_within hd
  · cases he : c.bumpSkip.next? with
    | none =>
      have hend := next?_eq_none_iff.1 he
      refine .inr ⟨by simp [readBoundary, he, faultAt], hend, hskip, fun w => ?_⟩
      simp [readBoundary, hskip, next?_within_of_end w hend, show ')'.isAlpha = false from rfl]
    | some e =>
      left
      simp only [readBoundary, hskip, he, next?_within _ he]
      split
      · exact .same _ _ rfl fun w => rfl
      · refine Agrees.of_suffix ?_ c.bumpSkip_suffix
        refine Agrees.andThen (f := fun p => closeBoundary c.pos c.bumpSkip.pos p.1 p.2)
          (g := fun w p => closeBoundary (c.within w).pos (c.bumpSkip.within w).pos p.1 p.2)
          (readBoundaryName_agrees [] c.bumpSkip (Nat.le_refl _) fun w => ?_)
          (ahead_readBoundaryName_suffix ..) (fun name d _ => closeBoundary_agrees ..)
          fun w name d hd => (leaves_closeBoundary ..).mono ((ahead_bump_suffix d).trans hd)
        simp
  · left
    refine .hidden hhidden fun w => ?_
    simp only [readBoundary, next?_eq_none_iff.2 (hhidden.2 w)]
    exact .error

/-! ### Escapes -/

/-- An escape that is complete is read alike. -/
theorem readEscape_agrees (hd : c.next? = some d) :
    Agrees Enclosure.rest c Ast.shift (readEscape c) (fun w => readEscape (c.within w)) ∨
      ∃ d, StopsAtBrace (readEscape c) (fun w => readEscape (c.within w)) d := by
  have hbump := fun w => bump_within w hd
  cases he : c.bump.next? with
  | none =>
    refine .inl (.atEnd (next?_eq_none_iff.1 he) hbump ?_ fun w => leaves_readEscape ..)
    simp [readEscape, he, faultAt]
  | some e =>
    have hdone := fun w => bump_within w he
    simp only [readEscape, hbump, he, next?_within _ he, hdone]
    split
    · exact .inl .faultAt
    · split
      · refine .inl (Agrees.of_suffix ?_ c.ahead_bump_suffix)
        exact (readHex_agrees c.pos e he).bind
          ((leaves_readHex ..).mono ((ahead_bump_suffix _).trans c.bump.bumpSkip_suffix))
          (fun literal d _ => .same _ _ rfl fun w => rfl) fun w literal d hd => .pure hd
      · split
        · refine .inl (Agrees.of_suffix ?_ c.ahead_bump_suffix)
          exact (readProperty_agrees c.pos _ he).bind
            ((leaves_readProperty ..).mono ((ahead_bump_suffix _).trans c.bump.bumpSkip_suffix))
            (fun item d _ => .same _ _ rfl fun w => rfl) fun w item d hd => .pure hd
        · split
          · exact .inl (.same _ _ rfl fun w => rfl)
          · split
            · exact .inl (.same _ _ rfl fun w => rfl)
            · split
              · exact .inl (.same _ _ rfl fun w => rfl)
              · split
                · simp only [next?_within_eq_some_iff _ (by decide : '{' ≠ ')')]
                  split
                  · rename_i hbrace
                    obtain hsame | ⟨hfails, hend, hskip, hok⟩ :=
                      readBoundary_agrees c.pos (fun w => (c.within w).pos) hbrace
                    · refine .inl (Agrees.of_suffix ?_
                        (c.bump.ahead_bump_suffix.trans c.ahead_bump_suffix))
                      exact hsame.bind (leaves_readBoundary ..)
                        (fun look d _ => .same _ _ rfl fun w => rfl) fun w look d hd => .pure hd
                    · exact .inr ⟨c.bump.bump, bind_ne_ok hfails, hbrace, hend, hskip,
                        fun w => ⟨_, by rw [hok w]; rfl⟩⟩
                  · exact .inl (.same _ _ rfl fun w => rfl)
                · split
                  · exact .inl (.same _ _ rfl fun w => rfl)
                  · exact .inl .faultAt

end Formulary.Pattern
