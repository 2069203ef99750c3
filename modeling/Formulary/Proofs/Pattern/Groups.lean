import Formulary.Proofs.Pattern.Progress

/-!
# Groups inside an enclosure

The head of a group is read inside an enclosure as it is alone.

## Main statements

* `toOption_readGroupName_within` : reading a name;
* `readGroupHead_agrees` : reading the head of a group.
-/
namespace Formulary.Pattern

open Cursor

variable {c : Cursor} {d : Char}

/-! ### Flags -/

/-- What is known of a key is moved with the rest. -/
theorem lookup_map_shift {κ : Type} [BEq κ] (k : Nat) (key : κ) (entries : List (κ × Span)) :
    (entries.map (Prod.map id (Span.shift k))).lookup key =
      (entries.lookup key).map (Span.shift k) := by
  induction entries with
  | nil => rfl
  | cons entry entries ih =>
    obtain ⟨name, span⟩ := entry
    simp only [List.map_cons, Prod.map_apply, id, List.lookup_cons, ih]
    split <;> rfl

def flagsShift (k : Nat) (seen : List (Option Flag × Span)) : List (Option Flag × Span) :=
  seen.map (Prod.map id (Span.shift k))

theorem switchesOf_flagsShift (k : Nat) (seen : List (Option Flag × Span)) :
    switchesOf (flagsShift k seen) = switchesOf seen := by
  have hfirst : (flagsShift k seen).reverse.map (·.1) = seen.reverse.map (·.1) := by
    simp [flagsShift, List.map_reverse]
  simp only [switchesOf, hfirst]

theorem readFlags_agrees {n : Nat} {m : Enclosure → Nat} (seen : List (Option Flag × Span))
    (c : Cursor) (hn : c.ahead.length < n) (hm : ∀ w, c.ahead.length < m w) :
    Agrees Enclosure.closing c flagsShift (readFlags n seen c) fun w =>
      readFlags (m w) (flagsShift w.offset seen) (c.within w) := by
  induction n generalizing m seen c with
  | zero => omega
  | succ n ih =>
    obtain ⟨m, rfl, hle⟩ := Enclosure.exists_fuel hm
    cases hd : c.next? with
    | none =>
      refine .atEnd_closing (next?_eq_none_iff.1 hd) (fun w => rfl) ?_ fun w => leaves_readFlags ..
      simp [readFlags, hd, faultAt]
    | some d =>
      have hlt := length_bump_lt hd
      simp only [readFlags, hd, next?_within _ hd, bump_within _ hd, charSpan_within, flagsShift,
        lookup_map_shift]
      split
      · rcases seen with _ | ⟨⟨_ | flag, span⟩, seen⟩
        · exact .same _ _ rfl fun w => rfl
        · exact .faultAt
        · exact .same _ _ rfl fun w => rfl
      · split
        · exact .faultAt
        · rename_i item _
          cases seen.lookup item with
          | some earlier => exact .error
          | none =>
            refine Agrees.of_suffix ?_ c.ahead_bump_suffix
            simp only [Option.map_none, atEnd_within, Bool.false_eq_true, if_false]
            cases he : c.bump.next? with
            | none =>
              have hend := next?_eq_none_iff.1 he
              exact .atEnd_closing hend (fun w => rfl) (ite_atEnd_ne_ok hend) fun w =>
                leaves_readFlags ..
            | some e =>
              simp only [atEnd_of_next? he, Bool.false_eq_true, if_false]
              exact ih ((item, c.charSpan) :: seen) _ (by omega) fun w =>
                Nat.lt_of_lt_of_le hlt (hle w)

/-- Flags end at a character. -/
theorem exists_next?_of_readFlags {n : Nat} {seen seen' : List (Option Flag × Span)} {e : Cursor}
    (hn : c.ahead.length < n) (h : readFlags n seen c = .ok (seen', e)) :
    ∃ d, e.next? = some d := by
  induction n generalizing seen c with
  | zero => omega
  | succ n ih =>
    cases hd : c.next? with
    | none => simp [readFlags, hd, faultAt] at h
    | some d =>
      have hlt := length_bump_lt hd
      simp only [readFlags, hd] at h
      split at h
      · split at h
        · cases h
        · cases h
          exact ⟨d, hd⟩
      · split at h
        · cases h
        · split at h
          · cases h
          · split at h
            · cases h
            · exact ih (by omega) h

/-! ### Names of groups -/

/-- No name of a group has a parenthesis in it. -/
theorem isNameChar_paren (first : Bool) : isNameChar first ')' = false := by
  cases first <;> decide +kernel

theorem readNameChars_of_end (start n : Nat) (h : c.ahead = []) :
    readNameChars start n c = .ok c := by
  cases n with
  | zero => rfl
  | succ n => simp [readNameChars, next?_eq_none_iff.2 h]

theorem toOption_readNameChars_within_of_end (w : Enclosure) (start : Nat) {m : Nat} (hm : 0 < m)
    (h : c.ahead = []) : (readNameChars start m (c.within w)).toOption = none := by
  obtain ⟨m, rfl⟩ := Nat.exists_eq_add_one_of_ne_zero (Nat.ne_zero_of_lt hm)
  simp [readNameChars, next?_within_of_end w h, isNameChar_paren, faultAt, Except.toOption]

theorem toOption_readNameChars_within (w : Enclosure) (start : Nat) {n m : Nat} (c : Cursor)
    (hn : c.ahead.length ≤ n) (hm : c.ahead.length < m) :
    (readNameChars (start + w.offset) m (c.within w)).toOption =
      ((readNameChars start n c).toOption.filter fun d => !d.atEnd).map (within w) := by
  have hended : ∀ {n m : Nat} {c : Cursor}, 0 < m → c.ahead = [] →
      (readNameChars (start + w.offset) m (c.within w)).toOption =
        ((readNameChars start n c).toOption.filter fun d => !d.atEnd).map (within w) := by
    intro n m c hm hend
    rw [toOption_readNameChars_within_of_end w _ hm hend, readNameChars_of_end _ _ hend]
    simp [Except.toOption, Option.filter, atEnd_of_end hend]
  induction n generalizing m c with
  | zero => exact hended (by omega) (List.length_eq_zero_iff.1 (by omega))
  | succ n ih =>
    cases hd : c.next? with
    | none => exact hended (by omega) (next?_eq_none_iff.1 hd)
    | some d =>
      have hlt := length_bump_lt hd
      obtain ⟨m, rfl⟩ := Nat.exists_eq_add_one_of_ne_zero (Nat.ne_zero_of_lt hm)
      simp only [readNameChars, hd, next?_within _ hd]
      by_cases hclose : d = '>'
      · subst hclose
        simp [Except.toOption, Option.filter, atEnd_of_next? hd]
      · have hfirst : (c.pos + w.offset == start + w.offset) = (c.pos == start) := by
          rw [Bool.eq_iff_iff, beq_iff_eq, beq_iff_eq, Nat.add_right_cancel_iff]
        simp only [pos_within, hfirst]
        split
        · rw [bump_within w hd]
          exact ih _ (by omega) (by omega)
        · rfl

/-- The characters of a name are counted. -/
theorem pos_readNameChars {start n : Nat} {e : Cursor} (h : readNameChars start n c = .ok e) :
    e.pos ≤ c.pos + c.ahead.length := by
  induction n generalizing c with
  | zero =>
    cases h
    omega
  | succ n ih =>
    rw [readNameChars] at h
    split at h
    · cases h
      omega
    · cases h
      omega
    · rename_i hd
      split at h
      · have hbump := ih h
        have hlt := length_bump_lt hd
        simp only [bump, advance, List.length_drop] at hbump
        omega
      · cases h

theorem toOption_closeGroupName_within (w : Enclosure) {after : Cursor} (hd : after.next? = some d)
    (hpos : after.pos ≤ c.pos + c.ahead.length) :
    (closeGroupName (c.within w) (after.within w)).toOption =
      (closeGroupName c after).toOption.map (within w) := by
  have htake : (c.ahead ++ w.closing).take (after.pos + w.offset - (c.pos + w.offset)) =
      c.ahead.take (after.pos - c.pos) := by
    rw [Nat.add_sub_add_right, List.take_append_of_le_length (by omega)]
  simp only [closeGroupName, atEnd_within, atEnd_of_next? hd, Bool.false_eq_true, if_false,
    ahead_within, pos_within, htake, since_within]
  split
  · rfl
  · have hnames : (c.within w).names = c.names.map (Prod.map id (Span.shift w.offset)) := rfl
    rw [hnames, lookup_map_shift]
    cases c.names.lookup (String.ofList (c.ahead.take (after.pos - c.pos))) with
    | some earlier => rfl
    | none =>
      rw [Option.map_none, bump_within w hd]
      rfl

theorem toOption_readGroupName_within (w : Enclosure) (c : Cursor) :
    (readGroupName (c.within w)).toOption = (readGroupName c).toOption.map (within w) := by
  have hm : c.ahead.length < (c.ahead ++ w.closing).length := by simp [Enclosure.closing]
  simp only [readGroupName, atEnd_within, Bool.false_eq_true, if_false, toOption_bind, pos_within,
    ahead_within, toOption_readNameChars_within w c.pos c (Nat.le_refl _) hm]
  cases hd : c.next? with
  | none =>
    have hend := next?_eq_none_iff.1 hd
    rw [readNameChars_of_end _ _ hend, if_pos (atEnd_of_end hend)]
    simp [Except.toOption, Option.filter, atEnd_of_end hend, faultAt]
  | some d =>
    rw [if_neg (by simp [atEnd_of_next? hd]), toOption_bind]
    cases hchars : readNameChars c.pos c.ahead.length c with
    | error => rfl
    | ok after =>
      cases he : after.next? with
      | none =>
        have hend := next?_eq_none_iff.1 he
        simp [Except.toOption, Option.filter, closeGroupName, atEnd_of_end hend, faultAt]
      | some e =>
        simpa [Except.toOption, Option.filter, atEnd_of_next? he] using
          toOption_closeGroupName_within w he (pos_readNameChars hchars)

/-! ### Heads of groups -/

theorem beginsWith_append_closing (w : Enclosure) {word : List Char} (h : ')' ∉ word)
    (s : List Char) : beginsWith word (s ++ w.closing) = beginsWith word s := by
  induction word generalizing s with
  | nil => rfl
  | cons a word ih =>
    obtain ⟨ha, hword⟩ := not_or.1 (mt List.mem_cons.2 h)
    cases s with
    | nil => simp [beginsWith, Enclosure.closing, List.isPrefixOf, Ne.symm ha]
    | cons b s =>
      simp only [beginsWith, List.cons_append, List.isPrefixOf_cons_cons] at ih ⊢
      rw [ih hword]

theorem length_le_of_beginsWith {word s : List Char} (h : beginsWith word s = true) :
    word.length ≤ s.length :=
  (List.isPrefixOf_iff_prefix.1 h).length_le

theorem lookAround?_append_closing (w : Enclosure) (s : List Char) :
    lookAround? (s ++ w.closing) = lookAround? s := by
  simp (disch := decide) only [lookAround?, List.find?_cons, List.find?_nil,
    beginsWith_append_closing]

theorem bind_readGroupName_agrees {tail : Enclosure → List Char} {α : Type} (a : α) (c : Cursor) :
    Agrees tail c (fun _ a => a) (do return (a, ← readGroupName c)) fun w => do
      return (a, ← readGroupName (c.within w)) :=
  .value (fun w => toOption_readGroupName_within w c) fun d => .same a d rfl fun _ => rfl

theorem readSwitches_agrees (opening mark : Span) (opening' mark' : Enclosure → Span)
    (c : Cursor) :
    Agrees Enclosure.rest c (fun _ a => a) (readSwitches opening mark c) fun w =>
      readSwitches (opening' w) (mark' w) (c.within w) := by
  cases hd : c.next? with
  | none =>
    have hend := next?_eq_none_iff.1 hd
    refine .atEnd hend (fun w => rfl) ?_ fun w => leaves_readSwitches ..
    simp [readSwitches, atEnd_of_end hend, faultAt]
  | some d =>
    simp only [readSwitches, atEnd_of_next? hd, atEnd_within, Bool.false_eq_true, if_false]
    refine (readFlags_agrees [] c (Nat.lt_succ_self _) fun w => ?_).bindFrom List.suffix_rfl
      (leaves_readFlags ..) (fun seen e hseen _ => ?_) fun w seen e he => ?_
    · simp only [ahead_within, List.length_append]
      omega
    · obtain ⟨mark, he⟩ := exists_next?_of_readFlags (Nat.lt_succ_self _) hseen
      simp only [he, next?_within _ he, bump_within _ he, switchesOf_flagsShift]
      split
      · rcases seen with _ | ⟨flag, seen⟩
        · exact .faultAt
        · exact .same _ _ rfl fun w => rfl
      · exact .same _ _ rfl fun w => rfl
    · have hrest := ahead_bump_suffix_rest he
      simp only
      split
      · split
        · exact .error
        · exact .pure hrest
      · exact .pure hrest

/-- The head of a group that is complete is read alike. -/
theorem readGroupHead_agrees (hd : c.next? = some d) :
    Agrees Enclosure.rest c (fun _ a => a) (readGroupHead c) fun w =>
      readGroupHead (c.within w) := by
  obtain hskip | hhidden := bumpSkip_within hd
  · refine Agrees.of_suffix ?_ c.bumpSkip_suffix
    simp only [readGroupHead, hskip, ahead_within, lookAround?_append_closing]
    simp (disch := decide) only [beginsWith_append_closing]
    split
    · exact .faultAt
    · split
      · rename_i hsign
        have hlength : 3 ≤ c.bumpSkip.ahead.length := length_le_of_beginsWith hsign
        simp only [advance_within _ hlength]
        exact (bind_readGroupName_agrees _ _).of_suffix (ahead_advance_suffix _ 3)
      · split
        · rename_i hsign
          have hlength : 2 ≤ c.bumpSkip.ahead.length := length_le_of_beginsWith hsign
          simp only [advance_within _ hlength]
          exact (bind_readGroupName_agrees _ _).of_suffix (ahead_advance_suffix _ 2)
        · split
          · rename_i hsign
            have hlength : 1 ≤ c.bumpSkip.ahead.length := length_le_of_beginsWith hsign
            simp only [bump, advance_within _ hlength]
            exact (readSwitches_agrees ..).of_suffix (ahead_advance_suffix _ 1)
          · exact .same _ _ rfl fun w => rfl
  · exact .hidden hhidden fun w => leaves_readGroupHead ..

end Formulary.Pattern
