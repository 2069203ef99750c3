import Formulary.Proofs.Pattern.Classes
import Formulary.Proofs.Pattern.Counts
import Formulary.Proofs.Pattern.Groups

/-!
# Alternatives inside an enclosure

The alternatives of a pattern are read inside an enclosure as they are alone, up to the closing
parenthesis, or else that parenthesis is lost.

## Main definitions

* `Branches.shift` : what has been read, moved to the right.

## Main statements

* `readBody_agrees` : reading the alternatives.
-/
namespace Formulary.Pattern

open Cursor

variable {c : Cursor} {d : Char}

/-! ### What has been read -/

def Branches.shift (k : Nat) (b : Branches) : Branches :=
  ⟨b.begun + k, b.complete.map (Ast.shift k), b.opened + k, b.items.map (Ast.shift k)⟩

theorem concatOf_shift (k : Nat) (span : Span) (items : List Ast) :
    concatOf (span.shift k) (items.map (Ast.shift k)) = (concatOf span items).shift k := by
  rcases items with _ | ⟨last, _ | ⟨other, items⟩⟩
  · rfl
  · rfl
  · simp only [concatOf, Ast.shift, Ast.shiftAll_eq_map, List.map_reverse, List.map_cons]

namespace Branches

theorem shift_split (k stop next : Nat) (b : Branches) :
    (b.split stop next).shift k = (b.shift k).split (stop + k) (next + k) := by
  simp only [shift, split, List.map_cons, List.map_nil, ← concatOf_shift]
  rfl

theorem close_shift (k stop : Nat) (b : Branches) :
    (b.shift k).close (stop + k) = (b.close stop).shift k := by
  have hlast := concatOf_shift k ⟨b.opened, stop⟩ b.items
  obtain ⟨begun, complete, opened, items⟩ := b
  rcases complete with _ | ⟨branch, complete⟩
  · exact hlast
  · simp only [close, shift, List.map_cons, Ast.shift, Ast.shiftAll_eq_map, List.map_append,
      List.map_reverse, List.map_nil]
    rw [← List.map_cons, ← hlast]
    rfl

end Branches

theorem repeatable?_shift (k : Nat) (items : List Ast) :
    repeatable? (items.map (Ast.shift k)) =
      (repeatable? items).map (Prod.map (Ast.shift k) (List.map (Ast.shift k))) := by
  rcases items with _ | ⟨item, items⟩
  · rfl
  · cases item <;> rfl

/-- What is repeated has a place. -/
theorem shift_repetition {k stop : Nat} {b : Branches} {item : Ast} {rest : List Ast}
    (h : repeatable? b.items = some (item, rest)) (least : Nat) (most : Option Nat)
    (greedy : Bool) :
    Branches.shift k
        { b with items := .repetition ⟨item.start, stop⟩ item least most greedy :: rest } =
      { b.shift k with
        items := .repetition ⟨(item.shift k).start, stop + k⟩ (item.shift k) least most greedy ::
          rest.map (Ast.shift k) } := by
  have hitem : item ≠ .empty := by
    rintro rfl
    unfold repeatable? at h
    split at h <;> simp_all
  rw [Ast.start_shift k hitem]
  rfl

/-! ### Parts that go on

What follows a group or an operator is read by `body`, in each enclosure by `body'`. -/

section

variable {body : Branches → Cursor → Except Fault (Ast × Cursor)}
  {body' : Enclosure → Branches → Cursor → Except Fault (Ast × Cursor)}

theorem readAfterHead_agrees (hleaves : ∀ branches d, Leaves d.ahead (body branches d))
    (hleaves' : ∀ w branches d, Leaves d.ahead (body' w branches d))
    (branches : Branches) (c : Cursor) (head : GroupHead) (after : Cursor)
    (hbody : ∀ branches d, d.ahead.length ≤ after.ahead.length →
      Agrees Enclosure.rest d Ast.shift (body branches d) fun w =>
        body' w (branches.shift w.offset) (d.within w)) :
    Agrees Enclosure.rest after Ast.shift (readAfterHead body branches c (head, after)) fun w =>
      readAfterHead (body' w) (branches.shift w.offset) (c.within w) (head, after.within w) := by
  cases head with
  | switch switches =>
    refine Agrees.of_suffix (d := { after with verbose := verboseAfter switches c.verbose }) ?_
      List.suffix_rfl
    exact hbody (branches.push (.flags (after.since c.pos) switches)) _ (Nat.le_refl _)
  | group captured switches =>
    have hinner := hbody (.start after.pos)
      { after with verbose := verboseAfter switches c.verbose } (Nat.le_refl _)
    simp only [readAfterHead]
    refine Agrees.of_suffix (d := { after with verbose := verboseAfter switches c.verbose }) ?_
      List.suffix_rfl
    refine hinner.bind (hleaves ..) (fun inner d hd => ?_) fun w inner d hd => ?_
    · cases he : d.next? with
      | none =>
        -- In an enclosure the group is closed by the closing parenthesis, which is lost then.
        refine .atEnd (next?_eq_none_iff.1 he) (fun w => rfl) nofun fun w => ?_
        simp only
        split
        · exact hleaves' w _ { (d.within w).bump with verbose := c.verbose }
        · exact .error
      | some e =>
        simp only [next?_within _ he, bump_within _ he]
        split
        · refine Agrees.of_suffix (d := { d.bump with verbose := c.verbose }) ?_ d.ahead_bump_suffix
          exact hbody (branches.push (.group (d.bump.since c.pos) captured switches inner)) _
            (d.ahead_bump_suffix.length_le.trans hd.length_le)
        · exact .faultAt
    · simp only
      split
      · exact (hleaves' ..).mono ((ahead_bump_suffix d).trans hd)
      · exact .error

theorem readOperator_agrees (branches : Branches) (operator : Char) (hd : c.next? = some d)
    (hbody : ∀ branches d, d.ahead.length < c.ahead.length →
      Agrees Enclosure.rest d Ast.shift (body branches d) fun w =>
        body' w (branches.shift w.offset) (d.within w)) :
    Agrees Enclosure.rest c Ast.shift (readOperator body branches operator c) fun w =>
      readOperator (body' w) (branches.shift w.offset) operator (c.within w) := by
  have hitems : ∀ k, (branches.shift k).items = branches.items.map (Ast.shift k) := fun _ => rfl
  simp only [readOperator, hitems, repeatable?_shift, bump_within _ hd,
    next?_within_beq _ (by decide : '?' ≠ ')'), ite_bump_within]
  cases hrepeat : repeatable? branches.items with
  | none => exact .faultAt
  | some found =>
    obtain ⟨item, rest⟩ := found
    have hpassed : (if (c.bump.next? == some '?') = true then c.bump.bump else c.bump).ahead <:+
        c.bump.ahead := by
      split
      · exact ahead_bump_suffix _
      · exact List.suffix_rfl
    generalize (if (c.bump.next? == some '?') = true then c.bump.bump else c.bump) = after
      at hpassed
    refine Agrees.of_suffix ?_ (hpassed.trans c.ahead_bump_suffix)
    have hrest := fun least most greedy => hbody
      { branches with
        items := .repetition ⟨item.start, after.pos⟩ item least most greedy :: rest }
      after (Nat.lt_of_le_of_lt hpassed.length_le (length_bump_lt hd))
    simp only [shift_repetition hrepeat] at hrest
    exact hrest ..

theorem readRepetition_agrees (hleaves' : ∀ w branches d, Leaves d.ahead (body' w branches d))
    (branches : Branches) (hd : c.next? = some d)
    (hbody : ∀ branches d, d.ahead.length < c.ahead.length →
      Agrees Enclosure.rest d Ast.shift (body branches d) fun w =>
        body' w (branches.shift w.offset) (d.within w)) :
    Agrees Enclosure.rest c Ast.shift (readRepetition body branches c) fun w =>
      readRepetition (body' w) (branches.shift w.offset) (c.within w) := by
  have hitems : ∀ k, (branches.shift k).items = branches.items.map (Ast.shift k) := fun _ => rfl
  simp only [readRepetition, hitems, repeatable?_shift]
  cases hrepeat : repeatable? branches.items with
  | none => exact .faultAt
  | some found =>
    obtain ⟨item, rest⟩ := found
    have hcounts : c.bumpSkip.bump.ahead <:+ c.bump.ahead :=
      (ahead_bump_suffix _).trans c.ahead_bumpSkip_suffix
    refine (readCounts_agrees hd).bindFrom (hcounts.trans c.ahead_bump_suffix)
      (leaves_readCounts c) (fun counts after _ hafter => ?_)
      fun w counts after hafter => (hleaves' ..).mono hafter
    have hrest := hbody
      { branches with
        items := .repetition ⟨item.start, after.pos⟩ item counts.least counts.most
          counts.greedy :: rest }
      after (Nat.lt_of_le_of_lt (hafter.trans hcounts).length_le (length_bump_lt hd))
    simp only [shift_repetition hrepeat] at hrest
    exact hrest

end

/-- A brace that is followed by the closing parenthesis is the brace of no count. -/
theorem leaves_readBody_of_brace (w : Enclosure) {m : Nat} {branches : Branches} (hm : 0 < m)
    (hbrace : c.next? = some '{') (hend : c.bumpSkip.ahead = [])
    (hskip : (c.within w).bumpSkip = c.bumpSkip.within w) {s : List Char} :
    Leaves s (readBody m branches (c.within w)) := by
  obtain ⟨m, rfl⟩ := Nat.exists_eq_add_one_of_ne_zero (Nat.ne_zero_of_lt hm)
  have hbrace' := next?_within w hbrace
  have hcounts := readCounts_within_of_end w hend hskip
  have hchars : Text.isBlank '{' = false ∧ '{' ≠ '#' := by decide
  simp only [readBody, skipGap_of_next? hbrace' hchars.1 hchars.2, hbrace']
  change Leaves s (readRepetition (readBody m) branches (c.within w))
  unfold readRepetition
  split
  · exact .error
  · exact .of_ne_ok (bind_ne_ok hcounts)

/-! ### Alternatives -/

/-- The alternatives are read alike up to the closing parenthesis, or else it is lost. -/
theorem readBody_agrees {n : Nat} {m : Enclosure → Nat} (branches : Branches) (c : Cursor)
    (hn : c.ahead.length < n) (hm : ∀ w, c.ahead.length < m w) :
    Agrees Enclosure.rest c Ast.shift (readBody n branches c) fun w =>
      readBody (m w) (branches.shift w.offset) (c.within w) := by
  induction n generalizing m branches c with
  | zero => omega
  | succ n ih =>
    obtain ⟨m, rfl, hle⟩ := Enclosure.exists_fuel hm
    obtain hskip | hhidden := c.skipGap_within
    · refine Agrees.of_suffix ?_ c.ahead_skipGap_suffix
      have hlength := c.ahead_skipGap_suffix.length_le
      have hnext : ∀ branches d, d.ahead.length < c.skipGap.ahead.length →
          Agrees Enclosure.rest d Ast.shift (readBody n branches d) fun w =>
            readBody (m w) (branches.shift w.offset) (d.within w) := fun branches d hd =>
        ih branches d (by omega) fun w => Nat.lt_of_lt_of_le (by omega) (hle w)
      have hleaves := fun w => leaves_readBody (m w)
      simp only [readBody, hskip]
      generalize c.skipGap = e at *
      cases hd : e.next? with
      | none =>
        refine .same _ _ rfl fun w => ?_
        simp only [next?_within_of_end w (next?_eq_none_iff.1 hd), pos_within, Branches.close_shift]
      | some d =>
        have hbump := length_bump_lt hd
        have hpush : ∀ item : Ast, Agrees Enclosure.rest e Ast.shift
            (readBody n (branches.push item) e.bump) fun w =>
              readBody (m w) ((branches.push item).shift w.offset) (e.bump.within w) := fun item =>
          (hnext (branches.push item) _ hbump).of_suffix e.ahead_bump_suffix
        simp only [next?_within _ hd]
        split
        -- The end of the pattern has been seen to, so that the first case is none.
        · contradiction
        -- A closing parenthesis.
        · refine .same _ _ rfl fun w => ?_
          rw [pos_within, Branches.close_shift]
        -- An opening parenthesis.
        · exact (readGroupHead_agrees hd).bindFrom e.bumpSkip_suffix (leaves_readGroupHead e)
            (fun head after _ hafter => readAfterHead_agrees (leaves_readBody n) hleaves branches e
              head after fun branches d hless => hnext branches d <| Nat.lt_of_le_of_lt
                (hless.trans (hafter.trans e.ahead_bumpSkip_suffix).length_le) hbump)
            fun w head after hafter => (leaves_readAfterHead (hleaves w) ..).mono hafter
        -- A bar.
        · simp only [bump_within _ hd, pos_within, ← Branches.shift_split]
          exact (hnext (branches.split e.pos e.bump.pos) _ hbump).of_suffix e.ahead_bump_suffix
        -- A class.
        · exact (readClass_agrees hd).bindFrom e.ahead_bump_suffix (leaves_readClass e)
            (fun item after _ hafter => hnext (branches.push item) after
              (Nat.lt_of_le_of_lt hafter.length_le hbump))
            fun w item after hafter => (hleaves w ..).mono hafter
        -- An escape.
        · obtain hsame | ⟨brace, hstops⟩ := readEscape_agrees hd
          · exact hsame.bindFrom ((ahead_bump_suffix _).trans e.ahead_bump_suffix)
              (leaves_readEscape e) (fun item after _ hafter => hnext (branches.push item) after <|
                Nat.lt_of_le_of_lt (hafter.trans (ahead_bump_suffix _)).length_le hbump)
              fun w item after hafter => (hleaves w ..).mono hafter
          · refine .beyond (.inl (bind_ne_ok hstops.fails)) fun w => ?_
            obtain ⟨place, hplace⟩ := hstops.leaves w
            rw [hplace]
            exact leaves_readBody_of_brace w (Nat.lt_of_lt_of_le (by omega) (hle w)) hstops.brace
              hstops.ending (hstops.skips w)
        -- A dot, and the two conditions of one character.
        · simp only [bump_within _ hd, charSpan_within]
          exact hpush (.dot e.charSpan)
        · simp only [bump_within _ hd, charSpan_within]
          exact hpush (.look e.charSpan .lineStart)
        · simp only [bump_within _ hd, charSpan_within]
          exact hpush (.look e.charSpan .lineEnd)
        · rename_i hchar
          obtain rfl := Option.some.inj hchar
          split
          · exact readOperator_agrees branches d hd hnext
          · split
            · exact readRepetition_agrees hleaves branches hd hnext
            · simp only [bump_within _ hd, charSpan_within]
              exact hpush (.literal ⟨e.charSpan, d, false⟩)
    · refine .beyond (.inr hhidden.1) fun w => ?_
      simp only [readBody, next?_eq_none_iff.2 (hhidden.2 w)]
      exact .ok (by rw [hhidden.2 w]; exact List.nil_suffix)

end Formulary.Pattern
