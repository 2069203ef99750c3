import Mathlib.Data.List.TakeWhile
import Formulary.Proofs.Pattern.Escapes

/-!
# Classes inside an enclosure

A class that is complete is read inside an enclosure as it is alone.

## Main statements

* `readClass_agrees` : reading a class.
-/
namespace Formulary.Pattern

open Cursor

variable {c : Cursor} {d : Char}

/-! ### Classes with a name -/

/-- No class has a parenthesis in its name. -/
theorem asciiClass?_eq_none {name : List Char} (h : ')' ∈ name) :
    asciiClass? (String.ofList name) = none := by
  have hname : ∀ s : String, ')' ∉ s.toList → String.ofList name ≠ s := by
    rintro _ hs rfl
    exact hs (by simpa using h)
  unfold asciiClass?
  split <;> first | rfl | exact absurd ‹_› (hname _ (by decide))

theorem asciiClassAt?_within (w : Enclosure) {negated : Bool} {rest : List Char}
    (hlength : c.ahead.length = rest.length + 2 + if negated then 1 else 0) :
    asciiClassAt? (c.within w) negated (rest ++ w.closing) =
      (asciiClassAt? c negated rest).map (Prod.map (ClassItem.shift w.offset) (within w)) := by
  have hcut : ∀ {name tail : List Char}, ':' ∉ name →
      (name ++ ':' :: tail).takeWhile (· != ':') = name ∧
        (name ++ ':' :: tail).dropWhile (· != ':') = ':' :: tail := by
    intro name tail hname
    have hall : ∀ a ∈ name, (a != ':') = true := fun a ha => bne_iff_ne.2 fun h => hname (h ▸ ha)
    simp [List.takeWhile_append_of_pos hall, List.dropWhile_append_of_pos hall]
  by_cases hcolon : ':' ∈ rest
  · obtain ⟨name, tail, rfl, hname⟩ := List.eq_append_cons_of_mem hcolon
    simp only [asciiClassAt?, List.append_assoc, List.cons_append, (hcut hname).1, (hcut hname).2]
    rcases tail with _ | ⟨e, tail⟩
    · rfl
    · by_cases he : e = ']'
      · subst he
        have hle : name.length + 4 + (if negated then 1 else 0) ≤ c.ahead.length := by
          simp only [hlength, List.length_append, List.length_cons]
          omega
        simp only [List.cons_append, advance_within w hle]
        cases asciiClass? (String.ofList name) <;> rfl
      · simp [he]
  · have hall : ∀ a ∈ rest, (a != ':') = true := fun a ha => bne_iff_ne.2 fun h => hcolon (h ▸ ha)
    have hparen : ')' ∈ (rest ++ w.closing).takeWhile (· != ':') := by
      simp [List.takeWhile_append_of_pos hall, Enclosure.closing]
    have hnone : rest.dropWhile (· != ':') = [] := List.dropWhile_eq_nil_iff.2 hall
    simp only [asciiClassAt?, asciiClass?_eq_none hparen, hnone]
    split <;> rfl

theorem readAsciiClass?_within (w : Enclosure) (hd : c.next? = some d) :
    readAsciiClass? (c.within w) =
      (readAsciiClass? c).map (Prod.map (ClassItem.shift w.offset) (within w)) := by
  have hplace : ∀ negated rest, c.ahead.length = rest.length + 2 + (if negated then 1 else 0) →
      asciiClassAt? (c.within w) negated (rest ++ w.closing) =
        (asciiClassAt? c negated rest).map (Prod.map (ClassItem.shift w.offset) (within w)) :=
    fun _ _ => asciiClassAt?_within w
  unfold readAsciiClass?
  rw [ahead_within]
  rcases hs : c.ahead with _ | ⟨a, _ | ⟨b, s⟩⟩
  · exact absurd hs (ne_nil_of_next? hd)
  · simp [Enclosure.closing]
  · rw [hs] at hplace
    by_cases ha : a = '['
    · by_cases hb : b = ':'
      · subst ha hb
        rcases s with _ | ⟨e, s⟩
        · exact hplace false [] rfl
        · by_cases he : e = '^'
          · subst he
            exact hplace true s rfl
          · simpa [he] using hplace false (e :: s) rfl
      · simp [hb]
    · simp [ha]

/-! ### Members -/

theorem peekPastGap_within (w : Enclosure) (hd : c.next? = some d) :
    (c.within w).peekPastGap = c.peekPastGap.or (some ')') := by
  have hblank : Text.isBlank ')' = false := by decide
  have hdrop : ∀ s : List Char, (s ++ w.closing).dropWhile Text.isBlank =
      s.dropWhile Text.isBlank ++ w.closing := by
    intro s
    rw [List.dropWhile_append]
    split
    · rename_i h
      rw [List.isEmpty_iff.1 h, Enclosure.closing, List.dropWhile_cons_of_neg (by simp [hblank])]
      rfl
    · rfl
  have hhead : ∀ s : List Char, (s ++ w.closing).head? = s.head?.or (some ')') := fun s => by
    rw [List.head?_append]
    rfl
  simp only [peekPastGap, bump_within w hd, verbose_within, ahead_within, hdrop]
  split
  · rcases c.bump.ahead.dropWhile Text.isBlank with _ | ⟨e, s⟩
    · rfl
    · by_cases he : e = '#'
      · subst he
        simp only [List.cons_append, hdrop, hhead]
      · simp [he]
  · exact hhead _

def memberShift (k : Nat) (member : Ast × Span) : Ast × Span :=
  member.map (Ast.shift k) (Span.shift k)

theorem toOption_memberSet_shift (k : Nat) (member : Ast × Span) :
    (memberSet (memberShift k member)).toOption =
      (memberSet member).toOption.map (ClassItem.shift k) := by
  obtain ⟨item, span⟩ := member
  cases item <;> rfl

theorem toOption_memberChar_shift (k : Nat) (member : Ast × Span) :
    (memberChar (memberShift k member)).toOption =
      (memberChar member).toOption.map (Literal.shift k) := by
  obtain ⟨item, span⟩ := member
  cases item <;> rfl

theorem toOption_rangeBetween_shift (k : Nat) (first last : Ast × Span) :
    (rangeBetween (memberShift k first) (memberShift k last)).toOption =
      (rangeBetween first last).toOption.map (ClassItem.shift k) := by
  simp only [rangeBetween, toOption_bind, toOption_memberChar_shift]
  cases (memberChar first).toOption with
  | none => rfl
  | some low =>
    cases (memberChar last).toOption with
    | none => rfl
    | some high =>
      change Except.toOption (if high.char < low.char then _ else _) =
        Option.map _ (Except.toOption (if high.char < low.char then _ else _))
      split <;> rfl

/-- The reading of a member comes to the end after the opening brace of a word boundary. In an
enclosure the boundary is read, which is no member. -/
structure MemberStops (x : Except Fault ((Ast × Span) × Cursor))
    (y : Enclosure → Except Fault ((Ast × Span) × Cursor)) : Prop where
  fails : ∀ r, x ≠ .ok r
  look : ∀ w, ∃ place span d, y w = .ok ((.look place .wordBoundary, span), d)

theorem readClassMember_agrees (hd : c.next? = some d) :
    Agrees Enclosure.rest c memberShift (readClassMember c)
        (fun w => readClassMember (c.within w)) ∨
      MemberStops (readClassMember c) fun w => readClassMember (c.within w) := by
  by_cases hbackslash : d = '\\'
  · subst hbackslash
    simp only [readClassMember, hd, next?_within _ hd]
    obtain hsame | ⟨e, hstops⟩ := readEscape_agrees hd
    · exact .inl <| hsame.bind
        ((leaves_readEscape c).mono ((ahead_bump_suffix _).trans c.ahead_bump_suffix))
        (fun item d _ => .same _ _ rfl fun w => rfl) fun w item d hd => .pure hd
    · refine .inr ⟨bind_ne_ok hstops.fails, fun w => ?_⟩
      obtain ⟨place, hplace⟩ := hstops.leaves w
      exact ⟨place, _, _, by rw [hplace]; rfl⟩
  · left
    refine .same (.literal ⟨c.charSpan, d, false⟩, c.charSpan) c.bump ?_ fun w => ?_
    · simp [readClassMember, hd]
    · simp only [readClassMember, next?_within _ hd, bump_within w hd, charSpan_within]
      rfl

/-! ### Ranges -/

/-- A condition on a place is no member of a class. -/
theorem readRangeFrom_of_look (head place span : Span) (condition : Look) (c : Cursor) :
    ∀ r, readRangeFrom head (.look place condition, span) c ≠ .ok r := by
  unfold readRangeFrom
  split
  · nofun
  · simp only
    split
    · nofun
    · split
      · nofun
      · cases readClassMember c.bumpSkip with
        | error => nofun
        | ok last => nofun

theorem rangeBetween_of_look (first : Ast × Span) (place span : Span) (condition : Look) :
    ∀ item, rangeBetween first (.look place condition, span) ≠ .ok item := by
  intro item
  rw [rangeBetween]
  cases memberChar first with
  | error => nofun
  | ok low => nofun

theorem readRangeFrom_agrees (head : Span) (first : Ast × Span) (c : Cursor) :
    Agrees Enclosure.closing c ClassItem.shift (readRangeFrom head first c) fun w =>
      readRangeFrom (head.shift w.offset) (memberShift w.offset first) (c.within w) := by
  cases hd : c.next? with
  | none =>
    refine .atEnd_closing (next?_eq_none_iff.1 hd) (fun w => rfl) ?_ fun w =>
      leaves_readRangeFrom ..
    simp [readRangeFrom, hd, faultAt]
  | some d =>
    have hfollowing : ∀ mark : Char, mark ≠ ')' →
        (c.peekPastGap.or (some ')') == some mark) = (c.peekPastGap == some mark) := by
      intro mark hmark
      cases c.peekPastGap with
      | none => simpa using hmark.symm
      | some e => rfl
    simp only [readRangeFrom, hd, next?_within _ hd, peekPastGap_within _ hd,
      hfollowing ']' (by decide), hfollowing '-' (by decide)]
    split
    · exact .pureWith fun w => toOption_memberSet_shift ..
    · obtain hskip | hhidden := bumpSkip_within hd
      · refine Agrees.of_suffix ?_ c.bumpSkip_suffix
        simp only [hskip, atEnd_within, Bool.false_eq_true, if_false]
        cases he : c.bumpSkip.next? with
        | none =>
          have hend := next?_eq_none_iff.1 he
          exact .atEnd_closing hend (fun w => rfl) (ite_atEnd_ne_ok hend) fun w =>
            (leaves_readClassMember _).bind fun last d hd =>
              .pureWith (hd.trans (ahead_bump_suffix _))
        | some e =>
          simp only [atEnd_of_next? he, Bool.false_eq_true, if_false]
          obtain hlast | hstops := readClassMember_agrees he
          · exact hlast.bind ((leaves_readClassMember _).mono (ahead_bump_suffix _))
              (fun last d _ => .pureWith fun w => toOption_rangeBetween_shift ..)
              fun w last d hd => .pureWith (hd.trans (List.suffix_cons ..))
          · refine .beyond (.inl (bind_ne_ok hstops.fails)) fun w => ?_
            obtain ⟨place, span, e, hlook⟩ := hstops.look w
            rw [hlook]
            change Leaves _ (rangeBetween _ (.look place .wordBoundary, span) >>= _)
            exact .of_ne_ok (bind_ne_ok (rangeBetween_of_look _ _ _ _))
      · simp only [atEnd_of_end (hhidden.2 _), if_true]
        exact .beyond (.inr hhidden.1) fun w => .error

theorem readRange_agrees (head : Span) (hd : c.next? = some d) :
    Agrees Enclosure.closing c ClassItem.shift (readRange head c) fun w =>
      readRange (head.shift w.offset) (c.within w) := by
  obtain hfirst | hstops := readClassMember_agrees hd
  · refine hfirst.bind ((leaves_readClassMember c).mono c.ahead_bump_suffix)
      (fun first d _ => ?_) fun w first d hd => ?_
    · obtain hskip | hhidden := d.skipGap_within
      · refine Agrees.of_suffix ?_ d.ahead_skipGap_suffix
        simp only [hskip]
        exact readRangeFrom_agrees ..
      · exact .hidden hhidden fun w => leaves_readRangeFrom ..
    · exact (leaves_readRangeFrom ..).mono <|
        (ahead_skipGap_suffix d).trans (hd.trans (List.suffix_cons ..))
  · refine .beyond (.inl (bind_ne_ok hstops.fails)) fun w => ?_
    obtain ⟨place, span, e, hlook⟩ := hstops.look w
    rw [readRange, hlook]
    exact .of_ne_ok (readRangeFrom_of_look _ _ _ _ _)

/-! ### Heads of classes -/

theorem readHyphens_agrees (start : Nat) (start' : Enclosure → Nat) {n : Nat} {m : Enclosure → Nat}
    (items : List ClassItem) (c : Cursor) (hn : c.ahead.length ≤ n)
    (hm : ∀ w, c.ahead.length ≤ m w) :
    Agrees Enclosure.closing c (fun k items => items.map (ClassItem.shift k))
      (readHyphens start n items c) fun w =>
        readHyphens (start' w) (m w) (items.map (ClassItem.shift w.offset)) (c.within w) := by
  induction n generalizing m items c with
  | zero =>
    have hend : c.ahead = [] := List.length_eq_zero_iff.1 (by omega)
    refine .same items c rfl fun w => ?_
    cases m w with
    | zero => rfl
    | succ m => simp [readHyphens, next?_within_of_end w hend]
  | succ n ih =>
    by_cases hd : c.next? = some '-'
    · have hlt := length_bumpSkip_lt hd
      obtain ⟨m, rfl, hle⟩ := Enclosure.exists_fuel fun w => Nat.lt_of_lt_of_le hlt (hm w)
      simp only [readHyphens, hd, next?_within _ hd, if_true]
      obtain hskip | hhidden := bumpSkip_within hd
      · refine Agrees.of_suffix ?_ c.bumpSkip_suffix
        simp only [hskip, atEnd_within, Bool.false_eq_true, if_false]
        cases he : c.bumpSkip.next? with
        | none =>
          have hend := next?_eq_none_iff.1 he
          exact .atEnd_closing hend (fun w => rfl) (ite_atEnd_ne_ok hend) fun w =>
            leaves_readHyphens ..
        | some e =>
          simp only [atEnd_of_next? he, Bool.false_eq_true, if_false, charSpan_within]
          exact ih (.range ⟨c.charSpan, '-', false⟩ ⟨c.charSpan, '-', false⟩ :: items) _
            (by omega) hle
      · simp only [atEnd_of_end (hhidden.2 _), if_true]
        exact .beyond (.inr hhidden.1) fun w => .error
    · refine .same items c (by simp [readHyphens, hd]) fun w => ?_
      have hd' := mt (next?_within_eq_some_iff w (by decide : '-' ≠ ')')).1 hd
      cases m w with
      | zero => rfl
      | succ m => simp [readHyphens, hd']

def ClassHead.shift (k : Nat) (head : ClassHead) : ClassHead :=
  ⟨head.negated, head.begun + k, head.items.map (ClassItem.shift k)⟩

theorem readFirstMembers_agrees (start : Nat) (negated : Bool) (c : Cursor) :
    Agrees Enclosure.closing c ClassHead.shift (readFirstMembers start negated c) fun w =>
      readFirstMembers (start + w.offset) negated (c.within w) := by
  cases hd : c.next? with
  | none =>
    have hend := next?_eq_none_iff.1 hd
    refine .atEnd_closing hend (fun w => rfl) ?_ fun w => leaves_readFirstMembers ..
    rw [readFirstMembers, atEnd_of_end hend]
    nofun
  | some d =>
    rw [readFirstMembers, atEnd_of_next? hd]
    simp only [readFirstMembers, atEnd_within, Bool.false_eq_true, if_false]
    refine (readHyphens_agrees start _ [] c (Nat.le_refl _) fun w => ?_).bind
      (leaves_readHyphens ..) (fun items d _ => ?_) fun w items d hd => ?_
    · simp
    · simp only [List.isEmpty_map, next?_within_beq _ (by decide : ']' ≠ ')')]
      split
      · rename_i hbracket
        have hd : d.next? = some ']' := by simp_all
        obtain hskip | hhidden := bumpSkip_within hd
        · refine Agrees.of_suffix ?_ d.bumpSkip_suffix
          simp only [hskip, atEnd_within, Bool.false_eq_true, if_false]
          cases he : d.bumpSkip.next? with
          | none =>
            have hend := next?_eq_none_iff.1 he
            refine .atEnd_closing hend (fun w => rfl) ?_ fun w => .pure List.suffix_rfl
            rw [atEnd_of_end hend]
            nofun
          | some e =>
            rw [atEnd_of_next? he]
            refine .same _ _ rfl fun w => ?_
            rw [charSpan_within]
            rfl
        · simp only [atEnd_of_end (hhidden.2 _), if_true]
          exact .beyond (.inr hhidden.1) fun w => .error
      · exact .same _ _ rfl fun w => rfl
    · simp only
      split
      · exact .guard (.pure (d.bumpSkip_suffix.trans hd))
      · exact .pure hd

theorem readClassHead_agrees (hd : c.next? = some d) :
    Agrees Enclosure.closing c ClassHead.shift (readClassHead c) fun w =>
      readClassHead (c.within w) := by
  obtain hskip | hhidden := bumpSkip_within hd
  · refine Agrees.of_suffix ?_ c.bumpSkip_suffix
    cases he : c.bumpSkip.next? with
    | none =>
      have hend := next?_eq_none_iff.1 he
      refine .atEnd_closing hend hskip ?_ fun w => leaves_readClassHead ..
      simp [readClassHead, atEnd_of_end hend, faultAt]
    | some e =>
      simp only [readClassHead, hskip, atEnd_of_next? he, atEnd_within, he, next?_within _ he,
        Bool.false_eq_true, if_false]
      split
      · obtain hskip | hhidden := bumpSkip_within he
        · simp only [hskip]
          exact (readFirstMembers_agrees ..).of_suffix (bumpSkip_suffix _)
        · exact .hidden hhidden fun w => leaves_readFirstMembers ..
      · exact readFirstMembers_agrees ..
  · exact .hidden hhidden fun w => leaves_readClassHead ..

/-! ### Classes -/

theorem unionOf_shift (k begun : Nat) (items : List ClassItem) :
    unionOf (begun + k) (items.map (ClassItem.shift k)) = (unionOf begun items).shift k := by
  rcases items with _ | ⟨last, _ | ⟨other, items⟩⟩
  · rfl
  · rfl
  · simp only [unionOf, List.map_cons]
    rw [← List.map_cons, ← List.map_cons, ← List.map_reverse]
    rcases hitems : (last :: other :: items).reverse with _ | ⟨first, rest⟩
    · simp at hitems
    · simp only [List.map_cons, ClassItem.span_shift, ClassItem.shift, ClassItem.shiftAll_eq_map]
      rfl

theorem closeSet_shift (k begun : Nat) (pending : Option (SetOp × ClassItem))
    (items : List ClassItem) :
    closeSet (pending.map (Prod.map id (ClassItem.shift k))) (begun + k)
        (items.map (ClassItem.shift k)) =
      (closeSet pending begun items).shift k := by
  rcases pending with _ | ⟨op, left⟩
  · exact unionOf_shift ..
  · simp only [closeSet, Option.map_some, Prod.map_apply, unionOf_shift, ClassItem.span_shift]
    rfl

theorem setOp?_append_closing (w : Enclosure) {s : List Char} (h : s ≠ []) :
    setOp? (s ++ w.closing) = setOp? s := by
  rcases s with _ | ⟨a, _ | ⟨b, s⟩⟩
  · exact absurd rfl h
  · simp [setOp?, Enclosure.closing]
  · unfold setOp?
    simp only [List.cons_append]
    split <;> simp_all

theorem two_le_length_of_setOp? {s : List Char} {op : SetOp} (h : setOp? s = some op) :
    2 ≤ s.length := by
  unfold setOp? at h
  split at h <;> first | simp | cases h

theorem readClassBody_agrees (head : Span) (negated : Bool) {n : Nat} {m : Enclosure → Nat}
    (pending : Option (SetOp × ClassItem)) (begun : Nat) (items : List ClassItem) (c : Cursor)
    (hn : c.ahead.length < n) (hm : ∀ w, c.ahead.length < m w) :
    Agrees Enclosure.rest c ClassItem.shift
      (readClassBody head negated n pending begun items c) fun w =>
        readClassBody (head.shift w.offset) negated (m w)
          (pending.map (Prod.map id (ClassItem.shift w.offset))) (begun + w.offset)
          (items.map (ClassItem.shift w.offset)) (c.within w) := by
  have hleaves : ∀ {head negated fuel pending begun items} {d : Cursor},
      Leaves d.ahead (readClassBody head negated fuel pending begun items d) :=
    fun {_ _ _ _ _ _ d} => (leaves_readClassBody ..).mono <|
      (ahead_bump_suffix _).trans d.ahead_skipGap_suffix
  have hlost : ∀ {head negated fuel pending begun items} {d : Cursor} {w : Enclosure},
      d.ahead <:+ w.closing →
        Leaves w.rest (readClassBody head negated fuel pending begun items d) :=
    fun {_ _ _ _ _ _ d _} h => (leaves_readClassBody ..).mono <|
      (ahead_bump_suffix_bump d.ahead_skipGap_suffix).trans (ahead_bump_suffix_rest h)
  induction n generalizing head negated m pending begun items c with
  | zero => omega
  | succ n ih =>
    obtain ⟨m, rfl, hle⟩ := Enclosure.exists_fuel hm
    obtain hskip | hhidden := c.skipGap_within
    · refine Agrees.of_suffix ?_ c.ahead_skipGap_suffix
      have hlength := c.ahead_skipGap_suffix.length_le
      have hnext := fun head negated pending begun items (d : Cursor)
          (hless : d.ahead.length < c.skipGap.ahead.length) =>
        ih head negated (m := m) pending begun items d (by omega) fun w =>
          Nat.lt_of_lt_of_le (by omega) (hle w)
      cases hd : c.skipGap.next? with
      | none =>
        refine .atEnd (next?_eq_none_iff.1 hd) hskip ?_ fun w => leaves_readClassBody ..
        simp [readClassBody, hd, faultAt]
      | some d =>
        have hlt := length_bump_lt hd
        simp only [readClassBody, hskip, hd, next?_within _ hd]
        by_cases hopen : d = '['
        · subst hopen
          simp only [readAsciiClass?_within _ hd]
          cases hascii : readAsciiClass? c.skipGap with
          | some found =>
            obtain ⟨item, after⟩ := found
            have hafter := ahead_readAsciiClass?_suffix hascii
            refine Agrees.of_suffix ?_ (hafter.trans (ahead_bump_suffix _))
            exact hnext head negated pending begun (item :: items) after
              (Nat.lt_of_le_of_lt hafter.length_le hlt)
          | none =>
            -- A class in the class: its head, its members, and what follows it in the outer one.
            refine (readClassHead_agrees hd).bindFrom (bumpSkip_suffix _) (leaves_readClassHead _)
              (fun inner d _ hinner => ?_) fun w inner d hinner => ?_
            · have hless := Nat.lt_of_le_of_lt
                (hinner.trans c.skipGap.ahead_bumpSkip_suffix).length_le hlt
              exact (hnext (d.since c.skipGap.pos) inner.negated none inner.begun inner.items d
                hless).bind hleaves
                (fun item e he => hnext head negated pending begun (item :: items) e
                  (Nat.lt_of_le_of_lt he.length_le hless))
                fun w item e he => hleaves.mono he
            · exact (hlost hinner).bind fun item e he => hleaves.mono he
        · by_cases hclose : d = ']'
          · subst hclose
            simp only
            refine .same _ _ rfl fun w => ?_
            rw [bump_within w hd, closeSet_shift]
            rfl
          · simp only [ahead_within, setOp?_append_closing _ (ne_nil_of_next? hd)]
            cases hop : setOp? c.skipGap.ahead with
            | some op =>
              have hadvance := fun w => advance_within w (two_le_length_of_setOp? hop)
              have hless := (c.skipGap.ahead_advance_suffix_bump Nat.two_pos).length_le
              simp only [hadvance, closeSet_shift]
              refine Agrees.of_suffix ?_ (ahead_advance_suffix _ 2)
              exact hnext head negated (some (op, closeSet pending begun items)) _ [] _
                (Nat.lt_of_le_of_lt hless hlt)
            | none =>
              exact (readRange_agrees head hd).bindFrom (ahead_bump_suffix _)
                (leaves_readRange head _) (fun item d _ hitem => hnext head negated pending begun
                  (item :: items) d (Nat.lt_of_le_of_lt hitem.length_le hlt))
                fun w item d hitem => hlost hitem
    · refine .beyond (.inr hhidden.1) fun w => ?_
      simp only [readClassBody, next?_eq_none_iff.2 (hhidden.2 w)]
      exact .error

/-- A class that is complete is read alike. -/
theorem readClass_agrees (hd : c.next? = some d) :
    Agrees Enclosure.rest c Ast.shift (readClass c) fun w => readClass (c.within w) := by
  have hhead : ∀ d : Cursor, d.skipGap.bump.ahead <:+ d.bump.ahead := fun d =>
    ahead_bump_suffix_bump d.ahead_skipGap_suffix
  refine (readClassHead_agrees hd).bindFrom (bumpSkip_suffix _) (leaves_readClassHead _)
    (fun head d _ _ => ?_) fun w head d hd => ?_
  · refine (readClassBody_agrees (d.since c.pos) head.negated none head.begun head.items d
      (Nat.lt_succ_self _) fun w => ?_).bind
      ((leaves_readClassBody ..).mono ((hhead d).trans d.ahead_bump_suffix))
      (fun item e _ => .same _ _ rfl fun w => rfl) fun w item e he => .pure he
    simp only [ahead_within, List.length_append]
    omega
  · refine (leaves_readClassBody ..).bind fun item e he => .pure ?_
    exact he.trans ((hhead d).trans (ahead_bump_suffix_rest hd))

end Formulary.Pattern
