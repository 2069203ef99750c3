import Formulary.Proofs.Fallible
import Formulary.Proofs.Pattern.Places

/-!
# Reading inside an enclosure

A pattern that is put between parentheses is read as it is alone, up to its last character. There
the reading goes on: to a parenthesis where it would have met the end. It may take that parenthesis
for a part of the pattern; then it has lost it, and finds no other.

## Main definitions

* `Enclosure` : what stands around a pattern;
* `Cursor.within` : a place in a pattern, seen from the enclosure;
* `Leaves` : how much a reading leaves at least;
* `Agrees` : reading inside every enclosure as alone, or beyond the pattern in each.

## Main statements

* `Cursor.skipGap_within` : a comment alone can hide the closing parenthesis from what is skipped;
* `Agrees.bind` : readings one after the other.
-/
namespace Formulary.Pattern

variable {α β : Type}

/-! ### Enclosures -/

/-- What stands around a pattern: so many characters before it, and after it a closing parenthesis
and the rest of its line. -/
structure Enclosure where
  offset : Nat
  rest : List Char
  oneLine : '\n' ∉ rest

namespace Enclosure

def closing (w : Enclosure) : List Char := ')' :: w.rest

/-- Fuel that is left after one step, in each enclosure. -/
theorem exists_fuel {fuel : Enclosure → Nat} {count : Nat} (h : ∀ w, count < fuel w) :
    ∃ rest : Enclosure → Nat, fuel = (fun w => rest w + 1) ∧ ∀ w, count ≤ rest w :=
  ⟨fun w => fuel w - 1, funext fun w => (Nat.succ_pred (Nat.ne_zero_of_lt (h w))).symm,
    fun w => Nat.le_pred_of_lt (h w)⟩

end Enclosure

namespace Cursor

/-- A place in a pattern, seen from an enclosure. -/
def within (w : Enclosure) (c : Cursor) : Cursor where
  ahead := c.ahead ++ w.closing
  pos := c.pos + w.offset
  verbose := c.verbose
  names := c.names.map (Prod.map id (Span.shift w.offset))

variable {c : Cursor} {d : Char} (w : Enclosure)

@[simp]
theorem ahead_within (c : Cursor) : (c.within w).ahead = c.ahead ++ w.closing := rfl

@[simp]
theorem pos_within (c : Cursor) : (c.within w).pos = c.pos + w.offset := rfl

@[simp]
theorem verbose_within (c : Cursor) : (c.within w).verbose = c.verbose := rfl

@[simp]
theorem since_within (c : Cursor) (start : Nat) :
    (c.within w).since (start + w.offset) = (c.since start).shift w.offset := rfl

@[simp]
theorem charSpan_within (c : Cursor) : (c.within w).charSpan = c.charSpan.shift w.offset := by
  simp only [charSpan, Span.shift, pos_within, Nat.add_right_comm]

theorem next?_eq_none_iff : c.next? = none ↔ c.ahead = [] := List.head?_eq_none_iff

theorem ne_nil_of_next? (h : c.next? = some d) : c.ahead ≠ [] := by
  intro hnil
  simp [next?, hnil] at h

theorem atEnd_of_next? (h : c.next? = some d) : c.atEnd = false := by
  simpa [atEnd] using ne_nil_of_next? h

theorem atEnd_of_end (h : c.ahead = []) : c.atEnd = true := by
  simp [atEnd, h]

theorem next?_within (h : c.next? = some d) : (c.within w).next? = some d := by
  simp only [next?, ahead_within, List.head?_append] at h ⊢
  rw [h]
  rfl

theorem next?_within_of_end (h : c.ahead = []) : (c.within w).next? = some ')' := by
  simp [next?, h, Enclosure.closing]

/-- No character but a parenthesis comes next in an enclosure alone. -/
theorem next?_within_eq_some_iff (h : d ≠ ')') :
    (c.within w).next? = some d ↔ c.next? = some d := by
  cases hc : c.next? with
  | none => simpa [next?_within_of_end w (next?_eq_none_iff.1 hc)] using Ne.symm h
  | some e => rw [next?_within w hc]

theorem next?_within_beq (h : d ≠ ')') :
    ((c.within w).next? == some d) = (c.next? == some d) := by
  rw [Bool.eq_iff_iff, beq_iff_eq, beq_iff_eq, next?_within_eq_some_iff w h]

@[simp]
theorem atEnd_within (c : Cursor) : (c.within w).atEnd = false := by
  simp [atEnd, Enclosure.closing]

theorem advance_within {n : Nat} (h : n ≤ c.ahead.length) :
    (c.within w).advance n = (c.advance n).within w := by
  simp only [advance, within, List.drop_append_of_le_length h, List.length_append,
    Nat.min_eq_left h, Cursor.mk.injEq, true_and, and_true]
  omega

theorem bump_within (h : c.next? = some d) : (c.within w).bump = c.bump.within w :=
  advance_within w (List.length_pos_iff.2 (ne_nil_of_next? h))

/-- A mark is passed alike. -/
theorem ite_bump_within (c : Cursor) (mark : Char) :
    (if (c.next? == some mark) = true then (c.within w).bump else c.within w) =
      (if (c.next? == some mark) = true then c.bump else c).within w := by
  split
  · rename_i h
    exact bump_within w (beq_iff_eq.1 h)
  · rfl

theorem ahead_bump_within_of_end (h : c.ahead = []) : (c.within w).bump.ahead = w.rest := by
  simp [bump, advance, h, Enclosure.closing]

/-! ### What is left -/

theorem ahead_advance_suffix (c : Cursor) (n : Nat) : (c.advance n).ahead <:+ c.ahead :=
  List.drop_suffix n c.ahead

theorem ahead_bump_suffix (c : Cursor) : c.bump.ahead <:+ c.ahead := c.ahead_advance_suffix 1

theorem ahead_skipGap_suffix (c : Cursor) : c.skipGap.ahead <:+ c.ahead := by
  unfold skipGap
  split
  · exact c.ahead_advance_suffix _
  · exact List.suffix_rfl

theorem ahead_bumpSkip_suffix (c : Cursor) : c.bumpSkip.ahead <:+ c.bump.ahead :=
  c.bump.ahead_skipGap_suffix

theorem ahead_advance_suffix_bump (c : Cursor) {n : Nat} (h : 0 < n) :
    (c.advance n).ahead <:+ c.bump.ahead :=
  List.drop_suffix_drop_left c.ahead h

theorem bumpSkip_suffix (c : Cursor) : c.bumpSkip.ahead <:+ c.ahead :=
  c.ahead_bumpSkip_suffix.trans c.ahead_bump_suffix

/-- What comes after a character further on. -/
theorem ahead_bump_suffix_bump {c d : Cursor} (h : d.ahead <:+ c.ahead) :
    d.bump.ahead <:+ c.bump.ahead := by
  obtain ⟨passed, hpassed⟩ := h
  simp only [bump, advance, ← hpassed]
  cases passed with
  | nil => exact List.suffix_rfl
  | cons e passed => exact (List.drop_suffix 1 _).trans (List.suffix_append passed _)

/-- What takes the closing parenthesis or more leaves the rest of the line at most. -/
theorem ahead_bump_suffix_rest {w : Enclosure} (h : c.ahead <:+ w.closing) :
    c.bump.ahead <:+ w.rest :=
  ahead_bump_suffix_bump (c := ⟨w.closing, 0, false, []⟩) h

theorem length_bump_lt (h : c.next? = some d) : c.bump.ahead.length < c.ahead.length := by
  have := List.length_pos_iff.2 (ne_nil_of_next? h)
  simp only [bump, advance, List.length_drop]
  omega

theorem length_bumpSkip_lt (h : c.next? = some d) : c.bumpSkip.ahead.length < c.ahead.length :=
  Nat.lt_of_le_of_lt c.ahead_bumpSkip_suffix.length_le (length_bump_lt h)

/-! ### Skipping -/

theorem gapLength_comment {s : List Char} (h : '\n' ∉ s) : gapLength true s = s.length := by
  induction s with
  | nil => rfl
  | cons c s ih =>
    have hc : (c != '\n') = true := bne_iff_ne.2 fun hc => h (hc ▸ List.mem_cons_self)
    rw [gapLength, hc, ih fun hs => h (List.mem_cons_of_mem c hs), List.length_cons, Nat.add_comm]

theorem gapLength_le (inComment : Bool) (s : List Char) : gapLength inComment s ≤ s.length := by
  induction s generalizing inComment with
  | nil => cases inComment <;> exact Nat.le_refl 0
  | cons c s ih =>
    have htrue := ih true
    have hfalse := ih false
    cases inComment with
    | true =>
      have := ih (c != '\n')
      rw [gapLength, List.length_cons]
      omega
    | false =>
      rw [gapLength, List.length_cons]
      split
      · omega
      · split <;> omega

/-- Nothing is skipped before a character that is neither a blank nor the sign of a comment. -/
theorem skipGap_of_next? (h : c.next? = some d) (hblank : Text.isBlank d = false)
    (hsign : d ≠ '#') : c.skipGap = c := by
  obtain ⟨ahead, pos, verbose, names⟩ := c
  obtain ⟨rest, rfl⟩ := List.head?_eq_some_iff.1 h
  simp [skipGap, gapLength, hblank, hsign, advance]

/-- What is skipped ends where it would without the closing parenthesis, unless the text ends in a
comment: then the rest of the line is skipped as well. -/
theorem gapLength_append_closing (inComment : Bool) (s : List Char) :
    (∀ w : Enclosure, gapLength inComment (s ++ w.closing) = gapLength inComment s) ∨
      (inComment = true ∨ '#' ∈ s) ∧
        ∀ w : Enclosure, gapLength inComment (s ++ w.closing) = (s ++ w.closing).length := by
  induction s generalizing inComment with
  | nil =>
    cases inComment with
    | false => exact .inl fun w => rfl
    | true =>
      refine .inr ⟨.inl rfl, fun w => gapLength_comment ?_⟩
      simpa [Enclosure.closing] using w.oneLine
  | cons c s ih =>
    cases inComment with
    | true =>
      simp only [List.cons_append, gapLength, List.length_cons]
      obtain h | ⟨hmem, hw⟩ := ih (c != '\n')
      · exact .inl fun w => by rw [h w]
      · exact .inr ⟨.inl trivial, fun w => by rw [hw w]; omega⟩
    | false =>
      simp only [List.cons_append, gapLength, List.length_cons]
      split
      · obtain h | ⟨hmem, hw⟩ := ih false
        · exact .inl fun w => by rw [h w]
        · refine .inr ⟨.inr ?_, fun w => by rw [hw w]; omega⟩
          exact List.mem_cons_of_mem c (by simpa using hmem)
      · split
        · rename_i hc
          obtain h | ⟨hmem, hw⟩ := ih true
          · exact .inl fun w => by rw [h w]
          · exact .inr ⟨.inr (by simp [hc]), fun w => by rw [hw w]; omega⟩
        · exact .inl fun w => rfl

/-- Skipping stops at the closing parenthesis at the latest, unless a comment hides it. -/
theorem skipGap_within (c : Cursor) :
    (∀ w, (c.within w).skipGap = c.skipGap.within w) ∨
      '#' ∈ c.ahead ∧ ∀ w, (c.within w).skipGap.ahead = [] := by
  by_cases hv : c.verbose
  · have hskip : ∀ w, (c.within w).skipGap =
        (c.within w).advance (gapLength false (c.ahead ++ w.closing)) := fun w => if_pos hv
    obtain h | ⟨hmem, hw⟩ := gapLength_append_closing false c.ahead
    · refine .inl fun w => ?_
      rw [hskip, h w, skipGap, if_pos hv]
      exact advance_within w (gapLength_le _ _)
    · refine .inr ⟨by simpa using hmem, fun w => ?_⟩
      rw [hskip, hw w]
      simp [advance]
  · refine .inl fun w => ?_
    rw [skipGap, skipGap, if_neg hv]
    exact if_neg hv

theorem bumpSkip_within (h : c.next? = some d) :
    (∀ w, (c.within w).bumpSkip = c.bumpSkip.within w) ∨
      '#' ∈ c.ahead ∧ ∀ w, (c.within w).bumpSkip.ahead = [] := by
  simp only [bumpSkip, bump_within _ h]
  exact c.bump.skipGap_within.imp_right (And.imp_left fun hmem => c.ahead_bump_suffix.subset hmem)

end Cursor

/-! ### What a reading leaves -/

theorem faultAt_ne_ok {kind : FaultKind} {span : Span} :
    ∀ a, (faultAt kind span : Except Fault α) ≠ .ok a := nofun

/-- A check that the pattern goes on fails at its end. -/
theorem ite_atEnd_ne_ok {c : Cursor} {kind : FaultKind} {span : Span} {x : Except Fault α}
    (h : c.ahead = []) : ∀ a, (if c.atEnd = true then faultAt kind span else x) ≠ .ok a := by
  rw [if_pos (Cursor.atEnd_of_end h)]
  exact faultAt_ne_ok

theorem bind_ne_ok {x : Except Fault α} {f : α → Except Fault β} (h : ∀ a, x ≠ .ok a) :
    ∀ b, x >>= f ≠ .ok b := by
  intro b hb
  obtain ⟨a, ha, -⟩ := bind_eq_ok.1 hb
  exact h a ha

/-- What a reading leaves, if it comes to its end, is the end of a text. -/
structure Leaves (text : List Char) (x : Except Fault (α × Cursor)) : Prop where
  suffix : ∀ a d, x = .ok (a, d) → d.ahead <:+ text

namespace Leaves

variable {s t : List Char} {x : Except Fault (α × Cursor)} {c : Cursor}

theorem ok {a : α} (h : c.ahead <:+ s) : Leaves s (.ok (a, c)) := ⟨by rintro _ _ ⟨⟩; exact h⟩

theorem pure {a : α} (h : c.ahead <:+ s) :
    Leaves s (Pure.pure (a, c) : Except Fault (α × Cursor)) := .ok h

theorem error {fault : Fault} : Leaves s (.error fault : Except Fault (α × Cursor)) := ⟨nofun⟩

theorem faultAt {kind : FaultKind} {span : Span} :
    Leaves s (Pattern.faultAt kind span : Except Fault (α × Cursor)) := .error

theorem of_ne_ok (h : ∀ r, x ≠ .ok r) : Leaves s x := ⟨fun _ _ hx => absurd hx (h _)⟩

/-- A check that comes before a reading. -/
theorem guard {p : Prop} [Decidable p] {kind : FaultKind} {span : Span}
    {f : β → Except Fault (α × Cursor)} (h : Leaves s x) :
    Leaves s (if p then Pattern.faultAt kind span >>= f else x) := by
  split
  · exact .error
  · exact h

/-- A value at a place, unless it is a fault. -/
theorem pureWith {v : Except Fault α} (h : c.ahead <:+ s) : Leaves s (do return (← v, c)) := by
  cases v with
  | error => exact .error
  | ok a => exact .pure h

theorem mono (h : Leaves s x) (hst : s <:+ t) : Leaves t x :=
  ⟨fun a d hx => (h.suffix a d hx).trans hst⟩

theorem bind {f : α × Cursor → Except Fault (β × Cursor)} (h : Leaves s x)
    (hf : ∀ a d, d.ahead <:+ s → Leaves t (f (a, d))) : Leaves t (x >>= f) := by
  rcases x with fault | ⟨a, d⟩
  · exact .error
  · exact hf a d (h.suffix a d rfl)

end Leaves

/-! ### Readings that agree -/

/-- A reading from a place, alone and in enclosures. It comes to the same in each of them. Or else
it goes beyond the pattern: alone it fails, unless there is a comment, and in an enclosure it leaves
an end of `tail` at most. -/
inductive Agrees (tail : Enclosure → List Char) (c : Cursor) (shift : Nat → α → α)
    (x : Except Fault (α × Cursor)) (y : Enclosure → Except Fault (α × Cursor)) : Prop
  | same (a : α) (d : Cursor) (hx : x = .ok (a, d))
      (hy : ∀ w, y w = .ok (shift w.offset a, d.within w))
  | beyond (hx : (∀ r, x ≠ .ok r) ∨ '#' ∈ c.ahead) (hy : ∀ w, Leaves (tail w) (y w))

namespace Agrees

variable {c : Cursor} {tail tail' : Enclosure → List Char} {shift : Nat → α → α}
  {move : Nat → β → β} {x : Except Fault (α × Cursor)}
  {y : Enclosure → Except Fault (α × Cursor)}

theorem error {e : Fault} {e' : Enclosure → Fault} :
    Agrees tail c shift (.error e) fun w => .error (e' w) :=
  .beyond (.inl nofun) fun _ => .error

theorem faultAt {kind : FaultKind} {kind' : Enclosure → FaultKind} {span : Span}
    {span' : Enclosure → Span} :
    Agrees tail c shift (Pattern.faultAt kind span) fun w => Pattern.faultAt (kind' w) (span' w) :=
  .error

/-- A comment hides the closing parenthesis, so that nothing is left. -/
theorem hidden {d : Enclosure → Cursor} (h : '#' ∈ c.ahead ∧ ∀ w, (d w).ahead = [])
    (hy : ∀ w, Leaves (d w).ahead (y w)) : Agrees tail c shift x y :=
  .beyond (.inr h.1) fun w => (hy w).mono (h.2 w ▸ List.nil_suffix)

/-- At the end of the pattern a reading that takes a character takes the closing parenthesis. -/
theorem atEnd {d : Cursor} {e : Enclosure → Cursor} (h : d.ahead = []) (he : ∀ w, e w = d.within w)
    (hx : ∀ r, x ≠ .ok r) (hy : ∀ w, Leaves (e w).bump.ahead (y w)) :
    Agrees Enclosure.rest c shift x y :=
  .beyond (.inl hx) fun w => Cursor.ahead_bump_within_of_end w h ▸ he w ▸ hy w

/-- At the end of the pattern a reading leaves the closing parenthesis at most. -/
theorem atEnd_closing {d : Cursor} {e : Enclosure → Cursor} (h : d.ahead = [])
    (he : ∀ w, e w = d.within w) (hx : ∀ r, x ≠ .ok r) (hy : ∀ w, Leaves (e w).ahead (y w)) :
    Agrees Enclosure.closing c shift x y :=
  .beyond (.inl hx) fun w => by simpa [he, h] using hy w

/-- A reading that starts further on. -/
theorem of_suffix {d : Cursor} (hd : Agrees tail d shift x y) (h : d.ahead <:+ c.ahead) :
    Agrees tail c shift x y := by
  cases hd with
  | same a d hx hy => exact .same a d hx hy
  | beyond hx hy => exact .beyond (hx.imp_right (h.subset ·)) hy

/-- Readings one after the other, the second one of an end of `s`. It does not find a parenthesis
that is lost. -/
theorem bindFrom {s : List Char} {f : α × Cursor → Except Fault (β × Cursor)}
    {g : Enclosure → α × Cursor → Except Fault (β × Cursor)} (hx : Agrees tail c shift x y)
    (hs : s <:+ c.ahead) (hleaves : Leaves s x)
    (hf : ∀ a d, x = .ok (a, d) → d.ahead <:+ s →
      Agrees tail' d move (f (a, d)) fun w => g w (shift w.offset a, d.within w))
    (hg : ∀ w a d, d.ahead <:+ tail w → Leaves (tail' w) (g w (a, d))) :
    Agrees tail' c move (x >>= f) fun w => y w >>= g w := by
  cases hx with
  | same a d hx hy =>
    have hsuffix := hleaves.suffix a d hx
    have hrest := (hf a d hx hsuffix).of_suffix (hsuffix.trans hs)
    simp only [hx, hy]
    exact hrest
  | beyond hx hy =>
    exact .beyond (hx.imp_left bind_ne_ok) fun w => (hy w).bind (hg w)

theorem bind {f : α × Cursor → Except Fault (β × Cursor)}
    {g : Enclosure → α × Cursor → Except Fault (β × Cursor)} (hx : Agrees tail c shift x y)
    (hleaves : Leaves c.ahead x)
    (hf : ∀ a d, d.ahead <:+ c.ahead →
      Agrees tail' d move (f (a, d)) fun w => g w (shift w.offset a, d.within w))
    (hg : ∀ w a d, d.ahead <:+ tail w → Leaves (tail' w) (g w (a, d))) :
    Agrees tail' c move (x >>= f) fun w => y w >>= g w :=
  hx.bindFrom List.suffix_rfl hleaves (fun a d _ => hf a d) hg

/-- A reading after a value, which is moved in an enclosure. -/
theorem value {move : Enclosure → β → β} {v : Except Fault β} {v' : Enclosure → Except Fault β}
    {f : β → Except Fault (α × Cursor)} {g : Enclosure → β → Except Fault (α × Cursor)}
    (hv : ∀ w, (v' w).toOption = v.toOption.map (move w))
    (hf : ∀ b, Agrees tail c shift (f b) fun w => g w (move w b)) :
    Agrees tail c shift (v >>= f) fun w => v' w >>= g w := by
  rcases v with fault | b
  · have hv' : ∀ w, ∃ fault, v' w = .error fault := by
      intro w
      have hw := hv w
      cases hvw : v' w with
      | error fault => exact ⟨fault, rfl⟩
      | ok b =>
        rw [hvw] at hw
        cases hw
    refine .beyond (.inl nofun) fun w => ?_
    obtain ⟨fault, hw⟩ := hv' w
    rw [hw]
    exact .error
  · have hv' : ∀ w, v' w = .ok (move w b) := by
      intro w
      have hw := hv w
      cases hvw : v' w with
      | error fault =>
        rw [hvw] at hw
        cases hw
      | ok b =>
        rw [hvw] at hw
        cases hw
        rfl
    simp only [hv']
    exact hf b

/-- A value at a place, unless it is a fault. -/
theorem pureWith {d : Cursor} {v : Except Fault α} {v' : Enclosure → Except Fault α}
    (hv : ∀ w, (v' w).toOption = v.toOption.map (shift w.offset)) :
    Agrees tail c shift (do return (← v, d)) fun w => do return (← v' w, d.within w) :=
  value hv fun b => .same b d rfl fun _ => rfl

/-- A reading after one that cannot fail. -/
theorem andThen {p : α × Cursor} {q : Enclosure → α × Cursor}
    {f : α × Cursor → Except Fault (β × Cursor)}
    {g : Enclosure → α × Cursor → Except Fault (β × Cursor)}
    (hp : Agrees tail c shift (.ok p) fun w => .ok (q w)) (hsuffix : p.2.ahead <:+ c.ahead)
    (hf : ∀ a d, d.ahead <:+ c.ahead →
      Agrees tail' d move (f (a, d)) fun w => g w (shift w.offset a, d.within w))
    (hg : ∀ w a d, d.ahead <:+ tail w → Leaves (tail' w) (g w (a, d))) :
    Agrees tail' c move (f p) fun w => g w (q w) :=
  bind hp (.ok hsuffix) hf hg

end Agrees

end Formulary.Pattern
