import Formulary.Proofs.Conformance
import Formulary.Proofs.Pattern.Body
import Formulary.Proofs.Pattern.Matching

/-!
# Patterns for whole values

A pattern for a value is put between parentheses that are not captured, with the conditions around
them that the text begins and that it ends. This says what the pattern has to match as long as the
parentheses enclose it: when none of its own parentheses closes the one in front of it, and when the
one behind it is not lost in a comment.

## Main definitions

* `Unopened` : a parenthesis of the pattern closes no group of the pattern;
* `Encloses` : a parenthesis behind the pattern is not taken for a part of it;
* `FitsWhole` : a text is a pattern that can be put between the parentheses.

## Main statements

* `compileAnchored_iff` : which texts can be matched against whole values, and by what;
* `compileAnchored_spec` : what validation accepts is matched from end to end.
-/
namespace Formulary.Pattern

open Formulary.Pattern.Cursor

variable {p : String} {r r' : Regex}

/-! ### The place of a pattern -/

/-- Reading a pattern fails at a parenthesis that closes no group. -/
def Unopened (p : String) : Prop := ∃ span, Ast.read p = faultAt .groupUnopened span

def Cursor.before (s : String) : Cursor := ⟨s.toList, 0, false, []⟩

/-- A closing parenthesis behind the pattern is read as one that closes no group of it. -/
def Encloses (p : String) : Prop :=
  ∃ ast after, readBody (p.length + 2) (.start 0) (.before (p ++ ")")) = .ok (ast, after) ∧
    after.ahead = [')']

namespace Enclosure

/-- A closing parenthesis behind a pattern. -/
def behind : Enclosure := ⟨0, [], List.not_mem_nil⟩

/-- The parentheses and conditions around a pattern for whole values. -/
def whole : Enclosure := ⟨4, ['$'], by decide⟩

end Enclosure

theorem before_append_paren (p : String) : before (p ++ ")") = (before p).within .behind := by
  simp [before, within, Enclosure.behind, Enclosure.closing]

/-- What is read alone, with a parenthesis behind, and with parentheses around. -/
theorem readBody_before (p : String) :
    (∃ ast after, readBody (p.length + 1) (.start 0) (before p) = .ok (ast, after) ∧
      readBody (p.length + 2) (.start 0) (before (p ++ ")")) =
        .ok (ast.shift 0, after.within .behind) ∧
      readBody (p.length + 5) (.start 4) ((before p).within .whole) =
        .ok (ast.shift 4, after.within .whole)) ∨
    ((∀ a, readBody (p.length + 1) (.start 0) (before p) ≠ .ok a) ∨ '#' ∈ p.toList) ∧
      Leaves [] (readBody (p.length + 2) (.start 0) (before (p ++ ")"))) ∧
      Leaves ['$'] (readBody (p.length + 5) (.start 4) ((before p).within .whole)) := by
  have hlength : (before p).ahead.length = p.length := String.length_toList
  have hbody := readBody_agrees (m := fun w => if w.offset = 0 then p.length + 2 else p.length + 5)
    (.start 0) (before p) (Nat.lt_succ_of_le hlength.le) fun w => by split <;> omega
  rw [before_append_paren]
  cases hbody with
  | same ast after hx hy => exact .inl ⟨ast, after, hx, hy .behind, hy .whole⟩
  | beyond hx hy => exact .inr ⟨hx, hy .behind, hy .whole⟩

/-- What stands in front of a pattern for whole values begins a group around it. -/
theorem read_wrap_eq (p : String) :
    Ast.read (wrap p) = (do
      let (ast, after) ← readAfterHead (readBody (p.length + 5))
        ((Branches.start 0).push (.look ⟨0, 1⟩ .lineStart))
        ⟨'(' :: '?' :: ':' :: (p.toList ++ [')', '$']), 1, false, []⟩
        (.group false [], (before p).within .whole)
      if after.atEnd then return ast else faultAt .groupUnopened after.charSpan) := by
  have htext : (wrap p).toList = '^' :: '(' :: '?' :: ':' :: (p.toList ++ [')', '$']) := by
    simp [wrap]
  have hlength : (wrap p).length = p.length + 6 := by
    simp [← String.length_toList, htext]
  rw [Ast.read, hlength, htext]
  rfl

/-- A pattern between the parentheses and the conditions. -/
def Ast.wrapped (ast : Ast) (stop : Nat) : Ast :=
  .concat ⟨0, stop + 2⟩
    [.look ⟨0, 1⟩ .lineStart, .group ⟨1, stop + 1⟩ false [] ast,
      .look ⟨stop + 1, stop + 2⟩ .lineEnd]

theorem read_eq (p : String) :
    Ast.read p = (do
      let (ast, after) ← readBody (p.length + 1) (.start 0) (before p)
      if after.atEnd then return ast else faultAt .groupUnopened after.charSpan) :=
  rfl

/-- A pattern whose parentheses are its own is read between the parentheses as it is alone, or else
nothing is. -/
theorem read_wrap (hp : ¬ Unopened p) :
    (Encloses p ∧ ∃ ast stop, Ast.read p = .ok ast ∧
      Ast.read (wrap p) = .ok ((ast.shift 4).wrapped stop)) ∨
    ¬ Encloses p ∧ ∀ ast, Ast.read (wrap p) ≠ .ok ast := by
  rw [read_wrap_eq]
  obtain ⟨ast, after, hx, hbehind, hwhole⟩ | ⟨hx, hbehind, hwhole⟩ := readBody_before p
  · left
    have hend : after.ahead = [] := by
      by_contra hmore
      refine hp ⟨after.charSpan, ?_⟩
      rw [read_eq, hx]
      exact if_neg (by simpa [atEnd] using hmore)
    refine ⟨⟨_, _, hbehind, by simp [hend, Enclosure.behind, Enclosure.closing]⟩, ast,
      after.pos + 4, ?_, ?_⟩
    · rw [read_eq, hx]
      exact if_pos (atEnd_of_end hend)
    · have hinner : readBody (p.length + 5) (.start ((before p).within .whole).pos)
          { (before p).within .whole with verbose := verboseAfter [] false } =
            .ok (ast.shift 4, after.within .whole) := hwhole
      obtain ⟨ahead, pos, verbose, names⟩ := after
      obtain rfl : ahead = [] := hend
      simp only [readAfterHead]
      rw [hinner]
      rfl
  · right
    refine ⟨?_, ?_⟩
    · rintro ⟨ast, after, hread, hend⟩
      have := (hbehind.suffix ast after hread).length_le
      simp [hend] at this
    · have hinner : Leaves ['$'] (readBody (p.length + 5) (.start ((before p).within .whole).pos)
          { (before p).within .whole with verbose := verboseAfter [] false }) := hwhole
      refine bind_ne_ok fun whole hwhole => ?_
      obtain ⟨⟨inner, after⟩, hread, hthen⟩ := bind_eq_ok.1 hwhole
      have hlost : after.next? ≠ some ')' := fun h => by
        simpa using (hinner.suffix inner after hread).subset (List.mem_of_mem_head? h)
      exact faultAt_ne_ok _ ((if_neg hlost).symm.trans hthen)

/-! ### The meaning of a pattern for whole values -/

theorem toOption_eq_some_iff {α ε : Type} {x : Except ε α} {a : α} :
    x.toOption = some a ↔ x = .ok a := by
  cases x <;> simp [Except.toOption]

theorem toOption_meaning_wrapped (ast : Ast) (stop : Nat) :
    ((ast.wrapped stop).meaning {}).toOption =
      (ast.meaning {}).toOption.map fun m => (m.1.anchored, {}) := by
  have hswitch : ∀ mode : Mode, mode.switchAll [] = mode := fun _ => rfl
  simp only [Ast.wrapped, Ast.meaning, Ast.sequence, bind, Except.bind, hswitch]
  cases ast.meaning {} <;> rfl

theorem tooDeep?_wrapped (ast : Ast) (stop : Nat) :
    (ast.wrapped stop).tooDeep? = ast.tooDeepBelow? 2 := by
  simp [Ast.wrapped, Ast.tooDeep?, Ast.tooDeepBelow?, Ast.firstTooDeepBelow?, depthLimit]

theorem readRegex_eq_ok_iff : readRegex p = .ok r ↔
    ∃ ast mode, Ast.read p = .ok ast ∧ ast.tooDeep? = none ∧ ast.meaning {} = .ok (r, mode) := by
  rw [readRegex, bind_eq_ok]
  refine exists_congr fun ast => ?_
  cases ast.tooDeep? with
  | some span => simp
  | none => simp [bind_eq_ok, pure, Except.pure]

theorem compile_eq_ok_iff : compile p = .ok r ↔
    readRegex p = .ok r ∧ Automaton.isTooLarge r = false := by
  unfold compile
  cases readRegex p with
  | error => simp
  | ok r' =>
    simp only [Except.ok.injEq]
    split
    · rename_i hlarge
      simp only [reduceCtorEq, false_iff, not_and]
      rintro rfl
      simp [hlarge]
    · rename_i hfits
      simp only [Except.ok.injEq, iff_self_and]
      rintro rfl
      simpa using hfits

/-- A text is a pattern, and can be put between the parentheses: they enclose it, it does not nest
too deeply in them, and the automaton of the whole is not too large. -/
structure FitsWhole (p : String) (r : Regex) : Prop where
  reads : readRegex p = .ok r
  encloses : Encloses p
  nests : ∀ ast, Ast.read p = .ok ast → ast.tooDeepBelow? 2 = none
  fits : Automaton.isTooLarge (r.shift 4).anchored = false

/-- Between the parentheses a pattern means the same, with the conditions around it. -/
theorem readRegex_wrap_iff (hp : ¬ Unopened p) : readRegex (wrap p) = .ok r' ↔
    ∃ r, readRegex p = .ok r ∧ Encloses p ∧ (∀ ast, Ast.read p = .ok ast →
      ast.tooDeepBelow? 2 = none) ∧ r' = (r.shift 4).anchored := by
  obtain ⟨hencloses, ast, stop, hread, hwrap⟩ | ⟨hencloses, hwrap⟩ := read_wrap hp
  · have hnests : ((ast.shift 4).wrapped stop).tooDeep? = none ↔ ast.tooDeepBelow? 2 = none := by
      rw [tooDeep?_wrapped, ← Option.isNone_iff_eq_none, Ast.isNone_tooDeepBelow?_shift,
        Option.isNone_iff_eq_none]
    have hmeaning : ∀ m, ((ast.shift 4).wrapped stop).meaning {} = .ok m ↔
        ∃ r mode, ast.meaning {} = .ok (r, mode) ∧ ((r.shift 4).anchored, ({} : Mode)) = m := by
      intro m
      rw [← toOption_eq_some_iff, toOption_meaning_wrapped, Ast.meaning_shift]
      simp [Option.map_eq_some_iff, toOption_eq_some_iff]
    rw [readRegex_eq_ok_iff]
    constructor
    · rintro ⟨ast', mode, hread', hdeep, hm⟩
      obtain rfl := Except.ok.inj (hwrap.symm.trans hread')
      obtain ⟨r, mode', hr, hm⟩ := (hmeaning _).1 hm
      obtain ⟨rfl, -⟩ := Prod.mk.inj hm
      have hshallow := hnests.1 hdeep
      refine ⟨r, readRegex_eq_ok_iff.2 ⟨ast, mode', hread, ?_, hr⟩, hencloses, ?_, rfl⟩
      · exact Ast.tooDeepBelow?_eq_none_of_le (Nat.zero_le 2) ast hshallow
      · rintro ast' hast'
        obtain rfl := Except.ok.inj (hread.symm.trans hast')
        exact hshallow
    · rintro ⟨r, hr, -, hshallow, rfl⟩
      obtain ⟨ast', mode, hread', -, hm⟩ := readRegex_eq_ok_iff.1 hr
      obtain rfl := Except.ok.inj (hread.symm.trans hread')
      exact ⟨_, {}, hwrap, hnests.2 (hshallow ast hread), (hmeaning _).2 ⟨r, mode, hm, rfl⟩⟩
  · constructor
    · intro h
      obtain ⟨ast, -, hread, -⟩ := readRegex_eq_ok_iff.1 h
      exact absurd hread (hwrap ast)
    · rintro ⟨r, -, h, -⟩
      exact absurd h hencloses

/-- What a pattern is compiled to for whole values. -/
theorem compileAnchored_iff (hp : ¬ Unopened p) :
    compileAnchored p = .ok r' ↔ ∃ r, FitsWhole p r ∧ r' = (r.shift 4).anchored := by
  rw [compileAnchored, compile_eq_ok_iff, readRegex_wrap_iff hp]
  constructor
  · rintro ⟨⟨r, hread, hencloses, hnests, rfl⟩, hfits⟩
    exact ⟨r, ⟨hread, hencloses, hnests, hfits⟩, rfl⟩
  · rintro ⟨r, ⟨hread, hencloses, hnests, hfits⟩, rfl⟩
    exact ⟨⟨r, hread, hencloses, hnests, rfl⟩, hfits⟩

/-- A pattern without the sign of a comment is enclosed. -/
theorem encloses_of_readRegex (h : readRegex p = .ok r) (hsign : '#' ∉ p.toList) : Encloses p := by
  obtain ⟨ast, mode, hread, -, -⟩ := readRegex_eq_ok_iff.1 h
  rw [read_eq] at hread
  obtain ⟨ast', after, hx, hbehind, -⟩ | ⟨hx | hmem, -⟩ := readBody_before p
  · refine ⟨_, _, hbehind, ?_⟩
    have hend : after.ahead = [] := by
      by_contra hmore
      have hatEnd : after.atEnd ≠ true := by simpa [atEnd] using hmore
      simp [hx, bind, Except.bind, hatEnd, faultAt] at hread
    simp [hend, Enclosure.behind, Enclosure.closing]
  · exact absurd hread (bind_ne_ok hx _)
  · exact absurd hmem hsign

/-! ### Whole values -/

/-- A pattern whose parentheses are its own constrains whole values. It can be matched against
values exactly when it fits between the parentheses, for which it has to be a pattern; then it
matches a text from the first character to the last one, and no other text is accepted for an
input. Only the sign of a comment can keep a pattern from being enclosed. -/
theorem compileAnchored_matches_whole (p : String) (hp : ¬ Unopened p) :
    ((∃ r', compileAnchored p = .ok r') ↔ ∃ r, FitsWhole p r) ∧
    (∀ r', compileAnchored p = .ok r' →
      ∃ r, readRegex p = .ok r ∧ ∀ s, r'.isMatch s = r.matchesWhole s) ∧
    (∀ (q : Parameter) (s : String), q.dataType = .string → q.pattern = some p →
      (q.valueViolation? (.text s) = none ↔ ∃ r, FitsWhole p r ∧ r.matchesWhole s = true)) ∧
    ∀ r, readRegex p = .ok r → '#' ∉ p.toList → Encloses p := by
  have hmatch : ∀ (r : Regex) (s : String),
      (r.shift 4).anchored.isMatch s = r.matchesWhole s := by
    intro r s
    rw [Regex.isMatch_anchored]
    simp only [Regex.matchesWhole, Regex.ends_shift]
  refine ⟨⟨?_, ?_⟩, ?_, ?_, fun r hr hsign => encloses_of_readRegex hr hsign⟩
  · rintro ⟨r', h⟩
    obtain ⟨r, hfits, -⟩ := (compileAnchored_iff hp).1 h
    exact ⟨r, hfits⟩
  · rintro ⟨r, hfits⟩
    exact ⟨_, (compileAnchored_iff hp).2 ⟨r, hfits, rfl⟩⟩
  · intro r' h
    obtain ⟨r, hfits, rfl⟩ := (compileAnchored_iff hp).1 h
    exact ⟨r, hfits.reads, hmatch r⟩
  · intro q s hstring hq
    have hpattern : q.valueViolation? (.text s) = q.patternViolation? s := by
      simp only [Parameter.valueViolation?, hstring]
    rw [hpattern, Parameter.patternViolation?_eq_none_iff]
    constructor
    · intro hs
      obtain ⟨r', h, hs⟩ := hs p hq
      obtain ⟨r, hfits, rfl⟩ := (compileAnchored_iff hp).1 h
      exact ⟨r, hfits, hmatch r s ▸ hs⟩
    · rintro ⟨r, hfits, hs⟩ p' hp'
      obtain rfl := Option.some.inj (hq.symm.trans hp')
      exact ⟨_, (compileAnchored_iff hp).2 ⟨r, hfits, rfl⟩, (hmatch r s).trans hs⟩

/-- Three capital letters, and nothing around them. -/
theorem compileAnchored_matches_whole_grade : ¬ Unopened "[A-Z]{3}" ∧
    ∃ r' r, compileAnchored "[A-Z]{3}" = .ok r' ∧ FitsWhole "[A-Z]{3}" r ∧
      r'.isMatch "ABC" = true ∧ r'.isMatch "ABCD" = false ∧
      ∀ s, r'.isMatch s = r.matchesWhole s := by
  have hread : (Ast.read "[A-Z]{3}").toOption.isSome = true := by decide +kernel
  have hown : ¬ Unopened "[A-Z]{3}" := by
    rintro ⟨span, hspan⟩
    rw [hspan] at hread
    exact Bool.noConfusion hread
  have hmatches : (compileAnchored "[A-Z]{3}").toOption.map
      (fun r' => (r'.isMatch "ABC", r'.isMatch "ABCD")) = some (true, false) := by decide +kernel
  obtain ⟨r', hr', hmatch⟩ := Option.map_eq_some_iff.1 hmatches
  obtain ⟨hshort, hlong⟩ := Prod.mk.inj hmatch
  obtain ⟨hcompiles, hwhole, -⟩ := compileAnchored_matches_whole _ hown
  obtain ⟨r, hfits⟩ := hcompiles.1 ⟨r', toOption_eq_some_iff.1 hr'⟩
  obtain ⟨r'', hreads, hsame⟩ := hwhole r' (toOption_eq_some_iff.1 hr')
  obtain rfl := Except.ok.inj (hfits.reads.symm.trans hreads)
  exact ⟨hown, r', r, toOption_eq_some_iff.1 hr', hfits, hshort, hlong, hsame⟩

/-- A parenthesis that closes no group of the pattern closes the group around it. The text is no
pattern then, but both alternatives are matched against parts of a value. -/
theorem not_forall_matches_whole : ¬ ∀ p s : String,
    ((∃ r', compileAnchored p = .ok r') ↔ ∃ r, readRegex p = .ok r) ∧
    ∀ r', compileAnchored p = .ok r' →
      (r'.isMatch s = true ↔ ∃ r, readRegex p = .ok r ∧ r.matchesWhole s = true) := by
  intro h
  have haccepts : (compileAnchored "a)|(?:b").toOption.map (·.isMatch "axx") = some true := by
    decide +kernel
  have hrefused : (readRegex "a)|(?:b").toOption.isNone = true := by decide +kernel
  obtain ⟨r', hr', hmatch⟩ := Option.map_eq_some_iff.1 haccepts
  obtain ⟨r, hr, -⟩ := ((h "a)|(?:b" "axx").2 r' (toOption_eq_some_iff.1 hr')).1 hmatch
  simp [hr, Except.toOption] at hrefused

end Formulary.Pattern
