import Formulary.Proofs.Pattern.Enclosure

/-!
# Reading goes on

What a reader of patterns leaves is the end of what was ahead of it. Readers of parts that cannot
be empty take a character at least.

## Main statements

* `leaves_readEscape`, `leaves_readClass`, `leaves_readGroupHead`, `leaves_readCounts` : the readers
  of parts;
* `leaves_readBody` : the reader of alternatives.
-/
namespace Formulary.Pattern

open Cursor

variable {c : Cursor} {s : List Char}

/-! ### Escapes -/

theorem leaves_readHexDigits (start count value : Nat) (c : Cursor) :
    Leaves c.ahead (readHexDigits start count value c) := by
  induction count generalizing value c with
  | zero =>
    rw [readHexDigits]
    split
    · exact .ok List.suffix_rfl
    · exact .error
  | succ count ih =>
    rw [readHexDigits]
    split
    · exact .error
    · split
      · exact .error
      · exact (ih ..).mono c.bumpSkip_suffix

theorem leaves_readHexDigits_of_pos {start count value : Nat} (h : 0 < count) (c : Cursor) :
    Leaves c.bump.ahead (readHexDigits start count value c) := by
  obtain ⟨count, rfl⟩ := Nat.exists_eq_add_one_of_ne_zero (Nat.pos_iff_ne_zero.1 h)
  rw [readHexDigits]
  split
  · exact .error
  · split
    · exact .error
    · exact (leaves_readHexDigits ..).mono c.ahead_bumpSkip_suffix

theorem leaves_readHexBraced (brace fuel : Nat) (digits : List Nat) (c : Cursor) :
    Leaves c.bump.ahead (readHexBraced brace fuel digits c) := by
  induction fuel generalizing digits c with
  | zero => exact .error
  | succ fuel ih =>
    rw [readHexBraced]
    split
    · exact .error
    · split
      · exact .error
      · split
        · exact .ok c.ahead_bumpSkip_suffix
        · exact .error
    · split
      · exact .error
      · exact (ih ..).mono (ahead_bump_suffix _ |>.trans c.ahead_bumpSkip_suffix)

theorem leaves_readHex (start : Nat) (letter : Char) (c : Cursor) :
    Leaves c.bumpSkip.bump.ahead (readHex start letter c) := by
  have hdigits : 0 < if letter = 'x' then 2 else if letter = 'u' then 4 else 8 := by grind
  rw [readHex]
  split
  · exact .error
  · refine (leaves_readHexBraced ..).bind fun _ d hd => .pure (hd.trans ?_)
    exact (ahead_bump_suffix _).trans (ahead_bumpSkip_suffix _)
  · exact (leaves_readHexDigits_of_pos hdigits _).bind fun _ d hd => .pure hd

theorem leaves_readPropertyName (fuel : Nat) (name : List Char) (c : Cursor) :
    Leaves c.bump.ahead (readPropertyName fuel name c) := by
  induction fuel generalizing name c with
  | zero => exact .error
  | succ fuel ih =>
    rw [readPropertyName]
    split
    · exact .error
    · exact .ok List.suffix_rfl
    · exact (ih ..).mono ((ahead_bump_suffix _).trans c.ahead_bumpSkip_suffix)

theorem leaves_readProperty (start : Nat) (negated : Bool) (c : Cursor) :
    Leaves c.bumpSkip.bump.ahead (readProperty start negated c) := by
  rw [readProperty]
  split
  · exact .error
  · refine (leaves_readPropertyName ..).bind fun _ d hd => .pure (hd.trans ?_)
    exact (ahead_bump_suffix _).trans (ahead_bumpSkip_suffix _)
  · exact .error
  · exact .ok (ahead_bumpSkip_suffix _)

theorem ahead_readBoundaryName_suffix (fuel : Nat) (name : List Char) (c : Cursor) :
    (readBoundaryName fuel name c).2.ahead <:+ c.ahead := by
  induction fuel generalizing name c with
  | zero => exact List.suffix_rfl
  | succ fuel ih =>
    rw [readBoundaryName]
    split
    · split
      · exact (ih ..).trans c.bumpSkip_suffix
      · exact List.suffix_rfl
    · exact List.suffix_rfl

theorem leaves_closeBoundary (opening begun : Nat) (name : List Char) (c : Cursor) :
    Leaves c.bump.ahead (closeBoundary opening begun name c) := by
  unfold closeBoundary
  split
  · exact .error
  · split
    · exact .ok List.suffix_rfl
    · exact .error

theorem leaves_readBoundary (start : Nat) (c : Cursor) :
    Leaves c.ahead (readBoundary start c) := by
  rw [readBoundary]
  split
  · exact .error
  · split
    · exact .ok List.suffix_rfl
    · have hname := ahead_readBoundaryName_suffix c.bumpSkip.ahead.length [] c.bumpSkip
      exact (leaves_closeBoundary ..).mono
        ((ahead_bump_suffix _).trans (hname.trans c.bumpSkip_suffix))

theorem leaves_readEscape (c : Cursor) : Leaves c.bump.bump.ahead (readEscape c) := by
  have hskip : c.bump.bumpSkip.bump.ahead <:+ c.bump.bump.ahead :=
    (ahead_bump_suffix _).trans c.bump.ahead_bumpSkip_suffix
  rw [readEscape]
  split
  · exact .error
  · split
    · exact .error
    · split
      · exact (leaves_readHex ..).bind fun _ d hd => .pure (hd.trans hskip)
      · split
        · exact (leaves_readProperty ..).bind fun _ d hd => .pure (hd.trans hskip)
        · split
          · exact .ok List.suffix_rfl
          · split
            · exact .ok List.suffix_rfl
            · split
              · exact .ok List.suffix_rfl
              · split
                · simp only
                  split
                  · exact (leaves_readBoundary ..).bind fun _ d hd => .pure hd
                  · exact .ok List.suffix_rfl
                · split
                  · exact .ok List.suffix_rfl
                  · exact .error

/-! ### Classes -/

theorem ahead_asciiClassAt?_suffix {negated : Bool} {rest : List Char} {item : ClassItem}
    {d : Cursor} (h : asciiClassAt? c negated rest = some (item, d)) :
    d.ahead <:+ c.bump.ahead := by
  unfold asciiClassAt? at h
  simp only at h
  split at h
  · obtain ⟨kind, -, hd⟩ := Option.map_eq_some_iff.1 h
    obtain ⟨-, rfl⟩ := Prod.mk.inj hd
    exact c.ahead_advance_suffix_bump (by omega)
  · cases h

theorem ahead_readAsciiClass?_suffix {item : ClassItem} {d : Cursor}
    (h : readAsciiClass? c = some (item, d)) : d.ahead <:+ c.bump.ahead := by
  unfold readAsciiClass? at h
  split at h
  · exact ahead_asciiClassAt?_suffix h
  · exact ahead_asciiClassAt?_suffix h
  · cases h

theorem leaves_readClassMember (c : Cursor) : Leaves c.bump.ahead (readClassMember c) := by
  rw [readClassMember]
  split
  · exact (leaves_readEscape c).bind fun _ d hd => .pure (hd.trans (ahead_bump_suffix _))
  · exact .ok List.suffix_rfl
  · exact .error

theorem leaves_readRangeFrom (head : Span) (first : Ast × Span) (c : Cursor) :
    Leaves c.ahead (readRangeFrom head first c) := by
  unfold readRangeFrom
  split
  · exact .error
  · simp only
    split
    · exact .pureWith List.suffix_rfl
    · split
      · exact .error
      · refine (leaves_readClassMember _).bind fun last d hd => .pureWith ?_
        exact hd.trans ((ahead_bump_suffix _).trans c.bumpSkip_suffix)

theorem leaves_readRange (head : Span) (c : Cursor) :
    Leaves c.bump.ahead (readRange head c) :=
  (leaves_readClassMember c).bind fun _ d hd =>
    (leaves_readRangeFrom ..).mono ((ahead_skipGap_suffix d).trans hd)

theorem leaves_readHyphens (start fuel : Nat) (items : List ClassItem) (c : Cursor) :
    Leaves c.ahead (readHyphens start fuel items c) := by
  induction fuel generalizing items c with
  | zero => exact .ok List.suffix_rfl
  | succ fuel ih =>
    rw [readHyphens]
    split
    · simp only
      split
      · exact .error
      · exact (ih ..).mono c.bumpSkip_suffix
    · exact .ok List.suffix_rfl

theorem leaves_readFirstMembers (start : Nat) (negated : Bool) (c : Cursor) :
    Leaves c.ahead (readFirstMembers start negated c) := by
  refine .guard ((leaves_readHyphens ..).bind fun items d hd => ?_)
  simp only
  split
  · exact .guard (.pure (d.bumpSkip_suffix.trans hd))
  · exact .pure hd

theorem leaves_readClassHead (c : Cursor) : Leaves c.bumpSkip.ahead (readClassHead c) := by
  unfold readClassHead
  simp only
  split
  · exact .error
  · split
    · exact (leaves_readFirstMembers ..).mono (bumpSkip_suffix _)
    · exact leaves_readFirstMembers ..

theorem leaves_readClassBody (head : Span) (negated : Bool) (fuel : Nat)
    (pending : Option (SetOp × ClassItem)) (begun : Nat) (items : List ClassItem) (c : Cursor) :
    Leaves c.skipGap.bump.ahead (readClassBody head negated fuel pending begun items c) := by
  induction fuel generalizing head negated pending begun items c with
  | zero => exact .error
  | succ fuel ih =>
    have hnext : ∀ d : Cursor, d.skipGap.bump.ahead <:+ d.ahead := fun d =>
      (ahead_bump_suffix _).trans d.ahead_skipGap_suffix
    unfold readClassBody
    generalize c.skipGap = c
    simp only
    split
    · exact .error
    · split
      · rename_i item d hclass
        exact (ih ..).mono ((hnext d).trans (ahead_readAsciiClass?_suffix hclass))
      · refine (leaves_readClassHead c).bind fun inner d hd => ?_
        refine (ih ..).bind fun item d' hd' => ?_
        have hinner := hd'.trans ((hnext d).trans (hd.trans c.ahead_bumpSkip_suffix))
        exact (ih ..).mono ((hnext d').trans hinner)
    · exact .ok List.suffix_rfl
    · split
      · exact (ih ..).mono ((hnext _).trans (c.ahead_advance_suffix_bump (by omega)))
      · exact (leaves_readRange head c).bind fun item d hd => (ih ..).mono ((hnext d).trans hd)

theorem leaves_readClass (c : Cursor) : Leaves c.bump.ahead (readClass c) := by
  refine (leaves_readClassHead c).bind fun head d hd => ?_
  refine (leaves_readClassBody ..).bind fun item d' hd' => .pure ?_
  have hbody := hd'.trans (ahead_bump_suffix_bump d.ahead_skipGap_suffix)
  exact hbody.trans ((ahead_bump_suffix d).trans (hd.trans c.ahead_bumpSkip_suffix))

/-! ### Groups -/

theorem leaves_readFlags (fuel : Nat) (seen : List (Option Flag × Span)) (c : Cursor) :
    Leaves c.ahead (readFlags fuel seen c) := by
  induction fuel generalizing seen c with
  | zero => exact .ok List.suffix_rfl
  | succ fuel ih =>
    unfold readFlags
    split
    · exact .error
    · split
      · split
        · exact .error
        · exact .ok List.suffix_rfl
      · simp only
        split
        · exact .error
        · split
          · exact .error
          · split
            · exact .error
            · exact (ih ..).mono c.ahead_bump_suffix

theorem ahead_readNameChars_suffix {start fuel : Nat} {d : Cursor}
    (h : readNameChars start fuel c = .ok d) : d.ahead <:+ c.ahead := by
  induction fuel generalizing c with
  | zero =>
    cases h
    exact List.suffix_rfl
  | succ fuel ih =>
    rw [readNameChars] at h
    split at h
    · cases h
      exact List.suffix_rfl
    · cases h
      exact List.suffix_rfl
    · split at h
      · exact (ih h).trans c.ahead_bump_suffix
      · cases h

theorem ahead_closeGroupName_suffix {after d : Cursor} (h : closeGroupName c after = .ok d) :
    d.ahead <:+ after.bump.ahead := by
  unfold closeGroupName at h
  split at h
  · cases h
  · simp only at h
    split at h
    · cases h
    · split at h
      · cases h
      · cases h
        exact List.suffix_rfl

theorem ahead_readGroupName_suffix {d : Cursor} (h : readGroupName c = .ok d) :
    d.ahead <:+ c.bump.ahead := by
  unfold readGroupName at h
  split at h
  · cases h
  · cases hchars : readNameChars c.pos c.ahead.length c with
    | error fault =>
      rw [hchars] at h
      cases h
    | ok after =>
      rw [hchars] at h
      exact (ahead_closeGroupName_suffix h).trans
        (ahead_bump_suffix_bump (ahead_readNameChars_suffix hchars))

theorem leaves_bind_readGroupName {α : Type} (a : α) (c : Cursor) :
    Leaves c.bump.ahead (do return (a, ← readGroupName c)) := by
  cases h : readGroupName c with
  | error => exact .error
  | ok d => exact .pure (ahead_readGroupName_suffix h)

theorem leaves_readSwitches (opening mark : Span) (c : Cursor) :
    Leaves c.bump.ahead (readSwitches opening mark c) := by
  unfold readSwitches
  split
  · exact .error
  · refine (leaves_readFlags ..).bind fun seen d hd => ?_
    simp only
    split
    · split
      · exact .error
      · exact .pure (ahead_bump_suffix_bump hd)
    · exact .pure (ahead_bump_suffix_bump hd)

theorem leaves_readGroupHead (c : Cursor) : Leaves c.bumpSkip.ahead (readGroupHead c) := by
  have hname : ∀ n, (c.bumpSkip.advance n).bump.ahead <:+ c.bumpSkip.ahead := fun n =>
    (ahead_bump_suffix _).trans (ahead_advance_suffix _ n)
  unfold readGroupHead
  simp only
  split
  · exact .error
  · split
    · exact (leaves_bind_readGroupName ..).mono (hname 3)
    · split
      · exact (leaves_bind_readGroupName ..).mono (hname 2)
      · split
        · exact (leaves_readSwitches ..).mono
            ((ahead_bump_suffix _).trans (ahead_bump_suffix _))
        · exact .ok List.suffix_rfl

/-! ### Counts -/

theorem ahead_readDecimalDigits_suffix (fuel : Nat) (digits : List Char) (c : Cursor) :
    (readDecimalDigits fuel digits c).2.ahead <:+ c.ahead := by
  induction fuel generalizing digits c with
  | zero => exact List.suffix_rfl
  | succ fuel ih =>
    rw [readDecimalDigits]
    split
    · split
      · exact (ih ..).trans c.bumpSkip_suffix
      · exact List.suffix_rfl
    · exact List.suffix_rfl

theorem ahead_skipBlanksBy_suffix {step : Cursor → Cursor}
    (hstep : ∀ c, (step c).ahead <:+ c.ahead) (fuel : Nat) (c : Cursor) :
    (skipBlanksBy step fuel c).ahead <:+ c.ahead := by
  induction fuel generalizing c with
  | zero => exact List.suffix_rfl
  | succ fuel ih =>
    rw [skipBlanksBy]
    split
    · split
      · exact (ih _).trans (hstep c)
      · exact List.suffix_rfl
    · exact List.suffix_rfl

theorem ahead_readDecimal_suffix (c : Cursor) : (readDecimal c).2.ahead <:+ c.ahead :=
  (ahead_skipBlanksBy_suffix bumpSkip_suffix ..).trans <|
    (ahead_readDecimalDigits_suffix ..).trans (ahead_skipBlanksBy_suffix ahead_bump_suffix ..)

theorem leaves_readUpper (least : Except Fault Nat) (c : Cursor) :
    Leaves c.ahead (readUpper least c) := by
  unfold readUpper
  cases least with
  | error => exact .error
  | ok least =>
    simp only [bind, Except.bind]
    split
    · exact .pure List.suffix_rfl
    · have hmost := ahead_readDecimal_suffix c
      cases (readDecimal c).1 with
      | error => exact .error
      | ok most => exact .pure hmost

theorem leaves_readMost (start : Nat) (least : Except Fault Nat) (c : Cursor) :
    Leaves c.ahead (readMost start least c) := by
  unfold readMost
  split
  · simp only
    split
    · exact .error
    · exact (leaves_readUpper ..).mono c.bumpSkip_suffix
  · cases least with
    | error => exact .error
    | ok least => exact .pure List.suffix_rfl

theorem leaves_closeCounts (start : Nat) (bounds : Nat × Option Nat) (c : Cursor) :
    Leaves c.bumpSkip.ahead (closeCounts start bounds c) := by
  unfold closeCounts
  split
  · exact .error
  · simp only
    split
    · exact .error
    · refine .ok ?_
      split
      · exact ahead_bump_suffix _
      · exact List.suffix_rfl

theorem leaves_readCounts (c : Cursor) : Leaves c.bumpSkip.bump.ahead (readCounts c) := by
  have hleast := ahead_readDecimal_suffix c.bumpSkip
  unfold readCounts
  simp only
  split
  · exact .error
  · split
    · exact .error
    · refine (leaves_readMost ..).bind fun bounds d hd => (leaves_closeCounts ..).mono ?_
      exact (ahead_bumpSkip_suffix d).trans (ahead_bump_suffix_bump (hd.trans hleast))

/-! ### Alternatives -/

section

variable {body : Branches → Cursor → Except Fault (Ast × Cursor)}

theorem leaves_readAfterHead (hbody : ∀ branches d, Leaves d.ahead (body branches d))
    (branches : Branches) (c : Cursor) (head : GroupHead) (after : Cursor) :
    Leaves after.ahead (readAfterHead body branches c (head, after)) := by
  cases head with
  | switch switches => exact hbody _ { after with verbose := verboseAfter switches c.verbose }
  | group captured switches =>
    refine (hbody ..).bind fun inner d hd => ?_
    simp only
    split
    · exact (hbody ..).mono ((ahead_bump_suffix d).trans hd)
    · exact .error

theorem leaves_readOperator (hbody : ∀ branches d, Leaves d.ahead (body branches d))
    (branches : Branches) (operator : Char) (c : Cursor) :
    Leaves c.bump.ahead (readOperator body branches operator c) := by
  unfold readOperator
  split
  · exact .error
  · refine (hbody ..).mono ?_
    split
    · exact ahead_bump_suffix _
    · exact List.suffix_rfl

theorem leaves_readRepetition (hbody : ∀ branches d, Leaves d.ahead (body branches d))
    (branches : Branches) (c : Cursor) :
    Leaves c.bumpSkip.bump.ahead (readRepetition body branches c) := by
  unfold readRepetition
  split
  · exact .error
  · exact (leaves_readCounts c).bind fun counts d hd => (hbody ..).mono hd

end

theorem leaves_readBody (fuel : Nat) (branches : Branches) (c : Cursor) :
    Leaves c.ahead (readBody fuel branches c) := by
  induction fuel generalizing branches c with
  | zero => exact .ok List.suffix_rfl
  | succ fuel ih =>
    refine Leaves.mono ?_ c.ahead_skipGap_suffix
    unfold readBody
    generalize c.skipGap = c
    have hbump := c.ahead_bump_suffix
    have hskip := c.bumpSkip_suffix
    simp only
    split
    · exact .ok List.suffix_rfl
    · exact .ok List.suffix_rfl
    · exact (leaves_readGroupHead c).bind fun head d hd =>
        (leaves_readAfterHead ih ..).mono (hd.trans hskip)
    · exact (ih ..).mono hbump
    · exact (leaves_readClass c).bind fun item d hd => (ih ..).mono (hd.trans hbump)
    · refine (leaves_readEscape c).bind fun item d hd => (ih ..).mono ?_
      exact hd.trans ((ahead_bump_suffix _).trans hbump)
    · exact (ih ..).mono hbump
    · exact (ih ..).mono hbump
    · exact (ih ..).mono hbump
    · split
      · exact (leaves_readOperator ih ..).mono hbump
      · split
        · exact (leaves_readRepetition ih ..).mono ((ahead_bump_suffix _).trans hskip)
        · exact (ih ..).mono hbump

end Formulary.Pattern
