import Formulary.Pattern.Compile

/-!
# Patterns at another place

A pattern within a larger one has its parts at other places. What it means does not depend on the
places, but for those that tell its captured groups apart, and neither does how deep it nests.

## Main definitions

* `Ast.shift` : a pattern with its parts moved by a number of characters;
* `Regex.shift` : a regular expression with its groups moved.

## Main statements

* `Ast.meaning_shift` : what a moved pattern means;
* `Ast.tooDeepBelow?_shift` : a moved pattern nests no deeper;
* `Regex.ends_shift` : a moved expression matches the same.
-/
namespace Formulary.Pattern

variable {α β : Type} (k : Nat)

/-! ### Moved parts -/

def Span.shift (s : Span) : Span := ⟨s.start + k, s.stop + k⟩

def Literal.shift (c : Literal) : Literal := { c with span := c.span.shift k }

namespace ClassItem

mutual

def shift : ClassItem → ClassItem
  | .empty span => .empty (span.shift k)
  | .range low high => .range (low.shift k) (high.shift k)
  | .perl span kind negated => .perl (span.shift k) kind negated
  | .ascii span kind negated => .ascii (span.shift k) kind negated
  | .property span query negated => .property (span.shift k) query negated
  | .union span items => .union (span.shift k) (shiftAll items)
  | .bracketed span negated set => .bracketed (span.shift k) negated set.shift
  | .combined span op left right => .combined (span.shift k) op left.shift right.shift

def shiftAll : List ClassItem → List ClassItem
  | [] => []
  | item :: rest => item.shift :: shiftAll rest

end

theorem shiftAll_eq_map (items : List ClassItem) : shiftAll k items = items.map (shift k) := by
  induction items with
  | nil => rfl
  | cons item rest ih => rw [shiftAll, ih, List.map_cons]

theorem span_shift (item : ClassItem) : (item.shift k).span = item.span.shift k := by
  cases item <;> rfl

end ClassItem

namespace Ast

mutual

def shift : Ast → Ast
  | .empty => .empty
  | .flags span switches => .flags (span.shift k) switches
  | .literal char => .literal (char.shift k)
  | .dot span => .dot (span.shift k)
  | .look span condition => .look (span.shift k) condition
  | .set item => .set (item.shift k)
  | .group span captured switches inner => .group (span.shift k) captured switches inner.shift
  | .repetition span inner least most greedy =>
    .repetition (span.shift k) inner.shift least most greedy
  | .concat span items => .concat (span.shift k) (shiftAll items)
  | .alternation span branches => .alternation (span.shift k) (shiftAll branches)

def shiftAll : List Ast → List Ast
  | [] => []
  | item :: rest => item.shift :: shiftAll rest

end

theorem shiftAll_eq_map (items : List Ast) : shiftAll k items = items.map (shift k) := by
  induction items with
  | nil => rfl
  | cons item rest ih => rw [shiftAll, ih, List.map_cons]

/-- The empty pattern has no place of its own. -/
theorem start_shift {ast : Ast} (h : ast ≠ .empty) : (ast.shift k).start = ast.start + k := by
  cases ast with
  | empty => exact absurd rfl h
  | set item => exact congrArg Span.start (item.span_shift k)
  | _ => rfl

end Ast

def Regex.shift : Regex → Regex
  | .empty => .empty
  | .char c => .char c
  | .set alphabet codes => .set alphabet codes
  | .look anchor => .look anchor
  | .seq first second => .seq first.shift second.shift
  | .alt left right => .alt left.shift right.shift
  | .repetition inner least most greedy => .repetition inner.shift least most greedy
  | .group captured inner => .group (captured.map (· + k)) inner.shift

/-! ### Meaning -/

theorem toOption_bind {ε : Type} (x : Except ε α) (f : α → Except ε β) :
    (x >>= f).toOption = x.toOption.bind fun a => (f a).toOption := by
  cases x <;> rfl

theorem toOption_negateIf_shift (mode : Mode) (span : Span) (negated : Bool)
    (set : Text.CodeSet) :
    (negateIf mode (span.shift k) negated set).toOption =
      (negateIf mode span negated set).toOption := by
  simp only [negateIf, apply_ite Except.toOption]
  rfl

theorem toOption_member_shift (mode : Mode) (c : Literal) :
    ((c.shift k).member mode).toOption = (c.member mode).toOption := by
  simp only [Literal.member, apply_ite Except.toOption]
  rfl

theorem toOption_propertySet_shift (span : Span) (query : PropertyQuery) :
    (propertySet (span.shift k) query).toOption = (propertySet span query).toOption := by
  cases query with
  | named name =>
    simp only [propertySet]
    rcases namedSet? (plainName name) with _ | _ | _ <;> rfl
  | valued property value =>
    simp only [propertySet]
    rcases valueSet? (plainName property) (plainName value) with _ | _ | _ <;> rfl

namespace ClassItem

mutual

/-- A moved set has the same characters. -/
theorem meaning_shift (mode : Mode) : (item : ClassItem) →
    ((item.shift k).meaning mode).toOption = (item.meaning mode).toOption
  | .empty _ => rfl
  | .range low high => by
    simp only [shift, meaning, toOption_bind, toOption_member_shift]
  | .perl .. | .ascii .. => toOption_negateIf_shift k mode ..
  | .property span query negated => by
    simp only [shift, meaning]
    split
    · rfl
    · simp only [toOption_bind, toOption_propertySet_shift, toOption_negateIf_shift]
  | .union _ items => anyOf_shift mode items
  | .bracketed _ _ set => by
    simp only [shift, meaning, toOption_bind, meaning_shift mode set, toOption_negateIf_shift]
  | .combined _ _ left right => by
    simp only [shift, meaning, toOption_bind, meaning_shift mode left, meaning_shift mode right]

theorem anyOf_shift (mode : Mode) : (items : List ClassItem) →
    (anyOf mode (shiftAll k items)).toOption = (anyOf mode items).toOption
  | [] => rfl
  | item :: rest => by
    simp only [shiftAll, anyOf, toOption_bind, meaning_shift mode item, anyOf_shift mode rest]

end

end ClassItem

theorem toOption_literal_shift (mode : Mode) (c : Literal) :
    ((c.shift k).meaning mode).toOption = ((c.meaning mode).toOption).map (Regex.shift k) := by
  have hchar : (c.shift k).char = c.char := rfl
  have hbyte : (c.shift k).isByte = c.isByte := rfl
  simp only [Literal.meaning, hchar, hbyte, apply_ite Except.toOption,
    apply_ite (Option.map (Regex.shift k))]
  rcases Text.caseVariants c.char.toNat with _ | ⟨_, _ | _⟩ <;> rfl

namespace Ast

mutual

/-- A moved pattern means the same, with its groups moved. -/
theorem meaning_shift (mode : Mode) : (ast : Ast) →
    ((ast.shift k).meaning mode).toOption =
      (ast.meaning mode).toOption.map (Prod.map (Regex.shift k) id)
  | .empty | .flags .. | .look .. => rfl
  | .dot _ => by
    simp only [shift, meaning]
    split <;> rfl
  | .literal c => by
    simp only [shift, meaning, toOption_bind, toOption_literal_shift]
    cases (c.meaning mode).toOption <;> rfl
  | .set item => by
    simp only [shift, meaning, toOption_bind, ClassItem.meaning_shift]
    cases (item.meaning mode).toOption <;> rfl
  | .group span captured switches inner => by
    simp only [shift, meaning, toOption_bind, meaning_shift (mode.switchAll switches) inner]
    cases (inner.meaning (mode.switchAll switches)).toOption <;> cases captured <;> rfl
  | .repetition _ inner _ _ _ => by
    simp only [shift, meaning, toOption_bind, meaning_shift mode inner]
    cases (inner.meaning mode).toOption <;> rfl
  | .concat _ items => sequence_shift mode items
  | .alternation _ branches => choice_shift mode branches

theorem sequence_shift (mode : Mode) : (items : List Ast) →
    (sequence mode (shiftAll k items)).toOption =
      (sequence mode items).toOption.map (Prod.map (Regex.shift k) id)
  | [] => rfl
  | item :: rest => by
    simp only [shiftAll, sequence, toOption_bind, meaning_shift mode item]
    cases (item.meaning mode).toOption with
    | none => rfl
    | some first =>
      simp only [Option.map_some, Option.bind_some, Prod.map_snd, id, sequence_shift _ rest]
      cases (sequence first.2 rest).toOption <;> rfl

theorem choice_shift (mode : Mode) : (branches : List Ast) →
    (choice mode (shiftAll k branches)).toOption =
      (choice mode branches).toOption.map (Prod.map (Regex.shift k) id)
  | [] => rfl
  | [branch] => meaning_shift mode branch
  | branch :: other :: rest => by
    have hrest := fun mode => choice_shift mode (other :: rest)
    simp only [shiftAll, choice, toOption_bind, meaning_shift mode branch] at hrest ⊢
    cases (branch.meaning mode).toOption with
    | none => rfl
    | some first =>
      simp only [Option.map_some, Option.bind_some, Prod.map_snd, id, hrest]
      cases (choice first.2 (other :: rest)).toOption <;> rfl

end

end Ast

/-! ### Depth -/

namespace ClassItem

mutual

theorem isNone_tooDeep?_shift (depth : Nat) : (item : ClassItem) →
    ((item.shift k).tooDeep? depth).isNone = (item.tooDeep? depth).isNone
  | .empty _ | .range .. | .perl .. | .ascii .. | .property .. => rfl
  | .bracketed _ _ set => by
    simp only [shift, tooDeep?]
    split
    · rfl
    · exact isNone_tooDeep?_shift _ set
  | .union _ items => by
    simp only [shift, tooDeep?]
    split
    · rfl
    · exact isNone_firstTooDeep?_shift _ items
  | .combined _ _ left right => by
    simp only [shift, tooDeep?]
    split
    · rfl
    · simp [isNone_tooDeep?_shift _ left, isNone_tooDeep?_shift _ right]

theorem isNone_firstTooDeep?_shift (depth : Nat) : (items : List ClassItem) →
    (firstTooDeep? depth (shiftAll k items)).isNone = (firstTooDeep? depth items).isNone
  | [] => rfl
  | item :: rest => by
    simp [shiftAll, firstTooDeep?, isNone_tooDeep?_shift _ item, isNone_firstTooDeep?_shift _ rest]

end

mutual

/-- What does not lie too deep does not either with fewer levels around it. -/
theorem tooDeep?_eq_none_of_le {depth less : Nat} (hle : less ≤ depth) : (item : ClassItem) →
    item.tooDeep? depth = none → item.tooDeep? less = none
  | .empty _ | .range .. | .perl .. | .ascii .. | .property .. => fun _ => rfl
  | .bracketed _ _ set => by
    simp only [tooDeep?]
    split
    · nofun
    · rw [if_neg (by omega)]
      exact tooDeep?_eq_none_of_le (by omega) set
  | .union _ items => by
    simp only [tooDeep?]
    split
    · nofun
    · rw [if_neg (by omega)]
      exact firstTooDeep?_eq_none_of_le (by omega) items
  | .combined _ _ left right => by
    simp only [tooDeep?]
    split
    · nofun
    · rw [if_neg (by omega)]
      simp only [Option.orElse_eq_orElse, Option.orElse_eq_or, Option.or_eq_none_iff]
      exact And.imp (tooDeep?_eq_none_of_le (by omega) left)
        (tooDeep?_eq_none_of_le (by omega) right)

theorem firstTooDeep?_eq_none_of_le {depth less : Nat} (hle : less ≤ depth) :
    (items : List ClassItem) → firstTooDeep? depth items = none → firstTooDeep? less items = none
  | [] => fun _ => rfl
  | item :: rest => by
    simp only [firstTooDeep?, Option.orElse_eq_orElse, Option.orElse_eq_or,
      Option.or_eq_none_iff]
    exact And.imp (tooDeep?_eq_none_of_le hle item) (firstTooDeep?_eq_none_of_le hle rest)

end

end ClassItem

namespace Ast

mutual

/-- A moved pattern nests as deep. -/
theorem isNone_tooDeepBelow?_shift (depth : Nat) : (ast : Ast) →
    ((ast.shift k).tooDeepBelow? depth).isNone = (ast.tooDeepBelow? depth).isNone
  | .empty | .flags .. | .literal _ | .dot _ | .look .. => rfl
  | .set item => item.isNone_tooDeep?_shift k depth
  | .group _ _ _ inner | .repetition _ inner _ _ _ => by
    simp only [shift, tooDeepBelow?]
    split
    · rfl
    · exact isNone_tooDeepBelow?_shift _ inner
  | .concat _ items | .alternation _ items => by
    simp only [shift, tooDeepBelow?]
    split
    · rfl
    · exact isNone_firstTooDeepBelow?_shift _ items

theorem isNone_firstTooDeepBelow?_shift (depth : Nat) : (items : List Ast) →
    (firstTooDeepBelow? depth (shiftAll k items)).isNone = (firstTooDeepBelow? depth items).isNone
  | [] => rfl
  | item :: rest => by
    simp [shiftAll, firstTooDeepBelow?, isNone_tooDeepBelow?_shift _ item,
      isNone_firstTooDeepBelow?_shift _ rest]

end

mutual

theorem tooDeepBelow?_eq_none_of_le {depth less : Nat} (hle : less ≤ depth) : (ast : Ast) →
    ast.tooDeepBelow? depth = none → ast.tooDeepBelow? less = none
  | .empty | .flags .. | .literal _ | .dot _ | .look .. => fun _ => rfl
  | .set item => item.tooDeep?_eq_none_of_le hle
  | .group _ _ _ inner | .repetition _ inner _ _ _ => by
    simp only [tooDeepBelow?]
    split
    · nofun
    · rw [if_neg (by omega)]
      exact tooDeepBelow?_eq_none_of_le (by omega) inner
  | .concat _ items | .alternation _ items => by
    simp only [tooDeepBelow?]
    split
    · nofun
    · rw [if_neg (by omega)]
      exact firstTooDeepBelow?_eq_none_of_le (by omega) items

theorem firstTooDeepBelow?_eq_none_of_le {depth less : Nat} (hle : less ≤ depth) :
    (items : List Ast) →
      firstTooDeepBelow? depth items = none → firstTooDeepBelow? less items = none
  | [] => fun _ => rfl
  | item :: rest => by
    simp only [firstTooDeepBelow?, Option.orElse_eq_orElse, Option.orElse_eq_or,
      Option.or_eq_none_iff]
    exact And.imp (tooDeepBelow?_eq_none_of_le hle item)
      (firstTooDeepBelow?_eq_none_of_le hle rest)

end

end Ast

/-! ### Matching -/

/-- Where the groups of an expression are written does not matter for what it matches. -/
theorem Regex.ends_shift (text : Array Char) (r : Regex) :
    (r.shift k).ends text = r.ends text := by
  induction r with
  | empty | char | set | look => rfl
  | seq first second ihfirst ihsecond =>
    funext i
    simp only [shift, ends, ihfirst, ihsecond]
  | alt left right ihleft ihright =>
    funext i
    simp only [shift, ends, ihleft, ihright]
  | repetition inner least most greedy ih =>
    funext i
    simp only [shift, ends, ih]
  | group captured inner ih => exact ih

end Formulary.Pattern
